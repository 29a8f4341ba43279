import ProposalCheck.Proofs.Markdown.Rows

/-!
# Trees that fit a text

A tree that is read from a text of some number of lines has its blocks on these lines, and the pieces of
text in a block end no more lines than the text of the block does. A fenced block has room for its content
between its first and its last line.

## Main definitions

* `Tree.All`: every element of a tree has a property
* `Tree.IsProper`: only pieces that may hold others do
* `Tree.elements`: the elements of a tree in order
* `Tree.breaks`: the number of lines that the pieces of a tree end
* `Element.Fits`, `Tree.Fits`: an element, or a tree, is placed within a number of lines
-/

namespace ProposalCheck.Markdown

/-- Does every element of a tree have a property? -/
inductive Tree.All (p : Element → Prop) : Tree → Prop
  | node {element : Element} {children : List Tree} :
      p element → (∀ tree ∈ children, tree.All p) → (Tree.node element children).All p

theorem Tree.All.mono {p q : Element → Prop} (hpq : ∀ element, p element → q element) {tree : Tree}
    (h : tree.All p) : tree.All q := by
  induction h with
  | node helement _ ih => exact .node (hpq _ helement) ih

/-- Does a piece of text end a line? -/
def Kind.isBreak (kind : Kind) : Bool := kind = .softBreak || kind = .hardBreak

/-- Is a piece text, code or HTML, which is looked for in its line? -/
def Kind.isWord (kind : Kind) : Bool := kind = .text || kind = .code || kind = .html

theorem Kind.isBreak_of_isWord {kind : Kind} (h : kind.isWord) : kind.isBreak = false := by
  cases kind <;> first | rfl | cases h

/-- Does a piece hold no other pieces? -/
def Kind.isPlain (kind : Kind) : Bool := kind.isBreak || kind.isWord

/-- Does a piece hold other pieces? -/
def Kind.isPart : Kind → Bool
  | .emphasis | .strong | .link _ | .image _ => true
  | _ => false

theorem Kind.isPlain_of_isPart {kind : Kind} (h : kind.isPart) : kind.isPlain = false := by
  cases kind <;> first | rfl | cases h

/-- Is an element a piece of text? -/
def Kind.isPiece (kind : Kind) : Bool := kind.isPlain || kind.isPart || kind = .escapedText

/-- A tree in which plain pieces hold no others. -/
inductive Tree.IsProper : Tree → Prop
  | node {element : Element} {children : List Tree} : (element.kind.isPlain → children = []) →
      (∀ tree ∈ children, tree.IsProper) → (Tree.node element children).IsProper

mutual

/-- The elements of a tree, each before what is below it. -/
def Tree.elements : Tree → List Element
  | .node element children => element :: elementsIn children

/-- The elements of some trees. -/
def elementsIn : List Tree → List Element
  | [] => []
  | tree :: rest => tree.elements ++ elementsIn rest

end

mutual

/-- The number of lines that the pieces of a tree end. -/
def Tree.breaks : Tree → Nat
  | .node element children => (if element.kind.isBreak then 1 else 0) + breaksIn children

/-- The number of lines that the pieces of some trees end. -/
def breaksIn : List Tree → Nat
  | [] => 0
  | tree :: rest => tree.breaks + breaksIn rest

end

@[simp] theorem breaksIn_nil : breaksIn [] = 0 := rfl

@[simp] theorem breaksIn_cons (tree : Tree) (rest : List Tree) :
    breaksIn (tree :: rest) = tree.breaks + breaksIn rest := rfl

/-- The lines of a block lie within a number of lines. The text of a block ends fewer lines than the block
has, and a fence has a line for each line of its content behind its first one. -/
structure Element.Fits (count : Nat) (element : Element) : Prop where
  lines : ∀ range, element.lines = some range → range.first < count ∧ range.stop ≤ count
  text : element.kind = .inline →
    ∃ range, element.lines = some range ∧ range.first + element.content.toList.count '\n' < range.stop
  fence : element.kind = .fence →
    ∃ range, element.lines = some range ∧ '\r' ∉ element.content.toList ∧
      range.first + 1 + lineCount element.content.toList ≤ range.stop

/-- The blocks of a tree fit, and so do the pieces of text in them. -/
inductive Tree.Fits (count : Nat) : Tree → Prop
  | text {element : Element} {pieces : List Tree} : element.kind = .inline → element.Fits count →
      breaksIn pieces ≤ element.content.toList.count '\n' →
      (∀ piece ∈ pieces, piece.All (·.kind ≠ .fence)) → (Tree.node element pieces).Fits count
  | block {element : Element} {children : List Tree} : element.kind ≠ .inline → element.Fits count →
      (∀ tree ∈ children, tree.Fits count) → (Tree.node element children).Fits count

end ProposalCheck.Markdown
