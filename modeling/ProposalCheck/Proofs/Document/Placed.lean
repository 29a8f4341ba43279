import ProposalCheck.Proofs.Document.Body

/-!
# How the nodes of a body are written down

The nodes of a tree are written down by two recursions, one over blocks and one over the pieces of text in them,
through which a cursor goes. Here each of them is a relation with one case for each kind of step, so that what holds of
all bodies is shown by induction on the steps.

## Main definitions

* `Body.Finds`, `Body.Links`: the step of the cursor over a word, and over the destination of a link
* `Body.Pieces`: some pieces of text, the nodes that are written for them, and the way of the cursor
* `Body.Placed`: some trees and the nodes that are written for them

## Main results

* `Body.pieces_placeInlines`, `Body.placed_of_placeBlock`: what is written is written step by step
-/

namespace ProposalCheck

open Markdown

/-- The start of the next line. -/
def Cursor.nextLine (place : Cursor) : Cursor := ⟨place.line + 1, 0⟩

namespace Body

variable {lines : Lines}

/-- A node for a piece of text that is read from one place of the cursor to another. -/
def pieceOf (parent index : Nat) (cursor after : Option Cursor) (element : Element) (indices : List Nat)
    (span : Option Span) : Node where
  index
  parent := some parent
  children := indices
  lines := cursor.bind fun first => after.map fun last => (first.line, last.line)
  span
  kind := element.kind
  content := element.content
  info := ""
  markup := element.markup

@[simp] theorem pieceOf_kind (parent index : Nat) (cursor after : Option Cursor) (element : Element)
    (indices : List Nat) (span : Option Span) :
    (pieceOf parent index cursor after element indices span).kind = element.kind := rfl

/-- The step of the cursor over a word: past it where it is found, and nowhere if it is not. -/
inductive Finds (lines : Lines) (content : String) : Option Cursor → Option Span → Option Cursor → Prop
  | unknown : Finds lines content none none none
  | missed {place : Cursor} : content = "" ∨ locate? lines place.line place.column content = none →
      Finds lines content (some place) none (some place)
  | found {place : Cursor} {span : Span} {column : Nat} : content ≠ "" →
      locate? lines place.line place.column content = some (span, column) →
      Finds lines content (some place) (some span) (some { place with column })

/-- The step of the cursor over the destination of a link, from where the pieces in the link end. Only a link or an
image has a destination. -/
inductive Links (lines : Lines) (kind : Kind) :
    Option Cursor → Option Cursor → Option Span → Option Cursor → Prop
  | missed {before reached : Option Cursor} : Links lines kind before reached none reached
  | found {before place : Cursor} {destination : String} {span : Span} {column : Nat} :
      kind = .link destination ∨ kind = .image destination → destination ≠ "" →
      locate? lines place.line before.column destination = some (span, column) →
      Links lines kind (some before) (some place) (some span) (some { place with column := max place.column column })

/-- The nodes of some pieces below a node, from an index on: the indices of the pieces themselves, all nodes, and the
cursor before and after. -/
inductive Pieces (lines : Lines) : Nat → Nat → Option Cursor → List Tree → List Nat → List Node → Option Cursor → Prop
  | nil {parent index : Nat} {cursor : Option Cursor} : Pieces lines parent index cursor [] [] [] cursor
  | line {parent index : Nat} {cursor after : Option Cursor} {element : Element} {children trees : List Tree}
      {indices : List Nat} {nodes : List Node} : element.kind.isBreak →
      Pieces lines parent (index + 1) (cursor.map Cursor.nextLine) trees indices nodes after →
      Pieces lines parent index cursor (.node element children :: trees) (index :: indices)
        (pieceOf parent index cursor (cursor.map Cursor.nextLine) element [] none :: nodes) after
  | word {parent index : Nat} {cursor reached after : Option Cursor} {element : Element} {children trees : List Tree}
      {span : Option Span} {indices : List Nat} {nodes : List Node} : element.kind.isWord →
      Finds lines element.content cursor span reached →
      Pieces lines parent (index + 1) reached trees indices nodes after →
      Pieces lines parent index cursor (.node element children :: trees) (index :: indices)
        (pieceOf parent index cursor reached element [] span :: nodes) after
  | part {parent index : Nat} {cursor inner reached after : Option Cursor} {element : Element}
      {children trees : List Tree} {span : Option Span} {inside indices : List Nat} {below nodes : List Node} :
      element.kind.isPlain = false → Pieces lines index (index + 1) cursor children inside below inner →
      Links lines element.kind cursor inner span reached →
      Pieces lines parent (index + 1 + below.length) reached trees indices nodes after →
      Pieces lines parent index cursor (.node element children :: trees) (index :: indices)
        (pieceOf parent index cursor reached element inside span :: (below ++ nodes)) after

mutual

/-- What is written for a piece is written before what is written for the pieces after it. -/
theorem pieces_placeInline (parent index : Nat) (cursor : Option Cursor) :
    ∀ (tree : Tree) {trees : List Tree} {indices : List Nat} {nodes : List Node} {after : Option Cursor},
      Pieces lines parent (index + (placeInline lines parent index cursor tree).1.length)
        (placeInline lines parent index cursor tree).2 trees indices nodes after →
      Pieces lines parent index cursor (tree :: trees) (index :: indices)
        ((placeInline lines parent index cursor tree).1 ++ nodes) after
  | .node element children, trees, indices, nodes, after => by
    rw [placeInline.eq_def]
    split
    rename_i htree
    obtain ⟨rfl, rfl⟩ := Tree.node.inj htree
    split
    rename_i below inside span reached hpieces
    intro hrest
    split at hpieces
    case h_1 | h_2 =>
      rename_i hkind
      cases hpieces
      exact .line (by rw [hkind]; rfl) hrest
    case h_3 | h_4 | h_5 =>
      rename_i hkind
      obtain ⟨rfl, rfl, hfinds⟩ : below = [] ∧ inside = [] ∧ Finds lines element.content cursor span reached := by
        split at hpieces
        · cases hpieces
          exact ⟨rfl, rfl, .unknown⟩
        · split_ifs at hpieces with hempty
          · cases hpieces
            exact ⟨rfl, rfl, .missed (.inl hempty)⟩
          · split at hpieces
            · rename_i hfound
              cases hpieces
              exact ⟨rfl, rfl, .found hempty hfound⟩
            · rename_i hfound
              cases hpieces
              exact ⟨rfl, rfl, .missed (.inr hfound)⟩
      exact .word (by rw [hkind]; rfl) hfinds hrest
    case h_6 =>
      rename_i hsoft hhard htext hcode hhtml
      -- the cursor goes over the text of a link before the destination is looked for
      have hinner := pieces_placeInlines index (index + 1) cursor children
      generalize placeInlines lines index (index + 1) cursor children = inner at hinner hpieces
      obtain ⟨nodesInside, ids, place⟩ := inner
      dsimp only at hinner hpieces
      obtain ⟨rfl, rfl, hlinks⟩ : below = nodesInside ∧ inside = ids ∧ Links lines element.kind cursor place span reached := by
        split at hpieces
        case h_1 | h_2 =>
          rename_i hkind
          split_ifs at hpieces with hempty
          · cases hpieces
            exact ⟨rfl, rfl, .missed⟩
          · split at hpieces
            · rename_i hfound
              cases hpieces
              exact ⟨rfl, rfl, .found (by simp [hkind]) hempty hfound⟩
            · cases hpieces
              exact ⟨rfl, rfl, .missed⟩
        case h_3 =>
          cases hpieces
          exact ⟨rfl, rfl, .missed⟩
      have hplain : element.kind.isPlain = false := by
        simpa [Kind.isPlain, Kind.isBreak, Kind.isWord] using ⟨⟨hsoft, hhard⟩, ⟨htext, hcode⟩, hhtml⟩
      refine .part hplain hinner hlinks ?_
      rw [Nat.add_assoc, Nat.add_comm 1]
      exact hrest

/-- What is written for some pieces is written step by step. -/
theorem pieces_placeInlines (parent index : Nat) (cursor : Option Cursor) :
    ∀ trees : List Tree, Pieces lines parent index cursor trees (placeInlines lines parent index cursor trees).2.1
      (placeInlines lines parent index cursor trees).1 (placeInlines lines parent index cursor trees).2.2
  | [] => .nil
  | tree :: rest => by
    rw [placeInlines]
    exact pieces_placeInline parent index cursor tree (pieces_placeInlines parent _ _ rest)

end

/-! ### Blocks -/

/-- The cursor at the start of the text of a block. -/
def cursorOf (place : Option (Nat × Nat)) : Option Cursor := place.map fun (first, _) => { line := first }

/-- The nodes of some trees below a node, from an index on: the indices of the trees themselves and all nodes. -/
inductive Placed (lines : Lines) (offset : Nat) :
    Option Nat → Nat → Option (Nat × Nat) → List Tree → List Nat → List Node → Prop
  | nil {parent : Option Nat} {index : Nat} {inherited : Option (Nat × Nat)} :
      Placed lines offset parent index inherited [] [] []
  | text {parent : Option Nat} {index : Nat} {inherited : Option (Nat × Nat)} {element : Element}
      {pieces trees : List Tree} {inside indices : List Nat} {below nodes : List Node} {span : Option Span}
      {after : Option Cursor} : element.kind = .inline →
      Pieces lines index (index + 1) (cursorOf (placeOf offset inherited element)) pieces inside below after →
      spanOf lines (placeOf offset inherited element) element.kind pieces = .ok span →
      Placed lines offset parent (index + 1 + below.length) inherited trees indices nodes →
      Placed lines offset parent index inherited (.node element pieces :: trees) (index :: indices)
        (nodeOf offset parent index inherited element inside span :: (below ++ nodes))
  | block {parent : Option Nat} {index : Nat} {inherited : Option (Nat × Nat)} {element : Element}
      {children trees : List Tree} {inside indices : List Nat} {below nodes : List Node} {span : Option Span} :
      element.kind ≠ .inline →
      Placed lines offset (some index) (index + 1) (placeOf offset inherited element) children inside below →
      spanOf lines (placeOf offset inherited element) element.kind children = .ok span →
      Placed lines offset parent (index + 1 + below.length) inherited trees indices nodes →
      Placed lines offset parent index inherited (.node element children :: trees) (index :: indices)
        (nodeOf offset parent index inherited element inside span :: (below ++ nodes))

/-- A block of text has the nodes of the pieces in it below its own. -/
theorem placeBlock_inline {offset : Nat} {element : Element} {pieces : List Tree} (hkind : element.kind = .inline)
    (parent : Option Nat) (index : Nat) (inherited : Option (Nat × Nat)) :
    placeBlock lines offset parent index inherited (.node element pieces) = do
      let placed := placeInlines lines index (index + 1) (cursorOf (placeOf offset inherited element)) pieces
      let span ← spanOf lines (placeOf offset inherited element) element.kind pieces
      return nodeOf offset parent index inherited element placed.2.1 span :: placed.1 := by
  rw [placeBlock]
  dsimp only
  rw [if_pos hkind]
  rfl

mutual

/-- What is written for a tree is written before what is written for the trees after it. -/
theorem placed_of_placeBlock (offset : Nat) (parent : Option Nat) (index : Nat) (inherited : Option (Nat × Nat)) :
    ∀ (tree : Tree) {written : List Node}, placeBlock lines offset parent index inherited tree = .ok written →
      ∀ {trees : List Tree} {indices : List Nat} {nodes : List Node},
      Placed lines offset parent (index + written.length) inherited trees indices nodes →
      Placed lines offset parent index inherited (tree :: trees) (index :: indices) (written ++ nodes)
  | .node element children, written, h, trees, indices, nodes, hrest => by
    by_cases hinline : element.kind = .inline
    · -- in a block of text there are pieces, in all others blocks
      rw [placeBlock_inline hinline] at h
      obtain ⟨span, hspan, h⟩ := exists_of_bind_eq_ok h
      obtain rfl := Except.ok.inj h
      refine .text hinline (pieces_placeInlines index (index + 1) _ children) hspan ?_
      rw [Nat.add_assoc, Nat.add_comm 1]
      exact hrest
    · rw [placeBlock_eq hinline] at h
      obtain ⟨⟨below, inside⟩, hbelow, h⟩ := exists_of_bind_eq_ok h
      obtain ⟨span, hspan, h⟩ := exists_of_bind_eq_ok h
      obtain rfl := Except.ok.inj h
      refine .block hinline (placed_of_placeBlocks offset index (index + 1) _ children hbelow) hspan ?_
      rw [Nat.add_assoc, Nat.add_comm 1]
      exact hrest

/-- What is written for some trees is written step by step. -/
theorem placed_of_placeBlocks (offset parent index : Nat) (inherited : Option (Nat × Nat)) :
    ∀ (trees : List Tree) {nodes : List Node} {indices : List Nat},
      placeBlocks lines offset parent index inherited trees = .ok (nodes, indices) →
      Placed lines offset (some parent) index inherited trees indices nodes
  | [], nodes, indices, h => by
    cases h
    exact .nil
  | tree :: rest, nodes, indices, h => by
    rw [placeBlocks] at h
    obtain ⟨first, hfirst, h⟩ := exists_of_bind_eq_ok h
    obtain ⟨⟨others, more⟩, hothers, h⟩ := exists_of_bind_eq_ok h
    cases h
    exact placed_of_placeBlock offset (some parent) index inherited tree hfirst
      (placed_of_placeBlocks offset parent _ inherited rest hothers)

end

/-- The nodes of a body are written step by step from its tree. -/
theorem placed_of_ofTree {body : Body} {firstLine : Nat} {tree : Tree} (h : ofTree lines firstLine tree = .ok body) :
    Placed lines (firstLine - 1) none 0 none [tree] [0] body.nodes.toList := by
  obtain ⟨nodes, hnodes, hbody⟩ := exists_of_bind_eq_ok h
  have hplaced := placed_of_placeBlock (firstLine - 1) none 0 none tree hnodes .nil
  rw [List.append_nil] at hplaced
  rw [← Except.ok.inj hbody]
  exact hplaced

end Body

end ProposalCheck
