import Mathlib.Algebra.GroupWithZero.Nat
import ProposalCheck.Proofs.Markdown.Tree

/-!
# Pieces keep their line ends when they are emphasized

Marks are paired after all tokens have been read. What pairing does to the tokens only takes pieces away or
puts some of them into a part, so the trees that come out end no more lines than the pieces that went in.

## Main definitions

* `IsPiece`: a tree of pieces of text, of which only parts hold others
* `Token.breaks`, `breaksOf`: the number of lines that a token, or some tokens, end
* `Token.IsProper`: a token that stands for pieces of text

## Main results

* `breaksIn_emphasize_le`, `isPiece_of_mem_emphasize`: what emphasized tokens end, and consist of
* `breaksIn_joinEscapesAll_le`, `isPiece_of_mem_joinEscapesAll`: the same of trees with their escapes joined
-/

namespace ProposalCheck.Markdown

/-- A piece of text that stands alone, or a part that holds other pieces. -/
inductive IsPiece : Tree → Prop
  | leaf {element : Element} : element.kind.isPiece → IsPiece (.node element [])
  | part {element : Element} {children : List Tree} : element.kind.isPart → (∀ tree ∈ children, IsPiece tree) →
      IsPiece (.node element children)

theorem IsPiece.all {tree : Tree} (h : IsPiece tree) : tree.All (·.kind.isPiece) := by
  induction h with
  | leaf hkind => exact .node hkind (by simp)
  | part hkind _ ih => exact .node (by simp [Kind.isPiece, hkind]) ih

theorem IsPiece.isProper {tree : Tree} (h : IsPiece tree) : tree.IsProper := by
  induction h with
  | leaf _ => exact .node (fun _ => rfl) (by simp)
  | part hkind _ ih =>
    refine .node (fun hplain => ?_) ih
    rw [Kind.isPlain_of_isPart hkind] at hplain
    cases hplain

/-- No fence is in a piece of text. -/
theorem IsPiece.all_ne_fence {tree : Tree} (h : IsPiece tree) : tree.All (·.kind ≠ .fence) :=
  h.all.mono fun element hpiece hfence => by
    rw [hfence] at hpiece
    cases hpiece

theorem breaks_leaf (element : Element) :
    (Tree.leaf element).breaks = if element.kind.isBreak then 1 else 0 := rfl

theorem breaks_node (element : Element) (children : List Tree) :
    (Tree.node element children).breaks = (if element.kind.isBreak then 1 else 0) + breaksIn children := rfl

/-! ### Tokens -/

namespace Token

/-- The number of lines that a token ends. -/
def breaks : Token → Nat
  | .whole tree => tree.breaks
  | _ => 0

/-- A token that stands for pieces of text: a tree of them, or an end of an emphasized part. -/
def IsProper : Token → Prop
  | .whole tree => IsPiece tree
  | .opening kind _ => kind = .strong ∨ kind = .emphasis
  | .closing => True

@[simp] theorem breaks_text (content : String) : (Token.text content).breaks = 0 := rfl

theorem isProper_text (content : String) : (Token.text content).IsProper := .leaf rfl

end Token

/-- The number of lines that some tokens end. -/
def breaksOf (tokens : List Token) : Nat := (tokens.map Token.breaks).sum

@[simp] theorem breaksOf_nil : breaksOf [] = 0 := rfl

@[simp] theorem breaksOf_cons (token : Token) (tokens : List Token) :
    breaksOf (token :: tokens) = token.breaks + breaksOf tokens := rfl

theorem breaksOf_append (tokens more : List Token) : breaksOf (tokens ++ more) = breaksOf tokens + breaksOf more := by
  rw [breaksOf, List.map_append, List.sum_append, breaksOf, breaksOf]

/-- Some tokens replaced by tokens that end no line. -/
theorem breaksOf_set_le {tokens : List Token} {token : Token} (h : token.breaks = 0) (i : Nat) :
    breaksOf (tokens.set i token) ≤ breaksOf tokens := by
  induction tokens generalizing i with
  | nil => exact Nat.le_refl _
  | cons first tokens ih =>
    cases i with
    | zero =>
      rw [List.set_cons_zero, breaksOf_cons, breaksOf_cons, h]
      omega
    | succ i =>
      rw [List.set_cons_succ, breaksOf_cons, breaksOf_cons]
      exact Nat.add_le_add_left (ih i) _

/-- Tokens that stand for pieces and end no more than some number of lines. -/
structure AreProper (count : Nat) (tokens : List Token) : Prop where
  breaks_le : breaksOf tokens ≤ count
  isProper : ∀ token ∈ tokens, token.IsProper

namespace AreProper

variable {count : Nat} {tokens : List Token} {token : Token}

theorem set (h : AreProper count tokens) (hbreaks : token.breaks = 0) (hproper : token.IsProper) (i : Nat) :
    AreProper count (tokens.set i token) where
  breaks_le := Nat.le_trans (breaksOf_set_le hbreaks i) h.breaks_le
  isProper other hother := by
    rcases List.mem_or_eq_of_mem_set hother with hmem | rfl
    · exact h.isProper other hmem
    · exact hproper

theorem setIfInBounds {array : Array Token} (h : AreProper count array.toList) (hbreaks : token.breaks = 0)
    (hproper : token.IsProper) (i : Nat) : AreProper count (array.setIfInBounds i token).toList := by
  rw [Array.toList_setIfInBounds]
  exact h.set hbreaks hproper i

/-- Pairs of marks become the ends of parts. -/
theorem applyPairs {array : Array Token} (h : AreProper count array.toList) (marks : Array Delimiter)
    (index : Nat) : AreProper count (applyPairs marks index array).toList := by
  have hstrong : ∀ markup, (Token.opening .strong markup).IsProper := fun _ => Or.inl rfl
  have hplain : ∀ markup, (Token.opening .emphasis markup).IsProper := fun _ => Or.inr rfl
  have hclosing : Token.closing.IsProper := trivial
  have hempty : (Token.text "").IsProper := Token.isProper_text ""
  -- nothing left, no such mark, no partner, a strong part at the front or further on, and plain emphasis
  fun_induction Markdown.applyPairs marks index array with
  | case1 => exact h
  | case2 _ _ _ ih => exact ih h
  | case3 _ _ _ _ _ ih => exact ih h
  | case4 =>
    exact (((h.setIfInBounds rfl (hstrong _) _).setIfInBounds rfl hclosing _).setIfInBounds rfl hempty
      _).setIfInBounds rfl hempty _
  | case5 _ _ _ _ _ _ _ _ _ _ _ _ _ ih =>
    apply ih
    exact (((h.setIfInBounds rfl (hstrong _) _).setIfInBounds rfl hclosing _).setIfInBounds rfl hempty
      _).setIfInBounds rfl hempty _
  | case6 _ _ _ _ _ _ _ _ _ ih =>
    apply ih
    exact (h.setIfInBounds rfl (hplain _) _).setIfInBounds rfl hclosing _

/-- Neighbouring texts are joined. -/
theorem joinTexts (h : AreProper count tokens) : AreProper count (joinTexts tokens) := by
  induction tokens generalizing count with
  | nil => exact h
  | cons token tokens ih =>
    have hrest : AreProper (breaksOf tokens) (Markdown.joinTexts tokens) :=
      ih ⟨Nat.le_refl _, fun other hother => h.isProper other (List.mem_cons_of_mem _ hother)⟩
    have htoken := h.isProper token List.mem_cons_self
    have hcount := h.breaks_le
    rw [breaksOf_cons] at hcount
    -- a token that is not joined to the next one stays in front of the rest
    have hkeep : AreProper count (token :: Markdown.joinTexts tokens) := by
      constructor
      · have := hrest.breaks_le
        rw [breaksOf_cons]
        omega
      · exact List.forall_mem_cons.mpr ⟨htoken, hrest.isProper⟩
    rw [Markdown.joinTexts]
    -- two texts become one, which ends no more lines than both
    split
    · rename_i a next others _ hjoined
      rw [hjoined] at hkeep hrest
      split
      · constructor
        · have := hrest.breaks_le
          rw [breaksOf_cons] at this ⊢
          rw [Token.breaks_text]
          omega
        · exact List.forall_mem_cons.mpr
            ⟨Token.isProper_text _, (List.forall_mem_cons.mp hrest.isProper).2⟩
      · exact hkeep
    · exact hkeep

end AreProper

/-! ### Trees of tokens -/

/-- Some stacked trees are pieces and end no more than some number of lines. -/
structure ArePieces (count : Nat) (stack : List (List Tree)) : Prop where
  breaks_le : (stack.map breaksIn).sum ≤ count
  isPiece : ∀ trees ∈ stack, ∀ tree ∈ trees, IsPiece tree

/-- A token adds the lines that it ends itself. -/
theorem ArePieces.nestToken {count : Nat} {stack : List (List Tree)} {token : Token}
    (h : ArePieces count stack) (htoken : token.IsProper) :
    ArePieces (token.breaks + count) (nestToken token stack) := by
  obtain ⟨hbreaks, hpieces⟩ := h
  unfold Markdown.nestToken
  split
  · rename_i tree top rest
    rw [List.map_cons, List.sum_cons] at hbreaks
    rw [List.forall_mem_cons] at hpieces
    constructor
    · rw [List.map_cons, List.sum_cons, breaksIn_cons, Token.breaks]
      omega
    · exact List.forall_mem_cons.mpr ⟨List.forall_mem_cons.mpr ⟨htoken, hpieces.1⟩, hpieces.2⟩
  · constructor
    · rw [List.map_cons, List.sum_cons, breaksIn_nil]
      omega
    · exact List.forall_mem_cons.mpr ⟨by simp, hpieces⟩
  · -- a part holds the trees down to its end
    rename_i kind markup top next rest
    rw [List.map_cons, List.map_cons, List.sum_cons, List.sum_cons] at hbreaks
    rw [List.forall_mem_cons, List.forall_mem_cons] at hpieces
    constructor
    · have hkind : kind.isBreak = false := by
        rcases htoken with rfl | rfl <;> rfl
      rw [List.map_cons, List.sum_cons, breaksIn_cons, breaks_node, hkind]
      simp only [Bool.false_eq_true, if_false]
      omega
    · have hpart : kind.isPart := by
        rcases htoken with rfl | rfl <;> rfl
      exact List.forall_mem_cons.mpr
        ⟨List.forall_mem_cons.mpr ⟨.part hpart hpieces.1, hpieces.2.1⟩, hpieces.2.2⟩
  · exact ⟨Nat.le_trans hbreaks (Nat.le_add_left _ _), hpieces⟩

theorem AreProper.arePieces_foldr {tokens : List Token} (h : ∀ token ∈ tokens, token.IsProper) :
    ArePieces (breaksOf tokens) (tokens.foldr nestToken [[]]) := by
  induction tokens with
  | nil => exact ⟨Nat.le_refl _, by simp⟩
  | cons token tokens ih =>
    rw [List.forall_mem_cons] at h
    exact (ih h.2).nestToken h.1

section emphasize

variable {tokens : Array Token}

theorem arePieces_emphasize (marks : Array Delimiter) (h : ∀ token ∈ tokens.toList, token.IsProper) :
    ArePieces (breaksOf tokens.toList) [emphasize tokens marks] := by
  have hproper : AreProper (breaksOf tokens.toList)
      (joinTexts (applyPairs (pairDelimiters marks) marks.size tokens).toList) :=
    AreProper.joinTexts (AreProper.applyPairs ⟨Nat.le_refl _, h⟩ _ _)
  obtain ⟨hbreaks, hpieces⟩ := AreProper.arePieces_foldr hproper.isProper
  rw [emphasize, nestTokens]
  cases hstack : (joinTexts (applyPairs (pairDelimiters marks) marks.size tokens).toList).foldr nestToken [[]] with
  | nil => exact ⟨Nat.zero_le _, by simp⟩
  | cons top rest =>
    rw [hstack] at hbreaks hpieces
    rw [List.map_cons, List.sum_cons] at hbreaks
    have := hproper.breaks_le
    constructor
    · simp only [List.head?_cons, Option.getD_some, List.map_cons, List.map_nil, List.sum_cons, List.sum_nil]
      omega
    · simpa using (List.forall_mem_cons.mp hpieces).1

/-- Emphasized tokens end no more lines than the tokens do. -/
theorem breaksIn_emphasize_le (marks : Array Delimiter) (h : ∀ token ∈ tokens.toList, token.IsProper) :
    breaksIn (emphasize tokens marks) ≤ breaksOf tokens.toList := by
  simpa using (arePieces_emphasize marks h).breaks_le

theorem isPiece_of_mem_emphasize {marks : Array Delimiter} (h : ∀ token ∈ tokens.toList, token.IsProper)
    {tree : Tree} (htree : tree ∈ emphasize tokens marks) : IsPiece tree :=
  (arePieces_emphasize marks h).isPiece _ (List.mem_singleton_self _) tree htree

end emphasize

/-! ### Escapes -/

theorem breaksIn_mergeText_le (tree : Tree) (rest : List Tree) :
    breaksIn (mergeText tree rest) ≤ tree.breaks + breaksIn rest := by
  obtain ⟨element, children⟩ := tree
  cases rest with
  | nil => exact Nat.le_refl _
  | cons next rest =>
    obtain ⟨next, nested⟩ := next
    rw [mergeText]
    split_ifs
    · rw [breaksIn_cons, breaksIn_cons, breaks_node, breaks_node]
      dsimp only
      omega
    · exact Nat.le_refl _

theorem isPiece_of_mem_mergeText {tree other : Tree} {rest : List Tree} (htree : IsPiece tree)
    (hrest : ∀ other ∈ rest, IsPiece other) (h : other ∈ mergeText tree rest) : IsPiece other := by
  obtain ⟨element, children⟩ := tree
  cases rest with
  | nil =>
    obtain rfl := List.mem_singleton.mp h
    exact htree
  | cons next rest =>
    obtain ⟨next, nested⟩ := next
    rw [mergeText] at h
    split_ifs at h
    · -- the joined text is of the kind of the first one
      rcases List.mem_cons.mp h with rfl | h
      · cases htree with
        | leaf hkind => exact .leaf hkind
        | part hkind hchildren => exact .part hkind hchildren
      · exact hrest other (List.mem_cons_of_mem _ h)
    · rcases List.mem_cons.mp h with rfl | h
      · exact htree
      · exact hrest other h

mutual

theorem breaks_joinEscapes_le : ∀ tree : Tree, (joinEscapes tree).breaks ≤ tree.breaks
  | .node element children => by
    rw [joinEscapes]
    split
    · rename_i hkind
      rw [breaks_node, breaks_node, hkind]
      exact Nat.le_refl _
    · exact Nat.le_refl _
    · rw [breaks_node, breaks_node]
      exact Nat.add_le_add_left (breaksIn_joinEscapesAll_le children) _

theorem breaksIn_joinEscapesAll_le : ∀ trees : List Tree, breaksIn (joinEscapesAll trees) ≤ breaksIn trees
  | [] => Nat.le_refl _
  | tree :: rest => by
    rw [joinEscapesAll, breaksIn_cons]
    exact Nat.le_trans (breaksIn_mergeText_le _ _)
      (Nat.add_le_add (breaks_joinEscapes_le tree) (breaksIn_joinEscapesAll_le rest))

end

mutual

theorem isPiece_joinEscapes : ∀ {tree : Tree}, IsPiece tree → IsPiece (joinEscapes tree)
  | .node element children, h => by
    rw [joinEscapes]
    cases h with
    | leaf hkind => split <;> exact .leaf (by first | rfl | exact hkind)
    | part hkind hchildren =>
      split
      · rename_i hescape
        rw [hescape] at hkind
        cases hkind
      · exact .part hkind hchildren
      · exact .part hkind fun _ => isPiece_of_mem_joinEscapesAll hchildren

theorem isPiece_of_mem_joinEscapesAll : ∀ {trees : List Tree} {tree : Tree},
    (∀ other ∈ trees, IsPiece other) → tree ∈ joinEscapesAll trees → IsPiece tree
  | [], _, _, h => by cases h
  | first :: rest, _, hall, h => by
    rw [List.forall_mem_cons] at hall
    rw [joinEscapesAll] at h
    exact isPiece_of_mem_mergeText (isPiece_joinEscapes hall.1)
      (fun _ => isPiece_of_mem_joinEscapesAll hall.2) h

end

end ProposalCheck.Markdown
