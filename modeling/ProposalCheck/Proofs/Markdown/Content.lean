import ProposalCheck.Proofs.Markdown.Block

/-!
# What blocks hold

The elements of blocks are never pieces of text, so the trees of a text are proper. The content of an HTML block is put
together from the rows of the block, each without what belongs to the containers around it. What has no spaces and no
line ends in it, and stands in the content, stands in one of the rows.

## Main definitions

* `IsSolid`: a text without spaces and line feeds
* `BlockScope.IsCutOf`: the rows of a scope are parts of those of another
* `Element.IsBlock`: an element of a block, and where the content of HTML comes from
* `Tree.IsRead`: a tree of blocks with pieces of text in them

## Main results

* `BlockScope.exists_row_of_content`: what stands in the content of some rows stands in one of them
* `isBlockReader_readBlocks`: blocks hold what stands in the rows that they are read from
* `Tree.isRead_ofMarkdown`: the tree of a text is read from its rows
-/

namespace ProposalCheck.Markdown

/-! ### Texts without gaps -/

/-- A text that is not empty and has no spaces and line feeds. -/
structure IsSolid (cs : List Char) : Prop where
  ne_nil : cs ≠ []
  space : ' ' ∉ cs
  feed : '\n' ∉ cs

section infixes

variable {needle front back spaces : List Char} {c : Char}

/-- What has no `c` in it stands before or behind a `c`. -/
theorem infix_or_infix_of_append_cons (hc : c ∉ needle) (h : needle <:+: front ++ c :: back) :
    needle <:+: front ∨ needle <:+: back := by
  obtain ⟨before, after, heq⟩ := h
  rw [List.append_assoc] at heq
  -- the needle starts in the front part, or behind it, and it cannot go over the character
  rcases List.append_eq_append_iff.mp heq with ⟨rest, hfront, hrest⟩ | ⟨rest, -, hrest⟩
  · rcases List.append_eq_append_iff.mp hrest with ⟨more, hmore, -⟩ | ⟨more, hmore, hback⟩
    · exact .inl ⟨before, more, by rw [hfront, hmore, List.append_assoc]⟩
    · cases more with
      | nil => exact .inl ⟨before, [], by rw [hfront, hmore, List.append_nil, List.append_nil]⟩
      | cons d more =>
        obtain ⟨rfl, -⟩ := List.cons.inj hback
        exact absurd (hmore ▸ List.mem_append_right _ List.mem_cons_self) hc
  · cases rest with
    | nil =>
      cases needle with
      | nil => exact .inl List.nil_infix
      | cons d needle =>
        obtain ⟨rfl, -⟩ := List.cons.inj hrest
        exact absurd List.mem_cons_self hc
    | cons d rest => exact .inr ⟨rest, after, by rw [List.append_assoc]; exact (List.cons.inj hrest).2.symm⟩

/-- What has no spaces in it does not stand among spaces. -/
theorem IsSolid.not_infix_spaces (h : IsSolid needle) (hspaces : ∀ c ∈ spaces, c = ' ') : ¬ needle <:+: spaces := by
  intro hpart
  obtain ⟨c, rest, rfl⟩ := List.exists_cons_of_ne_nil h.ne_nil
  have hmem := hpart.subset List.mem_cons_self
  exact h.space (hspaces c hmem ▸ List.mem_cons_self)

theorem IsSolid.infix_of_spaces_append (h : IsSolid needle) (hspaces : ∀ c ∈ spaces, c = ' ')
    (hpart : needle <:+: spaces ++ back) : needle <:+: back := by
  induction spaces with
  | nil => exact hpart
  | cons c spaces ih =>
    rw [List.forall_mem_cons] at hspaces
    obtain ⟨rfl, hspaces⟩ := hspaces
    refine ih hspaces ?_
    have hpart : needle <:+: [] ++ ' ' :: (spaces ++ back) := hpart
    rcases infix_or_infix_of_append_cons h.space hpart with hnil | hpart
    · exact absurd (List.eq_nil_of_infix_nil hnil) h.ne_nil
    · exact hpart

theorem IsSolid.infix_of_append_spaces (h : IsSolid needle) (hspaces : ∀ c ∈ spaces, c = ' ')
    (hpart : needle <:+: front ++ spaces) : needle <:+: front := by
  cases spaces with
  | nil => rwa [List.append_nil] at hpart
  | cons c spaces =>
    rw [List.forall_mem_cons] at hspaces
    obtain ⟨rfl, hspaces⟩ := hspaces
    rcases infix_or_infix_of_append_cons h.space hpart with hpart | hpart
    · exact hpart
    · exact absurd hpart (h.not_infix_spaces hspaces)

end infixes

namespace BlockScope

variable {base scope : BlockScope} {line stop : Nat}

/-! ### Rows that are parts of others -/

/-- The text of a row. -/
def rowText (scope : BlockScope) (line : Nat) : List Char :=
  sliceOf scope.text (scope.row line).first (scope.row line).last

/-- The rows of a scope start within those of another and end with them. -/
structure IsCutOf (base scope : BlockScope) : Prop where
  text : scope.text = base.text
  first_le : ∀ line, (base.row line).first ≤ (scope.row line).first
  last_eq : ∀ line, (scope.row line).last = (base.row line).last

theorem IsCutOf.refl (base : BlockScope) : base.IsCutOf base := ⟨rfl, fun _ => Nat.le_refl _, fun _ => rfl⟩

theorem row_withRow (scope : BlockScope) (line other : Nat) (row : BlockRow) :
    (scope.withRow line row).row other = row ∧ other = line ∨
      (scope.withRow line row).row other = scope.row other := by
  rw [BlockScope.row, BlockScope.row, withRow, Array.getD_eq_getD_getElem?, Array.getD_eq_getD_getElem?,
    Array.getElem?_setIfInBounds]
  split_ifs with heq hlt
  · exact .inl ⟨rfl, heq.symm⟩
  · refine .inr ?_
    subst heq
    rw [Array.getElem?_eq_none (by omega)]
  · exact .inr rfl

/-- A scope with a part of a row in its place. -/
theorem IsCutOf.withRow (h : base.IsCutOf scope) (line : Nat) {row : BlockRow}
    (hfirst : (base.row line).first ≤ row.first) (hlast : row.last = (base.row line).last) :
    base.IsCutOf (scope.withRow line row) where
  text := h.text
  first_le other := by
    rcases scope.row_withRow line other row with ⟨heq, rfl⟩ | heq <;> rw [heq]
    · exact hfirst
    · exact h.first_le other
  last_eq other := by
    rcases scope.row_withRow line other row with ⟨heq, rfl⟩ | heq <;> rw [heq]
    · exact hlast
    · exact h.last_eq other

/-- Fields of a scope that its rows do not depend on may change. -/
theorem IsCutOf.mono (h : base.IsCutOf scope) (stop indent : Nat) (outerIndent : Option Nat) :
    base.IsCutOf { scope with stop, indent, outerIndent } := ⟨h.text, h.first_le, h.last_eq⟩

theorem first_unquoted (scope : BlockScope) (line : Nat) :
    (scope.row line).first ≤ (scope.unquoted line).first ∧ (scope.unquoted line).last = (scope.row line).last := by
  rw [unquoted]
  dsimp only
  rw [BlockRow.start]
  exact ⟨by omega, rfl⟩

/-! ### The rows of a whole text -/

/-- Every row is ended by a line feed, or by the end of the text, and then no row behind it has any text. -/
def EndsRows (scope : BlockScope) : Prop :=
  ∀ line, scope.text[(scope.row line).last]? = some '\n' ∨
    scope.text.size ≤ (scope.row line).last ∧ ∀ other, line < other → scope.text.size ≤ (scope.row other).first

theorem getElem?_last_of_rowsFrom {text : Array Char} {fuel first i : Nat} {row : BlockRow}
    (h : (rowsFrom text fuel first)[i]? = some row) :
    text[row.last]? = some '\n' ∨ text.size ≤ row.last ∧ (rowsFrom text fuel first).length ≤ i + 1 := by
  induction fuel generalizing first i with
  | zero => simp [rowsFrom] at h
  | succ fuel ih =>
    rw [rowsFrom] at h ⊢
    dsimp only at h ⊢
    split_ifs at h ⊢ with hend hlast
    · simp at h
    · simp at h
    · -- the last row ends with the text
      obtain ⟨rfl⟩ := List.mem_singleton.mp (List.mem_of_getElem? h)
      exact .inr ⟨hlast, by simp⟩
    · cases i with
      | zero =>
        rw [List.getElem?_cons_zero] at h
        obtain rfl := Option.some.inj h
        obtain ⟨c, hc, hfeed⟩ := @exists_of_skipWhile_lt (· ≠ '\n') text first (text.size - first) (by omega)
          (by omega)
        obtain rfl : c = '\n' := by simpa using hfeed
        exact .inl hc
      | succ i =>
        rw [List.getElem?_cons_succ] at h
        rw [List.length_cons]
        exact (ih h).imp_right (And.imp_right Nat.succ_le_succ)

theorem endsRows_ofText (text : Array Char) : (ofText text).EndsRows := by
  -- rows that are not there are taken to start behind the text
  have hbehind : ∀ other, (ofText text).rows.size ≤ other → text.size ≤ ((ofText text).row other).first := by
    intro other hother
    rw [row, Array.getD_eq_getD_getElem?, Array.getElem?_eq_none hother]
    exact Nat.le_refl _
  intro line
  cases hrow : (ofText text).rows[line]? with
  | none =>
    rw [Array.getElem?_eq_none_iff] at hrow
    refine .inr ⟨?_, fun other hother => hbehind other (by omega)⟩
    rw [row, Array.getD_eq_getD_getElem?, Array.getElem?_eq_none hrow]
    exact Nat.le_refl _
  | some found =>
    rw [row, Array.getD_eq_getD_getElem?, hrow]
    have hat : (rowsFrom text (text.size + 1) 0)[line]? = some found := by
      rw [← List.getElem?_toArray]
      exact hrow
    refine (getElem?_last_of_rowsFrom hat).imp_right fun h => ⟨h.1, fun other hother => ?_⟩
    exact hbehind other (Nat.le_trans h.2 hother)

/-! ### The content of rows -/

theorem sliceOf_eq_nil {text : Array Char} {start stop : Nat} (h : stop ≤ start ∨ text.size ≤ start) :
    sliceOf text start stop = [] := by
  refine List.eq_nil_of_length_eq_zero ?_
  rw [length_sliceOf]
  omega

theorem sliceOf_suffix {text : Array Char} {start middle : Nat} (h : start ≤ middle) (stop : Nat) :
    sliceOf text middle stop <:+ sliceOf text start stop := by
  rcases Nat.le_total middle stop with hle | hle
  · rw [@sliceOf_append _ start middle stop hle, Nat.max_eq_right h]
    exact List.suffix_append _ _
  · rw [sliceOf_eq_nil (.inl hle)]
    exact List.nil_suffix

/-- The text of a row with its end is a part of the row, behind spaces and before a line feed. Where no line feed
follows, nothing is left of the row, or no row behind it has any text. -/
theorem rowContent_cases (h : base.IsCutOf scope) (hends : base.EndsRows) (line indent : Nat) :
    ∃ spaces inside, (∀ c ∈ spaces, c = ' ') ∧ inside <:+: base.rowText line ∧
      (scope.rowContent line indent true = spaces ++ (inside ++ ['\n']) ∨
        scope.rowContent line indent true = spaces ++ inside ∧
          (inside = [] ∨ ∀ other, line < other → base.text.size ≤ (base.row other).first)) := by
  rw [rowContent]
  dsimp only
  rw [if_pos rfl, h.last_eq, h.text]
  have hplace := @le_dropIndent scope (scope.row line) ((base.row line).last + 1) indent
    ((base.row line).last + 1 - (scope.row line).first) (scope.row line).first 0
  generalize scope.dropIndent _ _ _ _ _ _ = reached at hplace
  obtain ⟨place, columns⟩ := reached
  have hfirst := Nat.le_trans (h.first_le line) hplace
  dsimp only at hfirst ⊢
  refine ⟨List.replicate (columns - indent) ' ', sliceOf base.text place (base.row line).last,
    fun c hc => List.eq_of_mem_replicate hc, (sliceOf_suffix hfirst _).isInfix, ?_⟩
  rcases Nat.lt_or_ge (base.row line).last place with hlt | hle
  · -- the indentation goes past the end of the row
    rw [sliceOf_eq_nil (.inl hlt), sliceOf_eq_nil (.inl (Nat.le_of_lt hlt))]
    exact .inr ⟨rfl, .inl rfl⟩
  · rw [sliceOf_append (Nat.le_succ (base.row line).last), Nat.max_eq_right hle]
    -- a line feed ends the row, or the text does
    rcases hends line with hfeed | ⟨hlast, hbehind⟩
    · rw [sliceOf_cons hfeed (Nat.lt_succ_self _), sliceOf_eq_nil (.inl (Nat.le_refl _))]
      exact .inl rfl
    · rw [sliceOf_eq_nil (.inr hlast), List.append_nil]
      exact .inr ⟨rfl, .inr hbehind⟩

/-- Behind the last row of a text there are only spaces. -/
theorem eq_space_of_mem_rowContent (h : base.IsCutOf scope) {line : Nat} (hline : base.text.size ≤ (base.row line).first)
    {indent : Nat} {withEnd : Bool} {c : Char} (hc : c ∈ scope.rowContent line indent withEnd) : c = ' ' := by
  rw [rowContent] at hc
  dsimp only at hc
  have hplace := @le_dropIndent scope (scope.row line) (if withEnd then (scope.row line).last + 1 else (scope.row line).last)
    indent ((if withEnd then (scope.row line).last + 1 else (scope.row line).last) - (scope.row line).first)
    (scope.row line).first 0
  generalize scope.dropIndent _ _ _ _ _ _ = reached at hplace hc
  obtain ⟨place, columns⟩ := reached
  have hfirst := Nat.le_trans hline (Nat.le_trans (h.first_le line) hplace)
  rcases List.mem_append.mp hc with hc | hc
  · exact List.eq_of_mem_replicate hc
  · rw [h.text, sliceOf_eq_nil (.inr hfirst)] at hc
    cases hc

theorem content_eq_flatMap (scope : BlockScope) (first stop indent : Nat) : scope.content first stop indent true =
    (List.range' first (stop - first)).flatMap (scope.rowContent · indent true) := by
  rw [content, List.range'_eq_map_range, List.flatMap_map]
  simp

theorem exists_row_of_flatMap (h : base.IsCutOf scope) (hends : base.EndsRows) {first count indent : Nat}
    {needle : List Char} (hsolid : IsSolid needle)
    (hneedle : needle <:+: (List.range' first count).flatMap (scope.rowContent · indent true)) :
    ∃ line, first ≤ line ∧ line < first + count ∧ needle <:+: base.rowText line := by
  induction count generalizing first with
  | zero => exact absurd (List.eq_nil_of_infix_nil hneedle) hsolid.ne_nil
  | succ count ih =>
    rw [List.range'_succ, List.flatMap_cons] at hneedle
    have hhere : needle <:+: base.rowText first →
        ∃ line, first ≤ line ∧ line < first + (count + 1) ∧ needle <:+: base.rowText line := fun hpart =>
      ⟨first, Nat.le_refl _, by omega, hpart⟩
    have hlater : needle <:+: (List.range' (first + 1) count).flatMap (scope.rowContent · indent true) →
        ∃ line, first ≤ line ∧ line < first + (count + 1) ∧ needle <:+: base.rowText line := fun hrest => by
      obtain ⟨line, hfirst, hstop, hpart⟩ := ih hrest
      exact ⟨line, by omega, by omega, hpart⟩
    obtain ⟨spaces, inside, hspaces, hinside, heq | ⟨heq, hrest⟩⟩ := rowContent_cases h hends first indent
    · rw [heq, List.append_assoc, List.append_assoc] at hneedle
      -- the line feed stands between this row and the next ones
      rcases infix_or_infix_of_append_cons hsolid.feed (hsolid.infix_of_spaces_append hspaces hneedle) with
        hpart | hpart
      · exact hhere (hpart.trans hinside)
      · exact hlater hpart
    · rw [heq, List.append_assoc] at hneedle
      have hneedle := hsolid.infix_of_spaces_append hspaces hneedle
      rcases hrest with rfl | hbehind
      · exact hlater hneedle
      · -- this is the last row, and there are only spaces behind it
        refine hhere (List.IsInfix.trans (hsolid.infix_of_append_spaces (fun c hc => ?_) hneedle) hinside)
        obtain ⟨line, hline, hc⟩ := List.mem_flatMap.mp hc
        have hlt := (List.mem_range'_1.mp hline).1
        exact eq_space_of_mem_rowContent h (hbehind line hlt) hc

/-- What stands in the content of some rows, and has no gaps, stands in one of the rows. -/
theorem exists_row_of_content (h : base.IsCutOf scope) (hends : base.EndsRows) {first stop indent : Nat}
    {needle : List Char} (hsolid : IsSolid needle) (hneedle : needle <:+: scope.content first stop indent true) :
    ∃ line, first ≤ line ∧ line < stop ∧ needle <:+: base.rowText line := by
  rw [content_eq_flatMap] at hneedle
  obtain ⟨line, hfirst, hstop, hpart⟩ := exists_row_of_flatMap h hends hsolid hneedle
  exact ⟨line, hfirst, by omega, hpart⟩

end BlockScope

/-! ### The elements of blocks -/

/-- An element of a block is no piece of text. What stands in the content of an HTML block, and has no gaps, stands in
one of the rows of the block. -/
structure Element.IsBlock (base : BlockScope) (element : Element) : Prop where
  kind : element.kind.isPiece = false
  html : element.kind = .htmlBlock → ∃ range, element.lines = some range ∧
    ∀ needle, IsSolid needle → needle <:+: element.content.toList →
      ∃ line, range.first ≤ line ∧ line < range.stop ∧ needle <:+: base.rowText line

variable {base : BlockScope}

theorem Element.isBlock_plain {element : Element} (hkind : element.kind.isPiece = false)
    (hhtml : element.kind ≠ .htmlBlock) : element.IsBlock base := ⟨hkind, fun h => absurd h hhtml⟩

/-- Some blocks hold what stands in the rows that they are read from. -/
def Blocks.AreBlocks (base : BlockScope) (blocks : Blocks) : Prop :=
  ∀ tree ∈ blocks.trees, tree.All (Element.IsBlock base)

namespace Blocks

theorem areBlocks_single {element : Element} {children : List Tree} {first next : Nat}
    (hkind : element.kind.isPiece = false) (hhtml : element.kind ≠ .htmlBlock)
    (hchildren : ∀ tree ∈ children, tree.All (Element.IsBlock base)) :
    (single element children first next).AreBlocks base :=
  List.forall_mem_singleton.mpr (.node (Element.isBlock_plain hkind hhtml) hchildren)

theorem AreBlocks.around {inner : Blocks} (h : inner.AreBlocks base) {element : Element} {first : Nat}
    (hkind : element.kind.isPiece = false) (hhtml : element.kind ≠ .htmlBlock) :
    (inner.around element first).AreBlocks base :=
  List.forall_mem_singleton.mpr (.node (Element.isBlock_plain hkind hhtml) h)

theorem AreBlocks.followedBy {blocks more : Blocks} (h : blocks.AreBlocks base) (hmore : more.AreBlocks base) :
    (blocks.followedBy more).AreBlocks base := List.forall_mem_append.mpr ⟨h, hmore⟩

end Blocks

theorem all_textOf (content : String) (first stop : Nat) : (textOf content first stop).All (Element.IsBlock base) :=
  .node (Element.isBlock_plain rfl (by simp)) (by simp)

/-- A reader of blocks from parts of some rows. -/
def IsBlockReader (base : BlockScope) (read : BlockReader) : Prop :=
  ∀ scope line stop, base.IsCutOf scope → (read scope line stop).AreBlocks base

namespace BlockScope

variable {scope : BlockScope} {line stop : Nat}

theorem areBlocks_readHtmlBlock (h : base.IsCutOf scope) (hends : base.EndsRows) (rule : HtmlBlockRule) :
    (scope.readHtmlBlock rule line stop).AreBlocks base := by
  refine List.forall_mem_singleton.mpr (.node ⟨rfl, fun _ => ⟨_, rfl, fun needle hsolid hneedle => ?_⟩⟩ (by simp))
  rw [String.toList_ofList] at hneedle
  exact exists_row_of_content h hends hsolid hneedle

theorem all_rowTree {kind : Kind} (hkind : kind.isPiece = false) (hhtml : kind ≠ .htmlBlock) (cells : List (List Char)) :
    (rowTree kind cells line).All (Element.IsBlock base) := by
  refine .node (Element.isBlock_plain rfl (by simp)) fun tree htree => ?_
  obtain ⟨cell, -, rfl⟩ := List.mem_map.mp htree
  exact .node (Element.isBlock_plain hkind hhtml) (List.forall_mem_singleton.mpr (all_textOf _ _ _))

theorem all_bodyRows {columns fuel : Nat} {missing : Int} :
    ∀ tree ∈ scope.bodyRows columns stop fuel missing line, tree.All (Element.IsBlock base) := by
  fun_induction bodyRows scope columns stop fuel missing line with
  | case1 => simp
  | case2 => simp
  | case3 => simp
  | case4 _ _ _ _ _ _ _ _ _ ih => exact List.forall_mem_cons.mpr ⟨all_rowTree rfl (by simp) _, ih⟩

theorem areBlocks_readTable (table : TableStart) : (scope.readTable table line stop).AreBlocks base := by
  refine Blocks.areBlocks_single rfl (by simp) (List.forall_mem_cons.mpr ⟨?_, ?_⟩)
  · exact .node (Element.isBlock_plain rfl (by simp)) (List.forall_mem_singleton.mpr (all_rowTree rfl (by simp) _))
  · split_ifs
    · simp
    · exact List.forall_mem_singleton.mpr (.node (Element.isBlock_plain rfl (by simp)) all_bodyRows)

/-! ### Containers -/

theorem IsCutOf.unquoted (h : base.IsCutOf scope) {inner : BlockScope} (hinner : base.IsCutOf inner) (line : Nat) :
    base.IsCutOf (inner.withRow line (scope.unquoted line)) := by
  obtain ⟨hfirst, hlast⟩ := scope.first_unquoted line
  exact hinner.withRow line (Nat.le_trans (h.first_le line) hfirst) (hlast.trans (h.last_eq line))

theorem isCutOf_quoteRows (h : base.IsCutOf scope) {fuel : Nat} {inner : BlockScope} {lastEmpty : Bool}
    (hinner : base.IsCutOf inner) : base.IsCutOf (scope.quoteRows stop fuel inner lastEmpty line).1 := by
  induction fuel generalizing inner lastEmpty line with
  | zero => exact hinner
  | succ fuel ih =>
    rw [quoteRows]
    dsimp only
    split_ifs
    · exact hinner
    · exact ih (h.unquoted hinner line)
    · exact hinner
    · refine IsCutOf.mono (hinner.withRow line ?_ ?_) _ _ _
      · exact h.first_le line
      · exact h.last_eq line
    · exact ih (hinner.withRow line (h.first_le line) (h.last_eq line))

theorem areBlocks_readQuote (h : base.IsCutOf scope) {read : BlockReader} (hread : IsBlockReader base read) :
    (scope.readQuote read line stop).AreBlocks base := by
  rw [readQuote]
  have hinner := @isCutOf_quoteRows base scope (line + 1) stop h (stop - line) _ (scope.unquoted line).isEmpty
    (h.unquoted h line)
  dsimp only
  generalize scope.quoteRows _ _ _ _ _ = reached at *
  obtain ⟨inner, last⟩ := reached
  exact Blocks.AreBlocks.around (hread _ line last (hinner.mono _ _ _)) rfl (by simp)

theorem areBlocks_readItem (h : base.IsCutOf scope) {read : BlockReader} (hread : IsBlockReader base read)
    (mark : ListMarker) : (scope.readItem read mark line stop).AreBlocks base := by
  rw [readItem]
  dsimp only
  generalize passGaps _ _ _ _ _ _ = reached
  obtain ⟨place, column⟩ := reached
  refine Blocks.AreBlocks.around ?_ rfl (by simp)
  dsimp only
  split
  · exact List.forall_mem_nil _
  · refine hread _ line stop (IsCutOf.mono (h.withRow line ?_ ?_) _ _ _)
    · exact h.first_le line
    · exact h.last_eq line

theorem areBlocks_readItems (h : base.IsCutOf scope) {read : BlockReader} (hread : IsBlockReader base read) (fuel : Nat)
    (mark : ListMarker) : (scope.readItems read stop fuel mark line).AreBlocks base := by
  induction fuel generalizing mark line with
  | zero => exact List.forall_mem_nil _
  | succ fuel ih =>
    rw [readItems]
    have hitem := @areBlocks_readItem base scope line stop h read hread mark
    split
    · exact hitem.followedBy (ih _)
    · exact hitem

/-! ### All blocks -/

theorem areBlocks_readBlock (h : base.IsCutOf scope) (hends : base.EndsRows) {inQuote inItem : BlockReader}
    (hquote : IsBlockReader base inQuote) (hitem : IsBlockReader base inItem) :
    (scope.readBlock inQuote inItem line stop).AreBlocks base := by
  have htext : ∀ content first stop, ∀ tree ∈ [textOf content first stop], tree.All (Element.IsBlock base) :=
    fun _ _ _ => List.forall_mem_singleton.mpr (all_textOf _ _ _)
  -- one case for each kind of block, in the order in which they are tried
  rw [readBlock]
  split
  · exact areBlocks_readTable _
  split
  · exact Blocks.areBlocks_single rfl (by simp) (by simp)
  split
  · exact Blocks.areBlocks_single rfl (by simp) (by simp)
  split
  · exact areBlocks_readQuote h hquote
  split
  · exact Blocks.areBlocks_single rfl (by simp) (by simp)
  split
  · refine Blocks.AreBlocks.around (areBlocks_readItems h hitem _ _) ?_ ?_ <;> dsimp only <;> split_ifs <;>
      first | rfl | simp
  split
  · exact List.forall_mem_nil _
  split
  · exact areBlocks_readHtmlBlock h hends _
  split
  · exact Blocks.areBlocks_single rfl (by simp) (htext _ _ _)
  split
  · rename_i heading _ hheading
    obtain ⟨⟨last, marker⟩, -, rfl⟩ := Option.map_eq_some_iff.mp hheading
    exact Blocks.areBlocks_single rfl (by simp) (htext _ _ _)
  · exact Blocks.areBlocks_single rfl (by simp) (htext _ _ _)

theorem areBlocks_readFrom (h : base.IsCutOf scope) (hends : base.EndsRows)
    {readers : Option (BlockReader × BlockReader)} (hreaders : ∀ inQuote inItem, readers = some (inQuote, inItem) →
      IsBlockReader base inQuote ∧ IsBlockReader base inItem) (fuel : Nat) :
    (scope.readFrom readers stop fuel line).AreBlocks base := by
  induction fuel generalizing line with
  | zero => exact List.forall_mem_nil _
  | succ fuel ih =>
    rw [readFrom]
    split_ifs
    · exact List.forall_mem_nil _
    dsimp only
    split_ifs
    · exact List.forall_mem_nil _
    split
    · exact List.forall_mem_nil _
    · rename_i inQuote inItem
      obtain ⟨hquote, hitem⟩ := hreaders inQuote inItem rfl
      exact (areBlocks_readBlock h hends hquote hitem).followedBy ih

end BlockScope

/-- The blocks of a container hold what stands in its rows, however deep they may nest. -/
theorem isBlockReader_readBlocks (hends : base.EndsRows) (depth : Nat) : IsBlockReader base (readBlocks depth) := by
  induction depth using Nat.strongRecOn with
  | _ depth ih =>
    intro scope line stop h
    match depth, ih with
    | 0, _ =>
      rw [readBlocks]
      exact BlockScope.areBlocks_readFrom h hends (fun _ _ hnone => by cases hnone) _
    | 1, ih =>
      rw [readBlocks]
      refine BlockScope.areBlocks_readFrom h hends (fun _ _ hsome => ?_) _
      cases hsome
      exact ⟨ih 0 (by omega), ih 0 (by omega)⟩
    | depth + 2, ih =>
      rw [readBlocks]
      refine BlockScope.areBlocks_readFrom h hends (fun _ _ hsome => ?_) _
      cases hsome
      exact ⟨ih (depth + 1) (by omega), ih depth (by omega)⟩

/-! ### The tree of a text -/

/-- The blocks of a tree in which the texts of blocks have been read as pieces of text. -/
inductive Tree.IsRead (base : BlockScope) : Tree → Prop
  | text {element : Element} {pieces : List Tree} : element.kind = .inline → element.IsBlock base →
      (∀ piece ∈ pieces, IsPiece piece) → (Tree.node element pieces).IsRead base
  | block {element : Element} {children : List Tree} : element.kind ≠ .inline → element.IsBlock base →
      (∀ tree ∈ children, tree.IsRead base) → (Tree.node element children).IsRead base

theorem Element.IsBlock.not_isPlain {element : Element} (h : element.IsBlock base) : element.kind.isPlain = false := by
  have hkind := h.kind
  rw [Kind.isPiece, Bool.or_assoc, Bool.or_eq_false_iff] at hkind
  exact hkind.1

theorem Tree.IsRead.isProper {tree : Tree} (h : tree.IsRead base) : tree.IsProper := by
  induction h with
  | text _ helement hpieces =>
    exact .node (fun h => absurd h (by simp [helement.not_isPlain])) fun piece hpiece => (hpieces piece hpiece).isProper
  | block _ helement _ ih => exact .node (fun h => absurd h (by simp [helement.not_isPlain])) ih

mutual

/-- Once the texts of blocks have been read, there are pieces of text in them. -/
theorem isRead_readTexts (targets : LinkTargets) :
    ∀ {tree : Tree}, tree.All (Element.IsBlock base) → (readTexts targets tree).IsRead base
  | .node element children, .node helement hchildren => by
    rw [readTexts]
    split_ifs with hinline
    · exact .text hinline helement fun _ => isPiece_of_mem_inlineTrees _ _
    · exact .block hinline helement (isRead_readAllTexts targets hchildren)

theorem isRead_readAllTexts (targets : LinkTargets) : ∀ {trees : List Tree},
    (∀ tree ∈ trees, tree.All (Element.IsBlock base)) → ∀ tree ∈ readAllTexts targets trees, tree.IsRead base
  | [], _ => by simp [readAllTexts]
  | first :: rest, h => by
    rw [List.forall_mem_cons] at h
    rw [readAllTexts]
    exact List.forall_mem_cons.mpr ⟨isRead_readTexts targets h.1, isRead_readAllTexts targets h.2⟩

end

/-- The rows of a text as blocks are read from it. -/
def scopeOf (text : String) : BlockScope := .ofText (unifyLineEnds text.toList).toArray

/-- The tree of a text is read from its rows. -/
theorem Tree.isRead_ofMarkdown (text : String) : (Tree.ofMarkdown text).IsRead (scopeOf text) := by
  have hblocks := isBlockReader_readBlocks (BlockScope.endsRows_ofText (unifyLineEnds text.toList).toArray) maxDepth
    (scopeOf text) 0 (scopeOf text).stop (.refl _)
  exact .block (by simp) (Element.isBlock_plain rfl (by simp)) (isRead_readAllTexts _ hblocks)

end ProposalCheck.Markdown
