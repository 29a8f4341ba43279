import ProposalCheck.Diagnostic.Render
import ProposalCheck.Proofs.Source.Rows

/-!
# The strips of a drawing

Every row of a drawing shows the text of a line, the strokes of a mark that stays on its line, the start or the end of
a mark in the gutter, or that lines are left out. A drawing is the list of these strips: the groups of its lines one
after the other, with one gap for each run of lines that are left out.

## Main definitions

* `elide`: groups of items in a row, with a gap for each run of missing groups
* `Drawing.Strip`: what a row shows
* `Drawing.strips`: what the rows of a drawing show
* `Drawing.Strip.Before`: the order of strips

## Main results

* `Drawing.lineRows_eq`: the rows of a drawing are those of its strips
* `Drawing.pairwise_strips`: the strips of a drawing are in order
-/

namespace ProposalCheck

variable {α β : Type} {gap : α}

/-! ### Groups with gaps -/

/-- Groups of items in a row. Each maximal run of missing groups has one `gap` in its place. -/
def elide (gap : α) : List (Option (List α)) → List α
  | [] => []
  | some group :: rest => group ++ elide gap rest
  | none :: rest => if rest.head?.any (·.isNone) then elide gap rest else gap :: elide gap rest

theorem elide_map_some (f : β → List α) (items : List β) :
    elide gap (items.map fun item => some (f item)) = items.flatMap f := by
  induction items with
  | nil => rfl
  | cons item items ih => rw [List.map_cons, elide, ih, List.flatMap_cons]

theorem map_elide (f : α → β) (groups : List (Option (List α))) :
    (elide gap groups).map f = elide (f gap) (groups.map (·.map (·.map f))) := by
  induction groups with
  | nil => rfl
  | cons group rest ih =>
    cases group with
    | some group => rw [elide, List.map_append, ih, List.map_cons, Option.map_some, elide]
    | none =>
      -- whether the run of missing groups goes on does not depend on what is in the groups
      have hhead : (rest.map (·.map (·.map f))).head?.any (·.isNone) = rest.head?.any (·.isNone) := by
        cases rest with
        | nil => rfl
        | cons first rest => cases first <;> rfl
      rw [elide, List.map_cons, Option.map_none, elide, hhead, ← ih, apply_ite (List.map f), List.map_cons]

/-- What is picked of the items does not depend on the gaps if nothing is picked of these. -/
theorem filterMap_elide {f : α → Option β} (hgap : f gap = none) (groups : List (Option (List α))) :
    (elide gap groups).filterMap f = groups.flatMap fun group => (group.getD []).filterMap f := by
  induction groups with
  | nil => rfl
  | cons group rest ih =>
    cases group with
    | some group => rw [elide, List.filterMap_append, ih, List.flatMap_cons, Option.getD_some]
    | none =>
      rw [elide, List.flatMap_cons, Option.getD_none, List.filterMap_nil, List.nil_append, ← ih]
      split_ifs
      · rfl
      · rw [List.filterMap_cons_none hgap]

theorem mem_elide {item : α} {groups : List (Option (List α))} (h : item ∈ elide gap groups) :
    item = gap ∨ ∃ group, some group ∈ groups ∧ item ∈ group := by
  induction groups with
  | nil => cases h
  | cons group rest ih =>
    have hrest : item ∈ elide gap rest → item = gap ∨ ∃ group', some group' ∈ group :: rest ∧ item ∈ group' :=
      fun h => (ih h).imp_right fun ⟨group, hgroup, hitem⟩ => ⟨group, List.mem_cons_of_mem _ hgroup, hitem⟩
    cases group with
    | some group =>
      rw [elide] at h
      rcases List.mem_append.mp h with h | h
      · exact .inr ⟨group, List.mem_cons_self, h⟩
      · exact hrest h
    | none =>
      rw [elide] at h
      split_ifs at h
      · exact hrest h
      · -- the first group that is left out in a run is the gap of the run
        rcases List.mem_cons.mp h with rfl | h
        · exact .inl rfl
        · exact hrest h

theorem mem_elide_of_mem {item : α} {group : List α} {groups : List (Option (List α))} (hgroup : some group ∈ groups)
    (hitem : item ∈ group) : item ∈ elide gap groups := by
  induction groups with
  | nil => cases hgroup
  | cons first rest ih =>
    cases first with
    | some first =>
      rw [elide]
      rcases List.mem_cons.mp hgroup with heq | hgroup
      · exact List.mem_append_left _ (Option.some.inj heq ▸ hitem)
      · exact List.mem_append_right _ (ih hgroup)
    | none =>
      have hmem := ih ((List.mem_cons.mp hgroup).resolve_left (by simp))
      rw [elide]
      split_ifs
      · exact hmem
      · exact List.mem_cons_of_mem _ hmem

/-- Groups that are in order stay in order, if a gap may stand anywhere. -/
theorem pairwise_elide {R : α → α → Prop} {groups : List (Option (List α))} (hleft : ∀ item, R gap item)
    (hright : ∀ item, R item gap) (hgroups : ∀ group, some group ∈ groups → group.Pairwise R)
    (hacross : groups.Pairwise fun first second => ∀ group ∈ first, ∀ later ∈ second, ∀ x ∈ group, ∀ y ∈ later, R x y) :
    (elide gap groups).Pairwise R := by
  induction groups with
  | nil => exact List.Pairwise.nil
  | cons group rest ih =>
    obtain ⟨hfirst, hrest⟩ := List.pairwise_cons.mp hacross
    have ih := ih (fun group hgroup => hgroups group (List.mem_cons_of_mem _ hgroup)) hrest
    cases group with
    | some group =>
      rw [elide]
      refine List.pairwise_append.mpr ⟨hgroups group List.mem_cons_self, ih, fun x hx y hy => ?_⟩
      -- behind an item of the first group comes a gap, or an item of a later group
      rcases mem_elide hy with rfl | ⟨later, hlater, hy⟩
      · exact hright x
      · exact hfirst _ hlater group rfl later rfl x hx y hy
    | none =>
      rw [elide]
      split_ifs
      · exact ih
      · exact List.pairwise_cons.mpr ⟨fun item _ => hleft item, ih⟩

namespace Drawing

variable (drawing : Drawing)

/-! ### Strips -/

/-- What a row shows. -/
inductive Strip where
  /-- Lines are left out. -/
  | gap
  /-- The text of a line. -/
  | source (line : Nat)
  /-- The strokes of a mark that stays on its line. -/
  | inline (line : Nat) (mark : PlacedMark)
  /-- The start of the `k`-th mark of the gutter. -/
  | opening (line k : Nat) (mark : PlacedMark)
  /-- The end of the `k`-th mark of the gutter. -/
  | closing (line k : Nat) (mark : PlacedMark)
  deriving DecidableEq

/-- The row that shows a strip. -/
def text : Strip → String
  | .gap => "..."
  | .source line => drawing.sourceRow line
  | .inline line mark => drawing.inlineRow line mark
  | .opening line k mark => drawing.openingRow line k mark
  | .closing line k mark => drawing.closingRow line k mark

/-- The marker rows below a line. -/
def markerStrips (line : Nat) : List Strip :=
  (drawing.marks.filter fun mark => !mark.isMultiline && mark.startLine = line).map (.inline line)
    ++ (drawing.gutterMarks.zipIdx.filter fun (mark, _) =>
      mark.startLine = line && !drawing.opensWithSlash mark).map (fun (mark, k) => .opening line k mark)
    ++ (drawing.gutterMarks.zipIdx.filter fun (mark, _) => mark.endLine = line).map
      (fun (mark, k) => .closing line k mark)

/-- The row of a line and the marker rows below it. -/
def lineStrips (line : Nat) : List Strip := .source line :: drawing.markerStrips line

theorem map_text_lineStrips (line : Nat) : (drawing.lineStrips line).map drawing.text = drawing.rowGroup line := by
  rw [lineStrips, List.map_cons, markerStrips, rowGroup, markerRows]
  simp only [List.map_append, List.map_map]
  rfl

/-- Is a line shown? -/
def isShown (line : Nat) : Bool := !drawing.excerpt.fold || drawing.isKept line

/-- What the rows of a drawing show. -/
def strips : List Strip :=
  elide .gap <| (List.range drawing.rows.length).map fun line =>
    if drawing.isShown line then some (drawing.lineStrips line) else none

theorem visible_eq : drawing.visible = (List.range drawing.rows.length).filter drawing.isShown := by
  unfold visible isShown
  cases drawing.excerpt.fold <;> simp

/-- Behind a line, a row stands for lines that are left out before the next one. The last line is shown. -/
theorem rowsAfter_filter {isShown : Nat → Bool} {count : Nat} (hlast : isShown (count - 1)) (m first previous : Nat)
    (hcount : first + m = count) (hle : previous < first) (hnext : m = 0 → first = previous + 1) :
    drawing.rowsAfter previous ((List.range' first m).filter isShown) =
      elide "..." ((if first = previous + 1 then [] else [none]) ++ (List.range' first m).map fun line =>
        if isShown line then some (drawing.rowGroup line) else none) := by
  -- of the lines up to the last, `m` are left, and no line between `previous` and `first` is shown
  induction m generalizing first previous with
  | zero =>
    rw [if_pos (hnext rfl)]
    rfl
  | succ m ih =>
    rw [List.range'_succ, List.map_cons]
    by_cases hshown : isShown first
    · have hrest := ih (first + 1) first (by omega) (by omega) (fun _ => rfl)
      rw [if_pos rfl, List.nil_append] at hrest
      rw [List.filter_cons_of_pos hshown, rowsAfter, hrest, if_pos hshown]
      split_ifs <;> rfl
    · -- the last line is shown, so this is another one, and the run of lines that are left out goes on
      have hmore : m ≠ 0 := by
        rintro rfl
        rw [← hcount, Nat.add_sub_cancel] at hlast
        exact hshown hlast
      have hrest := ih (first + 1) previous (by omega) (by omega) (fun hzero => absurd hzero hmore)
      rw [if_neg (by omega)] at hrest
      rw [List.filter_cons_of_neg hshown, hrest, if_neg hshown]
      split_ifs <;> rfl

/-- The rows of the lines of a drawing are the groups of the lines that are shown, with a row for each run of lines
that are left out. -/
theorem lineRows_eq_elide (hpos : 0 < drawing.rows.length) :
    drawing.lineRows = elide "..." ((List.range drawing.rows.length).map fun line =>
      if drawing.isShown line then some (drawing.rowGroup line) else none) := by
  have hends : drawing.isShown 0 ∧ drawing.isShown (drawing.rows.length - 1) := by
    simp [isShown, isKept, Nat.sub_add_cancel hpos]
  -- the first line has no row for left-out lines in front of it, the others may have one
  obtain ⟨n, hn⟩ : ∃ n, drawing.rows.length = n + 1 := ⟨_, (Nat.sub_add_cancel hpos).symm⟩
  have hrest := drawing.rowsAfter_filter hends.2 n 1 0 (by omega) Nat.zero_lt_one (fun _ => rfl)
  rw [if_pos rfl, List.nil_append] at hrest
  rw [lineRows, visible_eq, hn, List.range_eq_range', List.range'_succ, List.filter_cons_of_pos hends.1]
  dsimp only
  rw [hrest, List.map_cons, if_pos hends.1, elide]

/-- The rows of a drawing are those of its strips. -/
theorem lineRows_eq (hpos : 0 < drawing.rows.length) : drawing.lineRows = drawing.strips.map drawing.text := by
  rw [lineRows_eq_elide drawing hpos, strips, map_elide, List.map_map]
  congr 1
  refine List.map_congr_left fun line _ => ?_
  dsimp only [Function.comp_apply]
  split_ifs
  · rw [Option.map_some, map_text_lineStrips]
  · rfl

/-! ### How wide rows are in front of the text -/

/-- A number is as wide as its field, or wider. -/
theorem length_numbered (line : Nat) :
    (List.replicate (drawing.width - (toString (drawing.excerpt.lineStart + line)).toList.length) ' ' ++
      (toString (drawing.excerpt.lineStart + line)).toList).length =
        max drawing.width (toString (drawing.excerpt.lineStart + line)).toList.length := by
  rw [List.length_append, List.length_replicate]
  omega

theorem length_padding : drawing.padding.length = drawing.width := List.length_replicate

theorem length_markerGutter (line closed : Nat) :
    (drawing.markerGutter line closed).length = drawing.gutterMarks.length := List.length_mapIdx

/-! ### What strips there are -/

/-- A strip belongs to a line. -/
inductive Holds (line : Nat) : Strip → Prop
  | source : Holds line (.source line)
  | inline {mark : PlacedMark} : mark ∈ drawing.marks → mark.isMultiline = false → mark.startLine = line →
      Holds line (.inline line mark)
  | opening {k : Nat} {mark : PlacedMark} : drawing.gutterMarks[k]? = some mark → mark.startLine = line →
      drawing.opensWithSlash mark = false → Holds line (.opening line k mark)
  | closing {k : Nat} {mark : PlacedMark} : drawing.gutterMarks[k]? = some mark → mark.endLine = line →
      Holds line (.closing line k mark)

variable {drawing} {line : Nat} {strip : Strip} {mark : PlacedMark}

theorem mem_lineStrips : strip ∈ drawing.lineStrips line ↔ drawing.Holds line strip := by
  simp only [lineStrips, markerStrips, List.mem_cons, List.mem_append, List.mem_map, List.mem_filter, Prod.exists,
    List.mem_zipIdx_iff_getElem?, Bool.and_eq_true, Bool.not_eq_true', decide_eq_true_eq]
  constructor
  · rintro (rfl | (⟨mark, ⟨hmark, hsingle, rfl⟩, rfl⟩ | ⟨mark, k, ⟨hmark, rfl, hslash⟩, rfl⟩) |
      ⟨mark, k, ⟨hmark, rfl⟩, rfl⟩)
    · exact .source
    · exact .inline hmark hsingle rfl
    · exact .opening hmark rfl hslash
    · exact .closing hmark rfl
  · rintro (_ | ⟨hmark, hsingle, hline⟩ | ⟨hmark, hline, hslash⟩ | ⟨hmark, hline⟩)
    · exact .inl rfl
    · exact .inr (.inl (.inl ⟨_, ⟨hmark, hsingle, hline⟩, rfl⟩))
    · exact .inr (.inl (.inr ⟨_, _, ⟨hmark, hline, hslash⟩, rfl⟩))
    · exact .inr (.inr ⟨_, _, ⟨hmark, hline⟩, rfl⟩)

theorem Holds.ne_gap (h : drawing.Holds line strip) : strip ≠ .gap := by
  cases h <;> simp

/-- Apart from gaps, a drawing has the strips of the lines that are shown. -/
theorem mem_strips (hgap : strip ≠ .gap) :
    strip ∈ drawing.strips ↔ ∃ line < drawing.rows.length, drawing.isShown line ∧ drawing.Holds line strip := by
  simp only [← mem_lineStrips]
  constructor
  · intro h
    obtain ⟨group, hgroup, hstrip⟩ := (mem_elide h).resolve_left hgap
    obtain ⟨line, hline, heq⟩ := List.mem_map.mp hgroup
    split_ifs at heq with hshown
    exact ⟨line, List.mem_range.mp hline, hshown, Option.some.inj heq ▸ hstrip⟩
  · rintro ⟨line, hline, hshown, hstrip⟩
    exact mem_elide_of_mem (List.mem_map.mpr ⟨line, List.mem_range.mpr hline, if_pos hshown⟩) hstrip

/-- What a row with the strokes of a mark says about the mark. -/
theorem of_inline_mem (h : .inline line mark ∈ drawing.strips) : mark.isMultiline = false ∧ mark.startLine = line := by
  obtain ⟨_, -, -, hholds⟩ := (mem_strips (by simp)).mp h
  cases hholds with
  | inline _ hsingle hline => exact ⟨hsingle, hline⟩

theorem of_opening_mem {k : Nat} (h : .opening line k mark ∈ drawing.strips) :
    drawing.gutterMarks[k]? = some mark ∧ mark.startLine = line := by
  obtain ⟨_, -, -, hholds⟩ := (mem_strips (by simp)).mp h
  cases hholds with
  | opening hmark hline => exact ⟨hmark, hline⟩

theorem of_closing_mem {k : Nat} (h : .closing line k mark ∈ drawing.strips) :
    drawing.gutterMarks[k]? = some mark ∧ mark.endLine = line := by
  obtain ⟨_, -, -, hholds⟩ := (mem_strips (by simp)).mp h
  cases hholds with
  | closing hmark hline => exact ⟨hmark, hline⟩

/-- The lines on which a mark starts or ends are shown. -/
theorem isShown_of_mem (hmark : mark ∈ drawing.marks) (hline : line = mark.startLine ∨ line = mark.endLine) :
    drawing.isShown line := by
  have hany : drawing.marks.any fun mark => line = mark.startLine || line = mark.endLine :=
    List.any_eq_true.mpr ⟨mark, hmark, by simpa using hline⟩
  rw [isShown, isKept, hany, Bool.or_true, Bool.or_true]

/-! ### The order of strips -/

/-- Where a strip stands: its line, its kind, and the number of its mark in the gutter. -/
def Strip.place? : Strip → Option (Nat × Nat × Nat)
  | .gap => none
  | .source line => some (line, 0, 0)
  | .inline line _ => some (line, 1, 0)
  | .opening line k _ => some (line, 2, k)
  | .closing line k _ => some (line, 3, k)

/-- A strip may stand before another one. Gaps may stand anywhere, and the marks that stay on a line in any order. -/
def Strip.Before (first second : Strip) : Prop :=
  ∀ a ∈ first.place?, ∀ b ∈ second.place?,
    a.1 < b.1 ∨ a.1 = b.1 ∧ (a.2.1 < b.2.1 ∨ a.2.1 = b.2.1 ∧ (a.2.1 = 1 ∨ a.2.2 < b.2.2))

theorem Holds.place?_fst {place : Nat × Nat × Nat} (h : drawing.Holds line strip) (hplace : place ∈ strip.place?) :
    place.1 = line := by
  cases h <;> cases hplace <;> rfl

theorem pairwise_zipIdx (marks : List PlacedMark) : marks.zipIdx.Pairwise fun first second => first.2 < second.2 := by
  rw [List.pairwise_iff_getElem]
  intro i j hi hj hij
  simpa using hij

/-- Rows of one kind are in the order of their marks, and kinds come one after the other. -/
theorem pairwise_lineStrips (drawing : Drawing) (line : Nat) : (drawing.lineStrips line).Pairwise Strip.Before := by
  -- opening and closing rows are those of some of the marks of the gutter, in the order of these
  have hindices : ∀ (p : PlacedMark × Nat → Bool) (f : Nat → PlacedMark → Strip),
      (∀ mark other k j, k < j → (f k mark).Before (f j other)) →
      ((drawing.gutterMarks.zipIdx.filter p).map fun (mark, k) => f k mark).Pairwise Strip.Before :=
    fun p f hf => List.pairwise_map.mpr (((pairwise_zipIdx _).filter p).imp fun hlt => hf _ _ _ _ hlt)
  refine List.pairwise_cons.mpr ⟨?source, List.pairwise_append.mpr ⟨List.pairwise_append.mpr
    ⟨?inline, ?opening, ?across⟩, ?closing, ?behind⟩⟩
  case inline => exact List.pairwise_map.mpr (List.pairwise_of_forall fun _ _ => by simp [Strip.Before, Strip.place?])
  case opening => exact hindices _ (.opening line) (by simp [Strip.Before, Strip.place?])
  case closing => exact hindices _ (.closing line) (by simp [Strip.Before, Strip.place?])
  case source =>
    intro strip hstrip
    simp only [markerStrips, List.mem_append, List.mem_map] at hstrip
    rcases hstrip with (⟨_, -, rfl⟩ | ⟨_, -, rfl⟩) | ⟨_, -, rfl⟩ <;> simp [Strip.Before, Strip.place?]
  case across =>
    intro first hfirst second hsecond
    obtain ⟨_, -, rfl⟩ := List.mem_map.mp hfirst
    obtain ⟨_, -, rfl⟩ := List.mem_map.mp hsecond
    simp [Strip.Before, Strip.place?]
  case behind =>
    intro first hfirst second hsecond
    obtain ⟨_, -, rfl⟩ := List.mem_map.mp hsecond
    simp only [List.mem_append, List.mem_map] at hfirst
    rcases hfirst with ⟨_, -, rfl⟩ | ⟨_, -, rfl⟩ <;> simp [Strip.Before, Strip.place?]

/-- The strips of a drawing are in order. -/
theorem pairwise_strips (drawing : Drawing) : drawing.strips.Pairwise Strip.Before := by
  refine pairwise_elide (by simp [Strip.Before, Strip.place?]) (by simp [Strip.Before, Strip.place?]) ?_ ?_
  · intro group hgroup
    obtain ⟨line, -, heq⟩ := List.mem_map.mp hgroup
    split_ifs at heq
    exact Option.some.inj heq ▸ drawing.pairwise_lineStrips line
  · -- strips of two groups are in the order of their lines
    rw [List.pairwise_map]
    refine List.pairwise_lt_range.imp fun {line later} hlt group hgroup other hother x hx y hy a ha b hb => .inl ?_
    obtain rfl : drawing.lineStrips line = group := by simpa using (Option.ite_none_right_eq_some.mp hgroup).2
    obtain rfl : drawing.lineStrips later = other := by simpa using (Option.ite_none_right_eq_some.mp hother).2
    rw [(mem_lineStrips.mp hx).place?_fst ha, (mem_lineStrips.mp hy).place?_fst hb]
    exact hlt

end Drawing

end ProposalCheck
