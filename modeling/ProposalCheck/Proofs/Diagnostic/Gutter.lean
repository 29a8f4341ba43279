import ProposalCheck.Proofs.Diagnostic.Locate
import ProposalCheck.Proofs.Document.Items

/-!
# The gutter

A mark over several lines has a column of its own between the line numbers and the text. From the row that opens it to
the row that closes it, the column holds a bar on every row, or the stroke of another mark crosses it. There is one
exception: marks that open below the same line, each with a row of its own, leave the columns of those opened before
them blank on these rows.

## Main definitions

* `Drawing.column`: what a row has in the column of a mark
* `Drawing.IsUnbroken`: the column of a mark shows where the mark is open
* `Drawing.IsOvertaken`: a later mark opens below the line below which a mark opens

## Main results

* `Drawing.unbroken_iff`: the column of a mark is unbroken unless the mark is overtaken
-/

namespace ProposalCheck

/-- What is at a place of a text is there without the blanks at its end, if nothing counts as a space. -/
theorem getD_trimEndChars {cs : List Char} {i : Nat} {c : Char} (h : cs[i]? = some c) (hc : isBlank c → c = ' ') :
    (trimEndChars cs)[i]?.getD ' ' = c := by
  rw [eq_trimEndChars_append cs] at h
  by_cases hi : i < (trimEndChars cs).length
  · rw [List.getElem?_append_left hi] at h
    rw [h, Option.getD_some]
  · rw [List.getElem?_append_right (Nat.le_of_not_lt hi)] at h
    have hmem := List.mem_reverse.mp (List.mem_of_getElem? h)
    rw [List.getElem?_eq_none (Nat.le_of_not_lt hi), Option.getD_none, hc (of_mem_takeWhile_isBlank hmem)]

namespace Drawing

variable (drawing : Drawing)

/-! ### Columns of the gutter -/

/-- How wide the field for the number is on the row of a strip. A number may be wider than the field. -/
def fieldWidth : Strip → Nat
  | .source line => max drawing.width (toString (drawing.excerpt.lineStart + line)).toList.length
  | _ => drawing.width

/-- What the row of a strip has in the column of the `k`-th mark of the gutter. Behind its end, there are blanks. -/
def column (k : Nat) (strip : Strip) : Char := (drawing.text strip).toList[drawing.fieldWidth strip + 3 + k]?.getD ' '

/-- The mark of the gutter whose stroke is on a row. -/
def Strip.stroke? : Strip → Option Nat
  | .opening _ k _ | .closing _ k _ => some k
  | _ => none

/-- The stroke of another mark crosses the column of the `k`-th mark on a row. -/
def Crosses (k : Nat) (strip : Strip) : Prop := ∃ j, strip.stroke? = some j ∧ j ≠ k ∧ drawing.column k strip = '_'

/-- The row on which a mark opens: that of its first line if it opens there with `/`, and one of its own otherwise. -/
def opener (k : Nat) (mark : PlacedMark) : Strip :=
  if drawing.opensWithSlash mark then .source mark.startLine else .opening mark.startLine k mark

/-- The column of the `k`-th mark shows where the mark is open. There is one row that opens it, and then one that
closes it. On all rows between them the column has a bar, or the stroke of another mark crosses it. On all others it
is blank, or the stroke of another mark crosses it. Rows for lines that are left out have no gutter. -/
def IsUnbroken (k : Nat) (mark : PlacedMark) : Prop :=
  ∃ above between below,
    drawing.strips = above ++ drawing.opener k mark :: (between ++ .closing mark.endLine k mark :: below) ∧
    (∀ strip ∈ above ++ between ++ below, strip ≠ drawing.opener k mark ∧ strip ≠ .closing mark.endLine k mark) ∧
    (∀ strip ∈ between, strip ≠ .gap → drawing.column k strip = '|' ∨ drawing.Crosses k strip) ∧
    ∀ strip ∈ above ++ below, strip ≠ .gap → drawing.column k strip = ' ' ∨ drawing.Crosses k strip

/-- A mark opens on a row of its own below its first line, and a later one does so below the same line. -/
def IsOvertaken (k : Nat) (mark : PlacedMark) : Prop :=
  drawing.opensWithSlash mark = false ∧ ∃ j other, k < j ∧ drawing.gutterMarks[j]? = some other ∧
    other.startLine = mark.startLine ∧ drawing.opensWithSlash other = false

variable {drawing} {k line : Nat} {mark : PlacedMark} {strip : Strip}

/-- The text of a row comes three places behind the field for the number. -/
theorem getElem?_behind_bar {field : List Char} {width : Nat} (hwidth : field.length = width) (text : List Char) :
    (field ++ ' ' :: '|' :: ' ' :: text)[width + 3 + k]? = text[k]? := by
  rw [List.getElem?_append_right (by omega), show width + 3 + k - field.length = k + 3 by omega]
  rfl

theorem getD_unnumbered {text : List Char} {c : Char} (h : text[k]? = some c) (hc : isBlank c → c = ' ') :
    (drawing.unnumbered text).toList[drawing.width + 3 + k]?.getD ' ' = c := by
  rw [unnumbered, String.toList_ofList]
  exact getD_trimEndChars ((getElem?_behind_bar drawing.length_padding text).trans h) hc

/-- On the row with the text of a line, the column shows whether the mark opens there or is open. -/
theorem column_source (hmark : drawing.gutterMarks[k]? = some mark) : drawing.column k (.source line) =
    if line = mark.startLine then if drawing.opensWithSlash mark then '/' else ' '
    else if mark.startLine < line ∧ line ≤ mark.endLine then '|'
    else ' ' := by
  have hgutter : (drawing.sourceGutter line)[k]? = some (
      if line = mark.startLine then if drawing.opensWithSlash mark then '/' else ' '
      else if mark.startLine < line ∧ line ≤ mark.endLine then '|'
      else ' ') := by
    rw [sourceGutter, List.getElem?_map, hmark, Option.map_some]
  have hlt := (List.getElem?_eq_some_iff.mp hgutter).1
  have hblank : ∀ c, (drawing.sourceGutter line)[k]? = some c → isBlank c → c = ' ' := by
    intro c hc hblank
    rw [hgutter] at hc
    obtain rfl := Option.some.inj hc
    split_ifs at hblank ⊢ <;> first | rfl | exact absurd hblank (by decide)
  rw [column, text, sourceRow, fieldWidth, String.toList_ofList,
    if_neg (List.ne_nil_of_length_pos (Nat.zero_lt_of_lt hlt))]
  have hrow := fun text : List Char => (getElem?_behind_bar (k := k) (length_numbered drawing line)
    (drawing.sourceGutter line ++ ' ' :: text)).trans ((List.getElem?_append_left hlt).trans hgutter)
  -- only the row of an empty line is without the blanks at its end
  by_cases htext : drawing.chars line = []
  · rw [if_pos htext]
    exact getD_trimEndChars (hrow _) (hblank _ hgutter)
  · rw [if_neg htext, hrow, Option.getD_some]

/-! ### Marker rows -/

theorem getElem?_markerGutter (hmark : drawing.gutterMarks[k]? = some mark) (line closed : Nat) :
    (drawing.markerGutter line closed)[k]? = some (if mark.startLine ≤ line ∧ line ≤ mark.endLine ∧
      ¬(k < closed ∧ mark.endLine = line) ∧
      (line = mark.startLine → drawing.opensWithSlash mark) then '|' else ' ') := by
  rw [markerGutter, List.getElem?_mapIdx, hmark, Option.map_some]

theorem eq_space_of_isBlank {p : Prop} [Decidable p] (h : isBlank (if p then '|' else ' ')) :
    (if p then '|' else ' ') = ' ' := by
  split_ifs at h ⊢
  · exact absurd h (by decide)
  · rfl

/-- A stroke leaves the columns in front of its own as they are and crosses those behind. -/
theorem getElem?_strokeTo_of_lt {gutter : List Char} {j : Nat} (hlt : k < j) (hk : k < gutter.length) (own : Char)
    (column : Nat) (rest : List Char) : (strokeTo gutter j own column ++ rest)[k]? = gutter[k]? := by
  have htake : k < (gutter.take j).length := by rw [List.length_take]; omega
  rw [strokeTo, List.append_assoc, List.getElem?_append_left htake, List.getElem?_take_of_lt hlt]

theorem getElem?_strokeTo_of_gt {gutter : List Char} {j : Nat} (hlt : j < k) (hk : k < gutter.length) (own : Char)
    (column : Nat) (rest : List Char) : (strokeTo gutter j own column ++ rest)[k]? = some '_' := by
  have hlength : (gutter.take j).length = j := by rw [List.length_take]; omega
  rw [strokeTo, List.append_assoc, List.getElem?_append_right (by omega), hlength, List.cons_append,
    show k - j = k - j - 1 + 1 by omega, List.getElem?_cons_succ, List.getElem?_append_left (by
      rw [List.length_replicate]; omega), List.getElem?_replicate, if_pos (by omega)]

/-- A marker row that has the gutter in a column shows there whether the mark is open. -/
theorem getD_markerRow (hmark : drawing.gutterMarks[k]? = some mark) {closed : Nat} {text : List Char}
    (h : text[k]? = (drawing.markerGutter line closed)[k]?) :
    (drawing.unnumbered text).toList[drawing.width + 3 + k]?.getD ' ' = if mark.startLine ≤ line ∧
      line ≤ mark.endLine ∧ ¬(k < closed ∧ mark.endLine = line) ∧
      (line = mark.startLine → drawing.opensWithSlash mark) then '|' else ' ' :=
  getD_unnumbered (h.trans (getElem?_markerGutter hmark line closed)) eq_space_of_isBlank

theorem lt_length_markerGutter (hmark : drawing.gutterMarks[k]? = some mark) (line closed : Nat) :
    k < (drawing.markerGutter line closed).length := by
  rw [length_markerGutter]
  exact lt_of_gutterMarks hmark

theorem column_inline (hmark : drawing.gutterMarks[k]? = some mark) (other : PlacedMark) :
    drawing.column k (.inline line other) = if mark.startLine ≤ line ∧ line ≤ mark.endLine ∧
      (line = mark.startLine → drawing.opensWithSlash mark) then '|' else ' ' := by
  have hlt := lt_length_markerGutter hmark line 0
  have hrow := fun rest => getD_markerRow hmark (@List.getElem?_append_left _ (drawing.markerGutter line 0) rest k hlt)
  simp only [Nat.not_lt_zero, false_and, not_false_eq_true, true_and] at hrow
  rw [column, text, inlineRow, if_neg (List.ne_nil_of_length_pos (Nat.zero_lt_of_lt hlt)), List.append_assoc,
    List.append_assoc, List.append_assoc]
  exact hrow _

theorem column_opening (hmark : drawing.gutterMarks[k]? = some mark) {j : Nat} (hlt : k < j) (other : PlacedMark) :
    drawing.column k (.opening line j other) = if mark.startLine ≤ line ∧ line ≤ mark.endLine ∧
      (line = mark.startLine → drawing.opensWithSlash mark) then '|' else ' ' := by
  have hrow := getD_markerRow hmark (getElem?_strokeTo_of_lt hlt (lt_length_markerGutter hmark line 0) ' '
    other.startColumn [other.stroke])
  simp only [Nat.not_lt_zero, false_and, not_false_eq_true, true_and] at hrow
  exact hrow

theorem column_closing (hmark : drawing.gutterMarks[k]? = some mark) {j : Nat} (hlt : k < j) (other : PlacedMark) :
    drawing.column k (.closing line j other) = if mark.startLine ≤ line ∧ line ≤ mark.endLine ∧
      mark.endLine ≠ line ∧ (line = mark.startLine → drawing.opensWithSlash mark) then '|' else ' ' := by
  have hrow := getD_markerRow hmark (getElem?_strokeTo_of_lt hlt (lt_length_markerGutter hmark line j) '|'
    (other.endColumn - 1) (other.stroke :: other.tail))
  simp only [hlt, true_and] at hrow
  exact hrow

/-- The strokes of the marks in front cross the column. -/
theorem crosses_of_lt (hmark : drawing.gutterMarks[k]? = some mark) {j : Nat} (hlt : j < k) (other : PlacedMark) :
    drawing.Crosses k (.opening line j other) ∧ drawing.Crosses k (.closing line j other) := by
  have hk := lt_length_markerGutter hmark line
  exact ⟨⟨j, rfl, Nat.ne_of_lt hlt, getD_unnumbered (getElem?_strokeTo_of_gt hlt (hk _) _ _ _) (by decide)⟩,
    ⟨j, rfl, Nat.ne_of_lt hlt, getD_unnumbered (getElem?_strokeTo_of_gt hlt (hk _) _ _ _) (by decide)⟩⟩

/-! ### Rows above, between and below -/

theorem startLine_lt_endLine (hout : drawing.IsLaidOut) (hmark : drawing.gutterMarks[k]? = some mark) :
    mark.startLine < mark.endLine := by
  have hmulti := isMultiline_of_gutterMarks hmark
  rw [PlacedMark.isMultiline, decide_eq_true_eq] at hmulti
  exact Nat.lt_of_le_of_ne (hout.startLine_le mark (mem_of_gutterMarks hmark)) hmulti.symm

theorem startLine_mono (hout : drawing.IsLaidOut) (hmark : drawing.gutterMarks[k]? = some mark) {j : Nat}
    {other : PlacedMark} (hother : drawing.gutterMarks[j]? = some other) (hlt : k < j) :
    mark.startLine ≤ other.startLine := by
  obtain ⟨hk, rfl⟩ := List.getElem?_eq_some_iff.mp hmark
  obtain ⟨hj, rfl⟩ := List.getElem?_eq_some_iff.mp hother
  exact List.pairwise_iff_getElem.mp (hout.ordered.filter _) k j hk hj hlt

theorem gutterMarks_inj (hmark : drawing.gutterMarks[k]? = some mark) {other : PlacedMark}
    (hother : drawing.gutterMarks[k]? = some other) : other = mark :=
  Option.some.inj (hother.symm.trans hmark)

/-- The column of a mark has a bar on a row, unless the stroke of another mark crosses it. -/
def HasBar (drawing : Drawing) (mark : PlacedMark) : Strip → Prop
  | .gap => False
  | .source line => mark.startLine < line ∧ line ≤ mark.endLine
  | .inline line _ | .opening line _ _ =>
    mark.startLine ≤ line ∧ line ≤ mark.endLine ∧ (line = mark.startLine → drawing.opensWithSlash mark)
  | .closing line _ _ =>
    mark.startLine ≤ line ∧ line < mark.endLine ∧ (line = mark.startLine → drawing.opensWithSlash mark)

/-- On a row that neither opens nor closes a mark, either the stroke of a mark in front crosses the column, or the
column has a bar or is blank. -/
theorem column_cases (hmark : drawing.gutterMarks[k]? = some mark) (h : drawing.Holds line strip)
    (hopener : strip ≠ drawing.opener k mark) (hcloser : strip ≠ .closing mark.endLine k mark) :
    drawing.Crosses k strip ∨ (∀ j, strip.stroke? = some j → k < j) ∧
      (drawing.HasBar mark strip → drawing.column k strip = '|') ∧
      (¬drawing.HasBar mark strip → drawing.column k strip = ' ') := by
  cases h with
  | source =>
    refine .inr ⟨nofun, ?_⟩
    rw [column_source hmark, HasBar]
    rcases eq_or_ne line mark.startLine with rfl | hline
    · rw [opener] at hopener
      rw [if_pos rfl]
      split_ifs at hopener ⊢
      · exact absurd rfl hopener
      · exact ⟨fun hbar => absurd hbar.1 (Nat.lt_irrefl _), fun _ => rfl⟩
    · rw [if_neg hline]
      exact ⟨fun hbar => if_pos hbar, fun hbar => if_neg hbar⟩
  | inline =>
    refine .inr ⟨nofun, ?_⟩
    rw [column_inline hmark, HasBar]
    exact ⟨fun hbar => if_pos hbar, fun hbar => if_neg hbar⟩
  | @opening j other hother hline hslash =>
    -- strokes go to the right: that of a mark in front crosses the column, that of a later one does not
    rcases Nat.lt_trichotomy j k with hlt | rfl | hlt
    · exact .inl (crosses_of_lt hmark hlt other).1
    · obtain rfl := gutterMarks_inj hmark hother
      rw [opener, hslash, hline] at hopener
      exact absurd rfl hopener
    · refine .inr ⟨fun i hi => Option.some.inj hi ▸ hlt, ?_⟩
      rw [column_opening hmark hlt, HasBar]
      exact ⟨fun hbar => if_pos hbar, fun hbar => if_neg hbar⟩
  | @closing j other hother hline =>
    rcases Nat.lt_trichotomy j k with hlt | rfl | hlt
    · exact .inl (crosses_of_lt hmark hlt other).2
    · obtain rfl := gutterMarks_inj hmark hother
      rw [hline] at hcloser
      exact absurd rfl hcloser
    · refine .inr ⟨fun i hi => Option.some.inj hi ▸ hlt, ?_⟩
      rw [column_closing hmark hlt, HasBar]
      exact ⟨fun hbar => if_pos ⟨hbar.1, Nat.le_of_lt hbar.2.1, Nat.ne_of_gt hbar.2.1, hbar.2.2⟩,
        fun hbar => if_neg fun hall => hbar ⟨hall.1, Nat.lt_of_le_of_ne hall.2.1 hall.2.2.1.symm, hall.2.2.2⟩⟩

theorem Strip.Before.of_places {first second : Strip} {line rank j line' rank' j' : Nat} (h : first.Before second)
    (hfirst : first.place? = some (line, rank, j)) (hsecond : second.place? = some (line', rank', j')) :
    line < line' ∨ line = line' ∧ (rank < rank' ∨ rank = rank' ∧ (rank = 1 ∨ j < j')) := h _ hfirst _ hsecond

/-- What comes before a strip, by the place of that strip. -/
theorem Strip.Before.place_left {line rank j : Nat} {other : Strip} (h : strip.Before other)
    (hother : other.place? = some (line, rank, j)) : ∀ a ∈ strip.place?,
      a.1 < line ∨ a.1 = line ∧ (a.2.1 < rank ∨ a.2.1 = rank ∧ (a.2.1 = 1 ∨ a.2.2 < j)) :=
  fun a ha => h a ha _ hother

theorem Strip.Before.place_right {line rank j : Nat} {other : Strip} (h : other.Before strip)
    (hother : other.place? = some (line, rank, j)) : ∀ a ∈ strip.place?,
      line < a.1 ∨ line = a.1 ∧ (rank < a.2.1 ∨ rank = a.2.1 ∧ (rank = 1 ∨ j < a.2.2)) :=
  fun a ha => h _ hother a ha

theorem opener_place?_of_slash (k : Nat) (hslash : drawing.opensWithSlash mark) :
    (drawing.opener k mark).place? = some (mark.startLine, 0, 0) := by
  rw [opener, if_pos hslash]
  rfl

theorem opener_place?_of_not_slash (k : Nat) (hslash : ¬drawing.opensWithSlash mark) :
    (drawing.opener k mark).place? = some (mark.startLine, 2, k) := by
  rw [opener, if_neg hslash]
  rfl

/-- Above the row that opens a mark, its column has no bar. -/
theorem not_hasBar_above (hbefore : strip.Before (drawing.opener k mark)) : ¬drawing.HasBar mark strip := by
  intro hbar
  -- the place of the opener bounds the line of the strip by that on which the mark starts
  by_cases hslash : drawing.opensWithSlash mark
  · have hplace := hbefore.place_left (opener_place?_of_slash k hslash)
    cases strip <;> simp_all [HasBar, Strip.place?] <;> omega
  · have hplace := hbefore.place_left (opener_place?_of_not_slash k hslash)
    cases strip <;> simp_all [HasBar, Strip.place?] <;> omega

/-- Below the row that closes a mark, its column has no bar. -/
theorem not_hasBar_below (hafter : (Strip.closing mark.endLine k mark).Before strip) : ¬drawing.HasBar mark strip := by
  intro hbar
  have hplace := hafter.place_right rfl
  cases strip <;> simp_all [HasBar, Strip.place?] <;> omega

/-- Between the row that opens a mark and the row that closes it, its column has a bar, if the mark is not
overtaken. -/
theorem hasBar_between (hout : drawing.IsLaidOut) (hmark : drawing.gutterMarks[k]? = some mark)
    (hfree : ¬drawing.IsOvertaken k mark) (h : drawing.Holds line strip)
    (hafter : (drawing.opener k mark).Before strip) (hbefore : strip.Before (.closing mark.endLine k mark))
    (hlater : ∀ j, strip.stroke? = some j → k < j) : drawing.HasBar mark strip := by
  have hlt := startLine_lt_endLine hout hmark
  have hlower := hbefore.place_left rfl
  by_cases hslash : drawing.opensWithSlash mark
  · have hupper := hafter.place_right (opener_place?_of_slash k hslash)
    cases h <;> simp_all [HasBar, Strip.place?, Strip.stroke?] <;> omega
  · have hupper := hafter.place_right (opener_place?_of_not_slash k hslash)
    cases h with
    | source | inline =>
      simp_all [HasBar, Strip.place?]
      omega
    | @opening j other hother hline hopens =>
      -- a later mark that opened below the same line would overtake this one
      have hne : line ≠ mark.startLine := fun heq =>
        hfree ⟨by simpa using hslash, j, other, hlater j rfl, hother, hline.trans heq, hopens⟩
      simp_all [HasBar, Strip.place?]
      omega
    | @closing j other hother hline =>
      -- a later mark does not end where this one starts
      have hle := startLine_mono hout hmark hother (hlater j rfl)
      have hother := startLine_lt_endLine hout hother
      simp_all [HasBar, Strip.place?, Strip.stroke?]
      omega

/-! ### The column of a mark -/

/-- The rows that open and close a mark are there. -/
theorem opener_mem_strips (hout : drawing.IsLaidOut) (hmark : drawing.gutterMarks[k]? = some mark) :
    drawing.opener k mark ∈ drawing.strips := by
  refine hout.mem_strips_of_start (mem_of_gutterMarks hmark) ?_
  rw [opener]
  split_ifs with hslash
  · exact .source
  · exact .opening hmark rfl (by simpa using hslash)

theorem closing_mem_strips (hout : drawing.IsLaidOut) (hmark : drawing.gutterMarks[k]? = some mark) :
    Strip.closing mark.endLine k mark ∈ drawing.strips :=
  hout.mem_strips_of_end (mem_of_gutterMarks hmark) (.closing hmark rfl)

/-- Rows that open or close marks, or show lines, do not come twice. -/
theorem Strip.not_before_self {line rank j : Nat} (hplace : strip.place? = some (line, rank, j)) (hrank : rank ≠ 1) :
    ¬strip.Before strip := by
  intro h
  have := h.of_places hplace hplace
  omega

theorem opener_not_before_self (k : Nat) (mark : PlacedMark) :
    ¬(drawing.opener k mark).Before (drawing.opener k mark) := by
  by_cases hslash : drawing.opensWithSlash mark
  · exact Strip.not_before_self (opener_place?_of_slash k hslash) (by decide)
  · exact Strip.not_before_self (opener_place?_of_not_slash k hslash) (by decide)

theorem closing_ne_opener (k : Nat) (mark : PlacedMark) :
    Strip.closing mark.endLine k mark ≠ drawing.opener k mark := by
  rw [opener]
  split_ifs <;> simp

theorem closing_not_before_opener (hlt : mark.startLine < mark.endLine) :
    ¬(Strip.closing mark.endLine k mark).Before (drawing.opener k mark) := by
  intro h
  by_cases hslash : drawing.opensWithSlash mark
  · have := h.of_places rfl (opener_place?_of_slash k hslash)
    omega
  · have := h.of_places rfl (opener_place?_of_not_slash k hslash)
    omega

/-- The order around two items of a list. -/
theorem pairwise_around {α : Type} {R : α → α → Prop} {above between below : List α} {first second : α}
    (h : (above ++ first :: (between ++ second :: below)).Pairwise R) :
    (∀ x ∈ above, R x first ∧ R x second) ∧ (∀ x ∈ between, R first x ∧ R x second) ∧
      ∀ x ∈ below, R first x ∧ R second x := by
  obtain ⟨-, htail, habove⟩ := List.pairwise_append.mp h
  obtain ⟨hfirst, hrest⟩ := List.pairwise_cons.mp htail
  obtain ⟨-, hsecond, hbetween⟩ := List.pairwise_append.mp hrest
  have hmem : second ∈ between ++ second :: below := List.mem_append_right _ List.mem_cons_self
  exact ⟨fun x hx => ⟨habove x hx _ List.mem_cons_self, habove x hx _ (List.mem_cons_of_mem _ hmem)⟩,
    fun x hx => ⟨hfirst x (List.mem_append_left _ hx), hbetween x hx _ List.mem_cons_self⟩,
    fun x hx => ⟨hfirst x (List.mem_append_right _ (List.mem_cons_of_mem _ hx)),
      (List.pairwise_cons.mp hsecond).1 x hx⟩⟩

section Around

variable {above between below : List Strip}

/-- The row that closes a mark is behind the one that opens it. -/
theorem exists_around (hout : drawing.IsLaidOut) (hmark : drawing.gutterMarks[k]? = some mark) :
    ∃ above between below,
      drawing.strips = above ++ drawing.opener k mark :: (between ++ .closing mark.endLine k mark :: below) := by
  have hcloser := closing_mem_strips hout hmark
  have hordered := drawing.pairwise_strips
  obtain ⟨above, rest, hstrips⟩ := List.append_of_mem (opener_mem_strips hout hmark)
  rw [hstrips] at hcloser hordered
  -- above the opener, the closing row would be out of order
  rcases List.mem_append.mp hcloser with habove | htail
  · exact absurd ((List.pairwise_append.mp hordered).2.2 _ habove _ List.mem_cons_self)
      (closing_not_before_opener (startLine_lt_endLine hout hmark))
  · obtain ⟨between, below, rfl⟩ :=
      List.append_of_mem ((List.mem_cons.mp htail).resolve_left (closing_ne_opener k mark))
    exact ⟨above, between, below, hstrips⟩

/-- No other row opens or closes the mark. -/
theorem ne_of_around
    (hstrips : drawing.strips = above ++ drawing.opener k mark :: (between ++ .closing mark.endLine k mark :: below)) :
    ∀ strip ∈ above ++ between ++ below, strip ≠ drawing.opener k mark ∧ strip ≠ .closing mark.endLine k mark := by
  have hordered := drawing.pairwise_strips
  rw [hstrips] at hordered
  obtain ⟨habove, hbetween, hbelow⟩ := pairwise_around hordered
  -- the rows are in strict order, so a row that occurs twice would come before itself
  have hopen : ¬(drawing.opener k mark).Before (drawing.opener k mark) := opener_not_before_self k mark
  have hclose : ¬(Strip.closing mark.endLine k mark).Before (.closing mark.endLine k mark) :=
    Strip.not_before_self rfl (by decide)
  intro strip hstrip
  simp only [List.mem_append] at hstrip
  constructor
  · rintro rfl
    rcases hstrip with (hstrip | hstrip) | hstrip
    · exact hopen (habove _ hstrip).1
    · exact hopen (hbetween _ hstrip).1
    · exact hopen (hbelow _ hstrip).1
  · rintro rfl
    rcases hstrip with (hstrip | hstrip) | hstrip
    · exact hclose (habove _ hstrip).2
    · exact hclose (hbetween _ hstrip).2
    · exact hclose (hbelow _ hstrip).2

/-- The rows around those that open and close a mark are rows of lines. -/
theorem exists_holds_of_around
    (hstrips : drawing.strips = above ++ drawing.opener k mark :: (between ++ .closing mark.endLine k mark :: below))
    (hstrip : strip ∈ above ++ between ++ below) (hgap : strip ≠ .gap) : ∃ line, drawing.Holds line strip := by
  have hmem : strip ∈ drawing.strips := by
    rw [hstrips]
    simp only [List.mem_append, List.mem_cons] at hstrip ⊢
    tauto
  obtain ⟨line, -, -, hholds⟩ := (mem_strips hgap).mp hmem
  exact ⟨line, hholds⟩

end Around

/-- If a mark is not overtaken, its column has a bar where it is open, and is blank elsewhere, but for crossings. -/
theorem isUnbroken_of_not_isOvertaken (hout : drawing.IsLaidOut) (hmark : drawing.gutterMarks[k]? = some mark)
    (hfree : ¬drawing.IsOvertaken k mark) : drawing.IsUnbroken k mark := by
  obtain ⟨above, between, below, hstrips⟩ := exists_around hout hmark
  have hordered := drawing.pairwise_strips
  rw [hstrips] at hordered
  obtain ⟨habove, hbetween, hbelow⟩ := pairwise_around hordered
  -- a row between the two that open and close the mark shows the bar, one above or below shows a blank
  have hother := ne_of_around hstrips
  refine ⟨above, between, below, hstrips, hother, fun strip hstrip hgap => ?_, fun strip hstrip hgap => ?_⟩
  · have hmem : strip ∈ above ++ between ++ below := by simp [hstrip]
    obtain ⟨line, hholds⟩ := exists_holds_of_around hstrips hmem hgap
    rcases column_cases hmark hholds (hother strip hmem).1 (hother strip hmem).2 with hcross | ⟨hlater, hbar, -⟩
    · exact .inr hcross
    · exact .inl (hbar (hasBar_between hout hmark hfree hholds (hbetween _ hstrip).1 (hbetween _ hstrip).2 hlater))
  · have hmem : strip ∈ above ++ between ++ below := by
      rcases List.mem_append.mp hstrip with hstrip | hstrip <;> simp [hstrip]
    obtain ⟨line, hholds⟩ := exists_holds_of_around hstrips hmem hgap
    rcases column_cases hmark hholds (hother strip hmem).1 (hother strip hmem).2 with hcross | ⟨-, -, hblank⟩
    · exact .inr hcross
    · refine .inl (hblank ?_)
      rcases List.mem_append.mp hstrip with hstrip | hstrip
      · exact not_hasBar_above (habove _ hstrip).1
      · exact not_hasBar_below (hbelow _ hstrip).2

/-- On the row that opens a later mark below the same line, the column of a mark is blank. -/
theorem IsUnbroken.not_isOvertaken (hout : drawing.IsLaidOut) (hmark : drawing.gutterMarks[k]? = some mark)
    (h : drawing.IsUnbroken k mark) : ¬drawing.IsOvertaken k mark := by
  rintro ⟨hslash, j, other, hlt, hother, hstart, hopens⟩
  obtain ⟨above, between, below, hstrips, -, hshows, -⟩ := h
  have hordered := drawing.pairwise_strips
  rw [hstrips] at hordered
  obtain ⟨habove, -, hbelow⟩ := pairwise_around hordered
  have hplace := opener_place?_of_not_slash k (by simpa using hslash)
  -- the row that opens the later mark is between those that open and close this one
  have hmem : Strip.opening mark.startLine j other ∈ between := by
    have hmem : Strip.opening mark.startLine j other ∈ drawing.strips :=
      hout.mem_strips_of_start (mem_of_gutterMarks hmark) (.opening hother hstart hopens)
    rw [hstrips, opener, hslash] at hmem
    simp only [List.mem_append, List.mem_cons] at hmem
    rcases hmem with hmem | heq | hmem | heq | hmem
    · have := (habove _ hmem).1.of_places rfl hplace
      omega
    · simp at heq
      omega
    · exact hmem
    · cases heq
    · have := (hbelow _ hmem).2.of_places rfl rfl
      have := startLine_lt_endLine hout hmark
      omega
  have hblank : drawing.column k (.opening mark.startLine j other) = ' ' := by
    rw [column_opening hmark hlt, if_neg]
    simp [hslash]
  rcases hshows _ hmem (by simp) with hbar | ⟨_, -, -, hcross⟩
  · rw [hblank] at hbar
    cases hbar
  · rw [hblank] at hcross
    cases hcross

/-- The column of a mark over several lines is unbroken in the drawing of an excerpt if and only if the mark is not
overtaken. -/
theorem unbroken_iff (excerpt : Excerpt) (width : Nat) (default : Severity) {k : Nat} {mark : PlacedMark}
    (hmark : (ofExcerpt excerpt width default).gutterMarks[k]? = some mark) :
    let drawing := ofExcerpt excerpt width default
    drawing.lineRows = drawing.strips.map drawing.text ∧ (drawing.IsUnbroken k mark ↔ ¬drawing.IsOvertaken k mark) := by
  have hout := isLaidOut_ofExcerpt excerpt width default
  exact ⟨lineRows_eq _ rows_pos, fun h => h.not_isOvertaken hout hmark, isUnbroken_of_not_isOvertaken hout hmark⟩

/-- A mark that opens on a row of its own, across which the column of another mark goes, and whose column the stroke
that closes that mark crosses. -/
theorem unbroken_iff_crossed :
    let drawing := ofExcerpt
      { lineStart := 1, source := "a\nbc\nd\ne", marks := [⟨⟨0, 6⟩, "x", none⟩, ⟨⟨3, 8⟩, "", none⟩] } 1 .error
    drawing.lineRows = ["1 | /  a", "2 | |  bc", "  | | __^", "3 | || d", "  | |__^ x", "4 |  | e", "  |  |_^"] ∧
    ∃ mark, drawing.gutterMarks[1]? = some mark ∧ drawing.opensWithSlash mark = false ∧ drawing.IsUnbroken 1 mark := by
  intro drawing
  have hdrawing : drawing = _ := ofExcerpt_of_pairwise (by decide +kernel)
  have hlength : drawing.gutterMarks.length = 2 := by rw [hdrawing]; decide +kernel
  have hsecond : (drawing.gutterMarks[1]?.map drawing.opensWithSlash) = some false := by rw [hdrawing]; decide +kernel
  obtain ⟨mark, hmark, hslash⟩ := Option.map_eq_some_iff.mp hsecond
  refine ⟨by rw [hdrawing]; decide +kernel, mark, hmark, hslash, ?_⟩
  refine (unbroken_iff _ _ _ hmark).2.mpr ?_
  rintro ⟨-, j, other, hlt, hother, -⟩
  have hj : j < drawing.gutterMarks.length := lt_of_gutterMarks hother
  omega

/-- Of two marks that open below one line, the first has a blank in its column on the row that opens the second. -/
theorem not_unbroken_overtaken :
    let drawing := ofExcerpt
      { lineStart := 1, source := "abc\nd", marks := [⟨⟨1, 5⟩, "", none⟩, ⟨⟨2, 5⟩, "", none⟩] } 1 .error
    drawing.lineRows = ["1 |    abc", "  |  ___^", "  |   ___^", "2 | || d", "  | |__^", "  |  |_^"] ∧
    ∃ mark, drawing.gutterMarks[0]? = some mark ∧ ¬drawing.IsUnbroken 0 mark := by
  intro drawing
  have hdrawing : drawing = _ := ofExcerpt_of_pairwise (by decide +kernel)
  have hmarks : drawing.gutterMarks.map (fun mark => (mark.startLine, drawing.opensWithSlash mark)) =
      [(0, false), (0, false)] := by rw [hdrawing]; decide +kernel
  obtain ⟨first, rest, hcons, hfirst, hrest⟩ := List.map_eq_cons_iff.mp hmarks
  obtain ⟨second, rest, rfl, hsecond, -⟩ := List.map_eq_cons_iff.mp hrest
  obtain ⟨⟨hstart, hslash⟩, hstart', hslash'⟩ := And.intro (Prod.mk.inj hfirst) (Prod.mk.inj hsecond)
  have hmark : drawing.gutterMarks[0]? = some first := by rw [hcons]; rfl
  refine ⟨by rw [hdrawing]; decide +kernel, first, hmark, fun h => ?_⟩
  exact h.not_isOvertaken (isLaidOut_ofExcerpt _ _ _) hmark
    ⟨hslash, 1, second, Nat.zero_lt_one, by rw [hcons]; rfl, hstart'.trans hstart.symm, hslash'⟩

end Drawing

end ProposalCheck
