import ProposalCheck.Proofs.Diagnostic.Locate
import ProposalCheck.Proofs.Document.Items

/-!
# Marks stand under what they mark

On all rows of an excerpt the text starts at one place, behind the line numbers, which never need more room than there
is, and the gutter. A mark that stays on its line has strokes under the characters that it covers; a mark over several
lines has one under the first and one under the last of them.

## Main definitions

* `Mark.Splits`: the text in front of a mark, what it covers, and the text behind it
* `StrokesAt`: a row has strokes at a place
* `Drawing.IsAligned`: the lines of a drawing start at one place
* `Drawing.Underlines`: the strokes of a mark stand under what it covers

## Main results

* `Drawing.isAligned`: line numbers that have room enough keep the lines aligned
* `Drawing.underlines_of_splits`: every mark stands under what it covers
* `Snippet.marks_stand_under`: both hold for all excerpts of a finding
-/

namespace ProposalCheck

/-! ### What a mark covers -/

/-- The text of an excerpt in front of a mark, what the mark covers, at least in part, and the text behind it. -/
structure Mark.Splits (mark : Mark) (source : String) (before covered after : List Char) : Prop where
  source_eq : source.toList = before ++ (covered ++ after)
  start_le : byteLength before ≤ mark.range.start
  start_lt : ∀ c ∈ covered.head?, mark.range.start < byteLength before + c.utf8Size
  stop_eq : byteLength before + byteLength covered = mark.range.stop

/-- By an offset there end the characters before that in which the offset lies. -/
theorem textBefore_eq {before rest : List Char} {offset : Nat} (hle : byteLength before ≤ offset)
    (hlt : ∀ c ∈ rest.head?, offset < byteLength before + c.utf8Size) :
    textBefore (before ++ rest) offset = before := by
  obtain ⟨d, rfl⟩ := Nat.exists_eq_add_of_le hle
  rw [textBefore_add]
  cases rest with
  | nil => rw [textBefore, List.take_nil, List.append_nil]
  | cons c rest =>
    have hd := hlt c rfl
    rw [textBefore, charsWithin, if_pos (by omega), List.take_zero, List.append_nil]

/-- The character in which an offset lies comes next. -/
theorem textBefore_spec (cs : List Char) (offset : Nat) : byteLength (textBefore cs offset) ≤ offset ∧
    ∀ c ∈ (cs.drop (textBefore cs offset).length).head?, offset < byteLength (textBefore cs offset) + c.utf8Size := by
  induction cs generalizing offset with
  | nil => exact ⟨Nat.zero_le _, by simp⟩
  | cons d cs ih =>
    by_cases hlt : offset < d.utf8Size
    · rw [textBefore, charsWithin, if_pos hlt, List.take_zero]
      exact ⟨Nat.zero_le _, fun c hc => by obtain rfl := Option.some.inj hc; simpa [byteLength] using hlt⟩
    · have hcons : textBefore (d :: cs) offset = d :: textBefore cs (offset - d.utf8Size) := by
        rw [textBefore, charsWithin, if_neg hlt, List.take_succ_cons]
        rfl
      obtain ⟨hle, hnext⟩ := ih (offset - d.utf8Size)
      rw [hcons, byteLength, List.length_cons, List.drop_succ_cons]
      refine ⟨by omega, fun c hc => ?_⟩
      have := hnext c hc
      omega

/-- A mark that ends between characters splits the text. -/
theorem Mark.exists_splits {mark : Mark} {source : String} (hstop : IsBoundary source.toList mark.range.stop) :
    ∃ before covered after, mark.Splits source before covered after := by
  obtain ⟨front, after, hsource, hfront⟩ := hstop
  -- of what ends with the mark, the characters that end by its start are in front of it
  have hsplit : front = textBefore front mark.range.start ++ front.drop (textBefore front mark.range.start).length := by
    conv_lhs => rw [← List.take_append_drop (textBefore front mark.range.start).length front]
    rw [length_textBefore, ← textBefore]
  obtain ⟨hstart, hnext⟩ := textBefore_spec front mark.range.start
  refine ⟨_, _, after, ?_, hstart, hnext, ?_⟩
  · rw [← List.append_assoc, ← hsplit, hsource]
  · rw [← byteLength_append, ← hsplit, hfront]

namespace Mark.Splits

variable {mark : Mark} {source : String} {before covered after : List Char} {default : Severity}

theorem textBefore_start (h : mark.Splits source before covered after) (hle : mark.range.start ≤ mark.range.stop) :
    textBefore source.toList mark.range.start = before := by
  rw [h.source_eq]
  refine textBefore_eq h.start_le fun c hc => ?_
  cases covered with
  | nil => exact Nat.lt_of_le_of_lt (hle.trans_eq h.stop_eq.symm) (Nat.add_lt_add_left c.utf8Size_pos _)
  | cons d covered => exact h.start_lt c hc

/-- The last character that is covered holds the last byte. -/
theorem textBefore_stop (h : mark.Splits source before covered after) (hne : covered ≠ []) :
    mark.range.start < mark.range.stop ∧
      textBefore source.toList (mark.range.stop - 1) = before ++ covered.dropLast := by
  have hstop := h.stop_eq
  constructor
  · cases covered with
    | nil => exact absurd rfl hne
    | cons c covered =>
      have := h.start_lt c rfl
      rw [byteLength] at hstop
      omega
  · rw [← List.dropLast_append_getLast hne, byteLength_append, byteLength, byteLength] at hstop
    have hpos := (covered.getLast hne).utf8Size_pos
    -- the range ends behind the last character, which may be longer than one byte, so the byte before the end
    -- lies in it
    have hsource : source.toList = before ++ covered.dropLast ++ covered.getLast hne :: after := by
      rw [h.source_eq, List.append_assoc, ← List.singleton_append, ← List.append_assoc covered.dropLast,
        List.dropLast_append_getLast hne]
    rw [hsource]
    refine textBefore_eq (by rw [byteLength_append]; omega) fun c hc => ?_
    obtain rfl := Option.some.inj hc
    rw [byteLength_append]
    omega

theorem firstLine_eq (h : mark.Splits source before covered after) (hle : mark.range.start ≤ mark.range.stop) :
    mark.firstLine source = before.count '\n' := by
  rw [Mark.firstLine, h.textBefore_start hle]

theorem lastLine_eq (h : mark.Splits source before covered after) (hle : mark.range.start ≤ mark.range.stop) :
    mark.lastLine source = (before ++ covered.dropLast).count '\n' := by
  rw [Mark.lastLine, h.firstLine_eq hle]
  rcases eq_or_ne covered [] with rfl | hne
  · have hstop := h.stop_eq
    have hstart := h.start_le
    rw [byteLength] at hstop
    rw [if_neg (by omega), List.dropLast_nil, List.append_nil]
  · obtain ⟨hlt, hlast⟩ := h.textBefore_stop hne
    rw [if_pos hlt, hlast]

/-- A mark covers a line feed with more behind it if and only if it does not stay on its line. -/
theorem lastLine_ne_iff (h : mark.Splits source before covered after) (hle : mark.range.start ≤ mark.range.stop) :
    mark.lastLine source ≠ mark.firstLine source ↔ '\n' ∈ covered.dropLast := by
  rw [h.lastLine_eq hle, h.firstLine_eq hle, List.count_append, ← List.count_pos_iff]
  omega

theorem endColumn_place (h : mark.Splits source before covered after) (hne : covered ≠ []) :
    (PlacedMark.place (Row.ofChars 0 source.toList) default mark).endColumn =
      columnAfter (before ++ covered.dropLast) + 1 := by
  obtain ⟨hlt, hlast⟩ := h.textBefore_stop hne
  rw [PlacedMark.place, PlacedMark.locate_eq, PlacedMark.locate_eq, hlast]
  dsimp only
  rw [if_pos hlt]

end Mark.Splits

/-! ### Strokes -/

/-- A row has strokes on exactly `count` places from `place` on. -/
def StrokesAt (row : String) (stroke : Char) (place count : Nat) : Prop :=
  ∃ lead rest, row.toList = lead ++ (List.replicate count stroke ++ rest) ∧ lead.length = place ∧
    stroke ∉ lead ∧ rest.head? ≠ some stroke

namespace Drawing

variable {drawing : Drawing} {mark : PlacedMark} {line k : Nat}

/-- Where the text of the lines starts. -/
def textColumn (drawing : Drawing) : Nat :=
  drawing.width + 3 + if drawing.gutterMarks = [] then 0 else drawing.gutterMarks.length + 1

/-- What stands in front of the strokes of a mark is blank, a bar, or part of the stroke of the gutter. -/
def IsLead (lead : List Char) : Prop := ∀ c ∈ lead, c = ' ' ∨ c = '|' ∨ c = '_'

theorem stroke_not_mem {lead : List Char} (h : IsLead lead) (mark : PlacedMark) : mark.stroke ∉ lead := by
  intro hmem
  have hcases := h _ hmem
  rw [PlacedMark.stroke] at hcases
  split_ifs at hcases <;> revert hcases <;> decide

theorem isBlank_stroke (mark : PlacedMark) : isBlank mark.stroke = false := by
  rw [PlacedMark.stroke]
  split_ifs <;> decide

theorem head?_tail (mark : PlacedMark) : mark.tail.head? ≠ some mark.stroke := by
  rw [PlacedMark.tail, PlacedMark.stroke]
  split_ifs <;> simp

theorem strokesAt_unnumbered {lead rest : List Char} {count : Nat} (hlead : IsLead lead) (hcount : 0 < count)
    (hrest : rest.head? ≠ some mark.stroke) :
    StrokesAt (drawing.unnumbered (lead ++ (List.replicate count mark.stroke ++ rest))) mark.stroke
      (drawing.width + 3 + lead.length) count := by
  refine ⟨drawing.padding ++ ' ' :: '|' :: ' ' :: lead, trimEndChars rest, ?_, ?_, ?_, ?_⟩
  · -- the last stroke is no blank, so only what is behind it is trimmed
    obtain ⟨n, rfl⟩ : ∃ n, count = n + 1 := ⟨count - 1, by omega⟩
    have htrim := trimEndChars_append_cons (isBlank_stroke mark)
      (drawing.padding ++ ' ' :: '|' :: ' ' :: (lead ++ List.replicate n mark.stroke)) rest
    rw [unnumbered, String.toList_ofList, List.replicate_succ']
    simpa using htrim
  · simp only [List.length_append, List.length_cons, length_padding]
    omega
  · -- what comes before the strokes is blanks, the bar and the gutter, none of which is a stroke
    refine stroke_not_mem (fun c hc => ?_) mark
    simp only [List.mem_append, List.mem_cons, padding] at hc
    rcases hc with hc | rfl | rfl | rfl | hc
    · exact .inl (List.eq_of_mem_replicate hc)
    · exact .inl rfl
    · exact .inr (.inl rfl)
    · exact .inl rfl
    · exact hlead c hc
  · exact fun hhead => hrest (head?_trimEndChars hhead)

theorem isLead_markerGutter (line closed : Nat) : IsLead (drawing.markerGutter line closed) := by
  intro c hc
  obtain ⟨k, hk, rfl⟩ := List.mem_mapIdx.mp hc
  split_ifs
  · exact .inr (.inl rfl)
  · exact .inl rfl

theorem isLead_strokeTo {gutter : List Char} (h : IsLead gutter) {own : Char} (hown : own = ' ' ∨ own = '|')
    (k column : Nat) : IsLead (strokeTo gutter k own column) := by
  intro c hc
  rw [strokeTo, List.mem_append, List.mem_cons] at hc
  rcases hc with hc | rfl | hc
  · exact h c (List.mem_of_mem_take hc)
  · exact hown.imp_right .inl
  · exact .inr (.inr (List.eq_of_mem_replicate hc))

theorem length_strokeTo {gutter : List Char} {own : Char} (hk : k < gutter.length) (column : Nat) :
    (strokeTo gutter k own column).length = gutter.length + 1 + column := by
  rw [strokeTo, List.length_append, List.length_take, List.length_cons, List.length_replicate]
  omega

theorem textColumn_of_pos (hpos : 0 < drawing.gutterMarks.length) :
    drawing.textColumn = drawing.width + 3 + (drawing.gutterMarks.length + 1) := by
  rw [textColumn, if_neg (List.ne_nil_of_length_pos hpos)]

/-- A mark that stays on its line has its strokes behind the start of the text. -/
theorem strokesAt_inline (line : Nat) (mark : PlacedMark) : StrokesAt (drawing.text (.inline line mark)) mark.stroke
    (drawing.textColumn + mark.startColumn) (max 1 (mark.endColumn - mark.startColumn)) := by
  have hgutter : IsLead (drawing.markerGutter line 0) := isLead_markerGutter line 0
  have hlength : (drawing.markerGutter line 0).length = drawing.gutterMarks.length := drawing.length_markerGutter line 0
  obtain ⟨lead, hlead, hwidth, hrow⟩ : ∃ lead, IsLead lead ∧
      drawing.width + 3 + lead.length = drawing.textColumn + mark.startColumn ∧
      drawing.text (.inline line mark) = drawing.unnumbered
        (lead ++ (List.replicate (max 1 (mark.endColumn - mark.startColumn)) mark.stroke ++ mark.tail)) := by
    have hblanks : IsLead (List.replicate mark.startColumn ' ') := fun c hc => .inl (List.eq_of_mem_replicate hc)
    rw [text, inlineRow]
    -- only where some mark goes over lines does the gutter take room, and a blank behind it
    by_cases hnone : drawing.gutterMarks = []
    · rw [hnone, List.length_nil, List.length_eq_zero_iff] at hlength
      refine ⟨List.replicate mark.startColumn ' ', hblanks, ?_, ?_⟩
      · rw [textColumn, if_pos hnone, List.length_replicate, Nat.add_zero]
      · rw [if_pos hlength, List.nil_append, List.append_assoc]
    · refine ⟨drawing.markerGutter line 0 ++ ' ' :: List.replicate mark.startColumn ' ', fun c hc => ?_, ?_, ?_⟩
      · rcases List.mem_append.mp hc with hc | hc
        · exact hgutter c hc
        · exact (List.mem_cons.mp hc).elim .inl (hblanks c)
      · rw [textColumn, if_neg hnone, List.length_append, List.length_cons, List.length_replicate, hlength]
        omega
      · rw [if_neg (fun hnil => hnone (List.length_eq_zero_iff.mp (by rw [← hlength, hnil]; rfl)))]
        simp
  rw [hrow, ← hwidth]
  exact strokesAt_unnumbered hlead (by omega) (head?_tail mark)

theorem strokesAt_opening (hk : k < drawing.gutterMarks.length) :
    StrokesAt (drawing.text (.opening line k mark)) mark.stroke (drawing.textColumn + mark.startColumn) 1 := by
  have hlength : k < (drawing.markerGutter line 0).length := by rwa [length_markerGutter]
  have hlead : IsLead (strokeTo (drawing.markerGutter line 0) k ' ' mark.startColumn) :=
    isLead_strokeTo (isLead_markerGutter line 0) (.inl rfl) k _
  have hrow := @strokesAt_unnumbered drawing mark _ [] 1 hlead Nat.one_pos (by simp)
  rw [length_strokeTo hlength, length_markerGutter] at hrow
  rw [textColumn_of_pos (Nat.zero_lt_of_lt hk), Nat.add_assoc (drawing.width + 3)]
  exact hrow

theorem strokesAt_closing (hk : k < drawing.gutterMarks.length) :
    StrokesAt (drawing.text (.closing line k mark)) mark.stroke (drawing.textColumn + (mark.endColumn - 1)) 1 := by
  have hlength : k < (drawing.markerGutter line k).length := by rwa [length_markerGutter]
  have hlead : IsLead (strokeTo (drawing.markerGutter line k) k '|' (mark.endColumn - 1)) :=
    isLead_strokeTo (isLead_markerGutter line k) (.inr rfl) k _
  have hrow := @strokesAt_unnumbered drawing mark _ mark.tail 1 hlead Nat.one_pos (head?_tail mark)
  rw [length_strokeTo hlength, length_markerGutter] at hrow
  rw [textColumn_of_pos (Nat.zero_lt_of_lt hk), Nat.add_assoc (drawing.width + 3)]
  exact hrow

/-! ### Lines -/

/-- Every number has room enough in front of the lines. -/
def HasRoom (drawing : Drawing) : Prop :=
  ∀ line < drawing.rows.length, (toString (drawing.excerpt.lineStart + line)).toList.length ≤ drawing.width

/-- The numbers of the lines end at one place, and their texts start at one place. There stands every character of a
line, at its column. -/
structure IsAligned (drawing : Drawing) : Prop where
  number : ∀ line, .source line ∈ drawing.strips → ∃ blanks rest, (∀ c ∈ blanks, c = ' ') ∧
    (drawing.text (.source line)).toList =
      blanks ++ ((toString (drawing.excerpt.lineStart + line)).toList ++ ' ' :: '|' :: rest) ∧
    blanks.length + (toString (drawing.excerpt.lineStart + line)).toList.length = drawing.width
  source : ∀ line, .source line ∈ drawing.strips → drawing.chars line ≠ [] →
    ∃ lead, (drawing.text (.source line)).toList = lead ++ drawing.chars line ∧ lead.length = drawing.textColumn
  char : ∀ before c after, drawing.excerpt.source.toList = before ++ c :: after → c ≠ '\n' →
    .source (before.count '\n') ∈ drawing.strips →
    (drawing.text (.source (before.count '\n'))).toList[drawing.textColumn + columnAfter before]? = some c

/-- A line that is not empty is shown behind its number and its gutter. -/
theorem exists_sourceRow (hroom : (toString (drawing.excerpt.lineStart + line)).toList.length ≤ drawing.width)
    (htext : drawing.chars line ≠ []) :
    ∃ lead, (drawing.text (.source line)).toList = lead ++ drawing.chars line ∧ lead.length = drawing.textColumn := by
  have hnumbered := drawing.length_numbered line
  rw [Nat.max_eq_left hroom] at hnumbered
  have hlength : (drawing.sourceGutter line).length = drawing.gutterMarks.length := List.length_map _
  rw [text, sourceRow, String.toList_ofList, if_neg htext]
  generalize List.replicate (drawing.width - (toString (drawing.excerpt.lineStart + line)).toList.length) ' ' ++
    (toString (drawing.excerpt.lineStart + line)).toList = numbered at *
  -- a gutter without columns has no blank behind it either
  by_cases hnone : drawing.gutterMarks = []
  · rw [hnone, List.length_nil, List.length_eq_zero_iff] at hlength
    refine ⟨numbered ++ [' ', '|', ' '], by rw [if_pos hlength]; simp, ?_⟩
    rw [textColumn, if_pos hnone, List.length_append, hnumbered]
    rfl
  · have hne : drawing.sourceGutter line ≠ [] := fun hnil =>
      hnone (List.length_eq_zero_iff.mp (by rw [← hlength, hnil]; rfl))
    refine ⟨numbered ++ ' ' :: '|' :: ' ' :: (drawing.sourceGutter line ++ [' ']), by rw [if_neg hne]; simp, ?_⟩
    rw [textColumn, if_neg hnone, List.length_append, hnumbered]
    simp only [List.length_cons, List.length_append, List.length_nil, hlength]
    omega

/-- A number that has room enough ends where its field does. -/
theorem exists_number (hroom : (toString (drawing.excerpt.lineStart + line)).toList.length ≤ drawing.width) :
    ∃ blanks rest, (∀ c ∈ blanks, c = ' ') ∧ (drawing.text (.source line)).toList =
        blanks ++ ((toString (drawing.excerpt.lineStart + line)).toList ++ ' ' :: '|' :: rest) ∧
      blanks.length + (toString (drawing.excerpt.lineStart + line)).toList.length = drawing.width := by
  rw [text, sourceRow, String.toList_ofList]
  generalize (toString (drawing.excerpt.lineStart + line)).toList = number at *
  refine ⟨List.replicate (drawing.width - number.length) ' ', ?_⟩
  have hblanks : ∀ c ∈ List.replicate (drawing.width - number.length) ' ', c = ' ' := fun c => List.eq_of_mem_replicate
  have hwidth : (List.replicate (drawing.width - number.length) ' ').length + number.length = drawing.width := by
    rw [List.length_replicate]
    omega
  generalize List.replicate (drawing.width - number.length) ' ' = blanks at *
  generalize (if drawing.sourceGutter line = [] then drawing.chars line
    else drawing.sourceGutter line ++ ' ' :: drawing.chars line) = body
  -- the bar is no blank, so it stays where the text is empty
  by_cases htext : drawing.chars line = []
  · have htrim := trimEndChars_append_cons (show isBlank '|' = false by decide) (blanks ++ (number ++ [' ']))
      (' ' :: body)
    refine ⟨trimEndChars (' ' :: body), hblanks, ?_, hwidth⟩
    rw [if_pos htext]
    simpa using htrim
  · exact ⟨' ' :: body, hblanks, by rw [if_neg htext, List.append_assoc], hwidth⟩

end Drawing

theorem takeWhile_of_not_mem {cs : List Char} (h : '\n' ∉ cs) : cs.takeWhile (· ≠ '\n') = cs := by
  rw [List.takeWhile_eq_self_iff]
  intro c hc
  rw [decide_eq_true_eq]
  rintro rfl
  exact h hc

theorem takeWhile_append_feed {cs : List Char} (h : '\n' ∉ cs) (rest : List Char) :
    (cs ++ '\n' :: rest).takeWhile (· ≠ '\n') = cs := by
  rw [List.takeWhile_append_of_pos (List.takeWhile_eq_self_iff.mp (takeWhile_of_not_mem h))]
  simp

/-- A row has the text since the last line feed and that up to the next one. -/
theorem Row.Tiles.exists_chars {start : Nat} {cs : List Char} {rows : List Row} (h : Row.Tiles start cs rows)
    {before after : List Char} (hsplit : cs = before ++ after) : ∃ row front, rows[before.count '\n']? = some row ∧
      row.chars = front ++ after.takeWhile (· ≠ '\n') ∧ front.length = columnAfter before := by
  induction h generalizing before with
  | @last start cs hfree =>
    subst hsplit
    obtain ⟨hbefore, hafter⟩ : '\n' ∉ before ∧ '\n' ∉ after := by simpa using hfree
    refine ⟨⟨start, before ++ after⟩, before, by rw [List.count_eq_zero.mpr hbefore]; rfl, ?_,
      (columnAfter_of_not_mem hbefore).symm⟩
    rw [takeWhile_of_not_mem hafter]
  | @feed start cs rest rows hfree htail ih =>
    -- the split lies on this row, or behind its line feed
    have hcases : (∃ gap, cs = before ++ gap ∧ after = gap ++ '\n' :: rest) ∨
        ∃ gap, before = cs ++ '\n' :: gap ∧ rest = gap ++ after := by
      rcases List.append_eq_append_iff.mp hsplit with ⟨gap, rfl, hrest⟩ | hgap
      · cases gap with
        | nil => exact .inl ⟨[], by simp, hrest.symm⟩
        | cons c gap =>
          obtain ⟨rfl, rfl⟩ := List.cons.inj hrest
          exact .inr ⟨gap, rfl, rfl⟩
      · exact .inl hgap
    rcases hcases with ⟨gap, rfl, rfl⟩ | ⟨gap, rfl, rfl⟩
    · obtain ⟨hbefore, hgap⟩ : '\n' ∉ before ∧ '\n' ∉ gap := by simpa using hfree
      refine ⟨⟨start, before ++ gap⟩, before, by rw [List.count_eq_zero.mpr hbefore]; rfl, ?_,
        (columnAfter_of_not_mem hbefore).symm⟩
      rw [takeWhile_append_feed hgap]
    · obtain ⟨row, front, hrow, hchars, hlength⟩ := ih rfl
      refine ⟨row, front, ?_, hchars, by rw [columnAfter_feed, hlength]⟩
      rw [List.count_append, List.count_cons_self, List.count_eq_zero.mpr hfree, Nat.zero_add,
        List.getElem?_cons_succ, hrow]

namespace Drawing

variable {excerpt : Excerpt} {width : Nat} {default : Severity}

/-- Lines whose numbers have room enough are aligned. -/
theorem isAligned (hroom : (ofExcerpt excerpt width default).HasRoom) :
    (ofExcerpt excerpt width default).IsAligned where
  number line hline := by
    obtain ⟨line, hlt, -, ⟨⟩⟩ := (mem_strips (by simp)).mp hline
    exact exists_number (hroom line hlt)
  source line hline htext := by
    obtain ⟨line, hlt, -, ⟨⟩⟩ := (mem_strips (by simp)).mp hline
    exact exists_sourceRow (hroom line hlt) htext
  char before c after hsplit hc hline := by
    obtain ⟨line, hlt, -, ⟨⟩⟩ := (mem_strips (by simp)).mp hline
    -- the line of the character is told by the line feeds before it, its column by what comes after the last of
    -- them
    obtain ⟨row, front, hrow, hchars, hlength⟩ := (Row.tiles_ofChars 0 excerpt.source.toList).exists_chars hsplit
    have htext : (ofExcerpt excerpt width default).chars (before.count '\n') =
        front ++ c :: after.takeWhile (· ≠ '\n') := by
      rw [chars, show (ofExcerpt excerpt width default).rows[before.count '\n']? = some row from hrow, Option.map_some,
        Option.getD_some, hchars, List.takeWhile_cons_of_pos (by simpa using hc)]
    obtain ⟨lead, hlead, hwidth⟩ := exists_sourceRow (hroom _ hlt) (by rw [htext]; simp)
    rw [hlead, htext, ← hwidth, ← hlength, ← List.append_assoc, ← List.length_append, List.getElem?_append_right
      (Nat.le_refl _), Nat.sub_self]
    rfl

/-! ### Marks under what they mark -/

/-- The strokes of a mark on a text stand under what the mark covers. If it covers a line feed with more behind it, it
has a closing row, with a stroke under the last character, and wherever it has an opening row, a stroke is there under
the first. Otherwise it has a row below its line with a stroke under each character, or one where there is none. -/
structure Underlines (drawing : Drawing) (mark : PlacedMark) (before covered : List Char) : Prop where
  drawn : if '\n' ∈ covered.dropLast then ∃ line k, .closing line k mark ∈ drawing.strips
    else ∃ line, .inline line mark ∈ drawing.strips
  inline : ∀ line, .inline line mark ∈ drawing.strips → line = before.count '\n' ∧
    StrokesAt (drawing.text (.inline line mark)) mark.stroke (drawing.textColumn + columnAfter before)
      (max 1 covered.length)
  opening : ∀ line k, .opening line k mark ∈ drawing.strips → line = before.count '\n' ∧
    StrokesAt (drawing.text (.opening line k mark)) mark.stroke (drawing.textColumn + columnAfter before) 1
  closing : ∀ line k, .closing line k mark ∈ drawing.strips → line = (before ++ covered.dropLast).count '\n' ∧
    StrokesAt (drawing.text (.closing line k mark)) mark.stroke
      (drawing.textColumn + columnAfter (before ++ covered.dropLast)) 1

variable {mark : Mark} {before covered after : List Char}

/-- A mark on a line has as many strokes as it covers characters, but at least one. -/
theorem strokeCount_eq (h : mark.Splits excerpt.source before covered after) (hle : mark.range.start ≤ mark.range.stop)
    (hsingle : '\n' ∉ covered.dropLast) {placed : PlacedMark}
    (hplaced : placed = PlacedMark.place (Row.ofChars 0 excerpt.source.toList) default mark) :
    max 1 (placed.endColumn - placed.startColumn) = max 1 covered.length := by
  subst hplaced
  rw [PlacedMark.startColumn_place, h.textBefore_start hle]
  rcases eq_or_ne covered [] with rfl | hne
  · -- a mark that covers nothing ends where it starts, and has one stroke there
    have hstop := h.stop_eq
    have hstart := h.start_le
    rw [byteLength] at hstop
    have hend : (PlacedMark.place (Row.ofChars 0 excerpt.source.toList) default mark).endColumn =
        columnAfter before := by
      rw [PlacedMark.place, PlacedMark.locate_eq, h.textBefore_start hle]
      dsimp only
      rw [if_neg (by omega)]
    rw [hend, Nat.sub_self, List.length_nil]
  · have hpos := List.length_pos_iff.mpr hne
    rw [h.endColumn_place hne, columnAfter_append before hsingle, List.length_dropLast]
    omega

theorem underlines_of_splits (hmark : mark ∈ excerpt.marks) (hle : mark.range.start ≤ mark.range.stop)
    (h : mark.Splits excerpt.source before covered after) : (ofExcerpt excerpt width default).Underlines
      (PlacedMark.place (Row.ofChars 0 excerpt.source.toList) default mark) before covered := by
  have hout := isLaidOut_ofExcerpt excerpt width default
  generalize hplaced : PlacedMark.place (Row.ofChars 0 excerpt.source.toList) default mark = placed
  have hmem : placed ∈ (ofExcerpt excerpt width default).marks :=
    marks_perm.symm.subset (hplaced ▸ List.mem_map_of_mem hmark)
  have hstart : placed.startLine = before.count '\n' := by
    rw [← hplaced, PlacedMark.startLine_place, h.firstLine_eq hle]
  have hcolumn : placed.startColumn = columnAfter before := by
    rw [← hplaced, PlacedMark.startColumn_place, h.textBefore_start hle]
  have hmulti : placed.isMultiline = decide ('\n' ∈ covered.dropLast) := by
    rw [← hplaced, PlacedMark.isMultiline_place, decide_eq_decide, h.lastLine_ne_iff hle]
  -- the mark is drawn somewhere, and in each of the three shapes its strokes stand under its text
  refine ⟨?_, fun line hline => ?_, fun line k hline => ?_, fun line k hline => ?_⟩
  · split_ifs with hfeed
    · have hgutter : placed ∈ (ofExcerpt excerpt width default).gutterMarks :=
        List.mem_filter.mpr ⟨hmem, by rw [hmulti, decide_eq_true_eq]; exact hfeed⟩
      obtain ⟨k, hk⟩ := List.mem_iff_getElem?.mp hgutter
      exact ⟨_, k, hout.mem_strips_of_end hmem (.closing hk rfl)⟩
    · refine ⟨_, hout.mem_strips_of_start hmem (.inline hmem ?_ rfl)⟩
      rw [hmulti, decide_eq_false_iff_not]
      exact hfeed
  · obtain ⟨hsingle, rfl⟩ := of_inline_mem hline
    rw [hmulti, decide_eq_false_iff_not] at hsingle
    have hrow := @strokesAt_inline (ofExcerpt excerpt width default) placed.startLine placed
    rw [strokeCount_eq h hle hsingle hplaced.symm, hcolumn] at hrow
    exact ⟨hstart, hrow⟩
  · obtain ⟨hk, rfl⟩ := of_opening_mem hline
    have hrow := @strokesAt_opening _ placed placed.startLine k (lt_of_gutterMarks hk)
    rw [hcolumn] at hrow
    exact ⟨hstart, hrow⟩
  · obtain ⟨hk, rfl⟩ := of_closing_mem hline
    have hfeed := isMultiline_of_gutterMarks hk
    rw [hmulti, decide_eq_true_eq] at hfeed
    have hne : covered ≠ [] := by
      rintro rfl
      simp at hfeed
    have hrow := @strokesAt_closing _ placed placed.endLine k (lt_of_gutterMarks hk)
    rw [← hplaced, h.endColumn_place hne, Nat.add_sub_cancel, hplaced] at hrow
    refine ⟨?_, hrow⟩
    rw [← hplaced, PlacedMark.endLine_place, h.lastLine_eq hle]

end Drawing

/-! ### Findings -/

namespace Snippet

/-- A greater number has at least as many digits. -/
theorem length_toString_mono {a b : Int} (ha : 0 ≤ a) (hle : a ≤ b) : (toString a).length ≤ (toString b).length := by
  obtain ⟨a, rfl⟩ := Int.eq_ofNat_of_zero_le ha
  obtain ⟨b, rfl⟩ := Int.eq_ofNat_of_zero_le (Int.le_trans ha hle)
  have hle : a ≤ b := by omega
  have hb := (Nat.length_repr_le_iff Nat.length_repr_pos).mp (Nat.le_refl (Nat.repr b).length)
  exact (Nat.length_repr_le_iff Nat.length_repr_pos).mpr (Nat.lt_of_le_of_lt hle hb)

theorem le_foldl_max (first : Int) (excerpts : List Excerpt) :
    first ≤ excerpts.foldl (fun last excerpt => max last (lastLine excerpt)) first ∧
      ∀ excerpt ∈ excerpts,
        lastLine excerpt ≤ excerpts.foldl (fun last excerpt => max last (lastLine excerpt)) first := by
  induction excerpts generalizing first with
  | nil => exact ⟨Int.le_refl _, by simp⟩
  | cons excerpt rest ih =>
    obtain ⟨hfirst, hrest⟩ := ih (max first (lastLine excerpt))
    rw [List.foldl_cons]
    refine ⟨by omega, fun other hother => ?_⟩
    rcases List.mem_cons.mp hother with rfl | hother
    · omega
    · exact hrest other hother

/-- The field for the numbers has room for the numbers of all lines of a finding. -/
theorem hasRoom_numberWidth {excerpts : List Excerpt} {excerpt : Excerpt} {default : Severity}
    (hmem : excerpt ∈ excerpts) (hstart : 0 ≤ excerpt.lineStart) :
    (Drawing.ofExcerpt excerpt (numberWidth excerpts) default).HasRoom := by
  intro line hline
  rw [Drawing.length_rows] at hline
  rw [String.length_toList]
  cases excerpts with
  | nil => cases hmem
  | cons first rest =>
    obtain ⟨hfirst, hrest⟩ := le_foldl_max (lastLine first) rest
    have hlast : lastLine excerpt ≤ rest.foldl (fun last excerpt => max last (lastLine excerpt)) (lastLine first) := by
      rcases List.mem_cons.mp hmem with rfl | hmem
      · exact hfirst
      · exact hrest excerpt hmem
    -- the greatest of the last line numbers is as wide as the field
    refine length_toString_mono (Int.add_nonneg hstart (Int.natCast_nonneg line)) (Int.le_trans ?_ hlast)
    rw [lastLine]
    exact Int.add_le_add_left (by omega) _

theorem lineRows_infix_excerptRows {excerpt : Excerpt} (width : Nat) (severity : Severity) (hasFooter : Bool)
    (excerpts : List Excerpt) (isFirst : Bool) (hmem : excerpt ∈ excerpts) :
    (Drawing.ofExcerpt excerpt width severity).lineRows <:+: excerptRows width severity hasFooter isFirst excerpts := by
  induction excerpts generalizing isFirst with
  | nil => cases hmem
  | cons first rest ih =>
    rw [excerptRows]
    rcases List.mem_cons.mp hmem with rfl | hmem
    · have hlines : (Drawing.ofExcerpt excerpt width severity).lineRows <:+:
          (Drawing.ofExcerpt excerpt width severity).allRows isFirst :=
        ((List.suffix_cons _ _).trans (List.suffix_append _ _)).isInfix
      rw [List.append_assoc]
      exact hlines.trans (List.prefix_append _ _).isInfix
    · exact (ih false hmem).trans (List.suffix_append _ _).isInfix

/-- The rows of every excerpt are among those of a finding. -/
theorem lineRows_infix (snippet : Snippet) {excerpt : Excerpt} (hmem : excerpt ∈ snippet.excerpts) :
    (Drawing.ofExcerpt excerpt (numberWidth snippet.excerpts) (snippet.title.severity.getD .error)).lineRows <:+:
      snippet.renderRows := by
  have hrows := lineRows_infix_excerptRows (numberWidth snippet.excerpts) (snippet.title.severity.getD .error)
    (!snippet.footer.isEmpty) snippet.excerpts true hmem
  rw [renderRows, List.append_assoc]
  exact (hrows.trans (List.prefix_append _ _).isInfix).trans (List.suffix_cons _ _).isInfix

/-- In every excerpt of a finding, the rows of its lines are aligned, and the strokes of a mark stand under what it
covers, if the numbers of the lines are not negative and the marks end between characters. -/
theorem marks_stand_under (snippet : Snippet) (hstart : ∀ excerpt ∈ snippet.excerpts, 0 ≤ excerpt.lineStart)
    (hmarks : ∀ excerpt ∈ snippet.excerpts, ∀ mark ∈ excerpt.marks,
      mark.range.start ≤ mark.range.stop ∧ IsBoundary excerpt.source.toList mark.range.stop) :
    ∀ excerpt ∈ snippet.excerpts,
      let default := snippet.title.severity.getD .error
      let drawing := Drawing.ofExcerpt excerpt (numberWidth snippet.excerpts) default
      drawing.strips.map drawing.text <:+: snippet.renderRows ∧ drawing.IsAligned ∧
        ∀ mark ∈ excerpt.marks, ∃ before covered after, mark.Splits excerpt.source before covered after ∧
          drawing.Underlines (PlacedMark.place drawing.rows default mark) before covered := by
  intro excerpt hexcerpt default drawing
  refine ⟨?_, Drawing.isAligned (hasRoom_numberWidth hexcerpt (hstart excerpt hexcerpt)), fun mark hmark => ?_⟩
  · rw [← drawing.lineRows_eq Drawing.rows_pos]
    exact snippet.lineRows_infix hexcerpt
  · obtain ⟨hle, hstop⟩ := hmarks excerpt hexcerpt mark hmark
    obtain ⟨before, covered, after, hsplits⟩ := Mark.exists_splits hstop
    exact ⟨before, covered, after, hsplits, Drawing.underlines_of_splits hmark hle hsplits⟩

/-- A mark on two characters, behind one of two bytes, and one from the last of them to the next line, whose number is
wider. -/
theorem marks_stand_under_two :
    let excerpt : Excerpt :=
      { lineStart := 9, source := "é ab\ncd", marks := [⟨⟨3, 5⟩, "x", none⟩, ⟨⟨4, 7⟩, "", none⟩] }
    let drawing := Drawing.ofExcerpt excerpt 2 .error
    drawing.lineRows = [" 9 |   é ab", "   |     ^^ x", "   |  ____^", "10 | | cd", "   | |_^"] ∧
      drawing.IsAligned ∧ ∀ mark ∈ excerpt.marks, ∃ before covered after,
        mark.Splits excerpt.source before covered after ∧
        drawing.Underlines (PlacedMark.place drawing.rows .error mark) before covered := by
  intro excerpt drawing
  have hdrawing : drawing = _ := Drawing.ofExcerpt_of_pairwise (by decide +kernel)
  have hmarks : ∀ mark ∈ excerpt.marks,
      mark.range.start ≤ mark.range.stop ∧ IsBoundary excerpt.source.toList mark.range.stop := by
    intro mark hmark
    simp only [excerpt, List.mem_cons, List.not_mem_nil, or_false] at hmark
    rcases hmark with rfl | rfl
    · exact ⟨by decide, ['é', ' ', 'a', 'b'], ['\n', 'c', 'd'], by decide +kernel, by decide⟩
    · exact ⟨by decide, ['é', ' ', 'a', 'b', '\n', 'c'], ['d'], by decide +kernel, by decide⟩
  have hwidth : numberWidth [excerpt] = 2 := by decide +kernel
  have hall := marks_stand_under ⟨⟨"", none, none⟩, [], [excerpt]⟩ (List.forall_mem_singleton.mpr (by decide))
    (List.forall_mem_singleton.mpr hmarks) excerpt (List.mem_singleton_self _)
  rw [hwidth] at hall
  exact ⟨by rw [hdrawing]; decide +kernel, hall.2⟩

end Snippet

end ProposalCheck
