import ProposalCheck.Proofs.Diagnostic.Place
import ProposalCheck.Proofs.Diagnostic.Strip

/-!
# Where marks are placed

An offset of an excerpt is placed by the characters that end by it: the line is the number of the line feeds among
them, and the column the number of those after the last line feed. A mark starts where its first byte is, and ends
where its last byte is.

## Main definitions

* `textBefore`: the characters that end by an offset
* `columnAfter`: how many characters come after the last line feed
* `Mark.firstLine`, `Mark.lastLine`: the lines on which a mark starts and ends
* `Drawing.IsLaidOut`: the marks of a drawing lie on its lines, in order

## Main results

* `PlacedMark.locate_eq`: where an offset of an excerpt is placed
* `Drawing.isLaidOut_ofExcerpt`: every excerpt is laid out
-/

namespace ProposalCheck

variable {cs pre post : List Char} {offset start : Nat} {rows : List Row}

/-! ### Characters by an offset -/

/-- The characters of a text that end by an offset. -/
def textBefore (cs : List Char) (offset : Nat) : List Char := cs.take (charsWithin offset cs)

theorem charsWithin_le_length (offset : Nat) (cs : List Char) : charsWithin offset cs ≤ cs.length := by
  induction cs generalizing offset with
  | nil => exact Nat.le_refl _
  | cons c cs ih =>
    rw [charsWithin]
    split_ifs
    · exact Nat.zero_le _
    · exact Nat.succ_le_succ (ih _)

theorem length_textBefore (cs : List Char) (offset : Nat) : (textBefore cs offset).length = charsWithin offset cs := by
  rw [textBefore, List.length_take, Nat.min_eq_left (charsWithin_le_length offset cs)]

theorem charsWithin_mono {stop : Nat} (h : start ≤ stop) (cs : List Char) :
    charsWithin start cs ≤ charsWithin stop cs := by
  induction cs generalizing start stop with
  | nil => exact Nat.le_refl _
  | cons c cs ih =>
    rw [charsWithin, charsWithin]
    split_ifs
    · exact Nat.le_refl _
    · exact Nat.zero_le _
    · omega
    · exact Nat.succ_le_succ (ih (by omega))

theorem textBefore_isPrefix {stop : Nat} (h : start ≤ stop) (cs : List Char) :
    textBefore cs start <+: textBefore cs stop :=
  List.take_prefix_take_left (charsWithin_mono h cs)

theorem charsWithin_add (pre post : List Char) (offset : Nat) :
    charsWithin (byteLength pre + offset) (pre ++ post) = pre.length + charsWithin offset post := by
  induction pre with
  | nil => rw [byteLength, Nat.zero_add, List.nil_append, List.length_nil, Nat.zero_add]
  | cons c pre ih =>
    rw [List.cons_append, byteLength, charsWithin, if_neg (by omega), List.length_cons,
      show c.utf8Size + byteLength pre + offset - c.utf8Size = byteLength pre + offset by omega, ih]
    omega

theorem textBefore_add (pre post : List Char) (offset : Nat) :
    textBefore (pre ++ post) (byteLength pre + offset) = pre ++ textBefore post offset := by
  rw [textBefore, charsWithin_add, List.take_length_add_append, textBefore]

/-- What comes behind does not count before its first character has ended. -/
theorem textBefore_append_of_le (h : offset ≤ byteLength pre) (post : List Char) :
    textBefore (pre ++ post) offset = textBefore pre offset := by
  induction pre generalizing offset with
  | nil =>
    -- even a character right behind has not ended, since none has a size of zero
    obtain rfl := Nat.le_zero.mp h
    cases post with
    | nil => rfl
    | cons c post => rw [textBefore, List.nil_append, charsWithin, if_pos c.utf8Size_pos]; rfl
  | cons c pre ih =>
    rw [List.cons_append, textBefore, textBefore, charsWithin, charsWithin]
    split_ifs
    · rfl
    · rw [List.take_succ_cons, List.take_succ_cons]
      exact congrArg (c :: ·) (ih (by rw [byteLength] at h; omega))

/-! ### Lines and columns -/

/-- How many characters come after the last line feed of a text. -/
def columnAfter (cs : List Char) : Nat := cs.foldl (fun column c => if c = '\n' then 0 else column + 1) 0

theorem columnAfter_feed (pre post : List Char) : columnAfter (pre ++ '\n' :: post) = columnAfter post := by
  rw [columnAfter, List.foldl_append, List.foldl_cons, if_pos rfl, columnAfter]

theorem columnAfter_append (pre : List Char) (h : '\n' ∉ post) :
    columnAfter (pre ++ post) = columnAfter pre + post.length := by
  rw [columnAfter, List.foldl_append, ← columnAfter]
  -- the induction is on what comes behind, from any column
  generalize columnAfter pre = column
  induction post generalizing column with
  | nil => rfl
  | cons c post ih =>
    obtain ⟨hc, hpost⟩ : '\n' ≠ c ∧ '\n' ∉ post := by simpa using h
    rw [List.foldl_cons, if_neg hc.symm, ih hpost, List.length_cons]
    omega

theorem columnAfter_of_not_mem (h : '\n' ∉ cs) : columnAfter cs = cs.length := by
  simpa [columnAfter] using columnAfter_append [] h

/-- An offset lies on the row with the number of line feeds that end by it, behind the characters since the last. -/
theorem Row.Tiles.locate (h : Row.Tiles start cs rows) (hle : start ≤ offset) :
    ∃ k row, rows.countP (fun row => row.start ≤ offset) = k + 1 ∧ rows[k]? = some row ∧
      k = (textBefore cs (offset - start)).count '\n' ∧
      charsWithin (offset - row.start) row.chars = columnAfter (textBefore cs (offset - start)) := by
  induction h with
  | @last start cs hfree =>
    have hfree' : '\n' ∉ textBefore cs (offset - start) := fun hmem => hfree (List.mem_of_mem_take hmem)
    refine ⟨0, ⟨start, cs⟩, by simp [hle], rfl, (List.count_eq_zero.mpr hfree').symm, ?_⟩
    rw [columnAfter_of_not_mem hfree', length_textBefore]
  | @feed start cs rest rows hfree htail ih =>
    -- the offset lies behind the line feed of the first row, or all other rows start behind the offset
    by_cases hnext : start + byteLength cs + 1 ≤ offset
    · obtain ⟨k, row, hcount, hrow, hline, hcolumn⟩ := ih hnext
      have hsplit : textBefore (cs ++ '\n' :: rest) (offset - start) =
          cs ++ '\n' :: textBefore rest (offset - (start + byteLength cs + 1)) := by
        have hadd := textBefore_add (cs ++ ['\n']) rest (offset - (start + byteLength cs + 1))
        rw [byteLength_append, byteLength_feed, byteLength, List.append_assoc, List.append_assoc] at hadd
        rw [show offset - start = byteLength cs + (0 + 1) + (offset - (start + byteLength cs + 1)) by omega]
        exact hadd
      refine ⟨k + 1, row, by simp [hle, hcount], hrow, ?_, ?_⟩
      · rw [hsplit, List.count_append, List.count_cons_self, List.count_eq_zero.mpr hfree, ← hline]
        omega
      · rw [hsplit, columnAfter_feed, hcolumn]
    · have hnone : rows.countP (fun row => row.start ≤ offset) = 0 := by
        rw [List.countP_eq_zero]
        intro row hrow
        have := htail.le_start row hrow
        simp only [decide_eq_true_eq]
        omega
      have hsame : textBefore (cs ++ '\n' :: rest) (offset - start) = textBefore cs (offset - start) :=
        textBefore_append_of_le (by omega) _
      have hfree' : '\n' ∉ textBefore cs (offset - start) := fun hmem => hfree (List.mem_of_mem_take hmem)
      refine ⟨0, ⟨start, cs⟩, by simp [hle, hnone], rfl, ?_, ?_⟩
      · rw [hsame, List.count_eq_zero.mpr hfree']
      · rw [hsame, columnAfter_of_not_mem hfree', length_textBefore]

theorem PlacedMark.locate_eq (cs : List Char) (offset : Nat) : locate (Row.ofChars 0 cs) offset =
    ((textBefore cs offset).count '\n', columnAfter (textBefore cs offset)) := by
  obtain ⟨k, row, hcount, hrow, hline, hcolumn⟩ := (Row.tiles_ofChars 0 cs).locate (Nat.zero_le offset)
  rw [Nat.sub_zero] at hline hcolumn
  rw [locate, hcount, Nat.add_sub_cancel, hrow]
  dsimp only
  rw [hcolumn, hline]

/-! ### Marks -/

/-- The line on which the first byte of a mark stands. -/
def Mark.firstLine (mark : Mark) (source : String) : Nat := (textBefore source.toList mark.range.start).count '\n'

/-- The line on which the last byte of a mark stands. If it has none, that is where it starts. -/
def Mark.lastLine (mark : Mark) (source : String) : Nat :=
  if mark.range.start < mark.range.stop then (textBefore source.toList (mark.range.stop - 1)).count '\n'
  else mark.firstLine source

namespace PlacedMark

variable {source : String} {default : Severity} {mark : Mark}

theorem startLine_place : (place (Row.ofChars 0 source.toList) default mark).startLine = mark.firstLine source := by
  rw [place, locate_eq]
  rfl

theorem startColumn_place : (place (Row.ofChars 0 source.toList) default mark).startColumn =
    columnAfter (textBefore source.toList mark.range.start) := by
  rw [place, locate_eq]

theorem endLine_place : (place (Row.ofChars 0 source.toList) default mark).endLine = mark.lastLine source := by
  rw [place, locate_eq, locate_eq, Mark.lastLine]
  dsimp only
  split_ifs <;> rfl

theorem isMultiline_place : (place (Row.ofChars 0 source.toList) default mark).isMultiline =
    decide (mark.lastLine source ≠ mark.firstLine source) := by
  rw [isMultiline, startLine_place, endLine_place]

end PlacedMark

theorem Mark.firstLine_le_lastLine (mark : Mark) (source : String) : mark.firstLine source ≤ mark.lastLine source := by
  rw [lastLine]
  split_ifs with h
  · exact (textBefore_isPrefix (Nat.le_sub_one_of_lt h) _).sublist.count_le _
  · exact Nat.le_refl _

theorem Mark.lastLine_le (mark : Mark) (source : String) : mark.lastLine source ≤ source.toList.count '\n' := by
  rw [lastLine, firstLine]
  split_ifs <;> exact (List.take_sublist _ _).count_le _

/-! ### Drawings -/

/-- The marks of a drawing lie on its lines, in the order of the lines on which they start. -/
structure Drawing.IsLaidOut (drawing : Drawing) : Prop where
  endLine_lt : ∀ mark ∈ drawing.marks, mark.endLine < drawing.rows.length
  startLine_le : ∀ mark ∈ drawing.marks, mark.startLine ≤ mark.endLine
  ordered : drawing.marks.Pairwise fun first second => first.startLine ≤ second.startLine

namespace Drawing

section Laid

variable {drawing : Drawing} {mark : PlacedMark} {k line : Nat} {strip : Strip}

theorem lt_of_gutterMarks (hmark : drawing.gutterMarks[k]? = some mark) : k < drawing.gutterMarks.length :=
  (List.getElem?_eq_some_iff.mp hmark).1

theorem mem_of_gutterMarks (hmark : drawing.gutterMarks[k]? = some mark) : mark ∈ drawing.marks :=
  (List.mem_filter.mp (List.mem_of_getElem? hmark)).1

theorem isMultiline_of_gutterMarks (hmark : drawing.gutterMarks[k]? = some mark) : mark.isMultiline :=
  (List.mem_filter.mp (List.mem_of_getElem? hmark)).2

namespace IsLaidOut

theorem startLine_lt (hout : drawing.IsLaidOut) (hmark : mark ∈ drawing.marks) :
    mark.startLine < drawing.rows.length :=
  Nat.lt_of_le_of_lt (hout.startLine_le mark hmark) (hout.endLine_lt mark hmark)

/-- What belongs to the line on which a mark starts is there. -/
theorem mem_strips_of_start (hout : drawing.IsLaidOut) (hmark : mark ∈ drawing.marks)
    (h : drawing.Holds mark.startLine strip) : strip ∈ drawing.strips :=
  (mem_strips h.ne_gap).mpr ⟨_, hout.startLine_lt hmark, isShown_of_mem hmark (.inl rfl), h⟩

/-- What belongs to the line on which a mark ends is there. -/
theorem mem_strips_of_end (hout : drawing.IsLaidOut) (hmark : mark ∈ drawing.marks)
    (h : drawing.Holds mark.endLine strip) : strip ∈ drawing.strips :=
  (mem_strips h.ne_gap).mpr ⟨_, hout.endLine_lt mark hmark, isShown_of_mem hmark (.inr rfl), h⟩

end IsLaidOut

end Laid

variable {excerpt : Excerpt} {width : Nat} {default : Severity}

theorem length_rows : (ofExcerpt excerpt width default).rows.length = excerpt.source.toList.count '\n' + 1 :=
  (Row.tiles_ofChars 0 excerpt.source.toList).length_eq

theorem rows_pos : 0 < (ofExcerpt excerpt width default).rows.length := by
  rw [length_rows]
  exact Nat.succ_pos _

/-- A drawing has the marks of its excerpt. -/
theorem marks_perm : (ofExcerpt excerpt width default).marks.Perm
    (excerpt.marks.map (PlacedMark.place (Row.ofChars 0 excerpt.source.toList) default)) :=
  List.mergeSort_perm _ _

/-- Marks that are in order are drawn as they are. -/
theorem ofExcerpt_of_pairwise
    (h : (excerpt.marks.map (PlacedMark.place (Row.ofChars 0 excerpt.source.toList) default)).Pairwise
      fun first second => PlacedMark.before first second) :
    ofExcerpt excerpt width default = ⟨excerpt, width, Row.ofChars 0 excerpt.source.toList,
      excerpt.marks.map (PlacedMark.place (Row.ofChars 0 excerpt.source.toList) default)⟩ := by
  rw [ofExcerpt, List.mergeSort_of_pairwise h]

theorem exists_of_mem_marks {placed : PlacedMark} (h : placed ∈ (ofExcerpt excerpt width default).marks) :
    ∃ mark ∈ excerpt.marks, PlacedMark.place (Row.ofChars 0 excerpt.source.toList) default mark = placed :=
  List.mem_map.mp (marks_perm.subset h)

theorem isLaidOut_ofExcerpt (excerpt : Excerpt) (width : Nat) (default : Severity) :
    (ofExcerpt excerpt width default).IsLaidOut where
  endLine_lt placed hplaced := by
    obtain ⟨mark, -, rfl⟩ := exists_of_mem_marks hplaced
    rw [length_rows, PlacedMark.endLine_place]
    exact Nat.lt_succ_of_le (mark.lastLine_le _)
  startLine_le placed hplaced := by
    obtain ⟨mark, -, rfl⟩ := exists_of_mem_marks hplaced
    rw [PlacedMark.startLine_place, PlacedMark.endLine_place]
    exact mark.firstLine_le_lastLine _
  ordered := by
    -- marks are in the order of their starts, and no line feed is lost when more characters end
    refine List.Pairwise.imp_of_mem (fun {first second} hfirst hsecond hle => ?_)
      (List.pairwise_mergeSort PlacedMark.before_trans PlacedMark.before_total _)
    obtain ⟨mark, -, rfl⟩ := exists_of_mem_marks (show first ∈ (ofExcerpt excerpt width default).marks from hfirst)
    obtain ⟨other, -, rfl⟩ := exists_of_mem_marks (show second ∈ (ofExcerpt excerpt width default).marks from hsecond)
    rw [PlacedMark.startLine_place, PlacedMark.startLine_place]
    exact (textBefore_isPrefix (PlacedMark.start_le_of_before hle) _).sublist.count_le _

end Drawing

end ProposalCheck
