import ProposalCheck.Proofs.Source.Slice

/-!
# Lines as a partition of a text

The lines of a text and what stands between them are the whole text: nothing is lost at the end of a line and nothing
counts twice. Behind the text of a line comes a line feed, or a carriage return and a line feed, and behind that of the
last line nothing, or a single carriage return. An offset from the start of a line up to the end of its text lies on
that line.

## Main definitions

* `Lines.nextStart`: where the line behind a line starts
* `Lines.lineEnd`: the bytes between the text of a line and the next line
* `Lines.joined`: the texts of all lines, each with its line end behind it
* `Lines.Has`: a line of a text, told by its number

## Main results

* `Lines.has_of_getElem?`: what stands at a line, and what ends it
* `Lines.joined_eq`: the lines with their line ends are the text
* `Lines.partition_exact`: the lines of a text partition it
-/

namespace ProposalCheck

namespace Lines

variable {lines : Lines} {row : Row} {k line : Nat} {span : Span} {shown : String} {ending : List UInt8}

/-- Where the line behind a line starts. Behind the last line that is the end of the text. -/
def nextStart (lines : Lines) (line : Int) : Nat :=
  match lines.lineSpan (line + 1) with
  | .ok span => span.start
  | .error _ => lines.size

/-- The bytes between the text of a line and the next line. -/
def lineEnd (lines : Lines) (line : Int) : Except PositionError (List UInt8) := do
  let span ← lines.lineSpan line
  return ((textBytes lines.source).take (lines.nextStart line)).drop span.stop

/-- The bytes of a line's text with those of the line end behind it. -/
def ended (lines : Lines) (line : Int) : Except PositionError (List UInt8) := do
  let shown ← lines.line line
  let ending ← lines.lineEnd line
  return textBytes shown ++ ending

/-- The texts of all lines, each with its line end behind it. -/
def joined (lines : Lines) : Except PositionError (List UInt8) := do
  let pieces ← (range 1 lines.count).mapM lines.ended
  return pieces.flatten

/-- A line of a text: its span, its text and its line end. A carriage return in front of a line feed or at the end of the
text belongs to the line end, so a text of a line ends with one only in front of another one. -/
structure Has (lines : Lines) (line : Nat) (span : Span) (shown : String) (ending : List UInt8) : Prop where
  lineSpan_eq : lines.lineSpan line = .ok span
  line_eq : lines.line line = .ok shown
  lineEnd_eq : lines.lineEnd line = .ok ending
  covers : span.Covers lines.source.toList shown.toList
  newline_not_mem : '\n' ∉ shown.toList
  feed : line < lines.count → ending = [10] ∧ shown.toList.getLast? ≠ some '\r' ∨ ending = [13, 10]
  last : line = lines.count → ending = [] ∧ shown.toList.getLast? ≠ some '\r' ∨ ending = [13]
  lineOf_eq : ∀ offset : Nat, span.start ≤ offset → offset ≤ span.stop → lines.lineOf offset = .ok line

/-! ### One line -/

theorem row_of_out {line : Int} (h : line < 1 ∨ lines.count < line) :
    lines.row line = .error (.lineOutOfRange line lines.count) := by
  rw [row]
  split_ifs with hlow
  · rfl
  · have hnone : lines.rows[line.toNat - 1]? = none := by
      rw [Array.getElem?_eq_none_iff]
      have : lines.rows.size = lines.count := rfl
      omega
    rw [hnone]

theorem nextStart_of_getElem? (h : lines.rowList[k]? = some row) : lines.nextStart k = row.start := by
  rw [nextStart, lineSpan_of_getElem? h]
  rfl

theorem nextStart_count (lines : Lines) : lines.nextStart lines.count = lines.size := by
  rw [nextStart, lineSpan, row_of_out (.inr (by omega))]
  rfl

theorem lineEnd_eq_of_getElem? (h : lines.rowList[k]? = some row) : lines.lineEnd ((k : Int) + 1) =
    .ok (((textBytes lines.source).take (lines.nextStart (k + 1 : Nat))).drop row.span.stop) := by
  rw [lineEnd, lineSpan_of_getElem? h]
  rfl

theorem line_eq_of_getElem? (h : lines.rowList[k]? = some row) : lines.line ((k : Int) + 1) = .ok row.text := by
  rw [Lines.line, row_of_getElem? h]
  rfl

/-- A line feed stands between the characters of a row and the next row. Behind the last row nothing is left. -/
theorem exists_break_of_getElem? (h : lines.rowList[k]? = some row) : ∃ before gap after,
    lines.source.toList = before ++ (row.chars ++ (gap ++ after)) ∧ byteLength before = row.start ∧
      lines.nextStart (k + 1 : Nat) = row.start + byteLength row.chars + byteLength gap ∧
      (k + 1 < lines.count → gap = ['\n']) ∧ (k + 1 = lines.count → gap = []) := by
  obtain ⟨hk, rfl⟩ := List.getElem?_eq_some_iff.mp h
  obtain ⟨before, rest, hsource, hstart, htiles⟩ := tiles_drop h
  rw [List.drop_eq_getElem_cons hk] at htiles
  rw [← length_rowList]
  generalize hothers : lines.rowList.drop (k + 1) = others, lines.rowList[k] = row at *
  obtain ⟨start, chars⟩ := row
  -- the row is the last one, or a line feed and another row follow it
  cases htiles with
  | last =>
    have hlength : lines.rowList.length = k + 1 := by
      have := List.drop_eq_nil_iff.mp hothers
      omega
    refine ⟨before, [], [], by simpa using hsource, hstart.symm, ?_, fun hlt => by omega, fun _ => rfl⟩
    rw [← hlength, length_rowList, nextStart_count, size, ← byteLength_toList, hsource, byteLength_append, ← hstart]
    rfl
  | @feed _ _ more _ _ htail =>
    obtain ⟨next, hhead, hnext⟩ := htail.head
    rw [← hothers, List.getElem?_drop, Nat.add_zero] at hhead
    obtain ⟨hlt, -⟩ := List.getElem?_eq_some_iff.mp hhead
    refine ⟨before, ['\n'], more, hsource, hstart.symm, ?_, fun _ => rfl, fun hlast => by omega⟩
    rw [nextStart_of_getElem? hhead, hnext]
    rfl

/-- Behind the text of a row comes a line feed, or nothing if it is the last one, perhaps after a carriage return. -/
theorem exists_gap_of_getElem? (h : lines.rowList[k]? = some row) : ∃ before gap after,
    lines.source.toList = before ++ (row.text.toList ++ (gap ++ after)) ∧ byteLength before = row.start ∧
      lines.nextStart (k + 1 : Nat) = row.span.stop + byteLength gap ∧
      (k + 1 < lines.count → gap = ['\n'] ∧ row.text.toList.getLast? ≠ some '\r' ∨ gap = ['\r', '\n']) ∧
      (k + 1 = lines.count → gap = [] ∧ row.text.toList.getLast? ≠ some '\r' ∨ gap = ['\r']) := by
  obtain ⟨before, feed, after, hsource, hstart, hnext, hmore, hlast⟩ := exists_break_of_getElem? h
  have htext : row.text.toList = Row.dropReturn row.chars := String.toList_ofList
  rw [htext, Row.span]
  -- a carriage return at the end of the row belongs to the gap
  rcases Row.dropReturn_cases row.chars with ⟨heq, hdark⟩ | heq
  · rw [heq]
    exact ⟨before, feed, after, hsource, hstart, hnext, fun hlt => .inl ⟨hmore hlt, hdark⟩,
      fun hend => .inl ⟨hlast hend, hdark⟩⟩
  · refine ⟨before, '\r' :: feed, after, ?_, hstart, ?_, fun hlt => .inr (by rw [hmore hlt]),
      fun hend => .inr (by rw [hlast hend])⟩
    · rw [hsource]
      conv_lhs => rw [heq]
      simp
    · rw [hnext]
      conv_lhs => rw [heq]
      rw [byteLength_append, byteLength, byteLength]
      simp only [byteLength]
      omega

/-- What stands at a line, and what ends it. -/
theorem has_of_getElem? (h : lines.rowList[k]? = some row) : ∃ ending, lines.Has (k + 1) row.span row.text ending ∧
    textBytes row.text ++ ending =
      ((textBytes lines.source).take (lines.nextStart (k + 1 : Nat))).drop row.span.start := by
  obtain ⟨before, gap, after, hsource, hstart, hnext, hmore, hlast⟩ := exists_gap_of_getElem? h
  have hspan : row.span = ⟨byteLength before, byteLength before + byteLength row.text.toList⟩ := by
    rw [Row.span, hstart, Row.text, String.toList_ofList]
  -- up to the next line: what comes before the row, its text, and the gap
  have hbytes : (textBytes lines.source).take (lines.nextStart (k + 1 : Nat)) =
      charBytes before ++ (textBytes row.text ++ charBytes gap) := by
    rw [hnext, hspan, textBytes_eq, textBytes_eq, hsource]
    simp only [charBytes_append]
    rw [← List.append_assoc, ← List.append_assoc, ← List.append_assoc]
    exact List.take_left' (by simp [Nat.add_assoc])
  have hending : ∀ {cs : List Char} {bytes : List UInt8}, charBytes cs = bytes → gap = cs → charBytes gap = bytes := by
    rintro cs bytes hcs rfl
    exact hcs
  refine ⟨charBytes gap, ⟨lineSpan_of_getElem? h, line_eq_of_getElem? h, ?_, ?_, ?_, fun hlt => ?_, fun hend => ?_,
    fun offset hle hstop => ?_⟩, ?_⟩
  · rw [Int.natCast_add, Int.natCast_one, lineEnd_eq_of_getElem? h, hbytes, hspan, ← List.append_assoc]
    exact congrArg Except.ok (List.drop_left' (by simp [textBytes_eq]))
  · exact hspan ▸ ⟨before, gap ++ after, hsource, rfl⟩
  · exact Row.newline_not_mem_text (lines.tiles.newline_not_mem row (List.mem_of_getElem? h))
  · exact (hmore hlt).imp (And.imp_left (hending rfl)) (hending rfl)
  · exact (hlast hend).imp (And.imp_left (hending rfl)) (hending rfl)
  · have hchars := Row.byteLength_dropReturn_le row.chars
    have hsize := stop_le_size h
    rw [Row.span] at hle hstop
    exact lineOf_of_le h hle (by dsimp only at hstop; omega) (by dsimp only at hstop; omega)
  · rw [hbytes, hspan]
    exact (List.drop_left' (length_charBytes before)).symm

/-! ### All lines -/

/-- Slices that follow each other from the start are what comes before the end of the last one. -/
theorem flatten_slices {α : Type} (items : List α) (start : Nat → Nat) (n : Nat) (hzero : start 0 = 0)
    (hle : ∀ k < n, start k ≤ start (k + 1)) :
    ((List.range n).map fun k => (items.take (start (k + 1))).drop (start k)).flatten = items.take (start n) := by
  induction n with
  | zero => rw [hzero]; rfl
  | succ n ih =>
    have hfront : items.take (start n) = (items.take (start (n + 1))).take (start n) := by
      rw [List.take_take, Nat.min_eq_left (hle n (Nat.lt_succ_self n))]
    rw [List.range_succ, List.map_append, List.flatten_append, ih fun k hk => hle k (Nat.lt_succ_of_lt hk), hfront]
    simp

/-- A line with its line end reaches from its start to the start of the next line. -/
theorem ended_eq (h : k < lines.count) : lines.ended ((k : Int) + 1) =
    .ok (((textBytes lines.source).take (lines.nextStart (k + 1 : Nat))).drop (lines.nextStart k)) ∧
      lines.nextStart k ≤ lines.nextStart (k + 1 : Nat) := by
  have hrow := List.getElem?_eq_getElem (l := lines.rowList) h
  obtain ⟨ending, hline, hbytes⟩ := has_of_getElem? hrow
  obtain ⟨-, gap, -, -, -, hnext, -⟩ := exists_gap_of_getElem? hrow
  have hstart := nextStart_of_getElem? hrow
  have hline' := hline.line_eq
  have hending := hline.lineEnd_eq
  rw [Int.natCast_add, Int.natCast_one] at hline' hending
  refine ⟨?_, ?_⟩
  · rw [hstart, ended, hline', hending]
    exact congrArg Except.ok hbytes
  · rw [hstart, hnext, Row.span, Nat.add_assoc]
    exact Nat.le_add_right _ _

/-- The lines with their line ends are the text. -/
theorem joined_eq (lines : Lines) : lines.joined = .ok (textBytes lines.source) := by
  -- each line with its line end is the slice of the bytes from its start to the start of the next line
  have hall : (range 1 lines.count).mapM lines.ended = .ok ((range 1 lines.count).map fun line =>
      ((textBytes lines.source).take (lines.nextStart line)).drop (lines.nextStart (line - 1))) := by
    refine mapM_eq_ok fun line hline => ?_
    obtain ⟨k, hk, rfl⟩ := List.mem_map.mp hline
    rw [List.mem_range] at hk
    have hended := (ended_eq (show k < lines.count by omega)).1
    rwa [Int.add_comm, Int.add_sub_cancel]
  have hzero : lines.nextStart (0 : Nat) = 0 := by
    obtain ⟨row, hrow, hstart⟩ := lines.tiles.head
    rw [nextStart_of_getElem? hrow, hstart]
  have hslices := flatten_slices (textBytes lines.source) (fun k => lines.nextStart k) lines.count
    hzero fun k hk => (ended_eq hk).2
  have hcount : ((lines.count : Int) + 1 - 1).toNat = lines.count := by omega
  have hpieces : (List.range lines.count).map ((fun line : Int =>
        ((textBytes lines.source).take (lines.nextStart line)).drop (lines.nextStart (line - 1))) ∘
          fun k : Nat => 1 + (k : Int)) =
      (List.range lines.count).map fun k =>
        ((textBytes lines.source).take (lines.nextStart (k + 1 : Nat))).drop (lines.nextStart k) := by
    refine List.map_congr_left fun k _ => ?_
    have hnext : 1 + (k : Int) = (k + 1 : Nat) := by omega
    have hthis : ((k + 1 : Nat) : Int) - 1 = k := by omega
    rw [Function.comp_apply, hnext, hthis]
  rw [joined, hall, range, hcount, List.map_map, hpieces]
  refine congrArg Except.ok ?_
  rw [hslices, nextStart_count, size, ← length_textBytes, List.take_length]

/-- The lines of a text partition it. There is one line more than there are line feeds, and no line has another number.
Every line stands at its span, which lies on boundaries of characters; its text holds no line feed; a line feed ends it,
or a carriage return and a line feed, and nothing or a single carriage return ends the last one; and every offset from
the start of the line to the end of its text lies on it. Spans of later lines start behind those of earlier ones. The
texts of the lines with the line ends behind them are the whole text. -/
theorem partition_exact (text : String) :
    let lines := ofString text
    lines.count = text.toList.count '\n' + 1 ∧
    (∀ line : Int, line < 1 ∨ lines.count < line →
      lines.lineSpan line = .error (.lineOutOfRange line lines.count) ∧
        lines.line line = .error (.lineOutOfRange line lines.count)) ∧
    (∀ line : Nat, 1 ≤ line → line ≤ lines.count → ∃ span shown ending, lines.Has line span shown ending ∧
      IsBoundary text.toList span.start ∧ IsBoundary text.toList span.stop) ∧
    (∀ (line later : Nat) (span span' : Span), line < later → lines.lineSpan line = .ok span →
      lines.lineSpan later = .ok span' → span.start ≤ span.stop ∧ span.stop < span'.start) ∧
    lines.joined = .ok (textBytes text) := by
  intro lines
  refine ⟨?_, fun line hout => ?_, fun line hpos hle => ?_, fun line later span span' hlt hspan hspan' => ?_,
    joined_eq lines⟩
  · rw [← length_rowList]
    exact lines.tiles.length_eq
  · rw [lineSpan, Lines.line, row_of_out hout]
    exact ⟨rfl, rfl⟩
  · obtain ⟨k, rfl⟩ : ∃ k, line = k + 1 := ⟨line - 1, by omega⟩
    obtain ⟨ending, hline, -⟩ := has_of_getElem? (List.getElem?_eq_getElem (l := lines.rowList) hle)
    exact ⟨_, _, ending, hline, hline.covers.isWithin.start, hline.covers.isWithin.stop⟩
  · obtain ⟨row, hrow, hstop⟩ := exists_of_bind_eq_ok hspan
    obtain ⟨row', hrow', hstop'⟩ := exists_of_bind_eq_ok hspan'
    obtain ⟨k, rfl, hk⟩ := exists_of_row hrow
    obtain ⟨j, rfl, hj⟩ := exists_of_row hrow'
    obtain rfl := Except.ok.inj hstop
    obtain rfl := Except.ok.inj hstop'
    have hend := lines.tiles.stop_lt (Nat.lt_of_succ_lt_succ hlt) hk hj
    have hreturn := Row.byteLength_dropReturn_le row.chars
    refine ⟨Nat.le_add_right _ _, ?_⟩
    rw [Row.span, Row.span]
    dsimp only
    omega

/-- A line that ends with one of two carriage returns, an empty line, and a carriage return at the end of the text. -/
theorem partition_exact_returns :
    let lines := ofString "a\r\r\n\nü\r"
    lines.count = 3 ∧ lines.line 4 = .error (.lineOutOfRange 4 3) ∧ lines.Has 1 ⟨0, 2⟩ "a\r" [13, 10] ∧
      lines.lineOf 2 = .ok 1 ∧ lines.Has 3 ⟨5, 7⟩ "ü" [13] ∧ lines.lineOf 7 = .ok 3 ∧ 2 < 5 ∧
      lines.joined = .ok [97, 13, 13, 10, 10, 0xC3, 0xBC, 13] := by
  intro lines
  obtain ⟨hcount, hout, hin, horder, hjoined⟩ := partition_exact "a\r\r\n\nü\r"
  have hhas : ∀ {line : Nat} {span : Span} {shown : String} {ending : List UInt8}, 1 ≤ line → line ≤ 3 →
      lines.lineSpan line = .ok span → lines.line line = .ok shown → lines.lineEnd line = .ok ending →
      lines.Has line span shown ending := by
    intro line span shown ending hpos hle hspan hshown hending
    obtain ⟨_, _, _, hline, -⟩ := hin line hpos hle
    obtain rfl := Except.ok.inj (hspan.symm.trans hline.lineSpan_eq)
    obtain rfl := Except.ok.inj (hshown.symm.trans hline.line_eq)
    obtain rfl := Except.ok.inj (hending.symm.trans hline.lineEnd_eq)
    exact hline
  have hfirst : lines.Has 1 ⟨0, 2⟩ "a\r" [13, 10] := hhas (by decide) (by decide) (by decide) (by decide) (by decide)
  have hlast : lines.Has 3 ⟨5, 7⟩ "ü" [13] := hhas (by decide) (by decide) (by decide) (by decide) (by decide)
  exact ⟨hcount.trans (by decide), (hout 4 (.inr (by decide))).2, hfirst, hfirst.lineOf_eq 2 (by decide) (by decide),
    hlast, hlast.lineOf_eq 7 (by decide) (by decide),
    (horder 1 3 _ _ (by decide) hfirst.lineSpan_eq hlast.lineSpan_eq).2, hjoined.trans (by decide)⟩

end Lines

end ProposalCheck
