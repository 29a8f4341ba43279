import ProposalCheck.Proofs.Lint.Excerpt
import ProposalCheck.Proofs.Lint.Line

/-!
# Excerpts with one mark

A rule marks bytes of the document that stand on the lines of an excerpt. The mark is then within the
excerpt, and what it covers is what the excerpt shows of these bytes.

## Main definitions

* `Context.Marks`: a range of an excerpt holds some bytes of the document

## Main results

* `Context.exists_excerpt`: bytes on the lines of an excerpt can be marked in it
* `Context.Marks.marked`: what is marked is what shows of the bytes
* `Context.Marks.eq_whole`: from its first line to its last one, an excerpt is marked as a whole
-/

namespace ProposalCheck

namespace Row

/-- Texts of rows joined by line feeds end with the text of the last row. -/
theorem joined_append_bytes {rows : List Row} {k : Nat} {row : Row} (h : rows[k]? = some row)
    (hlast : k + 1 = rows.length) :
    joined (rows.take k) ++ row.bytes = textBytes ("\n".intercalate (rows.map text)) := by
  induction rows generalizing k with
  | nil => simp at h
  | cons first rest ih =>
    cases k with
    | zero =>
      obtain rfl : first = row := by simpa using h
      obtain rfl : rest = [] := by simpa using hlast
      simp [joined, textBytes_text]
    | succ k =>
      have hrest : rest[k]? = some row := by simpa using h
      have hne : rest.map text ≠ [] := by
        rintro hnil
        simp [List.map_eq_nil_iff.mp hnil] at hrest
      rw [List.map_cons, String.intercalate_cons_of_ne_nil hne, textBytes_append, textBytes_append,
        textBytes_text, List.take_succ_cons, joined, List.flatMap_cons, ← joined, List.append_assoc,
        List.append_assoc, ih hrest (by simpa using hlast),
        show textBytes "\n" = [10] from textBytes_ofList ['\n'], List.append_assoc]

end Row

namespace Context

variable {context : Context} {first last start stop : Nat} {source : String} {range : Span}

/-- The lines from `first` to `last` are `source`, and a range of it holds the bytes of the document from
`start` to before `stop`: what is in front of the range, and what is in front of its end, is what shows of
the document up to there. -/
structure Marks (context : Context) (first last start stop : Nat) (source : String) (range : Span) :
    Prop where
  lines : context.lines.lines first last = .ok source
  start_le : range.start ≤ range.stop
  stop_le : range.stop ≤ source.utf8ByteSize
  bytes : ∃ row, context.lines.row first = .ok row ∧
    (textBytes source).take range.start = context.shownBytes row.start start ∧
    (textBytes source).take range.stop = context.shownBytes row.start stop

/-- Bytes of a document that stand on the lines of an excerpt can be marked in it. -/
theorem exists_excerpt {k line : Nat} {row : Row} (hrow : context.lines.rowList[k]? = some row)
    (hstart : row.start ≤ start) (hstop : start ≤ stop) (hline : context.lines.lineOf stop = .ok line)
    (hlast : line ≤ last) (hcount : last ≤ context.lines.count) (label : String) (fold : Bool) :
    ∃ source range, context.Marks (k + 1) last start stop source range ∧
      context.linesRange ((k + 1 : Nat) : Int) start stop = .ok (range.start, range.stop) ∧
      checkMark (range.start, range.stop) label = .ok { range, label } ∧
      context.linesExcerpt ((k + 1 : Nat) : Int) last [{ range, label }] fold =
        .ok { origin := context.document.origin, lineStart := (k + 1 : Nat), source, fold
              marks := [{ range, label }] } := by
  have hsize := Lines.le_size_of_lineOf hline
  obtain ⟨j, _, hline', hj, -⟩ := context.shownBytes_eq hrow (Nat.le_trans hstart hstop) hsize
  obtain rfl : line = k + j + 1 := Except.ok.inj (hline.symm.trans hline')
  obtain ⟨count, rfl⟩ : ∃ count, last = k + count := ⟨last - k, by omega⟩
  have hs := context.excerptOffset_eq hrow hstart (Nat.le_trans hstop hsize)
  have he := context.excerptOffset_eq hrow (Nat.le_trans hstart hstop) hsize
  have hprefix := context.shownBytes_prefix hrow (Nat.le_trans hstart hstop) hline hlast
  have hlines := context.lines_excerpt hcount
  generalize "\n".intercalate (((context.lines.rowList.drop k).take count).map Row.text) = source
    at hprefix hlines
  have hle := context.length_shownBytes_le hstart hstop
  have hend : (context.shownBytes row.start stop).length ≤ source.utf8ByteSize := by
    rw [← length_textBytes]
    exact hprefix.length_le
  -- what shows up to an offset is the front of the excerpt, as long as it is itself
  have htake : ∀ {offset : Nat}, context.shownBytes row.start offset <+: textBytes source →
      (textBytes source).take (context.shownBytes row.start offset).length =
        context.shownBytes row.start offset := fun h => (List.prefix_iff_eq_take.mp h).symm
  have hfirst := htake ((context.shownBytes_append hstart hstop ▸ List.prefix_append _ _).trans hprefix)
  have hsecond := htake hprefix
  generalize (context.shownBytes row.start start).length = s at hs hle hfirst
  generalize (context.shownBytes row.start stop).length = e at he hle hend hsecond
  refine ⟨source, ⟨s, e⟩, ⟨hlines, hle, hend, row, Lines.row_of_getElem? hrow, hfirst, hsecond⟩, ?_,
    checkMark_eq hle label none, linesExcerpt_eq hlines (fun mark hmark => ?_) fold⟩
  · rw [linesRange, Int.natCast_add, Int.natCast_one, hs, he]
    rfl
  · rw [List.mem_singleton.mp hmark]
    exact hend

/-- From the start of a line to the end of a later one, the texts of these lines show. -/
theorem shownBytes_rows {k j : Nat} {row lastRow : Row} (hrow : context.lines.rowList[k]? = some row)
    (hlastRow : context.lines.rowList[k + j]? = some lastRow) :
    context.shownBytes row.start lastRow.span.stop =
      Row.joined ((context.lines.rowList.drop k).take j) ++ lastRow.bytes := by
  have hspan : lastRow.span.stop = lastRow.start + byteLength (Row.dropReturn lastRow.chars) := rfl
  have hreturn := Row.byteLength_dropReturn_le lastRow.chars
  have hsize := Lines.stop_le_size hlastRow
  have hle := context.lines.tiles.start_le (Nat.le_add_right k j) hrow hlastRow
  have hline := Lines.lineOf_of_le hlastRow (by omega) (by omega : lastRow.span.stop ≤ _) (by omega)
  obtain ⟨j', row', hline', hrow', hshown⟩ := context.shownBytes_eq hrow
    (by omega : row.start ≤ lastRow.span.stop) (by omega)
  obtain rfl : j = j' := by
    have := Except.ok.inj (hline.symm.trans hline')
    omega
  obtain rfl : lastRow = row' := Option.some.inj (hlastRow.symm.trans hrow')
  have hbytes : lastRow.bytes.take (lastRow.span.stop - lastRow.start) = lastRow.bytes :=
    List.take_of_length_le (Nat.le_of_eq lastRow.length_bytes)
  rw [hshown, hbytes]

/-- An excerpt consists of the texts of its lines. -/
theorem Marks.textBytes_source {k j : Nat} {lastRow : Row} (hlastRow : context.lines.rowList[k + j]? = some lastRow)
    (h : context.Marks (k + 1) (k + j + 1) start stop source range) :
    textBytes source = Row.joined ((context.lines.rowList.drop k).take j) ++ lastRow.bytes := by
  obtain ⟨hlt, -⟩ := List.getElem?_eq_some_iff.mp hlastRow
  have hlines := context.lines_excerpt (show k + (j + 1) ≤ context.lines.count by
    rw [← Lines.length_rowList]; omega)
  have hrange := h.lines
  rw [Int.natCast_add, Int.natCast_one, show ((k + j + 1 : Nat) : Int) = (k : Int) + (j + 1 : Nat) by omega,
    hlines] at hrange
  obtain rfl := Except.ok.inj hrange
  have hget : ((context.lines.rowList.drop k).take (j + 1))[j]? = some lastRow := by
    rwa [List.getElem?_take_of_lt (Nat.lt_succ_self j), List.getElem?_drop]
  have hcount : j + 1 = ((context.lines.rowList.drop k).take (j + 1)).length := by
    rw [List.length_take, List.length_drop]
    omega
  rw [← Row.joined_append_bytes hget hcount, List.take_take, Nat.min_eq_left (Nat.le_succ j)]

/-- From the start of the first line to the end of the last one, the whole excerpt is marked. -/
theorem Marks.eq_whole {k j : Nat} {row lastRow : Row} (hrow : context.lines.rowList[k]? = some row)
    (hlastRow : context.lines.rowList[k + j]? = some lastRow)
    (h : context.Marks (k + 1) (k + j + 1) row.start lastRow.span.stop source range) :
    range = ⟨0, source.utf8ByteSize⟩ := by
  obtain ⟨other, hother, hstartBytes, hstopBytes⟩ := h.bytes
  rw [Int.natCast_add, Int.natCast_one, Lines.row_of_getElem? hrow] at hother
  obtain rfl := Except.ok.inj hother
  have hstop := h.stop_le
  -- nothing shows before the first line, and all of the last line before its end
  have hnone : context.shownBytes row.start row.start = [] := by simp [shownBytes, keptBytes]
  rw [hnone] at hstartBytes
  rw [shownBytes_rows hrow hlastRow, ← h.textBytes_source hlastRow] at hstopBytes
  have hstart : range.start = 0 := by
    have hlength := congrArg List.length hstartBytes
    have := h.start_le
    rw [List.length_take, length_textBytes, List.length_nil] at hlength
    omega
  have hend : range.stop = source.utf8ByteSize := by
    have hlength := congrArg List.length hstopBytes
    rw [List.length_take, length_textBytes] at hlength
    omega
  rw [← hstart, ← hend]

/-- What is marked is what shows of the marked bytes. -/
theorem Marks.marked {row : Row} (hrow : context.lines.row first = .ok row) (hstart : row.start ≤ start)
    (hstop : start ≤ stop) (h : context.Marks first last start stop source range) :
    ((textBytes source).take range.stop).drop range.start = context.shownBytes start stop := by
  obtain ⟨other, hother, hstartBytes, hstopBytes⟩ := h.bytes
  obtain rfl : row = other := Except.ok.inj (hrow.symm.trans hother)
  have hlength := congrArg List.length hstartBytes
  have := h.start_le
  have := h.stop_le
  rw [List.length_take, length_textBytes, Nat.min_eq_left (by omega)] at hlength
  rw [hstopBytes, context.shownBytes_append hstart hstop, hlength, List.drop_left]

/-- What shows of a row up to an offset on it is its text up to there. -/
theorem shownBytes_row {k offset : Nat} {row : Row} (hrow : context.lines.rowList[k]? = some row)
    (hstart : row.start ≤ offset) (hstop : offset ≤ row.start + byteLength row.chars) :
    context.shownBytes row.start offset = row.bytes.take (offset - row.start) := by
  have hsize := Nat.le_trans hstop (Lines.stop_le_size hrow)
  obtain ⟨j, other, hline, hother, hshown⟩ := context.shownBytes_eq hrow hstart hsize
  obtain rfl : j = 0 := by
    have := Except.ok.inj (hline.symm.trans (Lines.lineOf_of_le hrow hstart hstop hsize))
    omega
  obtain rfl : row = other := Option.some.inj (hrow.symm.trans hother)
  simpa [Row.joined] using hshown

end Context

end ProposalCheck
