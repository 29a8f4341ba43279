import ProposalCheck.Diagnostic.Render
import ProposalCheck.Proofs.Lint.Boundary
import ProposalCheck.Proofs.Lint.Line

/-!
# The place of a finding

A finding that is drawn names the place of its first mark. The drawing knows nothing but the excerpt, so it
counts lines and characters there; the document counts them from its own offsets. Both agree where the mark
starts with a byte of the excerpt: the carriage returns that the excerpt lacks come after everything else on
their lines.

## Main definitions

* `IsPlainBoundary`: an offset between characters, not behind a carriage return that ends a line
* `Context.Bears`: the lines of an excerpt bear a span
* `Context.markAt`: a mark on a span in an excerpt

## Main results

* `Context.locate_shownBytes`: the drawing finds the line and the column of the document
* `Snippet.render_place`: a finding names the line and the column of its first span
-/

namespace ProposalCheck

variable {cs pre post : List Char}

/-! ### Counting characters -/

theorem charsWithin_append (pre post : List Char) :
    charsWithin (byteLength pre) (pre ++ post) = pre.length := by
  induction pre with
  | nil =>
    cases post with
    | nil => rfl
    | cons c post => simp [charsWithin, byteLength, c.utf8Size_pos]
  | cons c pre ih =>
    rw [List.cons_append, byteLength, charsWithin, if_neg (by omega), Nat.add_sub_cancel_left, ih, List.length_cons]

/-! ### Offsets of an excerpt -/

/-- Where a drawing finds an offset on a row of its excerpt. -/
theorem PlacedMark.locate_of_getElem? {source : String} {j offset : Nat} {row : Row}
    (h : (Row.ofChars 0 source.toList)[j]? = some row) (hstart : row.start ≤ offset)
    (hstop : offset ≤ row.start + byteLength row.chars) :
    locate (Row.ofChars 0 source.toList) offset = (j, charsWithin (offset - row.start) row.chars) := by
  have hrow : (Lines.ofString source).rowList[j]? = some row := h
  have hsize := Lines.stop_le_size hrow
  have hline := Lines.lineOf_of_le hrow hstart hstop (Nat.le_trans hstop hsize)
  obtain ⟨k, hcount, hk⟩ : ∃ k, (Row.ofChars 0 source.toList).countP (fun row => row.start ≤ offset) = k + 1 ∧
      k = j := by
    refine ⟨j, ?_, rfl⟩
    rw [Lines.lineOf, if_neg (by omega)] at hline
    have hcount := Except.ok.inj hline
    rwa [Int.toNat_natCast, ← Array.countP_toList] at hcount
  rw [locate, hcount, Nat.add_sub_cancel, hk, h]

/-! ### Offsets of a document -/

/-- An offset between two characters or at an end of a text, but neither within a line end of two characters
nor behind a carriage return at the end of the text. -/
def IsPlainBoundary (cs : List Char) (offset : Nat) : Prop :=
  ∃ before after, cs = before ++ after ∧ byteLength before = offset ∧
    ¬(before.getLast? = some '\r' ∧ (after = [] ∨ after.head? = some '\n'))

/-- Such an offset on a row comes behind some characters of its text. -/
theorem IsPlainBoundary.exists_text {lines : Lines} {k offset : Nat} {row : Row}
    (h : IsPlainBoundary lines.source.toList offset) (hrow : lines.rowList[k]? = some row)
    (hstart : row.start ≤ offset) (hstop : offset ≤ row.start + byteLength row.chars) :
    ∃ pre post, Row.dropReturn row.chars = pre ++ post ∧ offset = row.start + byteLength pre := by
  obtain ⟨front, back, hcut, hfront, hplain⟩ := h
  obtain ⟨before, after, hsource, hbefore, hafter⟩ := Lines.exists_source_eq hrow
  -- cut off what comes before the row, and then what comes behind it
  obtain ⟨pre, rfl, hrest⟩ := exists_gap_of_append_eq (hsource.symm.trans hcut) (by omega)
  rw [byteLength_append] at hfront
  obtain ⟨post, hchars, hback⟩ := exists_gap_of_append_eq hrest.symm (by omega)
  refine ⟨pre, ?_⟩
  rcases Row.dropReturn_cases row.chars with ⟨heq, -⟩ | heq
  · exact ⟨post, by rw [heq, hchars], by omega⟩
  · -- the offset does not come behind the carriage return that ends the row
    rcases List.eq_nil_or_concat post with rfl | ⟨post, c, rfl⟩
    · refine absurd ⟨?_, ?_⟩ hplain
      · rw [hchars, List.append_nil] at heq
        rw [List.getLast?_append, heq]
        simp
      · rwa [hback]
    · refine ⟨post, ?_, by omega⟩
      rw [heq, List.concat_eq_append, ← List.append_assoc] at hchars
      exact List.append_inj_left' hchars rfl

namespace Context

variable {context : Context} {first last k : Nat}

/-- The drawing of an excerpt finds an offset on the line and in the column that it has in the document. -/
theorem locate_shownBytes {count offset line : Nat} {top : Row} (htop : context.lines.rowList[k]? = some top)
    (hstart : top.start ≤ offset) (hline : context.lines.lineOf offset = .ok line) (hlast : line ≤ k + count)
    (hplain : IsPlainBoundary context.lines.source.toList offset) :
    ∃ j column, context.lines.position offset = .ok (k + j + 1, column + 1) ∧
      PlacedMark.locate (Row.ofChars 0 (context.excerptText k count).toList)
        (context.shownBytes top.start offset).length = (j, column) := by
  obtain ⟨j, row, hlineOf, hrow, hshown⟩ := context.shownBytes_eq htop hstart (Lines.le_size_of_lineOf hline)
  obtain ⟨hrowStart, hrowStop⟩ := Lines.le_of_lineOf hrow hlineOf
  obtain ⟨pre, post, htext, rfl⟩ := hplain.exists_text hrow hrowStart hrowStop
  have hjlt : j < count := by
    have := Except.ok.inj (hline.symm.trans hlineOf)
    omega
  refine ⟨j, pre.length, ?_, ?_⟩
  · -- in the document, the characters of the row come before the offset
    obtain ⟨tail, hchars⟩ := Row.exists_append_of_dropReturn row.chars
    rw [htext, List.append_assoc] at hchars
    have hrowOk := Lines.row_of_getElem? hrow
    rw [← Int.natCast_one, ← Int.natCast_add] at hrowOk
    rw [Lines.position, hlineOf]
    simp only [bind, Except.bind, hrowOk, pure, Except.pure]
    rw [Int.toNat_natCast, Nat.add_sub_cancel_left, hchars, List.append_assoc,
      charsBefore_append]
  · -- in the excerpt, they come before what shows of the document up to there
    have hlength : (context.shownBytes top.start (row.start + byteLength pre)).length =
        (Row.joined ((context.lines.rowList.drop k).take j)).length + byteLength pre := by
      rw [hshown, List.length_append, List.length_take, Nat.add_sub_cancel_left, Row.bytes, length_charBytes, htext,
        byteLength_append, Nat.min_eq_left (Nat.le_add_right _ _)]
    rw [hlength, PlacedMark.locate_of_getElem? (getElem?_excerptText hrow hjlt) (Nat.le_add_right _ _), Nat.add_sub_cancel_left,
      htext, charsWithin_append]
    rw [htext, byteLength_append]
    omega

/-- A span stands on the lines from `first` to `last` of a document, and it starts with a byte of the excerpt, or
with a line end as a whole. -/
structure Bears (context : Context) (first last : Nat) (span : Span) : Prop where
  start_le : span.start ≤ span.stop
  first : ∃ row, context.lines.row first = .ok row ∧ row.start ≤ span.start
  last : ∃ line, context.lines.lineOf span.stop = .ok line ∧ line ≤ last
  start : IsPlainBoundary context.lines.source.toList span.start

/-- Lines that bear a span are lines of the document. -/
theorem Bears.exists_row {span : Span} (h : context.Bears first last span) :
    ∃ k count top, first = k + 1 ∧ last = k + count ∧ context.lines.rowList[k]? = some top := by
  obtain ⟨⟨row, hrow, hstart⟩, line, hline, hlast⟩ := h.first, h.last
  obtain ⟨k, rfl, htop⟩ := Lines.exists_of_row hrow
  obtain ⟨j, -, hlineOf, -⟩ := context.shownBytes_eq htop (Nat.le_trans hstart h.start_le)
    (Lines.le_size_of_lineOf hline)
  obtain rfl := Except.ok.inj (hline.symm.trans hlineOf)
  exact ⟨k, last - k, row, rfl, by omega, htop⟩

/-- A mark on a span, with a label and perhaps a severity, in an excerpt whose first line is `first`. -/
def markAt (context : Context) (first : Nat) (place : Span × String × Option Severity) : Finding Mark := do
  let range ← PositionError.asRuleError (context.linesRange first place.1.start place.1.stop)
  checkMark range place.2.1 place.2.2

/-- What is marked covers what shows of the span. -/
def markShown (context : Context) (top : Row) (place : Span × String × Option Severity) : Mark where
  range := ⟨(context.shownBytes top.start place.1.start).length, (context.shownBytes top.start place.1.stop).length⟩
  label := place.2.1
  severity := place.2.2

/-- A span on the lines of an excerpt can be marked in it. -/
theorem markAt_eq {count : Nat} {top : Row} {place : Span × String × Option Severity}
    (htop : context.lines.rowList[k]? = some top) (h : context.Bears (k + 1) (k + count) place.1) :
    context.markAt (k + 1) place = .ok (context.markShown top place) ∧ top.start ≤ place.1.start ∧
      (context.markShown top place).range.stop ≤ (context.excerptText k count).utf8ByteSize := by
  obtain ⟨⟨row, hrow, hstart⟩, line, hline, hlast⟩ := h.first, h.last
  rw [Int.natCast_add, Int.natCast_one] at hrow
  obtain rfl := Option.some.inj (htop.symm.trans (Lines.getElem?_of_row hrow))
  have hsize := Lines.le_size_of_lineOf hline
  have hs := context.excerptOffset_eq htop hstart (Nat.le_trans h.start_le hsize)
  have he := context.excerptOffset_eq htop (Nat.le_trans hstart h.start_le) hsize
  have hle := context.length_shownBytes_le hstart h.start_le
  have hprefix := context.shownBytes_prefix htop (Nat.le_trans hstart h.start_le) hline hlast
  refine ⟨?_, hstart, ?_⟩
  · rw [markAt, linesRange, Int.natCast_add, Int.natCast_one, hs, he]
    exact checkMark_eq hle place.2.1 place.2.2
  · rw [← length_textBytes]
    exact hprefix.length_le

end Context

/-! ### The first mark -/

namespace PlacedMark

theorem before_trans (a b c : PlacedMark) (hab : before a b) (hbc : before b c) : before a c := by
  simp only [before, Bool.or_eq_true, decide_eq_true_eq, Bool.and_eq_true] at hab hbc ⊢
  omega

theorem before_total (a b : PlacedMark) : before a b || before b a := by
  simp only [before, Bool.or_eq_true, decide_eq_true_eq, Bool.and_eq_true]
  omega

theorem start_le_of_before {a b : PlacedMark} (h : before a b) : a.range.start ≤ b.range.start := by
  simp only [before, Bool.or_eq_true, decide_eq_true_eq, Bool.and_eq_true] at h
  omega

/-- The first of sorted marks starts before all others. -/
theorem exists_first {marks : List PlacedMark} (h : marks ≠ []) :
    ∃ first rest, marks.mergeSort before = first :: rest ∧ first ∈ marks ∧
      ∀ mark ∈ marks, first.range.start ≤ mark.range.start := by
  have hperm := List.mergeSort_perm marks before
  have hsorted := List.pairwise_mergeSort before_trans before_total marks
  cases hsort : marks.mergeSort before with
  | nil =>
    rw [hsort] at hperm
    exact absurd hperm.symm.eq_nil h
  | cons first rest =>
    rw [hsort] at hperm hsorted
    refine ⟨first, rest, rfl, hperm.subset List.mem_cons_self, fun mark hmark => ?_⟩
    rcases List.mem_cons.mp (hperm.symm.subset hmark) with rfl | hrest
    · exact Nat.le_refl _
    · exact start_le_of_before ((List.pairwise_cons.mp hsorted).1 mark hrest)

end PlacedMark

namespace Snippet

/-- The place of a finding comes below its heading: that of the first mark of its first excerpt. -/
theorem exists_render_eq {snippet : Snippet} {excerpt : Excerpt} {excerpts : List Excerpt} {origin : String}
    {first : PlacedMark} {marks : List PlacedMark} (hexcerpts : snippet.excerpts = excerpt :: excerpts)
    (horigin : excerpt.origin = some origin)
    (hmarks : (excerpt.marks.map (PlacedMark.place (Row.ofChars 0 excerpt.source.toList)
      (snippet.title.severity.getD .error))).mergeSort PlacedMark.before = first :: marks) :
    ∃ below, snippet.render = heading snippet.title (snippet.title.severity.getD .error) ++ "\n" ++
      (String.ofList (List.replicate (numberWidth snippet.excerpts) ' ') ++
        s!"--> {origin}:{excerpt.lineStart + first.startLine}:{first.startColumn + 1}") ++ "\n" ++ below := by
  generalize hseverity : snippet.title.severity.getD .error = severity at *
  -- the rows of a finding begin with its heading, the place and a blank row, whatever else it has
  obtain ⟨below, hrows⟩ : ∃ below, snippet.renderRows = heading snippet.title severity ::
      (Drawing.ofExcerpt excerpt (numberWidth snippet.excerpts) severity).placeRow true origin ::
        Drawing.blankRow (numberWidth snippet.excerpts) :: below := by
    rw [renderRows, hseverity, hexcerpts, excerptRows, Drawing.allRows,
      show (Drawing.ofExcerpt excerpt _ severity).excerpt.origin = some origin from horigin]
    exact ⟨_, rfl⟩
  have hplace : (Drawing.ofExcerpt excerpt (numberWidth snippet.excerpts) severity).placeRow true origin =
      String.ofList (List.replicate (numberWidth snippet.excerpts) ' ') ++
        s!"--> {origin}:{excerpt.lineStart + first.startLine}:{first.startColumn + 1}" := by
    rw [Drawing.placeRow, show (Drawing.ofExcerpt excerpt _ severity).marks = first :: marks from hmarks]
    rfl
  rw [render, hrows, hplace, String.intercalate_cons_of_ne_nil (List.cons_ne_nil _ _),
    String.intercalate_cons_of_ne_nil (List.cons_ne_nil _ _)]
  exact ⟨_, by simp only [String.append_assoc]; rfl⟩

/-- A finding in a document with an origin, whose first excerpt has the lines from `first` to `last` and marks some
spans on them, is drawn with the place of the span that starts first: its line and its column in the document. -/
theorem render_place {context : Context} {origin : String} {first last : Nat}
    {places : List (Span × String × Option Severity)} (horigin : context.document.origin = some origin)
    (hlast : last ≤ context.lines.count) (hne : places ≠ [])
    (hplaces : ∀ place ∈ places, context.Bears first last place.1) (fold : Bool) :
    ∃ marks excerpt, places.mapM (context.markAt first) = .ok marks ∧
      context.linesExcerpt first last marks fold = .ok excerpt ∧
      ∀ place ∈ places, (∀ other ∈ places, place.1.start ≤ other.1.start) →
        ∃ line column, context.lines.position place.1.start = .ok (line, column) ∧
          ∀ (snippet : Snippet) (excerpts : List Excerpt), snippet.excerpts = excerpt :: excerpts → ∃ below,
            snippet.render = heading snippet.title (snippet.title.severity.getD .error) ++ "\n" ++
              (String.ofList (List.replicate (numberWidth snippet.excerpts) ' ') ++
                s!"--> {origin}:{line}:{column}") ++ "\n" ++ below := by
  obtain ⟨k, count, top, rfl, rfl, htop⟩ : ∃ k count top, first = k + 1 ∧ last = k + count ∧
      context.lines.rowList[k]? = some top := by
    obtain ⟨place, hplace⟩ := List.exists_mem_of_ne_nil places hne
    exact (hplaces place hplace).exists_row
  have hmarks : places.mapM (context.markAt (k + 1)) = .ok (places.map (context.markShown top)) :=
    mapM_eq_ok fun place hplace => (Context.markAt_eq htop (hplaces place hplace)).1
  have hstop : ∀ mark ∈ places.map (context.markShown top),
      mark.range.stop ≤ (context.excerptText k count).utf8ByteSize := by
    intro mark hmark
    obtain ⟨place, hplace, rfl⟩ := List.mem_map.mp hmark
    exact (Context.markAt_eq htop (hplaces place hplace)).2.2
  have hlines := context.lines_excerpt hlast
  rw [← Int.natCast_one, ← Int.natCast_add, ← Int.natCast_add] at hlines
  refine ⟨_, _, hmarks, Context.linesExcerpt_eq hlines hstop fold, fun place hplace hleast => ?_⟩
  obtain ⟨stopLine, hstopLine, hstopLast⟩ := (hplaces place hplace).last
  obtain ⟨line, hline, hle⟩ := Lines.lineOf_mono (hplaces place hplace).start_le hstopLine
  obtain ⟨j, column, hposition, hlocate⟩ := Context.locate_shownBytes htop (Context.markAt_eq htop (hplaces place hplace)).2.1
    hline (Nat.le_trans hle hstopLast) (hplaces place hplace).start
  refine ⟨_, _, hposition, fun snippet excerpts hexcerpts => ?_⟩
  generalize hseverity : snippet.title.severity.getD .error = severity
  -- the first mark starts where the place does that comes first
  obtain ⟨mark, marks, hsort, hmem, hfirst⟩ := @PlacedMark.exists_first
    ((places.map (context.markShown top)).map
      (PlacedMark.place (Row.ofChars 0 (context.excerptText k count).toList) severity)) (by simpa using hne)
  have hmark : (mark.startLine, mark.startColumn) = (j, column) := by
    obtain ⟨_, hshown, rfl⟩ := List.mem_map.mp hmem
    obtain ⟨other, hother, rfl⟩ := List.mem_map.mp hshown
    have hle := hfirst _ (List.mem_map_of_mem (List.mem_map_of_mem hplace))
    have hge := context.length_shownBytes_le (Context.markAt_eq htop (hplaces place hplace)).2.1 (hleast other hother)
    have hstart : (context.markShown top other).range.start = (context.shownBytes top.start place.1.start).length :=
      Nat.le_antisymm hle hge
    rw [← hlocate, ← hstart]
    rfl
  obtain ⟨hstartLine, hstartColumn⟩ := Prod.mk.inj hmark
  obtain ⟨below, hrender⟩ := exists_render_eq hexcerpts horigin (hseverity ▸ hsort)
  refine ⟨below, ?_⟩
  have hnumber : ((k + 1 : Nat) : Int) + (j : Nat) = ((k + j + 1 : Nat) : Int) := by omega
  rw [hrender, hseverity, hstartLine, hstartColumn, hnumber]
  rfl

/-- A place behind a character of two bytes, and one below it that is marked first, in a document with line ends of
two characters. -/
theorem render_place_returns :
    let context : Context :=
      { document := ⟨some "eip-1.md", .ofString "---\r\né: b\r\n---\r\n", ⟨[]⟩, ⟨#[], 1⟩⟩ }
    ∃ marks excerpt,
      [(⟨12, 15⟩, "below", none), (⟨9, 10⟩, "", some .help)].mapM (context.markAt 1) = .ok marks ∧
      context.linesExcerpt 1 3 marks true = .ok excerpt ∧
      ∃ below, render { title := { label := "title" }, excerpts := [excerpt] } =
        "error: title" ++ "\n" ++ (String.ofList (List.replicate (numberWidth [excerpt]) ' ') ++
          "--> eip-1.md:2:4") ++ "\n" ++ below := by
  intro context
  have hplaces : ∀ place ∈ [((⟨12, 15⟩ : Span), "below", (none : Option Severity)), (⟨9, 10⟩, "", some .help)],
      context.Bears 1 3 place.1 := by
    intro place hplace
    simp only [List.mem_cons, List.not_mem_nil, or_false] at hplace
    rcases hplace with rfl | rfl
    · refine ⟨by decide, ⟨⟨0, "---\r".toList⟩, rfl, by decide⟩, ⟨3, rfl, by decide⟩, ?_⟩
      exact ⟨"---\r\né: b\r\n".toList, "---\r\n".toList, by decide, rfl, by decide⟩
    · refine ⟨by decide, ⟨⟨0, "---\r".toList⟩, rfl, by decide⟩, ⟨2, rfl, by decide⟩, ?_⟩
      exact ⟨"---\r\né: ".toList, "b\r\n---\r\n".toList, by decide, rfl, by decide⟩
  obtain ⟨marks, excerpt, hmarks, hexcerpt, hrender⟩ :=
    @render_place context "eip-1.md" 1 3 _ rfl (by decide) (List.cons_ne_nil _ _) hplaces true
  -- the place that is shown is that of the mark that starts first, not of the one that is listed first
  obtain ⟨line, column, hposition, hrender⟩ := hrender (⟨9, 10⟩, "", some .help) (by simp) (by simp)
  have hplace : context.lines.position 9 = .ok (2, 4) := by rfl
  obtain ⟨rfl, rfl⟩ := Prod.mk.inj (Except.ok.inj (hposition.symm.trans hplace))
  obtain ⟨below, hbelow⟩ := hrender { title := { label := "title" }, excerpts := [excerpt] } [] rfl
  exact ⟨marks, excerpt, hmarks, hexcerpt, below, hbelow⟩

end Snippet

end ProposalCheck
