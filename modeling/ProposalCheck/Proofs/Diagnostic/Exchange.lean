import ProposalCheck.Proofs.Validation.Shape
import ProposalCheck.Report.Reporter

/-!
# Findings that are written and read again

A finding is accepted if every range that it marks is in order and ends within its excerpt. What is written of such a
finding is read as the same finding again, whatever other members stand behind. Settling severities and adding notes
leaves all ranges as they are, so whatever reaches a reporter can be read back from its reports.

## Main definitions

* `Snippet.IsAccepted`: all marked ranges are in order and within their excerpts
* `Snippet.IsMade`: findings that were read, and copies of them with severities settled or with more notes
* `Json.KeepsText`: a report whose text is the same with and without the text that comes with it
* `Reporter.Maintains`: what holds of the state of a reporter after each finding

## Main results

* `Snippet.isAccepted_iff`: the findings that are accepted are those that can be read
* `Snippet.isMade_iff`: copies of accepted findings are accepted
* `Reporter.Maintains.reportAll`: what one report maintains, many maintain
* `Snippet.reads_back`: accepted findings and copies of them are read back, and their reports keep their texts
-/

namespace ProposalCheck

open Checked Shape

/-! ### Notes and marks -/

@[simp] theorem Severity.ofName?_name (severity : Severity) : ofName? severity.name = some severity := by
  cases severity <;> rfl

@[simp] theorem nullable_ofText? (content : Option String) : nullable text (.ofText? content) = .ok content := by
  cases content <;> rfl

@[simp] theorem nullable_ofSeverity? (severity : Option Severity) :
    nullable (oneOf Severity.ofName?) (.ofSeverity? severity) = .ok severity := by
  cases severity with
  | none => rfl
  | some severity => cases severity <;> rfl

theorem Note.ofJson_toJson (note : Note) : ofJson note.toJson = .ok note := by
  simp [toJson, ofJson, Shape.optional, Json.lookup, within, both, Except.map]

namespace Mark

theorem checkRange_eq_ok_iff {start stop : Int} {range : Span} :
    checkRange start stop = .ok range ↔
      start = range.start ∧ stop = range.stop ∧ range.start ≤ range.stop := by
  rw [checkRange]
  split_ifs with hbad
  · simp only [false_iff]
    omega
  · rw [Except.ok.injEq]
    constructor
    · rintro rfl
      dsimp only
      omega
    · rintro ⟨rfl, rfl, -⟩
      simp

theorem ofJson_toJson {mark : Mark} (h : mark.range.start ≤ mark.range.stop) : ofJson mark.toJson = .ok mark := by
  have hrange := checkRange_eq_ok_iff.mpr ⟨rfl, rfl, h⟩
  simp [toJson, Span.toJson, Json.ofNat, ofJson, Shape.required, Shape.optional, pairOf, Json.lookup, within, both,
    hrange]

/-- The range of a mark that was read is in order. -/
theorem start_le_of_ofJson {data : Json} {mark : Mark} (h : ofJson data = .ok mark) :
    mark.range.start ≤ mark.range.stop := by
  cases data with
  | obj members =>
    rw [ofJson] at h
    split at h
    · cases h
    · split at h
      · rename_i hrange
        cases h
        exact (checkRange_eq_ok_iff.mp hrange).2.2
      · cases h
  | null | bool _ | int _ | float _ | str _ | arr _ => cases h

end Mark

/-! ### Excerpts -/

/-- Every range that is marked in an excerpt is in order and ends within it. -/
def Excerpt.IsAccepted (excerpt : Excerpt) : Prop :=
  ∀ mark ∈ excerpt.marks, mark.range.start ≤ mark.range.stop ∧ mark.range.stop ≤ excerpt.source.utf8ByteSize

namespace Excerpt

variable {excerpt : Excerpt}

theorem checked_eq_ok_iff {other : Excerpt} : checked excerpt = .ok other ↔
    excerpt = other ∧ ∀ mark ∈ excerpt.marks, mark.range.stop ≤ excerpt.source.utf8ByteSize := by
  have hproblem : excerpt.problem? = none ↔ ∀ mark ∈ excerpt.marks, mark.range.stop ≤ excerpt.source.utf8ByteSize := by
    simp [problem?]
  rw [checked, ← hproblem]
  cases excerpt.problem? <;> simp [fail]

theorem IsAccepted.ofJson_toJson (h : excerpt.IsAccepted) : ofJson excerpt.toJson = .ok excerpt := by
  have hmarks : listOf Mark.ofJson (.arr (excerpt.marks.map Mark.toJson)) = .ok excerpt.marks :=
    listOf_map fun mark hmark => Mark.ofJson_toJson (h mark hmark).1
  have hchecked : checked excerpt = .ok excerpt := checked_eq_ok_iff.mpr ⟨rfl, fun mark hmark => (h mark hmark).2⟩
  simp [toJson, ofJson, Shape.required, Shape.optional, truth, Json.lookup, within, both, hmarks, hchecked]

theorem isAccepted_of_ofJson {data : Json} (h : ofJson data = .ok excerpt) : excerpt.IsAccepted := by
  cases data with
  | obj members =>
    rw [ofJson] at h
    split at h
    · cases h
    · rename_i hread
      obtain ⟨rfl, hstop⟩ := checked_eq_ok_iff.mp h
      simp only [both_eq_ok_iff] at hread
      obtain ⟨-, -, -, -, hmarks⟩ := hread
      intro mark hmark
      refine ⟨?_, hstop mark hmark⟩
      rcases optional_eq_ok_iff.mp hmarks with ⟨-, rfl⟩ | ⟨value, -, hvalue⟩
      · cases hmark
      · exact forall_of_listOf hvalue (fun _ _ => Mark.start_le_of_ofJson) mark hmark
  | null | bool _ | int _ | float _ | str _ | arr _ => cases h

theorem IsAccepted.resolve (h : excerpt.IsAccepted) (default : Severity) (ceiling : Option Severity) :
    (excerpt.resolve default ceiling).IsAccepted := List.forall_mem_map.mpr h

end Excerpt

/-! ### Findings -/

/-- An object without the members of a name. -/
def Json.erase (name : String) : Json → Json
  | .obj members => .obj (members.filter fun member => member.1 ≠ name)
  | value => value

theorem Json.lookup_filter_ne {name other : String} (hne : other ≠ name) (members : List (String × Json)) :
    lookup other (members.filter fun member => member.1 ≠ name) = lookup other members := by
  induction members with
  | nil => rfl
  | cons member rest ih =>
    by_cases hname : member.1 = name
    · rw [List.filter_cons_of_neg (by simpa using hname), ih, lookup, if_neg (hname.trans_ne hne.symm)]
    · rw [List.filter_cons_of_pos (by simpa using hname), lookup, lookup, ih]

namespace Snippet

variable {snippet : Snippet}

/-- All excerpts of a finding are accepted. -/
def IsAccepted (snippet : Snippet) : Prop := ∀ excerpt ∈ snippet.excerpts, excerpt.IsAccepted

theorem IsAccepted.ofJson_toJson (h : snippet.IsAccepted) : ofJson snippet.toJson = .ok snippet := by
  have hfooter : listOf Note.ofJson (.arr (snippet.footer.map Note.toJson)) = .ok snippet.footer :=
    listOf_map fun note _ => note.ofJson_toJson
  have hexcerpts : listOf Excerpt.ofJson (.arr (snippet.excerpts.map Excerpt.toJson)) = .ok snippet.excerpts :=
    listOf_map fun excerpt hexcerpt => (h excerpt hexcerpt).ofJson_toJson
  simp [toJson, toMembers, ofJson, Shape.required, Shape.optional, Json.lookup, within, both, Except.map,
    Note.ofJson_toJson, hfooter, hexcerpts]

theorem isAccepted_of_ofJson {data : Json} (h : ofJson data = .ok snippet) : snippet.IsAccepted := by
  cases data with
  | obj members =>
    rw [ofJson, map_eq_ok_iff] at h
    obtain ⟨⟨title, footer, excerpts⟩, hread, rfl⟩ := h
    simp only [both_eq_ok_iff] at hread
    obtain ⟨-, -, hexcerpts⟩ := hread
    rcases optional_eq_ok_iff.mp hexcerpts with ⟨-, rfl⟩ | ⟨value, -, hvalue⟩
    · exact List.forall_mem_nil _
    · exact forall_of_listOf hvalue fun _ _ => Excerpt.isAccepted_of_ofJson
  | null | bool _ | int _ | float _ | str _ | arr _ => cases h

/-- The findings that are accepted are those that can be read. -/
theorem isAccepted_iff : snippet.IsAccepted ↔ ∃ data, ofJson data = .ok snippet := by
  constructor
  · intro h
    exact ⟨_, h.ofJson_toJson⟩
  · rintro ⟨data, hdata⟩
    exact isAccepted_of_ofJson hdata

/-- The text that comes with a finding does not matter when the finding is read. -/
theorem ofJson_erase_formatted (data : Json) : ofJson (data.erase "formatted") = ofJson data := by
  cases data with
  | obj members =>
    have hne : "title" ≠ "formatted" ∧ "footer" ≠ "formatted" ∧ "slices" ≠ "formatted" := by decide
    simp only [Json.erase, ofJson, Shape.required, Shape.optional, Json.lookup_filter_ne hne.1,
      Json.lookup_filter_ne hne.2.1, Json.lookup_filter_ne hne.2.2]
  | null | bool _ | int _ | float _ | str _ | arr _ => rfl

/-- A finding that was read, or one that was made from it without looking at its ranges again. -/
inductive IsMade : Snippet → Prop where
  /-- A finding that was read from data. -/
  | read {data : Json} {snippet : Snippet} (h : ofJson data = .ok snippet) : IsMade snippet
  /-- A finding with its severities settled. -/
  | resolve {snippet : Snippet} (h : IsMade snippet) (slug : String) (default : Severity)
    (ceiling : Option Severity) : IsMade (snippet.resolve slug default ceiling)
  /-- A finding with one more note. -/
  | withNote {snippet : Snippet} (h : IsMade snippet) (note : Note) :
    IsMade { snippet with footer := snippet.footer ++ [note] }

/-- Copies keep the ranges and the texts in which they lie. -/
theorem IsMade.isAccepted (h : snippet.IsMade) : snippet.IsAccepted := by
  -- by induction on how the finding was made: only what is read has its ranges checked
  induction h with
  | read h => exact isAccepted_of_ofJson h
  | resolve _ slug default ceiling ih =>
    exact List.forall_mem_map.mpr fun excerpt hexcerpt => (ih excerpt hexcerpt).resolve default ceiling
  | withNote _ note ih => exact ih

theorem isMade_iff : snippet.IsMade ↔ snippet.IsAccepted := by
  constructor
  · exact IsMade.isAccepted
  · intro h
    obtain ⟨data, hdata⟩ := isAccepted_iff.mp h
    exact .read hdata

end Snippet

/-! ### Reports -/

/-- A report has the same text with and without the text that comes with it. -/
def Json.KeepsText (report : Json) : Prop :=
  ∃ text, Snippet.formatted report = .ok text ∧ Snippet.formatted (report.erase "formatted") = .ok text

theorem Snippet.erase_toJsonFormatted (snippet : Snippet) :
    snippet.toJsonFormatted.erase "formatted" = snippet.toJson := by
  simp [toJsonFormatted, toMembers, toJson, Json.erase]

theorem Snippet.IsAccepted.keepsText {snippet : Snippet} (h : snippet.IsAccepted) :
    snippet.toJsonFormatted.KeepsText := by
  refine ⟨snippet.render, ?_, ?_⟩
  · simp [toJsonFormatted, toMembers, formatted, Json.get?, Json.lookup]
  · have habsent : snippet.toJson.get? "formatted" = none := by simp [toJson, toMembers, Json.get?, Json.lookup]
    rw [erase_toJsonFormatted, formatted, habsent, h.ofJson_toJson]
    rfl

namespace Reporter

variable {σ ε : Type} {reporter : Reporter σ ε} {good : σ → Prop}

/-- What holds of the state of a reporter still holds after it took a finding, also if it failed on the finding. -/
def Maintains (reporter : Reporter σ ε) (good : σ → Prop) : Prop :=
  ∀ state snippet, good state → snippet.IsMade → good (reporter.report state snippet).1

theorem maintains_data : (data : Reporter (List Json) ε).Maintains fun kept => ∀ report ∈ kept, report.KeepsText := by
  intro kept snippet hkept hsnippet report hreport
  rcases List.mem_append.mp hreport with hold | hnew
  · exact hkept report hold
  · rw [List.mem_singleton.mp hnew]
    exact hsnippet.isAccepted.keepsText

theorem Maintains.withHelp (h : reporter.Maintains good) (help : String → Except ε String) :
    (reporter.withHelp help).Maintains good := by
  intro state snippet hstate hsnippet
  dsimp only [Reporter.withHelp]
  cases help (snippet.ruleId.getD "") with
  | error problem => exact hstate
  | ok line => exact h state _ hstate (hsnippet.withNote _)

theorem Maintains.counted (h : reporter.Maintains good) :
    reporter.counted.Maintains fun state => good state.2 :=
  fun state snippet hstate hsnippet => h state.2 snippet hstate hsnippet

/-- What each report maintains holds after many reports, and after the failure of one. -/
theorem Maintains.reportAll (h : reporter.Maintains good) {state : σ} (hstate : good state) {snippets : List Snippet}
    (hmade : ∀ snippet ∈ snippets, snippet.IsMade) : good (reporter.reportAll state snippets).1 := by
  induction snippets generalizing state with
  | nil => exact hstate
  | cons snippet rest ih =>
    have hstep := h state snippet hstate (hmade snippet List.mem_cons_self)
    rw [Reporter.reportAll]
    rcases hreport : reporter.report state snippet with ⟨next, _ | problem⟩ <;> rw [hreport] at hstep
    · exact ih hstep fun other hother => hmade other (List.mem_cons_of_mem _ hother)
    · exact hstep

end Reporter

/-- Findings that were read, and copies of them, are those whose ranges are in order and within their excerpts. They
are read back from their data with and without a text. The reports of such findings have the same text with and without
the text that comes with them, whether the findings are kept as they are or lines of help are added and the findings are
counted. -/
theorem Snippet.reads_back {ε : Type} {snippets : List Snippet} (hmade : ∀ snippet ∈ snippets, snippet.IsMade)
    (help : String → Except ε String) :
    (∀ snippet ∈ snippets, snippet.IsAccepted ∧ ofJson snippet.toJson = .ok snippet ∧
      ∀ data : Json, data.erase "formatted" = snippet.toJson → ofJson data = .ok snippet) ∧
    (∀ report ∈ ((Reporter.data : Reporter (List Json) ε).reportAll [] snippets).1, report.KeepsText) ∧
    (∀ report ∈ ((Reporter.data.withHelp help).reportAll [] snippets).1, report.KeepsText) ∧
    ∀ report ∈ ((Reporter.data.withHelp help).counted.reportAll ([], []) snippets).1.2, report.KeepsText := by
  have hempty : ∀ report ∈ ([] : List Json), report.KeepsText := List.forall_mem_nil _
  have hdata : (Reporter.data : Reporter (List Json) ε).Maintains _ := Reporter.maintains_data
  refine ⟨fun snippet hsnippet => ?_, hdata.reportAll hempty hmade, (hdata.withHelp help).reportAll hempty hmade,
    (hdata.withHelp help).counted.reportAll hempty hmade⟩
  have haccepted := (hmade snippet hsnippet).isAccepted
  have hread := haccepted.ofJson_toJson
  refine ⟨haccepted, hread, fun data hdata => ?_⟩
  rw [← ofJson_erase_formatted, hdata, hread]

/-- A finding that was read from data in which most members are missing, with its severities settled. -/
theorem Snippet.reads_back_title :
    let data : Json := .obj [("title", .obj [("label", .str "bad")]), ("slices", .arr [.obj [("line_start", .str "3"),
      ("source", .str "é!"), ("annotations", .arr [.obj [("range", .arr [.int 0, .int 2])]])]])]
    let snippet : Snippet := {
      title := { label := "bad" }
      excerpts := [{ lineStart := 3, source := "é!", marks := [{ range := ⟨0, 2⟩, label := "" }] }] }
    let settled := snippet.resolve "title" .error (some .warning)
    ofJson data = .ok snippet ∧ ofJson settled.toJsonFormatted = .ok settled ∧
      ∀ report ∈ ((Reporter.data : Reporter (List Json) Empty).reportAll [] [settled]).1, report.KeepsText := by
  intro data snippet settled
  have hread : ofJson data = .ok snippet := by rfl
  have hmade : ∀ other ∈ [settled], other.IsMade :=
    List.forall_mem_singleton.mpr (.resolve (.read hread) "title" .error (some .warning))
  obtain ⟨hback, hreports, -⟩ := reads_back hmade (fun _ => .ok "" : String → Except Empty String)
  exact ⟨hread, (hback settled (List.mem_singleton_self _)).2.2 _ settled.erase_toJsonFormatted, hreports⟩

end ProposalCheck
