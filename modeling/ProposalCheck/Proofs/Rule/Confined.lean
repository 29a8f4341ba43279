import ProposalCheck.Proofs.Document.Load
import ProposalCheck.Proofs.Rule.Embedded

/-!
# What the rule about embedded JSON finds in documents

The blocks of a document have a line for each line of their content, so what is found in an aligned fence is
shown on its lines. Fences need not be aligned, and a document may lack the last lines of a fence that runs
over carriage returns; then the rule may fail.

## Main definitions

* `Fence.IsPlaced`: a fence has a line for each line of its content
* `EmbeddedJsonRule.ReportsAll`: each violation is reported once, in order
* `EmbeddedJsonRule.IsConfined`: a finding is shown on the lines of a fence, with one mark on them

## Main results

* `EmbeddedJsonRule.fenceFindings_reportsAll`: in an aligned fence all violations are reported
* `EmbeddedJsonRule.checkWith_confined`: what is found in aligned fences is confined to them
-/

namespace ProposalCheck

namespace Body

variable {body : Body} {node : Node}

theorem mem_nodes_of_mem_fences (h : node ∈ body.fences) : node ∈ body.nodes ∧ node.kind = .fence := by
  obtain ⟨hmem, hkind⟩ := List.mem_filter.mp h
  exact ⟨mem_nodes_of_mem_visit hmem, of_decide_eq_true hkind⟩

end Body

namespace Fence

/-- A fence has a line for each line of its content below its first one, and no carriage returns in it. -/
structure IsPlaced (fence : Fence) : Prop where
  first_pos : 1 ≤ fence.first
  no_return : '\r' ∉ fence.content.toList
  room : fence.first + Markdown.lineCount fence.content.toList ≤ fence.last

theorem IsPlaced.first_le {fence : Fence} (h : fence.IsPlaced) : fence.first ≤ fence.last :=
  Nat.le_trans (Nat.le_add_right _ _) h.room

theorem isPlaced_of_mem_fences {document : Document} {text : String} {origin : Option String} {node : Node}
    {lines : Lines} {fence : Fence} (hdocument : Document.ofString text origin = .ok document)
    (hnode : node ∈ document.body.fences) (hfence : ofNode? lines node = some fence) : fence.IsPlaced := by
  obtain ⟨closing, -, -, hstands⟩ := Document.exists_stands hdocument
  obtain ⟨hmem, hkind⟩ := Body.mem_nodes_of_mem_fences hnode
  obtain ⟨hlies, hroom⟩ := hstands node hmem
  obtain ⟨start, stop, hlines, hreturn, hle⟩ := hroom hkind
  obtain ⟨place, hplace, rfl⟩ := Option.map_eq_some_iff.mp hfence
  obtain rfl := Option.some.inj (hlines.symm.trans hplace)
  obtain ⟨hfirst, -, -⟩ := hlies start stop hlines
  exact ⟨Nat.le_trans (Nat.le_add_left 1 closing) hfirst, hreturn, hle⟩

end Fence

namespace EmbeddedJsonRule

variable {context : Context} {fence : Fence}

/-- A finding has one excerpt, which starts at the first line of a fence and ends by its last one, and in it
one mark. -/
def IsConfined (context : Context) (fence : Fence) (snippet : Snippet) : Prop :=
  ∃ (last : Nat) (source : String) (fold : Bool) (range : Span) (label : String), last ≤ fence.last ∧
    context.lines.lines fence.first last = .ok source ∧
    range.start ≤ range.stop ∧ range.stop ≤ source.utf8ByteSize ∧
    snippet.excerpts = [{ origin := context.document.origin, lineStart := fence.first, source, fold
                          marks := [{ range, label }] }]

theorem isConfined_whole (rule : EmbeddedJsonRule) {source : String}
    (hsource : context.lines.lines fence.first fence.last = .ok source) (label : String) :
    IsConfined context fence
      (rule.snippet context fence fence.last source ⟨0, source.utf8ByteSize⟩ label) :=
  ⟨fence.last, source, _, _, _, Nat.le_refl _, hsource, Nat.zero_le _, Nat.le_refl _, rfl⟩

theorem Reports.isConfined {rule : EmbeddedJsonRule} {violation : Violation} {snippet : Snippet}
    (hplaced : fence.IsPlaced) (h : rule.Reports context fence violation snippet) :
    IsConfined context fence snippet := by
  rw [Reports] at h
  split at h
  · obtain ⟨start, last, line, source, range, -, hlast, hline, hmarks, rfl, -⟩ := h
    refine ⟨line, source, _, range, _, ?_, hmarks.lines, hmarks.start_le, hmarks.stop_le, rfl⟩
    -- the last byte that is marked is on one of the lines of the content
    obtain ⟨k, row, -, hk, hrow, hstart, hstop⟩ := hlast.exists_row
    have hspan : row.span.stop = row.start + byteLength (Row.dropReturn row.chars) := rfl
    have hreturn := Row.byteLength_dropReturn_le row.chars
    have hsize := Lines.stop_le_size hrow
    have hline' := Lines.lineOf_of_le hrow hstart (by omega) (by omega)
    obtain rfl := Except.ok.inj (hline.symm.trans hline')
    exact Nat.le_trans hk hplaced.room
  · obtain ⟨source, hsource, rfl⟩ := h
    exact rule.isConfined_whole hsource violation.message

/-- The fences that a rule is about. -/
def fences (rule : EmbeddedJsonRule) (context : Context) : List Fence :=
  (context.body.fences.filter rule.isMatch).filterMap (Fence.ofNode? context.lines)

/-- What is found in an aligned fence is confined to it, unless a number in it has too many digits. -/
theorem exists_confined (rule : EmbeddedJsonRule) {validator : Validator} (hplaced : fence.IsPlaced)
    (hfence : fence.lines = Fence.placeLines context.lines (fence.first + 1) 0 fence.texts)
    (hvalidator : ∀ value, ∃ violations, validator value = .ok violations)
    (hlast : fence.last ≤ context.lines.count) (haligned : fence.IsAligned context.lines)
    (hdigits : ∀ error digits, Json.decode fence.content = .error error →
      error.problem ≠ .tooManyDigits digits) :
    ∃ snippets, rule.fenceFindings context validator fence = .ok snippets ∧
      ∀ snippet ∈ snippets, IsConfined context fence snippet := by
  cases hvalue : Json.decode fence.content with
  | error error =>
    obtain ⟨source, hsource, hfinding⟩ :=
      rule.finding_none hplaced.first_pos hplaced.first_le hlast (decodeLabel error)
    refine ⟨[rule.snippet context fence fence.last source ⟨0, source.utf8ByteSize⟩ (decodeLabel error)], ?_, ?_⟩
    · rw [fenceFindings, hvalue]
      dsimp only
      split
      · -- a number with too many digits would be an error of the rule, not a finding
        rename_i digits hproblem
        exact absurd hproblem (hdigits error digits hvalue)
      · rw [hfinding]
        rfl
    · simpa using rule.isConfined_whole hsource (decodeLabel error)
  | ok value =>
    obtain ⟨violations, hviolations⟩ := hvalidator value
    obtain ⟨snippets, hfindings, hreports⟩ := rule.exists_reports hplaced.first_pos hplaced.first_le hlast
      haligned hfence hvalue hplaced.no_return hviolations
    exact ⟨snippets, hfindings, forall_of_forall₂ hreports fun _ _ hreport => hreport.isConfined hplaced⟩

/-- In a document that has the lines of all fences, with every fence aligned, the rule finds something in each
fence that is confined to it. -/
theorem checkWith_confined (rule : EmbeddedJsonRule) {text : String} {origin : Option String}
    {validator : Validator} (hdocument : Document.ofString text origin = .ok context.document)
    (hvalidator : ∀ value, ∃ violations, validator value = .ok violations)
    (hlast : ∀ fence ∈ rule.fences context, fence.last ≤ context.lines.count)
    (haligned : ∀ fence ∈ rule.fences context, fence.IsAligned context.lines)
    (hdigits : ∀ fence ∈ rule.fences context, ∀ error digits, Json.decode fence.content = .error error →
      error.problem ≠ .tooManyDigits digits) :
    ∃ findings, rule.checkWith (.ok validator) context = .ok findings.flatten ∧
      List.Forall₂ (fun fence snippets => ∀ snippet ∈ snippets, IsConfined context fence snippet)
        (rule.fences context) findings := by
  have hfences : ∀ fence ∈ rule.fences context, ∃ snippets,
      rule.fenceFindings context validator fence = .ok snippets ∧
        ∀ snippet ∈ snippets, IsConfined context fence snippet := by
    intro fence hmem
    obtain ⟨node, hnode, hfence⟩ := List.mem_filterMap.mp hmem
    exact rule.exists_confined
      (Fence.isPlaced_of_mem_fences hdocument (List.mem_of_mem_filter hnode) hfence)
      (Fence.texts_ofNode? hfence) hvalidator (hlast fence hmem) (haligned fence hmem) (hdigits fence hmem)
  obtain ⟨findings, hfindings, hconfined⟩ := exists_mapM_eq_ok hfences
  refine ⟨findings, ?_, hconfined⟩
  rw [checkWith, ← fences]
  -- the schema is not prepared where there is no fence
  split_ifs with hempty
  · rw [List.isEmpty_iff.mp hempty] at hconfined
    cases hconfined
    rfl
  · rw [hfindings]
    rfl

/-- A fence right after the preamble. -/
theorem checkWith_confined_plain : ∃ document,
    Document.ofString "---\na: b\n---\n\x60\x60\x60json\n\x7b\"x\": true\x7d\n\x60\x60\x60" none = .ok document ∧
    ∃ findings, (EmbeddedJsonRule.mk "json" "true" [] "").checkWith
        (.ok fun _ => .ok [⟨[.name "x"], "is not wanted"⟩]) ⟨document, {}⟩ = .ok findings.flatten ∧
      List.Forall₂ (fun fence snippets => ∀ snippet ∈ snippets, IsConfined ⟨document, {}⟩ fence snippet)
        ((EmbeddedJsonRule.mk "json" "true" [] "").fences ⟨document, {}⟩) findings := by
  obtain ⟨document, hdocument, hlines, hfences⟩ := Document.exists_of_map_ofString
    (by decide +kernel : (Document.ofString
        "---\na: b\n---\n\x60\x60\x60json\n\x7b\"x\": true\x7d\n\x60\x60\x60" none).map
      (fun document => (EmbeddedJsonRule.mk "json" "true" [] "").fences ⟨document, {}⟩) =
        .ok [⟨4, 6, "\x7b\"x\": true\x7d\n", [⟨0, 21⟩, ⟨12, 36⟩]⟩])
  refine ⟨document, hdocument, checkWith_confined _ hdocument (fun _ => ⟨_, rfl⟩) ?_ ?_ ?_⟩ <;>
    rw [hfences, List.forall_mem_singleton]
  · rw [Context.lines, hlines]
    decide +kernel
  · rw [Context.lines, hlines]
    decide +kernel
  · intro error digits herror
    have hvalue : (Json.decode "\x7b\"x\": true\x7d\n").toBool := by decide +kernel
    rw [herror] at hvalue
    cases hvalue

/-- A tab that indents the content of a fence in a list leaves spaces in it. The content is then not the end of
the line it came from, and the rule looks for a place beyond the document. -/
theorem not_checkWith_confined_tab :
    ¬ ∀ (rule : EmbeddedJsonRule) (context : Context) (text : String) (validator : Validator),
      Document.ofString text none = .ok context.document →
      (∀ value, ∃ violations, validator value = .ok violations) →
      (∀ fence ∈ rule.fences context, fence.last ≤ context.lines.count) →
      ∃ findings, rule.checkWith (.ok validator) context = .ok findings.flatten ∧
        List.Forall₂ (fun fence snippets => ∀ snippet ∈ snippets, IsConfined context fence snippet)
          (rule.fences context) findings := by
  intro h
  obtain ⟨document, hdocument, hlines, hoption⟩ := Document.exists_of_map_ofString
    (by decide +kernel : (Document.ofString
        "---\na: b\n---\n\n- \x60\x60\x60json\n\t\x7b\"x\": true\x7d" none).map
      (fun document => ((EmbeddedJsonRule.mk "json" "true" [] "").fences ⟨document, {}⟩,
        ((EmbeddedJsonRule.mk "json" "true" [] "").checkWith (.ok fun _ => .ok [⟨[], "is not wanted"⟩])
          ⟨document, {}⟩).toBool)) =
        .ok ([⟨5, 6, "  \x7b\"x\": true\x7d", [⟨0, 24⟩]⟩], false))
  obtain ⟨hfences, hfails⟩ := Prod.mk.inj hoption
  -- the fence ends within the document, and the rule fails all the same
  obtain ⟨findings, hfindings, -⟩ := h (EmbeddedJsonRule.mk "json" "true" [] "") ⟨document, {}⟩ _
    (fun _ => .ok [⟨[], "is not wanted"⟩]) hdocument (fun _ => ⟨_, rfl⟩) (by
      rw [hfences, List.forall_mem_singleton, Context.lines, hlines]
      decide +kernel)
  rw [hfindings] at hfails
  cases hfails

end EmbeddedJsonRule

end ProposalCheck
