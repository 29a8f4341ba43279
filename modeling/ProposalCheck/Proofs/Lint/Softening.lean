import ProposalCheck.Proofs.Diagnostic.Severity
import ProposalCheck.Proofs.Lint.Delivery

/-!
# Warnings in place of errors

If the findings of a rule only warn, a run still makes the same visits, asks for the same documents and
fails in the same way. It delivers the same findings, and only those of the rule are lowered.

The two runs are compared visit by visit: each visit of the one is the visit of the other with what it
finds lowered, and lowering does not change which visit is the first that fails.

## Main definitions

* `Linter.Softens`: two linters of which one counts a rule in full where the other lets it warn
* `Visit.lowered`: a visit with the findings of one rule lowered

## Main results

* `Linter.softens_take`: letting a rule warn makes such a pair
* `Linter.Softens.visits_eq`: the visits of the one are those of the other, lowered
* `Linter.Softens.runs_alike`: both runs fail alike or not at all, and deliver the same up to lowering
-/

namespace ProposalCheck

variable {ρ μ σ ε : Type}

namespace Visit

/-- The findings of a visit, lowered to warnings if they are those of the rule `slug`. -/
def lowerFound (slug : String) (found : String × List Snippet) : String × List Snippet :=
  if found.1 = slug then (found.1, found.2.map (·.lowered .warning)) else found

/-- A visit with the findings of the rule `slug` lowered to warnings. -/
def lowered (slug : String) (visit : Visit ε) : Visit ε := visit.map (lowerFound slug)

theorem delivered_map_lowered (slug : String) (visits : List (Visit ε)) :
    delivered (visits.map (lowered slug)) = (delivered visits).map (lowerFound slug) := by
  induction visits with
  | nil => rfl
  | cons visit rest ih =>
    cases visit with
    | error error => rfl
    | ok found => exact congrArg (lowerFound slug found :: ·) ih

theorem error?_map_lowered (slug : String) (visits : List (Visit ε)) :
    error? (visits.map (lowered slug)) = error? visits := by
  induction visits with
  | nil => rfl
  | cons visit rest ih =>
    cases visit with
    | error error => rfl
    | ok found => exact ih

end Visit

namespace Linter

/-- Two linters that differ in the level of the rule `slug` at most: it counts in full in the one and
lets its findings warn in the other. -/
structure Softens (slug : String) (strict lax : Linter ρ μ) : Prop where
  rules : lax.rules = strict.rules
  modifiers : lax.modifiers = strict.modifiers
  source : lax.source = strict.source
  timeLimit : lax.timeLimit = strict.timeLimit
  foldThreshold : lax.foldThreshold = strict.foldThreshold
  queue : lax.queue = strict.queue
  strict_level : strict.level slug = .deny
  lax_level : lax.level slug = .warn
  other_level : ∀ name, name ≠ slug → lax.level name = strict.level name

/-- Letting a rule warn that counts in full so far. -/
theorem softens_take {linter : Linter ρ μ} {slug : String} (hopen : linter.isOpen)
    (hregistered : linter.isRegistered slug) (hlevel : linter.level slug = .deny) :
    linter.Softens slug (linter.take (.warn slug)).1 := by
  have htake := take_of_level? hopen (show Step.level? slug (.warn slug) = some .warn from if_pos rfl)
  have hallowed : slug ∉ linter.allowed := fun h => by simp [level, h] at hlevel
  rw [htake]
  refine ⟨rfl, rfl, rfl, rfl, rfl, rfl, hlevel, ?_, fun name hname => ?_⟩
  · simp [level, hallowed, hregistered]
  · simp [level, hregistered, lookup_cons_eq, hname]

namespace Softens

variable {check : Checker ρ} {slug : String} {strict lax : Linter ρ μ}

theorem answers_eq (h : strict.Softens slug lax) : lax.answers = strict.answers := by
  rw [answers, answers, h.source, h.timeLimit]

/-- The same rules run. -/
theorem runs_iff (h : strict.Softens slug lax) (name : String) :
    lax.level name ≠ .allow ↔ strict.level name ≠ .allow := by
  by_cases hname : name = slug
  · subst hname
    simp [h.strict_level, h.lax_level]
  · rw [h.other_level name hname]

variable [Modifier μ]

theorem settledSettings_eq (h : strict.Softens slug lax) (document : Document) :
    lax.settledSettings document = strict.settledSettings document := by
  rw [settledSettings, settledSettings, h.modifiers, h.foldThreshold]

theorem reports_eq (h : strict.Softens slug lax) (document : Document) (rule : ρ) :
    lax.reports check document rule = strict.reports check document rule := by
  rw [reports, reports, h.settledSettings_eq, h.answers_eq]

theorem visit_eq (h : strict.Softens slug lax) (document : Document) (name : String) (rule : ρ) :
    (lax.visit check document name rule : Visit ε) =
      Visit.lowered slug (strict.visit check document name rule) := by
  cases hreports : strict.reports check document rule with
  | error error =>
    rw [visit_of_error hreports, visit_of_error ((h.reports_eq document rule).trans hreports)]
    rfl
  | ok found =>
    rw [visit_of_ok hreports, visit_of_ok ((h.reports_eq document rule).trans hreports),
      h.settledSettings_eq, Visit.lowered, Except.map, Visit.lowerFound]
    -- The level of a rule counts in the ceiling only.
    by_cases hname : name = slug
    · rw [if_pos hname, hname, h.strict_level, h.lax_level, settle, settle, List.map_map]
      congr 2
      exact List.map_congr_left fun snippet _ => snippet.resolve_ceiling _ .warning slug
    · rw [if_neg hname, h.other_level name hname]

theorem visitsTo_eq (h : strict.Softens slug lax) (queued : QueuedDocument) :
    (lax.visitsTo check queued : List (Visit ε)) =
      (strict.visitsTo check queued).map (Visit.lowered slug) := by
  rw [visitsTo, visitsTo, h.answers_eq, h.rules]
  cases (readQueued queued).answer strict.answers with
  | error error => rfl
  | ok document =>
    simp only [h.runs_iff, List.map_map]
    exact List.map_congr_left fun entry _ => h.visit_eq document entry.1 entry.2

/-- The visits of the lax run are those of the strict one, lowered. -/
theorem visits_eq (h : strict.Softens slug lax) :
    (lax.visits check : List (Visit ε)) = (strict.visits check).map (Visit.lowered slug) := by
  rw [visits, visits, h.queue, List.map_flatMap]
  exact List.flatMap_congr fun queued _ => h.visitsTo_eq queued

/-- Both runs end with the same error or both without one. They deliver the same findings in the same
order, except that in the lax run those of the rule `slug` are lowered to warnings. -/
theorem runs_alike (h : strict.Softens slug lax) (check : Checker ρ) {reporter : Reporter σ ε}
    (hreporter : reporter.NeverFails) (hstrict : strict.isOpen) (hlax : lax.isOpen) (state : σ) :
    let delivered := Visit.delivered (strict.visits check : List (Visit ε))
    ∃ hard soft : Outcome ρ σ ε μ,
      strict.run check reporter state = .ok hard ∧ lax.run check reporter state = .ok soft ∧
      soft.error = hard.error ∧
      hard.state = reporter.receive state (delivered.flatMap (·.2)) ∧
      soft.state = reporter.receive state (delivered.flatMap fun found =>
        if found.1 = slug then found.2.map (·.lowered .warning) else found.2) := by
  intro delivered
  obtain ⟨hard, hrunHard, -, hstateHard, herrorHard⟩ := run_eq check hreporter hstrict state
  obtain ⟨soft, hrunSoft, -, hstateSoft, herrorSoft⟩ := run_eq check hreporter hlax state
  refine ⟨hard, soft, hrunHard, hrunSoft, ?_, hstateHard, ?_⟩
  · rw [herrorSoft, herrorHard, h.visits_eq, Visit.error?_map_lowered]
  · -- a finding of another rule is delivered as it is
    rw [hstateSoft, h.visits_eq, Visit.delivered_map_lowered, List.flatMap_map]
    congr 1
    refine List.flatMap_congr fun found _ => ?_
    rw [Visit.lowerFound]
    split <;> rfl

/-- An error that becomes a warning. -/
theorem runs_alike_required :
    let strict : Linter Rule := {
      rules := [("required", .required ⟨["eip"]⟩)]
      modifiers := standardModifiers
      source := fun _ => .refused "not found"
      queue := [.text "---\nstatus: Draft\n---\n" none] }
    let lax := (strict.take (.warn "required")).1
    let reporter : Reporter (List Note) Empty := ⟨fun kept snippet => (kept ++ [snippet.title], none)⟩
    ∃ hard soft, strict.run Rule.check reporter [] = .ok hard ∧
      lax.run Rule.check reporter [] = .ok soft ∧ soft.error = hard.error ∧
      hard.state = [⟨"preamble is missing header(s): `eip`", some .error, some "required"⟩] ∧
      soft.state = [⟨"preamble is missing header(s): `eip`", some .warning, some "required"⟩] := by
  intro strict lax reporter
  have hopen : strict.isOpen := rfl
  have hsoftens : strict.Softens "required" lax := softens_take hopen (by decide) (by decide)
  have hreporter : reporter.NeverFails := fun _ _ => rfl
  obtain ⟨hard, soft, hhard, hsoft, herror, hhardState, hsoftState⟩ :=
    hsoftens.runs_alike Rule.check hreporter hopen (isOpen_take hopen _) []
  exact ⟨hard, soft, hhard, hsoft, herror, hhardState.trans (by decide +kernel),
    hsoftState.trans (by decide +kernel)⟩

end Softens

end Linter

end ProposalCheck
