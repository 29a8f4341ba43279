import ProposalCheck.Proofs.Lint.Configuration
import ProposalCheck.Rule.Basic

/-!
# What a run delivers

A run visits documents in the order of the queue, and in each document the rules that run in the order
of their registration. What a visit finds depends on the document and the rule alone: settings start
afresh for every document, and nothing that one rule finds is left for the next. So a run is described
by its visits, each looked at by itself, and delivers the findings of all visits before the first that
fails.

## Main definitions

* `Visit`: what comes of a rule that looks at a document
* `Visit.delivered`, `Visit.error?`: what visits find before one of them fails, and how it fails
* `Reporter.NeverFails`, `Reporter.receive`: a reporter that takes every finding, and its state then
* `Linter.reports`: what a rule reports on a document, by itself
* `Linter.visits`: the visits of a run, each with its findings or its error

## Main results

* `Reporter.feed_spec`: what a reporter receives of visits
* `Linter.run_feeds`: a run feeds its visits to the reporter
* `Linter.run_delivers`: it delivers what the visits before the first failing one find, raises the error
  of that one, and is done
-/

namespace ProposalCheck

variable {ρ μ σ ε : Type}

/-- What comes of a visit: the name of the rule with what it finds, or an error. -/
abbrev Visit (ε : Type) := Except (RunError ε) (String × List Snippet)

namespace Visit

/-- What visits find before the first of them that fails. -/
def delivered : List (Visit ε) → List (String × List Snippet)
  | .ok found :: rest => found :: delivered rest
  | _ => []

/-- The error of the first visit that fails. -/
def error? : List (Visit ε) → Option (RunError ε)
  | [] => none
  | .error error :: _ => some error
  | .ok _ :: rest => error? rest

/-- Visits are those before the first that fails, that one, and others. -/
theorem delivered_spec (visits : List (Visit ε)) :
    (visits = (delivered visits).map .ok ∧ error? visits = none) ∨
      ∃ error rest, visits = (delivered visits).map .ok ++ .error error :: rest ∧
        error? visits = some error := by
  induction visits with
  | nil => exact .inl ⟨rfl, rfl⟩
  | cons visit visits ih =>
    cases visit with
    | error error => exact .inr ⟨error, visits, rfl, rfl⟩
    | ok found =>
      rcases ih with ⟨hall, hnone⟩ | ⟨error, rest, hall, hsome⟩
      · exact .inl ⟨congrArg (.ok found :: ·) hall, hnone⟩
      · exact .inr ⟨error, rest, congrArg (.ok found :: ·) hall, hsome⟩

end Visit

namespace Reporter

variable (reporter : Reporter σ ε)

/-- The reporter takes every finding. -/
def NeverFails : Prop := ∀ state snippet, (reporter.report state snippet).2 = none

/-- The state of a reporter after it has been handed some findings. -/
def receive (state : σ) (snippets : List Snippet) : σ :=
  snippets.foldl (fun state snippet => (reporter.report state snippet).1) state

theorem receive_append (state : σ) (snippets others : List Snippet) :
    reporter.receive state (snippets ++ others) =
      reporter.receive (reporter.receive state snippets) others := List.foldl_append ..

/-- Hands over the findings of visits up to the first that fails, or up to the first finding on which the reporter
fails. -/
def feed : List (Visit ε) → σ → σ × Option (RunError ε)
  | [], state => (state, none)
  | .error error :: _, state => (state, some error)
  | .ok (_, found) :: rest, state =>
    match reporter.reportAll state found with
    | (state, some problem) => (state, some (.report problem))
    | (state, none) => feed rest state

/-- What is fed after some visits depends on whether one of them has failed. -/
theorem feed_append (visits others : List (Visit ε)) (state : σ) :
    reporter.feed (visits ++ others) state =
      match reporter.feed visits state with
      | (state, some error) => (state, some error)
      | (state, none) => reporter.feed others state := by
  induction visits generalizing state with
  | nil => rfl
  | cons visit rest ih =>
    cases visit with
    | error error => rfl
    | ok found =>
      rw [List.cons_append, feed, feed]
      rcases reporter.reportAll state found.2 with ⟨state, _ | problem⟩
      · exact ih state
      · rfl

/-- A reporter that fails has received the findings up to the one on which it fails. -/
theorem reportAll_spec (state : σ) (snippets : List Snippet) :
    ∃ taken, taken <+: snippets ∧ (reporter.reportAll state snippets).1 = reporter.receive state taken ∧
      ((reporter.reportAll state snippets).2 = none → taken = snippets) := by
  induction snippets generalizing state with
  | nil => exact ⟨[], List.prefix_rfl, rfl, fun _ => rfl⟩
  | cons snippet rest ih =>
    rw [reportAll]
    rcases hreport : reporter.report state snippet with ⟨next, _ | problem⟩
    · obtain ⟨taken, htaken, hstate, hall⟩ := ih next
      refine ⟨snippet :: taken, (List.prefix_cons_inj snippet).mpr htaken, ?_, fun hnone => ?_⟩
      · rw [receive, List.foldl_cons, hreport]
        exact hstate
      · rw [hall hnone]
    · refine ⟨[snippet], (List.prefix_cons_inj snippet).mpr List.nil_prefix, ?_, fun hnone => nomatch hnone⟩
      rw [receive, List.foldl_cons, hreport]
      rfl

/-- What a reporter receives of visits are the first of their findings, all of them unless the reporter fails. -/
theorem feed_spec (visits : List (Visit ε)) (state : σ) :
    ∃ taken, taken <+: (Visit.delivered visits).flatMap (·.2) ∧
      (reporter.feed visits state).1 = reporter.receive state taken ∧
      ((reporter.feed visits state).2 = none →
        visits = (Visit.delivered visits).map .ok ∧ taken = (Visit.delivered visits).flatMap (·.2)) := by
  induction visits generalizing state with
  | nil => exact ⟨[], List.prefix_rfl, rfl, fun _ => ⟨rfl, rfl⟩⟩
  | cons visit rest ih =>
    cases visit with
    | error error => exact ⟨[], List.prefix_rfl, rfl, fun hnone => nomatch hnone⟩
    | ok found =>
      obtain ⟨taken, htaken, hstate, hall⟩ := reporter.reportAll_spec state found.2
      rw [Visit.delivered, List.flatMap_cons, feed]
      rcases hreport : reporter.reportAll state found.2 with ⟨next, _ | problem⟩ <;> rw [hreport] at hstate hall
      · -- the reporter has taken all findings of the first visit, and goes on with the next
        obtain rfl := hall rfl
        obtain ⟨others, hothers, hnext, hrest⟩ := ih next
        refine ⟨found.2 ++ others, (List.prefix_append_right_inj _).mpr hothers, ?_, fun hnone => ?_⟩
        · rw [receive_append, ← hstate]
          exact hnext
        · obtain ⟨hvisits, rfl⟩ := hrest hnone
          exact ⟨congrArg (.ok found :: ·) hvisits, rfl⟩
      · exact ⟨taken, htaken.trans (List.prefix_append _ _), hstate, fun hnone => nomatch hnone⟩

variable {reporter}

theorem NeverFails.reportAll_eq (h : reporter.NeverFails) (state : σ) (snippets : List Snippet) :
    reporter.reportAll state snippets = (reporter.receive state snippets, none) := by
  induction snippets generalizing state with
  | nil => rfl
  | cons snippet rest ih =>
    have hreport : reporter.report state snippet = ((reporter.report state snippet).1, none) :=
      Prod.ext rfl (h state snippet)
    rw [reportAll, hreport]
    exact ih _

/-- Feeding hands over what is delivered, and gives the first error. -/
theorem NeverFails.feed_eq (h : reporter.NeverFails) (visits : List (Visit ε)) (state : σ) :
    reporter.feed visits state =
      (reporter.receive state ((Visit.delivered visits).flatMap (·.2)), Visit.error? visits) := by
  induction visits generalizing state with
  | nil => rfl
  | cons visit rest ih =>
    cases visit with
    | error error => rfl
    | ok found =>
      rw [feed, h.reportAll_eq, Visit.delivered, Visit.error?, List.flatMap_cons, receive_append]
      exact ih _

end Reporter

namespace Pending

theorem reports_reportAll (pending : Pending) (snippets : List Snippet) :
    (pending.reportAll snippets).reports = pending.reports ++ snippets := by
  induction snippets generalizing pending with
  | nil => exact (List.append_nil _).symm
  | cons snippet rest ih =>
    rw [reportAll, List.foldl_cons, ← reportAll, ih]
    exact List.append_assoc ..

/-- What is handed in while nothing waits is all that is taken, and nothing is left. -/
theorem takeReports_reportAll (snippets : List Snippet) :
    (reportAll {} snippets).takeReports = (snippets, {}) := by
  rw [takeReports, reports_reportAll]
  rfl

end Pending

namespace Linter

/-! ### The visits of a run -/

section Visits

variable [Modifier μ] (check : Checker ρ) (linter : Linter ρ μ)

/-- What there is at every path during a run. -/
def answers : String → FetchAnswer := linter.source.reasons linter.timeLimit

/-- The settings for a document: the same at the start for every document, then changed by every
modifier in turn. -/
def settledSettings (document : Document) : LintSettings :=
  let start : LintSettings := { defaultSeverity := .error, foldThreshold := linter.foldThreshold }
  linter.modifiers.foldl (fun settings modifier => Modifier.modify modifier ⟨document, start⟩ settings)
    start

/-- What a rule reports on a document, by itself. -/
def reports (document : Document) (rule : ρ) : Except RuleError (List Snippet) :=
  (check rule ⟨document, linter.settledSettings document⟩).run.answer linter.answers

/-- The visit of a rule to a document. What it reports gets the name of the rule and its severities; a
finding that marks bytes outside of its excerpt makes the rule unusable. -/
def visit (document : Document) (slug : String) (rule : ρ) : Visit ε :=
  match linter.reports check document rule with
  | .ok found => .ok (slug, found.map fun snippet =>
      snippet.resolve slug (linter.settledSettings document).defaultSeverity (linter.level slug).ceiling)
  | .error (.invalidFinding _) => .error (.rule slug (.unusable "produced an invalid diagnostic"))
  | .error error => .error (.rule slug error)

/-- The visits to a queued document: one by every rule that is not allowed, in the order in which the
rules are registered. A document that cannot be read makes for one visit that fails. -/
def visitsTo (queued : QueuedDocument) : List (Visit ε) :=
  match (readQueued queued).answer linter.answers with
  | .error error => [.error error]
  | .ok document => (linter.rules.filter fun entry => linter.level entry.1 ≠ .allow).map
      fun entry => linter.visit check document entry.1 entry.2

/-- The visits of a run, each by itself. -/
def visits : List (Visit ε) := linter.queue.flatMap (linter.visitsTo check)

end Visits

/-! ### Runs -/

variable {check : Checker ρ} {reporter : Reporter σ ε} {linter : Linter ρ μ}

section

variable [Modifier μ]

theorem contextFor_eq (linter : Linter ρ μ) (document : Document) :
    linter.contextFor document = ⟨document, linter.settledSettings document⟩ := rfl

theorem visit_of_ok {document : Document} {slug : String} {rule : ρ} {found : List Snippet}
    (h : linter.reports check document rule = .ok found) :
    (linter.visit check document slug rule : Visit ε) =
      .ok (slug, settle (linter.settledSettings document) slug (linter.level slug) found) := by
  rw [visit, h]
  rfl

theorem visit_of_error {document : Document} {slug : String} {rule : ρ} {error : RuleError}
    (h : linter.reports check document rule = .error error) :
    (linter.visit check document slug rule : Visit ε) =
      .error (.rule slug error.passedOn) := by
  rw [visit, h]
  cases error <;> rfl

/-- The rules that look at a document feed their visits to the reporter, if nothing waits to be taken
before the first of them. Then nothing waits before any of them. -/
theorem checkDocument_answer (document : Document) (rules : List (String × ρ)) (state : σ) :
    (checkDocument check reporter (linter.contextFor document)
        (rules.map fun entry => (entry.1, entry.2, linter.level entry.1)) {} state).answer
          linter.answers =
      reporter.feed (rules.map fun entry => linter.visit check document entry.1 entry.2) state := by
  -- On the rules. What a rule hands in is taken before the next one, so nothing waits then either.
  induction rules generalizing state with
  | nil => rfl
  | cons entry rest ih =>
    rw [List.map_cons, List.map_cons, checkDocument, Query.answer_bind]
    cases hreports : linter.reports check document entry.2 with
    | error error =>
      rw [visit_of_error hreports]
      rw [reports, ← contextFor_eq] at hreports
      rw [hreports]
      rfl
    | ok found =>
      rw [visit_of_ok hreports]
      rw [reports, ← contextFor_eq] at hreports
      rw [Reporter.feed]
      simp only [hreports, Pending.takeReports_reportAll]
      rw [contextFor_eq]
      rcases reporter.reportAll state _ with ⟨state, _ | problem⟩
      · exact ih state
      · rfl

/-- The documents in a queue feed the visits to them to the reporter. -/
theorem checkQueue_answer (linter : Linter ρ μ) (queue : List QueuedDocument) (state : σ) :
    (checkQueue check reporter linter queue state).answer linter.answers =
      reporter.feed (queue.flatMap (linter.visitsTo check)) state := by
  induction queue generalizing state with
  | nil => rfl
  | cons queued rest ih =>
    rw [List.flatMap_cons, Reporter.feed_append, checkQueue, Query.answer_bind, visitsTo]
    cases hread : ((readQueued queued).answer linter.answers : Except (RunError ε) Document) with
    | error error => rfl
    | ok document =>
      dsimp only
      rw [Query.answer_bind, enabled_eq, checkDocument_answer]
      rcases reporter.feed _ state with ⟨state, _ | error⟩
      · exact ih state
      · rfl

/-- A run of a linter that has not run yet feeds its visits to the reporter, and is done. -/
theorem run_feeds (check : Checker ρ) (reporter : Reporter σ ε) (hopen : linter.isOpen) (state : σ) :
    ∃ outcome : Outcome ρ σ ε μ, linter.run check reporter state = .ok outcome ∧
      outcome.linter = { linter with phase := .done } ∧
      (outcome.state, outcome.error) = reporter.feed (linter.visits check) state := by
  refine ⟨_, by rw [run, start_of_isOpen hopen]; rfl, rfl, ?_⟩
  -- The phase changes neither the queue nor any visit.
  exact checkQueue_answer { linter with phase := .running } linter.queue state

/-- A run hands over what its visits deliver to a reporter that takes everything. -/
theorem run_eq (check : Checker ρ) (hreporter : reporter.NeverFails) (hopen : linter.isOpen)
    (state : σ) :
    ∃ outcome : Outcome ρ σ ε μ, linter.run check reporter state = .ok outcome ∧
      outcome.linter = { linter with phase := .done } ∧
      outcome.state =
        reporter.receive state ((Visit.delivered (linter.visits check : List (Visit ε))).flatMap (·.2)) ∧
      outcome.error = Visit.error? (linter.visits check) := by
  obtain ⟨outcome, hrun, hlinter, hfed⟩ := run_feeds check reporter hopen state
  rw [hreporter.feed_eq] at hfed
  exact ⟨outcome, hrun, hlinter, Prod.ext_iff.mp hfed⟩

/-- A run delivers, in order, exactly what the visits before the first failing one find, each looked at
by itself. It raises the error of the failing visit if there is one, and is done in any case. -/
theorem run_delivers (check : Checker ρ) (hreporter : reporter.NeverFails) (hopen : linter.isOpen)
    (state : σ) :
    ∃ (outcome : Outcome ρ σ ε μ) (delivered : List (String × List Snippet)),
      linter.run check reporter state = .ok outcome ∧
      outcome.linter = { linter with phase := .done } ∧
      outcome.state = reporter.receive state (delivered.flatMap (·.2)) ∧
      (((linter.visits check : List (Visit ε)) = delivered.map .ok ∧ outcome.error = none) ∨
        ∃ error rest, (linter.visits check : List (Visit ε)) = delivered.map .ok ++ .error error :: rest ∧
          outcome.error = some error) := by
  obtain ⟨outcome, hrun, hlinter, hstate, herror⟩ := run_eq check hreporter hopen state
  refine ⟨outcome, Visit.delivered (linter.visits check : List (Visit ε)), hrun, hlinter, hstate, ?_⟩
  rw [herror]
  exact Visit.delivered_spec _

/-- A finding is delivered as a warning. Then the run ends because there is no second document. -/
theorem run_delivers_before_missing :
    let linter : Linter Rule := {
      rules := [("required", .required ⟨["eip"]⟩)]
      modifiers := standardModifiers
      source := fun _ => .refused "not found"
      levels := [("required", .warn)]
      queue := [.text "---\nstatus: Draft\n---\n" none, .path "gone.md"] }
    let reporter : Reporter (List Note) Empty := ⟨fun kept snippet => (kept ++ [snippet.title], none)⟩
    ∃ outcome, linter.run Rule.check reporter [] = .ok outcome ∧
      outcome.linter = { linter with phase := .done } ∧
      outcome.state = [⟨"preamble is missing header(s): `eip`", some .warning, some "required"⟩] ∧
      outcome.error.bind (·.message?) = some "unable to fetch `gone.md`: not found" := by
  intro linter reporter
  have hreporter : reporter.NeverFails := fun _ _ => rfl
  have hvisits : (linter.visits Rule.check).map (fun visit : Visit Empty =>
        (visit.map fun found => found.2.map (·.title)).mapError (·.message?)) =
      [.ok [⟨"preamble is missing header(s): `eip`", some .warning, some "required"⟩],
        .error (some "unable to fetch `gone.md`: not found")] := by decide +kernel
  obtain ⟨outcome, delivered, hrun, hlinter, hstate, hcases⟩ :=
    run_delivers Rule.check hreporter (show linter.isOpen by rfl) []
  generalize (linter.visits Rule.check : List (Visit Empty)) = visits at hvisits hcases
  obtain ⟨rfl, -⟩ | ⟨error, rest, rfl, herror⟩ := hcases
  · -- The second visit fails, so not all of them deliver.
    rcases delivered with _ | ⟨found, _ | ⟨other, others⟩⟩ <;>
      simp [Except.map, Except.mapError] at hvisits
  · rcases delivered with _ | ⟨⟨slug, found⟩, _ | ⟨other, others⟩⟩ <;>
      simp [Except.map, Except.mapError] at hvisits
    obtain ⟨⟨snippet, rfl, htitle⟩, hmessage, rfl⟩ := hvisits
    refine ⟨outcome, hrun, hlinter, ?_, ?_⟩
    · rw [hstate, ← htitle]
      rfl
    · rw [herror, ← hmessage]
      rfl

end

end Linter

end ProposalCheck
