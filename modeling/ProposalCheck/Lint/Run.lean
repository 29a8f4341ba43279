import ProposalCheck.Lint.Linter
import ProposalCheck.Report.Reporter

/-!
# Running a linter

Every queued document is read, its settings are changed according to its preamble, and the rules look
at it one after the other. What a rule finds is given the name of the rule, its open severities are
settled, and the findings go to a reporter. The first error ends the run; nothing that the failing rule
found is reported.

## Main definitions

* `RunError`: why a run ends early
* `RunError.message?`: its wording
* `RuleError.passedOn`: the error of a rule as a run passes it on
* `Pending`: the findings that wait to be taken
* `Linter.readQueued`: a queued document
* `Linter.checkDocument`, `Linter.checkQueue`: the findings in one document, and in all of them
* `Linter.run`: a run
-/

namespace ProposalCheck

/-- Why a run ends early. -/
inductive RunError (ε : Type) where
  | fetch (error : FetchError)
  | load (error : LoadError)
  | rule (slug : String) (error : RuleError)
  /-- The reporter failed. -/
  | report (problem : ε)

/-- The wording for a rule that is at fault. -/
def ruleFailure (slug message : String) : String := s!"lint \x60{slug}\x60 failed: {message}"

/-- The error of a rule as a run passes it on. A rule that marks bytes outside of its excerpt is at
fault itself. -/
def RuleError.passedOn : RuleError → RuleError
  | .invalidFinding _ => .unusable "produced an invalid diagnostic"
  | error => error

/-- The wording for a rule that cannot judge a document, where the rule itself is at fault. -/
def RuleError.message? (slug : String) : RuleError → Option String
  | .unusable message => some (ruleFailure slug message)
  | _ => none

/-- The wording of an error that the documents, their source or a rule are the cause of. -/
def RunError.message? {ε : Type} : RunError ε → Option String
  | .fetch error => some error.message
  | .load error => some error.message
  | .rule slug error => error.message? slug
  | .report _ => none

/-- What a rule finds in a document. -/
abbrev Checker (ρ : Type) := ρ → Context → Check (List Snippet)

/-- The findings that rules have handed in and that nobody has taken yet, the oldest first. -/
structure Pending where
  reports : List Snippet := []

namespace Pending

/-- Hands in a finding. -/
def report (pending : Pending) (snippet : Snippet) : Pending := ⟨pending.reports ++ [snippet]⟩

/-- Hands in findings one after the other. -/
def reportAll (pending : Pending) (snippets : List Snippet) : Pending :=
  snippets.foldl report pending

/-- Everything handed in since the last time, and what is left then. -/
def takeReports (pending : Pending) : List Snippet × Pending := (pending.reports, {})

end Pending

namespace Linter

variable {ρ μ σ ε : Type} [Modifier μ]

/-- Reads a queued document. -/
def readQueued : QueuedDocument → Query (Except (RunError ε) Document)
  | .path path => do
    match ← Query.fetch path with
    | .error reason => return .error (.fetch ⟨path, reason⟩)
    | .ok text => return (Document.ofString text (some path)).mapError .load
  | .text text origin => return (Document.ofString text origin).mapError .load
  | .bytes bytes origin => return (Document.ofBytes bytes origin).mapError .load

/-- The settings for a document. -/
def settingsFor (linter : Linter ρ μ) (document : Document) : LintSettings :=
  Modifier.modifyAll linter.modifiers
    { document, settings := { foldThreshold := linter.foldThreshold } }

/-- What a rule sees of a document. -/
def contextFor (linter : Linter ρ μ) (document : Document) : Context :=
  { document, settings := linter.settingsFor document }

/-- The findings of a rule with its name and all severities settled. -/
def settle (settings : LintSettings) (slug : String) (level : Level) (found : List Snippet) :
    List Snippet :=
  found.map (·.resolve slug settings.defaultSeverity level.ceiling)

/-- Lets rules look at a document and reports what they find. -/
def checkDocument (check : Checker ρ) (reporter : Reporter σ ε) (context : Context) :
    List (String × ρ × Level) → Pending → σ → Query (σ × Option (RunError ε))
  | [], _, state => .done (state, none)
  | (slug, rule, level) :: rest, pending, state => do
    match ← (check rule context).run with
    | .error error => return (state, some (.rule slug error.passedOn))
    | .ok found =>
      let (reports, pending) := (pending.reportAll found).takeReports
      match reporter.reportAll state (settle context.settings slug level reports) with
      | (state, some problem) => return (state, some (.report problem))
      | (state, none) => checkDocument check reporter context rest pending state

/-- Reads documents and lets the rules of a linter look at them. -/
def checkQueue (check : Checker ρ) (reporter : Reporter σ ε) (linter : Linter ρ μ) :
    List QueuedDocument → σ → Query (σ × Option (RunError ε))
  | [], state => .done (state, none)
  | queued :: rest, state => do
    match ← readQueued queued with
    | .error error => return (state, some error)
    | .ok document =>
      match ← checkDocument check reporter (linter.contextFor document) linter.enabled {} state with
      | (state, some error) => return (state, some error)
      | (state, none) => checkQueue check reporter linter rest state

/-- The result of a run. -/
structure Outcome (ρ σ ε : Type) (μ : Type := SeverityModifier) where
  linter : Linter ρ μ
  state : σ
  error : Option (RunError ε)
  /-- The paths that the source was asked for. -/
  requests : List String

/-- Runs a linter that has not run yet. However the run ends, the linter is done. -/
def run (check : Checker ρ) (reporter : Reporter σ ε) (linter : Linter ρ μ) (state : σ) :
    Except ConfigurationError (Outcome ρ σ ε μ) := do
  let linter ← linter.start
  let query := checkQueue check reporter linter linter.queue state
  let answers := linter.source.reasons linter.timeLimit
  let (state, error) := query.answer answers
  return { linter := { linter with phase := .done }, state, error
           requests := Source.asked linter.timeLimit (query.requests answers) }

end Linter

end ProposalCheck
