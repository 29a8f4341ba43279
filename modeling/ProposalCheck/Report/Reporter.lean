import ProposalCheck.Diagnostic.Exchange

/-!
# Reporters

A reporter takes findings one after the other. It keeps a state and may fail on a finding; the state
after a failure is the state of all that was done before it. Reporters are stacked: one counts findings
before it passes them on, one adds a line of help to them, and the last one keeps them as data or as
text.

## Main definitions

* `Reporter`: a reporter with its state and its failures
* `Reporter.data`, `Reporter.text`: reporters that keep findings
* `Reporter.withHelp`, `Reporter.counted`: reporters that pass findings on
* `Reporter.count`, `Reporter.total`: how many findings of a severity, or of any, have been counted
* `Reporter.reportAll`: many findings, up to the first failure
-/

namespace ProposalCheck

/-- Takes findings one after the other. -/
structure Reporter (σ ε : Type) where
  report : σ → Snippet → σ × Option ε

namespace Reporter

variable {σ ε : Type}

/-- Keeps findings as data, together with their texts. -/
def data : Reporter (List Json) ε where
  report kept snippet := (kept ++ [snippet.toJsonFormatted], none)

/-- Keeps the texts of findings. -/
def text : Reporter (List String) ε where
  report kept snippet := (kept ++ [snippet.render], none)

/-- Texts with an empty line between them. -/
def joinedText (kept : List String) : String := joinWith "\n\n" kept

/-- Adds a line of help for the rule of a finding and passes the finding on. -/
def withHelp (help : String → Except ε String) (inner : Reporter σ ε) : Reporter σ ε where
  report state snippet :=
    match help (snippet.ruleId.getD "") with
    | .error problem => (state, some problem)
    | .ok line => inner.report state { snippet with footer := snippet.footer ++ [Note.help line] }

/-- The severity by which a finding is counted. -/
def countedSeverity (snippet : Snippet) : Severity := snippet.title.severity.getD .error

/-- Counts findings by severity and passes them on. -/
def counted (inner : Reporter σ ε) : Reporter (List Severity × σ) ε where
  report state snippet :=
    let (kept, problem) := inner.report state.2 snippet
    ((state.1 ++ [countedSeverity snippet], kept), problem)

/-- How many findings of a severity have been counted. -/
def count (seen : List Severity) (severity : Severity) : Nat := List.count severity seen

/-- How many findings have been counted, taken over all severities. -/
def total (seen : List Severity) : Nat := (Severity.all.map (count seen)).foldr (· + ·) 0

/-- Reports findings one after the other, up to the first failure. -/
def reportAll (reporter : Reporter σ ε) (state : σ) : List Snippet → σ × Option ε
  | [] => (state, none)
  | snippet :: rest =>
    match reporter.report state snippet with
    | (state, some problem) => (state, some problem)
    | (state, none) => reporter.reportAll state rest

end Reporter

end ProposalCheck
