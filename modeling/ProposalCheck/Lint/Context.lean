import ProposalCheck.Diagnostic.Snippet
import ProposalCheck.Document.Load
import ProposalCheck.Lint.Query
import ProposalCheck.Reference.Path
import ProposalCheck.Schema.Basic
import ProposalCheck.Validation.Issue
import ProposalCheck.Web.HostLabel

/-!
# What a rule sees

A rule is given a document and the settings of the run for it. It shows lines of the document in
excerpts and marks bytes in them; positions in the document become positions in the excerpt.

## Main definitions

* `Context`: a document with its settings
* `RuleError`: why a rule cannot judge a document
* `Context.lineExcerpt`, `Context.linesExcerpt`: excerpts of one and of several lines
* `Context.lineRange`, `Context.linesRange`: where a span of the document stands in them
* `Check`: the computation of a rule
-/

namespace ProposalCheck

/-- The settings of a run for one document. -/
structure LintSettings where
  defaultSeverity : Severity := .error
  /-- Excerpts with more lines than this are folded. -/
  foldThreshold : Int := 6
  deriving DecidableEq, Repr

/-- Why a rule cannot judge a document. -/
inductive RuleError where
  /-- The rule itself is at fault. -/
  | unusable (message : String)
  /-- The rule marked bytes that its excerpt does not have. -/
  | invalidFinding (issues : List Issue)
  /-- The rule looked for a place that the document does not have. -/
  | position (error : PositionError)
  /-- The rule holds a schema that makes no sense, or met a number that cannot be read. -/
  | schema (fault : SchemaFault)
  /-- The rule met the name of a host that has no readable form. -/
  | hostName (problem : LabelProblem)
  deriving Repr

/-- What a rule can find out without other documents. -/
abbrev Finding (α : Type) := Except RuleError α

/-- The computation of a rule. -/
abbrev Check (α : Type) := ExceptT RuleError Query α

/-- Runs checks side by side. All of them ask for their documents; the first error counts. -/
def Check.all {α : Type} (checks : List (Check α)) : Check (List α) :=
  ExceptT.mk (do return (← Query.all (checks.map ExceptT.run)).mapM id)

/-- Asks for a document. -/
def Check.fetch (path : String) : Check FetchAnswer := ExceptT.lift (Query.fetch path)

/-- A position error as an error of the rule. -/
def PositionError.asRuleError {α : Type} : Except PositionError α → Finding α
  | .ok value => .ok value
  | .error error => .error (.position error)

/-- A document with the settings of the run for it. -/
structure Context where
  document : Document
  settings : LintSettings := {}

namespace Context

variable (context : Context)

/-- The lines of the document. -/
def lines : Lines := context.document.lines

/-- The preamble of the document. -/
def preamble : Preamble := context.document.preamble

/-- The body of the document. -/
def body : Body := context.document.body

/-- The path of another document, named relative to this one. -/
def resolve (name : String) : String := resolveSibling context.document.origin name

/-- An excerpt, if all of its marks are within it. -/
def checkExcerpt (excerpt : Excerpt) : Finding Excerpt :=
  match excerpt.problem? with
  | none => .ok excerpt
  | some problem => .error (.invalidFinding [⟨[], .rule problem.message⟩])

/-- An excerpt of one line. -/
def lineExcerpt (line : Int) (marks : List Mark := []) : Finding Excerpt := do
  let source ← PositionError.asRuleError (context.lines.line line)
  checkExcerpt { origin := context.document.origin, lineStart := line, source, marks }

/-- An excerpt of the lines from `first` up to and including `last`. -/
def linesExcerpt (first last : Int) (marks : List Mark) (fold : Bool) : Finding Excerpt := do
  let source ← PositionError.asRuleError (context.lines.lines first last)
  checkExcerpt { origin := context.document.origin, lineStart := first, source, fold, marks }

/-- A number brought into a range. -/
def clamp (low high value : Int) : Int := min (max value low) high

/-- Where the bytes from `start` to `stop` stand in an excerpt of one line. What lies outside of the
line is cut off. -/
def lineRange (line start stop : Int) : Except PositionError (Nat × Nat) := do
  let span ← context.lines.lineSpan line
  let first := (clamp span.start span.stop start - span.start).toNat
  let last := (clamp span.start span.stop stop - span.start).toNat
  return (first, max first last)

/-- Where an offset stands in an excerpt whose first line is `first`. Line ends count as one byte. -/
def excerptOffset (first offset : Int) : Except PositionError Nat := do
  let line := max ((← context.lines.lineOf offset : Nat) : Int) first
  let span ← context.lines.lineSpan line
  let column := clamp 0 (span.stop - span.start : Nat) (offset - span.start)
  let before ← (Lines.range first (line - 1)).mapM fun n => do
    let span ← context.lines.lineSpan n
    return span.stop - span.start + 1
  return before.foldr (· + ·) 0 + column.toNat

/-- Where the bytes from `start` to `stop` stand in an excerpt whose first line is `first`. -/
def linesRange (first start stop : Int) : Except PositionError (Nat × Nat) := do
  return (← context.excerptOffset first start, ← context.excerptOffset first stop)

/-- A mark on a range that a rule has computed. -/
def checkMark (range : Nat × Nat) (label : String) (severity : Option Severity := none) :
    Finding Mark :=
  match Mark.checkRange range.1 range.2 with
  | .ok range => .ok { range, label, severity }
  | .error problem => .error (.invalidFinding [⟨[.name "range"], .rule problem.message⟩])

/-- An excerpt of the line of a field. -/
def fieldExcerpt (field : Field) (marks : List Mark) : Finding Excerpt :=
  context.lineExcerpt field.line marks

/-- Where a node stands in an excerpt of its first line: its own text, or else the whole line. -/
def nodeRange (node : Node) (line : Nat) : Finding (Nat × Nat) :=
  PositionError.asRuleError <| match node.span with
    | some span => context.lineRange line span.start span.stop
    | none => do return (0, (← context.lines.line line).utf8ByteSize)

/-- An excerpt of the first line of a node with one mark on the node. -/
def nodeExcerpt (node : Node) (line : Nat) (label : String) : Finding Excerpt := do
  let mark ← checkMark (← context.nodeRange node line) label
  context.lineExcerpt line [mark]

end Context

/-- A finding with a title, one excerpt and notes below. -/
def Snippet.about (label : String) (excerpt : Excerpt) (footer : List Note := []) : Snippet where
  title := { label }
  excerpts := [excerpt]
  footer := footer

end ProposalCheck
