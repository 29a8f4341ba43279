import ProposalCheck.Diagnostic.Severity
import ProposalCheck.Source.Lines

/-!
# Findings

A finding has a title, excerpts of the document with marked ranges, and notes below them. Rules may
leave severities open; resolving a finding stamps it with the name of the rule and settles every
severity.

## Main definitions

* `Note`: a title or a footer entry
* `Mark`: a labelled byte range of an excerpt
* `Excerpt`: consecutive lines of a document with marks
* `Snippet`: a finding
* `Snippet.resolve`: the finding with its rule's name and all severities settled
* `MarkProblem`, `Snippet.checkMark`, `Snippet.checkExcerpt`: what makes a range invalid
-/

namespace ProposalCheck

/-- A title or a footer entry. An open severity means the default of the run. -/
structure Note where
  label : String
  severity : Option Severity := none
  id : Option String := none
  deriving DecidableEq, Repr, Inhabited

/-- A labelled range of bytes of an excerpt. -/
structure Mark where
  range : Span
  label : String
  severity : Option Severity := none
  deriving DecidableEq, Repr

/-- Consecutive lines of a document, the first of them with number `lineStart`. If `fold` is set,
lines on which no mark starts or ends may be left out when the excerpt is shown. -/
structure Excerpt where
  origin : Option String := none
  lineStart : Int
  source : String
  fold : Bool := false
  marks : List Mark := []
  deriving DecidableEq, Repr

/-- A finding: a title, excerpts and footer notes. -/
structure Snippet where
  title : Note
  footer : List Note := []
  excerpts : List Excerpt := []
  deriving DecidableEq, Repr

/-- Why a marked range is invalid. The bounds are as given. -/
inductive MarkProblem where
  /-- The range starts before the excerpt or ends before it starts. -/
  | badRange (start stop : Int)
  /-- The range ends after the excerpt. -/
  | outside (start stop : Int) (size : Nat)
  deriving DecidableEq, Repr

/-- The wording of a problem. -/
def MarkProblem.message : MarkProblem → String
  | .badRange start stop => s!"invalid annotation range ({start}, {stop})"
  | .outside start stop size =>
    s!"annotation range ({start}, {stop}) exceeds slice source of {size} bytes"

namespace Mark

/-- A range with the given bounds, if they are in order. -/
def checkRange (start stop : Int) : Except MarkProblem Span :=
  if start < 0 ∨ stop < start then .error (.badRange start stop) else .ok ⟨start.toNat, stop.toNat⟩

/-- Settles the severity of a mark. -/
def resolve (mark : Mark) (default : Severity) (ceiling : Option Severity) : Mark :=
  { mark with severity := some (Severity.resolve mark.severity default ceiling) }

end Mark

namespace Excerpt

/-- The first mark that ends after the excerpt, if any. -/
def problem? (excerpt : Excerpt) : Option MarkProblem :=
  let size := excerpt.source.utf8ByteSize
  (excerpt.marks.find? fun mark => size < mark.range.stop).map fun mark =>
    .outside mark.range.start mark.range.stop size

/-- Settles the severities of all marks. -/
def resolve (excerpt : Excerpt) (default : Severity) (ceiling : Option Severity) : Excerpt :=
  { excerpt with marks := excerpt.marks.map (·.resolve default ceiling) }

end Excerpt

namespace Note

/-- Settles the severity of a note. -/
def resolve (note : Note) (default : Severity) (ceiling : Option Severity) : Note :=
  { note with severity := some (Severity.resolve note.severity default ceiling) }

/-- A note that gives help. -/
def help (label : String) : Note := { label, severity := some .help }

/-- A note that gives information. -/
def info (label : String) : Note := { label, severity := some .info }

end Note

namespace Snippet

/-- The id that the finding carries. -/
def ruleId (snippet : Snippet) : Option String := snippet.title.id

/-- The finding with every severity settled and, unless it has a nonempty id of its own, the name of
its rule as id. -/
def resolve (snippet : Snippet) (slug : String) (default : Severity)
    (ceiling : Option Severity := none) : Snippet :=
  let id := match snippet.title.id with
    | some id => if id = "" then slug else id
    | none => slug
  { title := { snippet.title.resolve default ceiling with id := some id }
    footer := snippet.footer.map (·.resolve default ceiling)
    excerpts := snippet.excerpts.map (·.resolve default ceiling) }

end Snippet

end ProposalCheck
