import ProposalCheck.Decimal.Shortest
import ProposalCheck.Lint.Query

/-!
# Sources of documents

A source is asked for paths and answers with a text or fails in one of several ways. Whoever reads a
document through a source sees a single kind of failure: the path and the reason. A time limit turns
into the reason of an answer that comes too late.

## Main definitions

* `Response`: what a source says about a path
* `TimeLimit`: how long an answer may take
* `FetchError`: why a document cannot be had
* `Source.read`: the document at a path, or why it cannot be had
* `Source.reasons`, `Source.asked`: the source as answers to a computation that asks for documents
-/

namespace ProposalCheck

/-- What a source says about a path. -/
inductive Response where
  | text (content : String)
  /-- The source refuses and says why. -/
  | refused (reason : String)
  /-- No answer came in time. -/
  | late
  /-- The source broke down. There may be a short text and there is a long one for that. -/
  | broken (short : Option String) (long : String)
  deriving DecidableEq, Repr

/-- How many seconds an answer may take. -/
inductive TimeLimit where
  | whole (seconds : Int)
  | fractional (seconds : Float)
  deriving Repr

namespace TimeLimit

/-- Is there any time at all? -/
def isPositive : TimeLimit → Bool
  | .whole seconds => 0 < seconds
  | .fractional seconds => !(seconds ≤ 0)

/-- The number of seconds. -/
def text : TimeLimit → String
  | .whole seconds => toString seconds
  | .fractional seconds => floatText messageNotation seconds

end TimeLimit

/-- Why a document cannot be had. -/
structure FetchError where
  path : String
  reason : String
  deriving DecidableEq, Repr

/-- The wording of a failure. -/
def FetchError.message (error : FetchError) : String :=
  s!"unable to fetch \x60{error.path}\x60: {error.reason}"

/-- The reason for an answer that comes too late. -/
def lateReason : Option TimeLimit → String
  | none => "timed out"
  | some limit => s!"timed out after {limit.text}s"

/-- The text that a source gives, or the reason why it gives none. -/
def Response.settle (limit : Option TimeLimit) : Response → FetchAnswer
  | .text content => .ok content
  | .refused reason => .error reason
  | .late => .error (lateReason limit)
  | .broken short long => .error (match short with
    | some short => if short = "" then long else short
    | none => long)

/-- What there is at every path. -/
abbrev Source := String → Response

namespace Source

/-- Is there time to ask at all? -/
def isAsked (limit : Option TimeLimit) : Bool := limit.all (·.isPositive)

/-- What a path answers: a text, or the reason why there is none. -/
def reasons (source : Source) (limit : Option TimeLimit) (path : String) : FetchAnswer :=
  if isAsked limit then (source path).settle limit else .error (lateReason limit)

/-- The paths of a list for which the source is asked. -/
def asked (limit : Option TimeLimit) (paths : List String) : List String :=
  if isAsked limit then paths else []

/-- The document at a path, or why it cannot be had. -/
def read (source : Source) (limit : Option TimeLimit) (path : String) : Except FetchError String :=
  (source.reasons limit path).mapError (⟨path, ·⟩)

end Source

end ProposalCheck
