import ProposalCheck.Json.Basic

/-!
# Problems of structured input

Input that is to become a value of a fixed shape is checked as a whole: all problems are collected,
each with the path that leads to it.

## Main definitions

* `PathItem`: a member name or an index
* `Issue`: a problem and its path
* `Checked`: a value, or the problems that prevent it
-/

namespace ProposalCheck

/-- One step into a structured value. -/
inductive PathItem where
  | name (name : String)
  | index (index : Nat)
  deriving DecidableEq, Repr

/-- What is wrong with a part of the input. -/
inductive IssueKind where
  | missing
  | extraForbidden
  | stringType
  | listType
  | tupleType
  | dictType
  | modelType
  | modelAttributesType
  | unionTagNotFound
  | unionTagInvalid
  | enumeration
  | literal
  | intType
  | intParsing
  | intFromFloat
  | finiteNumber
  | floatType
  | floatParsing
  | boolType
  | boolParsing
  | greaterThanEqual
  | tooLong
  /-- A pattern repeats something more often than can be counted. -/
  | patternOverflow
  /-- The parts are fine, but the value breaks a rule of its own. -/
  | rule (message : String)
  deriving DecidableEq, Repr

/-- The code by which a kind of problem is reported. -/
def IssueKind.code : IssueKind → String
  | .missing => "missing"
  | .extraForbidden => "extra_forbidden"
  | .stringType => "string_type"
  | .listType => "list_type"
  | .tupleType => "tuple_type"
  | .dictType => "dict_type"
  | .modelType => "model_type"
  | .modelAttributesType => "model_attributes_type"
  | .unionTagNotFound => "union_tag_not_found"
  | .unionTagInvalid => "union_tag_invalid"
  | .enumeration => "enum"
  | .literal => "literal_error"
  | .intType => "int_type"
  | .intParsing => "int_parsing"
  | .intFromFloat => "int_from_float"
  | .finiteNumber => "finite_number"
  | .floatType => "float_type"
  | .floatParsing => "float_parsing"
  | .boolType => "bool_type"
  | .boolParsing => "bool_parsing"
  | .greaterThanEqual => "greater_than_equal"
  | .tooLong => "too_long"
  | .patternOverflow => "overflow"
  | .rule _ => "value_error"

/-- A problem and the path to the part of the input that has it. -/
structure Issue where
  path : List PathItem
  kind : IssueKind
  deriving DecidableEq, Repr

/-- A value, or the problems that prevent it. -/
abbrev Checked (α : Type) := Except (List Issue) α

namespace Checked

variable {α β γ : Type}

/-- A problem with the input itself. -/
def fail (kind : IssueKind) : Checked α := .error [⟨[], kind⟩]

/-- The problems of a part, as problems of the whole. -/
def within (item : PathItem) : Checked α → Checked α
  | .ok value => .ok value
  | .error issues => .error (issues.map fun issue => { issue with path := item :: issue.path })

/-- Both values, or all problems of both. -/
def both : Checked α → Checked β → Checked (α × β)
  | .ok a, .ok b => .ok (a, b)
  | .ok _, .error issues => .error issues
  | .error issues, .ok _ => .error issues
  | .error issues, .error more => .error (issues ++ more)

/-- Applies a function once it and its argument are known; the problems of both are collected. -/
def andThen (f : Checked (α → β)) (x : Checked α) : Checked β :=
  (f.both x).map fun (f, x) => f x

/-- Applies a function to two values, or collects all problems of both. -/
def map2 (f : α → β → γ) (a : Checked α) (b : Checked β) : Checked γ := andThen (a.map f) b

/-- Applies a function to three values, or collects all problems of them. -/
def map3 {δ : Type} (f : α → β → γ → δ) (a : Checked α) (b : Checked β) (c : Checked γ) : Checked δ :=
  andThen (map2 f a b) c

/-- Applies a function to four values, or collects all problems of them. -/
def map4 {δ ε : Type} (f : α → β → γ → δ → ε) (a : Checked α) (b : Checked β) (c : Checked γ)
    (d : Checked δ) : Checked ε :=
  andThen (map3 f a b c) d

/-- Applies a function to five values, or collects all problems of them. -/
def map5 {δ ε ζ : Type} (f : α → β → γ → δ → ε → ζ) (a : Checked α) (b : Checked β) (c : Checked γ)
    (d : Checked δ) (e : Checked ε) : Checked ζ :=
  andThen (map4 f a b c d) e

/-- A value that satisfies a rule of its own, which is checked only if there are no problems. -/
def ensure (problem : α → Option IssueKind) (value : Checked α) : Checked α :=
  match value with
  | .error issues => .error issues
  | .ok value => match problem value with
    | some kind => fail kind
    | none => .ok value

/-- A value, unless further problems were found. -/
def alsoCheck (value : Checked α) (issues : List Issue) : Checked α :=
  match value, issues with
  | .ok value, [] => .ok value
  | .ok _, issues => .error issues
  | .error found, issues => .error (found ++ issues)

/-- Checks the items of a list, each with its index from `start` on. -/
def itemsFrom (check : Json → Checked α) : Nat → List Json → Checked (List α)
  | _, [] => .ok []
  | start, item :: rest =>
    (((check item).within (.index start)).both (itemsFrom check (start + 1) rest)).map
      fun (value, values) => value :: values

end Checked

end ProposalCheck
