import ProposalCheck.Json.Decode
import ProposalCheck.Text.Quoted
import ProposalCheck.Validation.Issue

/-!
# Validation against a schema

A schema decides for every JSON value in which ways, if any, the value breaks it. What is wrong with a
value is told apart from what is wrong with the schema.

## Main definitions

* `Violation`: a way in which a value breaks a schema
* `SchemaFault`, `SchemaProblem`: why a schema cannot be used
* `Validator`: all violations of a value
* `Violation.sort`: violations in the order of their paths
-/

namespace ProposalCheck

/-- A way in which a part of a value breaks a schema. -/
structure Violation where
  path : List PathItem
  message : String
  deriving DecidableEq, Repr

/-- Parts of a schema, or of what it refers to, that make no sense where they stand. -/
inductive SchemaFault where
  /-- A value is of a kind that cannot be used there. -/
  | kind
  /-- A value that is no object stands where members are needed. -/
  | members
  /-- A type has an unknown name. -/
  | unknownType (name : String)
  /-- A text that is no pattern stands for one. -/
  | pattern
  /-- A pattern repeats something more often than can be counted. -/
  | patternOverflow
  /-- A pointer into a list has a step that is no number. -/
  | step (text : String)
  /-- A number is divided by zero. -/
  | zeroDivisor
  /-- A number is too large to be divided. -/
  | tooLarge
  /-- What is divided is not a number. -/
  | notANumber
  /-- The schema refers to itself without end. -/
  | endless
  /-- An integer has too many digits. -/
  | tooManyDigits (count : Nat)
  deriving DecidableEq, Repr

/-- The wording of a fault; not all of them have one. -/
def SchemaFault.message? : SchemaFault → Option String
  | .step text => some s!"invalid literal for int() with base 10: {quoted text}"
  | .notANumber => some "cannot convert float NaN to integer"
  | .tooManyDigits count => some (Json.DecodeProblem.tooManyDigits count).message
  | _ => none

/-- Why a schema cannot be used. -/
inductive SchemaProblem where
  /-- The text of a schema is not JSON. -/
  | notJson (error : Json.DecodeError)
  /-- The schema breaks the rules for schemas. -/
  | invalid (message : String)
  /-- The schema refers to something that is not there. -/
  | unresolvable (reason : String)
  /-- The schema makes no sense. -/
  | fault (fault : SchemaFault)

/-- Why a text that cannot be read is no schema. -/
def SchemaProblem.ofDecodeError (error : Json.DecodeError) : SchemaProblem :=
  match error.problem with
  | .tooManyDigits count => .fault (.tooManyDigits count)
  | _ => .notJson error

/-- Finds all violations of a value. -/
abbrev Validator := Json → Except SchemaProblem (List Violation)

/-- The text of a step. -/
def PathItem.text : PathItem → String
  | name text => text
  | index number => toString number

namespace Violation

/-- The steps to the part as texts. -/
def pathTexts (violation : Violation) : List String := violation.path.map PathItem.text

/-- Violations in the order of the texts of their paths; those with the same path stay in order. -/
def sort (violations : List Violation) : List Violation :=
  violations.mergeSort fun a b => !decide (b.pathTexts < a.pathTexts)

end Violation

end ProposalCheck
