import ProposalCheck.Schema.Assertion
import ProposalCheck.Schema.Registry
import ProposalCheck.Schema.Inspection

/-!
# Going from schema to schema

A keyword may hold a value or parts of it against other schemas: those within its argument and those at
the end of a reference. A visitor knows where the keyword stands and is told how a schema is applied, so
every keyword can be written down on its own.

## Main definitions

* `Station`: where a schema is applied
* `Visitor`: what a keyword needs to hold values against other schemas
* `Visitor.descend`, `Visitor.descendTo`: a schema within the argument of a keyword
* `Visitor.accepts`: does a schema accept a value?
* `Visitor.jump`: a schema at the end of a reference
-/

namespace ProposalCheck

/-- What holds for all of a validation: the schemas that can be referred to, and the edition that names
the formats. -/
structure SchemaSetting where
  registry : Registry
  formats : Dialect

/-- Where a schema is applied: the edition that its keywords belong to, and where references start
from. -/
structure Station where
  dialect : Dialect
  scope : Scope

/-- What a keyword needs to hold values against other schemas. A schema is applied to a value at a
station; the edition in front of it decides whether a reference makes the keywords beside it void. -/
structure Visitor where
  setting : SchemaSetting
  station : Station
  visit : Dialect → Station → Json → Json → Inspection

namespace Visitor

variable (visitor : Visitor)

/-- The violations of a schema that accepts nothing. -/
def refusal (value : Json) : Inspection := .one s!"False schema does not allow {value.display}"

/-- The visitor for a schema in a scope. The schema may name an edition of its own. -/
def entering (scope : Scope) (schema : Json) : Except SchemaProblem Visitor :=
  match Dialect.of visitor.station.dialect schema with
  | .ok dialect => .ok { visitor with station := ⟨dialect, scope⟩ }
  | .error fault => .error (.fault fault)

/-- The violations of a schema in a scope. -/
def apply (scope : Scope) (schema value : Json) : Inspection :=
  match schema with
  | .bool true => .done
  | .bool false => refusal value
  | schema => .ofExcept do
    let inner ← visitor.entering scope schema
    return inner.visit visitor.station.dialect inner.station schema value

/-- The violations of a schema within the argument of a keyword. -/
def descend (schema value : Json) : Inspection :=
  match schema with
  | .bool true => .done
  | .bool false => refusal value
  | schema => match visitor.station.dialect.addressOf schema with
    | .ok own => visitor.apply (visitor.station.scope.enter own) schema value
    | .error fault => .fault fault

/-- The violations of a schema by a part of the value. A schema that accepts nothing is held against
the whole value. -/
def descendTo (step : PathItem) (schema part : Json) : Inspection :=
  match schema with
  | .bool _ => visitor.descend schema part
  | schema => (visitor.descend schema part).under step

/-- Does a schema accept a value? -/
def accepts (schema value : Json) : Except SchemaProblem Bool := do
  match schema with
  | .bool answer => return answer
  | schema =>
    let inner ← visitor.entering visitor.station.scope schema
    (inner.visit inner.station.dialect inner.station schema value).isClear

/-- Is there no violation at all? All violations are looked for. -/
def isFree (schema value : Json) : Except SchemaProblem Bool := do
  return (← (visitor.descend schema value).toList).isEmpty

/-- The text of a reference. -/
def referenceText : Json → Except ReferenceProblem String
  | .str text => .ok text
  | _ => .error (.fault .members)

/-- The schema behind a reference, and the scope within it. -/
def target (reference : Json) : Except ReferenceProblem (Scope × Json) := do
  visitor.setting.registry.follow visitor.station.scope (← referenceText reference)

/-- The outermost schema that a recursive reference can mean. -/
def recursiveTarget : Except ReferenceProblem (Scope × Json) :=
  visitor.setting.registry.followRecursive visitor.station.scope

/-- The violations of the schema at the end of a reference. -/
def jump (target : Except ReferenceProblem (Scope × Json)) (value : Json) : Inspection :=
  match target with
  | .ok (scope, schema) => visitor.apply scope schema value
  | .error problem => .failed problem.asSchemaProblem

end Visitor

end ProposalCheck
