import ProposalCheck.Schema.Basic

/-!
# Inspecting values

An inspection yields violations one after the other and may come to a problem with the schema. What lies
behind a violation is looked for only if it is asked for, so a value may be known to break a schema even
where the rest of the schema makes no sense.

## Main definitions

* `Inspection`: violations that are still to be found
* `Inspection.toList`: all of them
* `Inspection.first?`: the first one
-/

namespace ProposalCheck

/-- Violations that are still to be found. -/
inductive Inspection where
  | done
  | found (violation : Violation) (more : Unit → Inspection)
  | failed (problem : SchemaProblem)

namespace Inspection

/-- One inspection after another. -/
def append : Inspection → (Unit → Inspection) → Inspection
  | .done, rest => rest ()
  | .found violation more, rest => .found violation fun _ => (more ()).append rest
  | .failed problem, _ => .failed problem

/-- A violation of the whole value. -/
def one (message : String) : Inspection := .found ⟨[], message⟩ fun _ => .done

/-- Violations of the whole value. -/
def ofMessages : List String → Inspection
  | [] => .done
  | message :: rest => .found ⟨[], message⟩ fun _ => ofMessages rest

/-- A schema that makes no sense. -/
def fault (fault : SchemaFault) : Inspection := .failed (.fault fault)

/-- The inspection that a computation leads to. -/
def ofExcept : Except SchemaProblem Inspection → Inspection
  | .ok inspection => inspection
  | .error problem => .failed problem

/-- The inspections for some things, one after the other. -/
def each {α : Type} (items : List α) (inspect : α → Inspection) : Inspection :=
  match items with
  | [] => .done
  | item :: rest => (inspect item).append fun _ => each rest inspect

/-- The violations of a part as violations of the whole. -/
def under (step : PathItem) : Inspection → Inspection
  | .done => .done
  | .found violation more =>
    .found { violation with path := step :: violation.path } fun _ => (more ()).under step
  | .failed problem => .failed problem

/-- All violations. -/
def toList : Inspection → Except SchemaProblem (List Violation)
  | .done => .ok []
  | .found violation more => do return violation :: (← (more ()).toList)
  | .failed problem => .error problem

/-- The first violation. -/
def first? : Inspection → Except SchemaProblem (Option Violation)
  | .done => .ok none
  | .found violation _ => .ok (some violation)
  | .failed problem => .error problem

/-- Is there no violation? -/
def isClear (inspection : Inspection) : Except SchemaProblem Bool := do return (← inspection.first?).isNone

end Inspection

end ProposalCheck
