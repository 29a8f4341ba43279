import ProposalCheck.Schema.Visitor

/-!
# Parts that a schema takes care of

The keywords about unevaluated parts apply to the items and the members that no other keyword of the
schema takes care of, be it directly or in a schema that is applied to the same value.

## Main definitions

* `Visitor.evaluatedItems`: the places of items that a schema takes care of
* `Visitor.evaluatedMembers`: the names of members that a schema takes care of
-/

namespace ProposalCheck

namespace Visitor

/-- A reference problem on the way to evaluated parts is told without its kind. -/
def plainProblem : ReferenceProblem → SchemaProblem
  | .fault fault => .fault fault
  | problem => .unresolvable problem.message

/-- The visitors and schemas at the end of the references of a schema. -/
def referred (visitor : Visitor) (edition : Dialect) (schema : Json) :
    Except SchemaProblem (List (Visitor × Json)) := do
  let texts := [schema.get? "$ref"] ++ if edition = .draft2020 then [schema.get? "$dynamicRef"] else []
  let targets ← texts.filterMapM fun
    | none | some .null => return none
    | some reference => return some (← (visitor.target reference).mapError plainProblem)
  let recursive ←
    if edition = .draft2019 && (schema.get? "$recursiveRef").isSome then
      pure [← visitor.recursiveTarget.mapError plainProblem]
    else pure []
  (targets ++ recursive).mapM fun (scope, schema) => do return (← visitor.entering scope schema, schema)

/-- The schemas of a condition that apply to a value. -/
def conditional (visitor : Visitor) (schema value : Json) : Except SchemaProblem (List Json) := do
  match schema.get? "if" with
  | none => return []
  | some condition =>
    if ← visitor.accepts condition value then
      return condition :: (schema.get? "then").toList
    else return (schema.get? "else").toList

/-- The schemas of combinations that apply to a value. -/
def combined (visitor : Visitor) (schema value : Json) : Except SchemaProblem (List Json) := do
  let schemas := ["allOf", "oneOf", "anyOf"].flatMap fun name => match schema.get? name with
    | some (.arr schemas) => schemas
    | _ => []
  schemas.filterM fun schema => (visitor.descend schema value).isClear

/-- The places of items that a keyword with a single schema accepts. -/
def acceptedPlaces (visitor : Visitor) (items : List Json) : Option Json →
    Except SchemaProblem (List Nat)
  | none => .ok []
  | some schema => do
    let accepted ← items.zipIdx.filterM fun (item, _) => visitor.accepts schema item
    return accepted.map (·.2)

/-- How many items at the start of a list a schema takes care of; `none` if it is all of them. -/
def leadingItems (edition : Dialect) (schema : Json) : Except SchemaProblem (Option Nat) :=
  if edition = .draft2020 then
    if (schema.get? "items").isSome then .ok none
    else match schema.get? "prefixItems" with
      | none => .ok (some 0)
      | some (.arr schemas) => .ok (some schemas.length)
      | some _ => .error (.fault .kind)
  else match schema.get? "items", schema.get? "additionalItems" with
    | none, _ => .ok (some 0)
    | some _, some _ | some (.obj _), none => .ok none
    | some (.arr schemas), none => .ok (some schemas.length)
    | some _, none => .error (.fault .kind)

/-- The places of items that a schema takes care of. The depth bounds the nesting of schemas. -/
def evaluatedItems (edition : Dialect) : Nat → Visitor → Json → List Json →
    Except SchemaProblem (List Nat)
  | 0, _, _, _ => .error (.fault .endless)
  | depth + 1, visitor, schema, items => do
    if let .bool _ := schema then return []
    let value := Json.arr items
    match ← leadingItems edition schema with
    | none => return List.range items.length
    | some count =>
      let referred ← (← visitor.referred edition schema).mapM fun (inner, schema) =>
        evaluatedItems edition depth inner schema items
      let within ← (← visitor.conditional schema value).mapM fun schema =>
        evaluatedItems edition depth visitor schema items
      let contained ← visitor.acceptedPlaces items (schema.get? "contains")
      let left ← visitor.acceptedPlaces items (schema.get? "unevaluatedItems")
      let combined ← (← visitor.combined schema value).mapM fun schema =>
        evaluatedItems edition depth visitor schema items
      return List.range count ++ referred.flatten ++ within.flatten ++ contained ++ left
        ++ combined.flatten

/-- The names of members that the patterns of a schema match. -/
def patternNames (members : List (String × Json)) : Option Json → Except SchemaProblem (List String)
  | none => .ok []
  | some patterns => do
    let patterns ← (Assertion.members patterns).mapError .fault
    (members.map (·.1)).filterM fun name =>
      patterns.anyM fun (pattern, _) => (Assertion.hasMatch pattern name).mapError .fault

/-- The names of members that a keyword with a single schema accepts. -/
def acceptedNames (visitor : Visitor) (members : List (String × Json)) : Option Json →
    Except SchemaProblem (List String)
  | none | some .null => .ok []
  | some schema => do
    let accepted ← members.filterM fun (_, value) => (visitor.descend schema value).isClear
    return accepted.map (·.1)

/-- The schemas that apply to an object because of its members. -/
def dependent (schema : Json) (members : List (String × Json)) : List Json :=
  match schema.get? "dependentSchemas" with
  | some (.obj schemas) =>
    (schemas.filter fun (name, _) => (Json.lookup name members).isSome).map (·.2)
  | _ => []

/-- The names of members that a schema takes care of. The depth bounds the nesting of schemas. -/
def evaluatedMembers (edition : Dialect) : Nat → Visitor → Json → List (String × Json) →
    Except SchemaProblem (List String)
  | 0, _, _, _ => .error (.fault .endless)
  | depth + 1, visitor, schema, members => do
    if let .bool _ := schema then return []
    let value := Json.obj members
    let referred ← (← visitor.referred edition schema).mapM fun (inner, schema) =>
      evaluatedMembers edition depth inner schema members
    let named := match schema.get? "properties" with
      | some (.obj properties) => properties.map (·.1)
      | _ => []
    let additional ← visitor.acceptedNames members (schema.get? "additionalProperties")
    let left ← visitor.acceptedNames members (schema.get? "unevaluatedProperties")
    let matching ← patternNames members (schema.get? "patternProperties")
    let schemas := dependent schema members ++ (← visitor.combined schema value)
      ++ (← visitor.conditional schema value)
    let within ← schemas.mapM fun schema => evaluatedMembers edition depth visitor schema members
    return referred.flatten ++ named ++ additional ++ left ++ matching ++ within.flatten

end Visitor

end ProposalCheck
