import ProposalCheck.Schema.Evaluated

/-!
# Keywords about other schemas

Some keywords hold a value, or its items and members, against the schemas in their argument or at the end
of a reference.

## Main definitions

* `Visitor.keyword`: the violations of a keyword
-/

namespace ProposalCheck.Visitor

variable (visitor : Visitor)

/-- Words about parts of a value that should not be there. -/
def unexpected (parts : List Json) : String :=
  let verb := if parts.length = 1 then "was" else "were"
  s!"({Assertion.shown parts} {verb} unexpected)"

/-- Names in the order of their characters. -/
def sorted (names : List String) : List String := names.mergeSort fun a b => !decide (b < a)

/-- Names as values. -/
def asValues (names : List String) : List Json := names.map .str

/-- The schemas in a list. -/
def schemasIn (argument : Json) : Except SchemaProblem (List Json) :=
  (Assertion.constituents argument).mapError .fault

/-- The schemas by names. -/
def namedSchemas (argument : Json) : Except SchemaProblem (List (String × Json)) :=
  (Assertion.members argument).mapError .fault

/-! ### Members -/

/-- The members with names that a schema gives keep to its schemas. In the third edition a schema may
ask for its member. -/
def properties (argument : Json) (members : List (String × Json)) : Inspection :=
  .ofExcept do
    return .each (← namedSchemas argument) fun (name, schema) =>
      match Json.lookup name members with
      | some value => visitor.descendTo (.name name) schema value
      | none =>
        if visitor.station.dialect ≠ .draft3 then .done
        else match schema with
          | .obj inner =>
            if ((Json.lookup "required" inner).map Json.isTruthy).getD false then
              (Inspection.one s!"{quoted name} is a required property").under (.name "required")
            else .done
          | _ => .fault .members

/-- The members with names that match a pattern keep to its schema. -/
def patternProperties (argument : Json) (members : List (String × Json)) : Inspection :=
  .ofExcept do
    return .each (← namedSchemas argument) fun (pattern, schema) =>
      .each members fun (name, value) => .ofExcept do
        if ← (Assertion.hasMatch pattern name).mapError .fault then
          return visitor.descendTo (.name name) schema value
        else return .done

/-- The members that neither a name nor a pattern of a schema applies to. The patterns are tried as one
with alternatives. -/
def extraMembers (schema : Json) (members : List (String × Json)) :
    Except SchemaProblem (List (String × Json)) := do
  let named ← match schema.get? "properties" with
    | none => pure []
    | some names => namedSchemas names
  let patterns ← match schema.get? "patternProperties" with
    | none => pure []
    | some patterns => namedSchemas patterns
  let joined := joinWith "|" (patterns.map (·.1))
  members.filterM fun (name, _) =>
    if (Json.lookup name named).isSome then return false
    else if joined = "" then return true
    else return !(← (Assertion.hasMatch joined name).mapError .fault)

/-- The members that nothing else applies to keep to a schema, or there are none. -/
def additionalProperties (schema argument : Json) (members : List (String × Json)) : Inspection :=
  .ofExcept do
    let extras ← extraMembers schema members
    match argument with
    | .obj _ =>
      return .each extras fun (name, value) => visitor.descendTo (.name name) argument value
    | argument =>
      if argument.isTruthy || extras.isEmpty then return .done
      let names := asValues (sorted (extras.map (·.1)))
      match schema.get? "patternProperties" with
      | none =>
        return .one s!"Additional properties are not allowed {unexpected names}"
      | some patterns =>
        let patterns := asValues (sorted ((← namedSchemas patterns).map (·.1)))
        let verb := if extras.length = 1 then "does" else "do"
        return .one (s!"{Assertion.shown names} {verb} not match any of the regexes: "
          ++ Assertion.shown patterns)

/-- The names of members keep to a schema. -/
def propertyNames (argument : Json) (members : List (String × Json)) : Inspection :=
  .each members fun (name, _) => visitor.descend argument (.str name)

/-- An object with some members keeps to further schemas. -/
def dependentSchemas (argument : Json) (members : List (String × Json)) : Inspection :=
  .ofExcept do
    let present := (← namedSchemas argument).filter fun (name, _) => (Json.lookup name members).isSome
    return .each present fun (_, schema) => visitor.descend schema (.obj members)

/-- An object with some members has others or keeps to further schemas. -/
def dependencies (argument : Json) (members : List (String × Json)) : Inspection :=
  .ofExcept do
    let present := (← namedSchemas argument).filter fun (name, _) => (Json.lookup name members).isSome
    return .each present fun (name, dependency) =>
      let needs (names : List Json) : Inspection :=
        match Assertion.judgeDependency name names members with
        | .ok messages => .ofMessages messages
        | .error fault => .fault fault
      match dependency with
      | .arr names => needs names
      | .str text =>
        if visitor.station.dialect = .draft3 then needs [.str text]
        else visitor.descend dependency (.obj members)
      | dependency => visitor.descend dependency (.obj members)

/-- The members that nothing takes care of keep to a schema. -/
def unevaluatedProperties (depth : Nat) (schema argument : Json) (members : List (String × Json)) :
    Inspection :=
  .ofExcept do
    let evaluated ← evaluatedMembers visitor.station.dialect depth visitor schema members
    let left := members.filter fun (name, _) => !evaluated.contains name
    let broken ← left.mapM fun (name, value) => do
      return (← (visitor.descend argument value).toList).map fun _ => name
    let names := broken.flatten
    if names.isEmpty then return .done
    match argument with
    | .bool false =>
      return .one s!"Unevaluated properties are not allowed {unexpected (asValues (sorted names))}"
    | _ =>
      return .one ("Unevaluated properties are not valid under the given schema "
        ++ unexpected (asValues names))

/-! ### Items -/

/-- Items keep to the schemas at the same places. -/
def itemsInTurn (schemas items : List Json) : Inspection :=
  .each (items.zip schemas).zipIdx fun ((item, schema), index) =>
    visitor.descendTo (.index index) schema item

/-- Items from a place on keep to one schema. -/
def itemsFrom (start : Nat) (schema : Json) (items : List Json) : Inspection :=
  .each (items.drop start).zipIdx fun (item, index) =>
    visitor.descendTo (.index (start + index)) schema item

/-- Items after those that other schemas apply to keep to one schema, or there are none. -/
def itemsAfter (count : Nat) (argument : Json) (items : List Json) : Inspection :=
  if items.length ≤ count then .done
  else match argument with
    | .bool false =>
      let extra := items.length - count
      let rest := match items.drop count with
        | [item] => item
        | rest => .arr rest
      let noun := if count = 1 then "item" else "items"
      .one s!"Expected at most {count} {noun} but found {extra} extra: {rest.display}"
    | argument => visitor.itemsFrom count argument items

/-- Items keep to one schema or to the schemas at the same places. -/
def items (schema argument : Json) (items : List Json) : Inspection :=
  if visitor.station.dialect = .draft2020 then
    match schema.get? "prefixItems" with
    | none => visitor.itemsAfter 0 argument items
    | some (.arr schemas) => visitor.itemsAfter schemas.length argument items
    | some _ => .fault .kind
  else match argument with
    | .obj _ => visitor.itemsFrom 0 argument items
    | .arr schemas => visitor.itemsInTurn schemas items
    | argument =>
      if visitor.station.dialect.rank ≤ 1 then .fault .kind
      else visitor.itemsFrom 0 argument items

/-- Items after those with a schema for their place keep to one schema, or there are none. -/
def additionalItems (schema argument : Json) (items : List Json) : Inspection :=
  match schema.get? "items" with
  | none | some (.obj _) => .done
  | some (.arr schemas) => match argument with
    | .obj _ => visitor.itemsFrom schemas.length argument items
    | argument =>
      if argument.isTruthy || items.length ≤ schemas.length then .done
      else .one s!"Additional items are not allowed {unexpected (items.drop schemas.length)}"
  | some _ => .fault .kind

/-- Is a count on the wrong side of the argument of a keyword? -/
def isBeyond (side : Ordering) (count : Nat) : Option Json → Except SchemaProblem Bool
  | none => .ok false
  | some limit => do
    return (← (Assertion.order (.int count) limit).mapError .fault) = some side

/-- Counts the items that a schema accepts, up to the first one too many. -/
def countMatches (schema : Json) (most : Option Json) (count : Nat) :
    List Json → Except SchemaProblem (Nat × Bool)
  | [] => .ok (count, false)
  | item :: rest => do
    if ← visitor.accepts schema item then
      if ← isBeyond .gt (count + 1) most then return (count + 1, true)
      else countMatches schema most (count + 1) rest
    else countMatches schema most count rest

/-- Some items keep to a schema. -/
def contains (schema argument : Json) (items : List Json) : Inspection :=
  .ofExcept do
    let value := Json.arr items
    -- up to draft 7, the items that keep to the schema are not counted
    if visitor.station.dialect.rank ≤ 3 then
      if ← items.anyM (visitor.accepts argument) then return .done
      else return .one s!"None of {value.display} are valid under the given schema"
    let most := schema.get? "maxContains"
    let least := (schema.get? "minContains").getD (.int 1)
    let _ ← visitor.entering visitor.station.scope argument
    let (count, isTooMany) ← visitor.countMatches argument most 0 items
    if isTooMany then
      let most := (most.map Json.display).getD ""
      return .one s!"Too many items match the given schema (expected at most {most})"
    else if ← isBeyond .lt count (some least) then
      if count = 0 then
        return .one s!"{value.display} does not contain items matching the given schema"
      else
        return .one ("Too few items match the given schema (expected at least "
          ++ s!"{least.display} but only {count} matched)")
    else return .done

/-- There are no items that nothing takes care of. -/
def unevaluatedItems (depth : Nat) (schema : Json) (items : List Json) : Inspection :=
  .ofExcept do
    let evaluated ← evaluatedItems visitor.station.dialect depth visitor schema items
    let left := (items.zipIdx.filter fun (_, index) => !evaluated.contains index).map (·.1)
    if left.isEmpty then return .done
    else return .one s!"Unevaluated items are not allowed {unexpected left}"

/-! ### Combinations -/

/-- A value keeps to all of some schemas. -/
def allOf (argument value : Json) : Inspection :=
  .ofExcept do return .each (← schemasIn argument) fun schema => visitor.descend schema value

/-- The schemas from the first one on that a value keeps to. -/
def fromFirstFree (value : Json) : List Json → Except SchemaProblem (List Json)
  | [] => .ok []
  | schema :: rest => do
    if ← visitor.isFree schema value then return schema :: rest else fromFirstFree value rest

/-- A value keeps to at least one of some schemas. -/
def anyOf (argument value : Json) : Inspection :=
  .ofExcept do
    if (← visitor.fromFirstFree value (← schemasIn argument)).isEmpty then
      return .one s!"{value.display} is not valid under any of the given schemas"
    else return .done

/-- A value keeps to exactly one of some schemas. -/
def oneOf (argument value : Json) : Inspection :=
  .ofExcept do
    match ← visitor.fromFirstFree value (← schemasIn argument) with
    | [] => return .one s!"{value.display} is not valid under any of the given schemas"
    | first :: rest =>
      let others ← rest.filterM fun schema => visitor.accepts schema value
      if others.isEmpty then return .done
      else
        return .one s!"{value.display} is valid under each of {Assertion.shown (others ++ [first])}"

/-- A value breaks a schema. -/
def negation (argument value : Json) : Inspection :=
  .ofExcept do
    if ← visitor.accepts argument value then
      return .one s!"{value.display} should not be valid under {argument.display}"
    else return .done

/-- A value that keeps to a schema keeps to another one, and else to a third one. -/
def condition (schema argument value : Json) : Inspection :=
  .ofExcept do
    let branch := if ← visitor.accepts argument value then "then" else "else"
    match schema.get? branch with
    | some inner => return visitor.descend inner value
    | none => return .done

/-! ### Keywords of the third edition -/

/-- Is a value of a type, which may be a schema? -/
def fitsType (value : Json) : Json → Except SchemaProblem Bool
  | .str "any" => .ok true
  | schema@(.obj _) => visitor.isFree schema value
  | name => (Assertion.isOfType visitor.station.dialect value [name]).mapError .fault

/-- A type in a message: a schema is called by its name. -/
def typeLabel (type : Json) : String := ((type.get? "name").getD type).display

/-- A value has one of some types. -/
def typeOrSchema (argument value : Json) : Inspection :=
  .ofExcept do
    let types ← (Assertion.asList argument).mapError .fault
    if ← types.anyM (visitor.fitsType value) then return .done
    else
      let labels := Assertion.listed (types.map typeLabel)
      return .one s!"{value.display} is not of type {labels}"

/-- A value has none of some types. -/
def disallow (argument value : Json) : Inspection :=
  .ofExcept do
    return .each (← (Assertion.asList argument).mapError .fault) fun type => .ofExcept do
      if ← visitor.accepts (.obj [("type", .arr [type])]) value then
        return .one s!"{type.display} is disallowed for {value.display}"
      else return .done

/-- A value keeps to one or several other schemas. -/
def extension (argument value : Json) : Inspection :=
  match argument with
  | .obj _ => visitor.descend argument value
  | argument => visitor.allOf argument value

/-! ### All keywords -/

/-- The violations of a keyword that holds a value against other schemas. -/
def applicator (depth : Nat) (keyword : String) (schema argument value : Json) : Inspection :=
  match keyword, value with
  | "$ref", _ | "$dynamicRef", _ => visitor.jump (visitor.target argument) value
  | "$recursiveRef", _ => visitor.jump visitor.recursiveTarget value
  | "properties", .obj members => visitor.properties argument members
  | "patternProperties", .obj members => visitor.patternProperties argument members
  | "additionalProperties", .obj members => visitor.additionalProperties schema argument members
  | "propertyNames", .obj members => visitor.propertyNames argument members
  | "dependentSchemas", .obj members => visitor.dependentSchemas argument members
  | "dependencies", .obj members => visitor.dependencies argument members
  | "unevaluatedProperties", .obj members =>
    visitor.unevaluatedProperties depth schema argument members
  | "items", .arr items => visitor.items schema argument items
  | "prefixItems", .arr items =>
    .ofExcept do return visitor.itemsInTurn (← schemasIn argument) items
  | "additionalItems", .arr items => visitor.additionalItems schema argument items
  | "contains", .arr items => visitor.contains schema argument items
  | "unevaluatedItems", .arr items => visitor.unevaluatedItems depth schema items
  | "allOf", _ => visitor.allOf argument value
  | "anyOf", _ => visitor.anyOf argument value
  | "oneOf", _ => visitor.oneOf argument value
  | "not", _ => visitor.negation argument value
  | "if", _ => visitor.condition schema argument value
  | "type", _ => visitor.typeOrSchema argument value
  | "disallow", _ => visitor.disallow argument value
  | "extends", _ => visitor.extension argument value
  | _, _ => .done

/-- The violations of a keyword with an argument in a schema. Unknown keywords have none. -/
def keyword (depth : Nat) (name : String) (members : List (String × Json)) (argument value : Json) :
    Inspection :=
  let dialect := visitor.station.dialect
  if !dialect.keywords.contains name then .done
  else match Assertion.judge? visitor.setting.formats dialect name argument members value with
    | some (.ok messages) => .ofMessages messages
    | some (.error fault) => .fault fault
    | none => visitor.applicator depth name (.obj members) argument value

end ProposalCheck.Visitor
