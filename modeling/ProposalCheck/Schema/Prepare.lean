import ProposalCheck.Schema.Applicator
import ProposalCheck.Schema.Metaschema.Early
import ProposalCheck.Schema.Metaschema.Late

/-!
# Preparing a schema

A schema is given as text, together with further schemas that it may refer to. Before it is used it is
held against the schema for schemas of its edition. Then it decides about values.

## Main definitions

* `Dialect.documents`: the schemas for schemas of an edition
* `Schema.visit`: the violations of a schema
* `Schema.check`: does a schema keep to the rules of its edition?
* `Schema.prepare`: the validator of a schema
-/

namespace ProposalCheck

/-- The schemas for schemas of an edition, the main one first. -/
def Dialect.documents : Dialect → List Json
  | .draft3 => [Metaschema.draft3]
  | .draft4 => [Metaschema.draft4]
  | .draft6 => [Metaschema.draft6]
  | .draft7 => [Metaschema.draft7]
  | .draft2019 => Metaschema.draft2019
  | .draft2020 => Metaschema.draft2020

/-- The schema for schemas of an edition. -/
def Dialect.metaschema (dialect : Dialect) : Json := dialect.documents.headD (.obj [])

namespace Schema

/-- The schemas for schemas of all editions by their addresses. -/
def standard : Registry :=
  .ofDocuments <| Dialect.all.flatMap fun dialect => dialect.documents.map fun document =>
    let address := match dialect.addressOf document with
      | .ok (some address) => address
      | _ => dialect.address
    (address, ⟨dialect, document⟩)

/-- The members of a schema that count. Where a reference makes the keywords beside it void, it is the
only one. -/
def counted (dialect : Dialect) (members : List (String × Json)) : List (String × Json) :=
  if dialect.isReferenceAlone then
    match Json.lookup "$ref" members with
    | none | some .null => members
    | some reference => [("$ref", reference)]
  else members

/-- The violations of a schema by a value. The depth bounds how often one schema leads to another. -/
def visit (setting : SchemaSetting) : Nat → Dialect → Station → Json → Json → Inspection
  | 0, _, _, _, _ => .fault .endless
  | depth + 1, dialect, station, schema, value =>
    match schema with
    | .bool true => .done
    | .bool false => Visitor.refusal value
    | .obj members =>
      let visitor : Visitor := ⟨setting, station, visit setting depth⟩
      .each (counted dialect members) fun (name, argument) =>
        visitor.keyword depth name members argument value
    | _ => .fault .members

/-- How often one schema may lead to another before that counts as endless. -/
def deepest : Nat := 470

/-- The violations of a schema in a registry, where it stands as a document with an address. -/
def violations (registry : Registry) (dialect : Dialect) (address : String) (schema value : Json) :
    Inspection :=
  visit ⟨registry, dialect⟩ deepest dialect ⟨dialect, ⟨address, []⟩⟩ schema value

/-- Does a schema keep to the rules of an edition? The first violation counts. -/
def check (dialect : Dialect) (schema : Json) : Except SchemaProblem Unit := do
  let inspection := violations standard dialect dialect.address dialect.metaschema schema
  match ← inspection.first? with
  | some violation => throw (.invalid violation.message)
  | none => return ()

/-- The value of a text with a schema. -/
def read (text : String) : Except SchemaProblem Json :=
  (Json.decode text).mapError .ofDecodeError

/-- The validator of a schema that is given as text, with further schemas by their addresses. The last
one with an address counts. -/
def prepare (schema : String) (additional : List (String × String)) :
    Except SchemaProblem Validator := do
  let schema ← read schema
  let additional ← additional.mapM fun (address, text) => do return (address, ← read text)
  let additional ← additional.mapM fun (address, contents) => do
    let resource ← (Resource.ofContents .draft7 contents).mapError .fault
    return (Reference.dropMark address, resource)
  let dialect ← (Dialect.of .draft7 schema).mapError .fault
  check dialect schema
  let address := (← (dialect.addressOf schema).mapError .fault).getD ""
  let registry := Registry.add ((address, ⟨dialect, schema⟩) :: additional.reverse) standard
  return fun value => (violations registry dialect address schema value).toList

end Schema

end ProposalCheck
