import ProposalCheck.Schema.Basic
import ProposalCheck.Web.Reference

/-!
# Dialects of schemas

There are several editions of the rules for schemas. A schema names its edition by an address, or else
keeps to the one around it. The editions differ in the keywords they know, in the place of addresses
within schemas, and in what counts as an integer.

## Main definitions

* `Dialect`: an edition of the rules
* `Dialect.of`: the edition that a schema names
* `Dialect.keywords`, `Dialect.isType`: its keywords and types
* `Dialect.addressOf`, `Dialect.anchorsIn`, `Dialect.subschemas`: what a schema says about its parts
-/

namespace ProposalCheck

/-- An edition of the rules for schemas. -/
inductive Dialect where
  | draft3
  | draft4
  | draft6
  | draft7
  | draft2019
  | draft2020
  deriving DecidableEq, Repr

namespace Dialect

/-- All editions, the oldest one first. -/
def all : List Dialect := [.draft3, .draft4, .draft6, .draft7, .draft2019, .draft2020]

/-- The address of the schema for schemas, without a fragment. -/
def address : Dialect → String
  | .draft3 => "http://json-schema.org/draft-03/schema"
  | .draft4 => "http://json-schema.org/draft-04/schema"
  | .draft6 => "http://json-schema.org/draft-06/schema"
  | .draft7 => "http://json-schema.org/draft-07/schema"
  | .draft2019 => "https://json-schema.org/draft/2019-09/schema"
  | .draft2020 => "https://json-schema.org/draft/2020-12/schema"

/-- The edition with an address. -/
def ofAddress? (text : String) : Option Dialect :=
  all.find? (·.address = Reference.normalText text)

/-- The place of an edition among all of them. -/
def rank : Dialect → Nat
  | .draft3 => 0
  | .draft4 => 1
  | .draft6 => 2
  | .draft7 => 3
  | .draft2019 => 4
  | .draft2020 => 5

/-- Does a text have another one in it? -/
def holds (part : List Char) : List Char → Bool
  | [] => part.isEmpty
  | c :: rest => part.isPrefixOf (c :: rest) || holds part rest

/-- The edition that a schema names; that of what is around it if it names none. -/
def of (around : Dialect) (schema : Json) : Except SchemaFault Dialect :=
  let name := "$schema"
  match schema with
  | .bool _ => .ok around
  | .obj members => match Json.lookup name members with
    | none | some .null | some (.bool false) | some (.int 0) => .ok around
    | some (.str text) => .ok ((ofAddress? text).getD around)
    | some (.arr _) | some (.obj _) => .error .kind
    | some _ => .error .members
  | .arr items => if items.any (·.equalWith false (.str name)) then .error .kind else .ok around
  | .str text => if holds name.toList text.toList then .error .kind else .ok around
  | _ => .error .kind

/-- Does a reference make all keywords beside it void? -/
def isReferenceAlone (dialect : Dialect) : Bool := dialect.rank ≤ 3

/-- Keywords of nearly all editions. -/
def commonKeywords : List String :=
  ["$ref", "additionalProperties", "enum", "format", "items", "maxItems", "maxLength", "maximum",
    "minItems", "minLength", "minimum", "pattern", "patternProperties", "properties", "type",
    "uniqueItems"]

/-- The keywords of an edition. -/
def keywords : Dialect → List String
  | .draft3 => commonKeywords ++ ["additionalItems", "dependencies", "disallow", "divisibleBy", "extends"]
  | .draft4 => draft4Keywords
  | .draft6 => draft6Keywords
  | .draft7 => "if" :: draft6Keywords
  | .draft2019 => "$recursiveRef" :: "additionalItems" :: laterKeywords
  | .draft2020 => "$dynamicRef" :: "prefixItems" :: laterKeywords
where
  schemaKeywords : List String :=
    commonKeywords ++ ["allOf", "anyOf", "maxProperties", "minProperties", "multipleOf", "not", "oneOf",
      "required"]
  draft4Keywords : List String := schemaKeywords ++ ["additionalItems", "dependencies"]
  newerKeywords : List String :=
    ["const", "contains", "exclusiveMaximum", "exclusiveMinimum", "propertyNames"]
  draft6Keywords : List String := draft4Keywords ++ newerKeywords
  laterKeywords : List String :=
    schemaKeywords ++ newerKeywords ++
      ["dependentRequired", "dependentSchemas", "if", "unevaluatedItems", "unevaluatedProperties"]

/-- Is a float without a fraction an integer? -/
def acceptsWholeFloats (dialect : Dialect) : Bool := 2 ≤ dialect.rank

/-- Is a value of a type? -/
def isType (dialect : Dialect) (name : String) (value : Json) : Except SchemaFault Bool :=
  match name, value with
  | "array", .arr _ | "boolean", .bool _ | "object", .obj _ | "null", .null | "string", .str _
  | "number", .int _ | "number", .float _ | "integer", .int _ => .ok true
  | "integer", .float x =>
    .ok (dialect.acceptsWholeFloats && ((Dyadic.ofFloat? x).map Dyadic.isInteger).getD false)
  | "any", _ => if dialect = .draft3 then .ok true else .error (.unknownType name)
  | name, _ =>
    if ["array", "boolean", "integer", "null", "number", "object", "string"].contains name then .ok false
    else .error (.unknownType name)

/-- The member that holds the address of a schema. -/
def addressName (dialect : Dialect) : String := if dialect.rank ≤ 1 then "id" else "$id"

/-- The address that a schema gives itself, which may be relative. In older editions there is none
beside a reference, and a mere fragment is none. -/
def addressOf (dialect : Dialect) (schema : Json) : Except SchemaFault (Option String) :=
  match schema with
  | .bool _ => .ok none
  | .obj members =>
    if dialect.isReferenceAlone && (Json.lookup "$ref" members).isSome then .ok none
    else match Json.lookup dialect.addressName members with
      | none | some .null => .ok none
      | some (.str text) =>
        if dialect.isReferenceAlone && text.startsWith "#" then .ok none
        else .ok (some (Reference.dropMark text))
      | some _ => .error .members
  | .arr _ | .str _ => .error .members
  | _ => .error (if dialect.isReferenceAlone then .kind else .members)

/-- A name for a schema within its document. A dynamic one can be taken over by schemas around. -/
structure LocalName where
  name : String
  isDynamic : Bool
  deriving DecidableEq, Repr

/-- The names that a schema gives itself. -/
def anchorsIn (dialect : Dialect) (schema : Json) : List LocalName :=
  let named (member : String) : List String := match schema.get? member with
    | some (.str text) => [text]
    | _ => []
  if dialect.isReferenceAlone then
    (named dialect.addressName).filterMap fun text =>
      if text.startsWith "#" then some ⟨(text.drop 1).toString, false⟩ else none
  else
    (named "$anchor").map (fun name => ⟨name, false⟩)
      ++ if dialect = .draft2020 then
        (named "$dynamicAnchor").map fun name => ⟨name, true⟩
      else []

/-- Members that hold one schema. -/
def schemaMembers : Dialect → List String
  | .draft3 => []
  | .draft4 => ["not"]
  | .draft6 => ["additionalItems", "additionalProperties", "contains", "not", "propertyNames"]
  | .draft7 =>
    ["additionalItems", "additionalProperties", "contains", "else", "if", "not", "propertyNames", "then"]
  | .draft2019 => "additionalItems" :: laterMembers
  | .draft2020 => "items" :: laterMembers
where
  laterMembers : List String :=
    ["additionalProperties", "contains", "contentSchema", "else", "if", "not", "propertyNames", "then",
      "unevaluatedItems", "unevaluatedProperties"]

/-- Members that hold a list of schemas. -/
def listMembers : Dialect → List String
  | .draft3 => ["extends"]
  | .draft2020 => ["allOf", "anyOf", "oneOf", "prefixItems"]
  | _ => ["allOf", "anyOf", "oneOf"]

/-- Members that hold schemas by names. -/
def objectMembers (dialect : Dialect) : List String :=
  ["definitions", "patternProperties", "properties"]
    ++ if 4 ≤ dialect.rank then ["$defs", "dependentSchemas"] else []

/-- The items of a list or the values of an object. -/
def partsOf : Json → List Json
  | .arr items => items
  | .obj members => members.map (·.2)
  | _ => []

/-- Is a value an object? -/
def isObject : Json → Bool
  | .obj _ => true
  | _ => false

/-- The schemas directly within a schema. -/
def subschemas (dialect : Dialect) (schema : Json) : List Json :=
  let parts (names : List String) : List Json := names.filterMap schema.get?
  let items : List Json :=
    if dialect = .draft2020 then [] else (parts ["items"]).flatMap fun
      | .arr items => items
      | value => [value]
  let dependencies : List Json :=
    if 4 ≤ dialect.rank then [] else ((parts ["dependencies"]).flatMap partsOf).filter isObject
  let additional : List Json :=
    if 2 ≤ dialect.rank then []
    else (parts ["additionalItems", "additionalProperties"]).filter isObject
  parts dialect.schemaMembers ++ (parts dialect.listMembers).flatMap partsOf
    ++ (parts dialect.objectMembers).flatMap partsOf ++ items ++ dependencies ++ additional

/-- Do the steps of a pointer lead from schema to schema? The last step may lead into a list or an
object of schemas. -/
def isSchemaPath (dialect : Dialect) (isObject : Bool) : List String → Bool
  | [] => true
  | step :: rest =>
    if isObject && dialect ≠ .draft2020
      && (step = "items" || (step = "dependencies" && dialect.isReferenceAlone)) then true
    else if step = "additionalItems" || step = "additionalProperties" then
      (dialect ≠ .draft2020 || step = "additionalProperties") && isSchemaPath dialect isObject rest
    else if dialect.schemaMembers.contains step then isSchemaPath dialect isObject rest
    else if dialect.listMembers.contains step || dialect.objectMembers.contains step then
      match rest with
      | [] => false
      | _ :: rest => isSchemaPath dialect isObject rest
    else false

end Dialect

end ProposalCheck
