import ProposalCheck.Json.Basic

/-!
# Building blocks for the schemas of schemas

## Main definitions

* `typed`, `oneOfTypes`: values of one type and of several types
* `refersTo`: values of a schema elsewhere
* `Json.withMembers`: an object with further members
-/

namespace ProposalCheck

/-- An object with further members at its end. -/
def Json.withMembers (value : Json) (more : List (String × Json)) : Json :=
  match value with
  | .obj members => .obj (members ++ more)
  | value => value

namespace Metaschema

/-- A list of texts. -/
def texts (list : List String) : Json := .arr (list.map .str)

/-- The schema of all values. -/
def anything : Json := .obj []

/-- The schema of values of a type. -/
def typed (name : String) : Json := .obj [("type", .str name)]

/-- The schema of values of one of several types. -/
def oneOfTypes (names : List String) : Json := .obj [("type", texts names)]

/-- The schema of texts in a format. -/
def textIn (format : String) : Json := .obj [("type", .str "string"), ("format", .str format)]

/-- The schema at the end of a reference. -/
def refersTo (target : String) : Json := .obj [("$ref", .str target)]

/-- A schema with a default value. -/
def withDefault (schema value : Json) : Json := schema.withMembers [("default", value)]

/-- The schema of values that keep to one of several schemas. -/
def anyOf (schemas : List Json) : Json := .obj [("anyOf", .arr schemas)]

/-- The schema of values that keep to all of several schemas. -/
def allOf (schemas : List Json) : Json := .obj [("allOf", .arr schemas)]

/-- The schema of objects with values of a schema. -/
def objectOf (schema : Json) : Json :=
  .obj [("type", .str "object"), ("additionalProperties", schema)]

/-- The schema of lists with items of a schema. -/
def listOf (schema : Json) : Json := .obj [("type", .str "array"), ("items", schema)]

/-- The schema of lists with at least one item. -/
def nonEmptyListOf (schema : Json) : Json :=
  .obj [("type", .str "array"), ("minItems", .int 1), ("items", schema)]

/-- The names of the types. -/
def typeNames : Json :=
  .obj [("enum", texts ["array", "boolean", "integer", "null", "number", "object", "string"])]

/-- The schema of numbers that count something. -/
def count : Json := .obj [("type", .str "integer"), ("minimum", .int 0)]

/-- The schema of the name of a type or of a list of such names. -/
def typeOrTypes (names : Json) : Json :=
  anyOf [names, .obj [("type", .str "array"), ("items", names), ("minItems", .int 1),
    ("uniqueItems", .bool true)]]

end Metaschema

end ProposalCheck
