import ProposalCheck.Schema.Metaschema.Basic

/-!
# The schemas of schemas of the older editions

## Main definitions

* `Metaschema.draft3`, `Metaschema.draft4`, `Metaschema.draft6`, `Metaschema.draft7`
-/

namespace ProposalCheck.Metaschema

/-- The schema of schemas itself, seen from its parts. -/
def whole : Json := refersTo "#"

/-! ### The third edition -/

/-- A schema, or a value of a type. -/
def schemaOr (name : String) : Json := .obj [("type", .arr [whole, .str name])]

/-- A type, or a list of types and schemas. -/
def typesOfThird : List (String × Json) :=
  [ ("type", texts ["string", "array"]),
    ("items", .obj [("type", .arr [.str "string", whole])]),
    ("uniqueItems", .bool true) ]

/-- The schema of schemas of the third edition. -/
def draft3 : Json := .obj
  [ ("$schema", .str "http://json-schema.org/draft-03/schema#"),
    ("id", .str "http://json-schema.org/draft-03/schema#"),
    ("type", .str "object"),
    ("properties", .obj
      [ ("type", withDefault (.obj typesOfThird) (.str "any")),
        ("properties", withDefault
          (objectOf (.obj [("$ref", .str "#"), ("type", .str "object")])) anything),
        ("patternProperties", withDefault (objectOf whole) anything),
        ("additionalProperties", withDefault (schemaOr "boolean") anything),
        ("items", withDefault ((schemaOr "array").withMembers [("items", whole)]) anything),
        ("additionalItems", withDefault (schemaOr "boolean") anything),
        ("required", withDefault (typed "boolean") (.bool false)),
        ("dependencies", withDefault (objectOf (.obj
          [ ("type", .arr [.str "string", .str "array", whole]),
            ("items", typed "string") ])) anything),
        ("minimum", typed "number"),
        ("maximum", typed "number"),
        ("exclusiveMinimum", withDefault (typed "boolean") (.bool false)),
        ("exclusiveMaximum", withDefault (typed "boolean") (.bool false)),
        ("minItems", withDefault count (.int 0)),
        ("maxItems", count),
        ("uniqueItems", withDefault (typed "boolean") (.bool false)),
        ("pattern", textIn "regex"),
        ("minLength", withDefault count (.int 0)),
        ("maxLength", typed "integer"),
        ("enum", .obj [("type", .str "array"), ("minItems", .int 1), ("uniqueItems", .bool true)]),
        ("default", typed "any"),
        ("title", typed "string"),
        ("description", typed "string"),
        ("format", typed "string"),
        ("divisibleBy", withDefault (.obj
          [("type", .str "number"), ("minimum", .int 0), ("exclusiveMinimum", .bool true)]) (.int 1)),
        ("disallow", .obj typesOfThird),
        ("extends", withDefault ((schemaOr "array").withMembers [("items", whole)]) anything),
        ("id", typed "string"),
        ("$ref", typed "string"),
        ("$schema", textIn "uri") ]),
    ("dependencies", .obj
      [("exclusiveMinimum", .str "minimum"), ("exclusiveMaximum", .str "maximum")]),
    ("default", anything) ]

/-! ### The fourth, the sixth and the seventh edition -/

/-- A list of schemas. -/
def schemaList : Json := refersTo "#/definitions/schemaArray"

/-- Schemas by names. -/
def namedSchemas : Json := withDefault (objectOf whole) anything

/-- A list of names. -/
def nameList : Json := refersTo "#/definitions/stringArray"

/-- A schema or a list of names for each name. -/
def dependencySchemas : Json := objectOf (anyOf [whole, nameList])

/-- The schema of schemas of the fourth edition. -/
def draft4 : Json := .obj
  [ ("id", .str "http://json-schema.org/draft-04/schema#"),
    ("$schema", .str "http://json-schema.org/draft-04/schema#"),
    ("description", .str "Core schema meta-schema"),
    ("definitions", .obj
      [ ("schemaArray", nonEmptyListOf whole),
        ("positiveInteger", count),
        ("positiveIntegerDefault0", allOf [positive, withDefault anything (.int 0)]),
        ("simpleTypes", typeNames),
        ("stringArray", .obj
          [ ("type", .str "array"), ("items", typed "string"), ("minItems", .int 1),
            ("uniqueItems", .bool true) ]) ]),
    ("type", .str "object"),
    ("properties", .obj
      [ ("id", .obj [("format", .str "uri"), ("type", .str "string")]),
        ("$schema", textIn "uri"),
        ("title", typed "string"),
        ("description", typed "string"),
        ("default", anything),
        ("multipleOf", .obj
          [("type", .str "number"), ("minimum", .int 0), ("exclusiveMinimum", .bool true)]),
        ("maximum", typed "number"),
        ("exclusiveMaximum", typed "boolean"),
        ("minimum", typed "number"),
        ("exclusiveMinimum", typed "boolean"),
        ("maxLength", positive),
        ("minLength", positiveOrZero),
        ("pattern", textIn "regex"),
        ("additionalItems", booleanOrSchema),
        ("items", withDefault (anyOf [whole, schemaList]) anything),
        ("maxItems", positive),
        ("minItems", positiveOrZero),
        ("uniqueItems", withDefault (typed "boolean") (.bool false)),
        ("maxProperties", positive),
        ("minProperties", positiveOrZero),
        ("required", nameList),
        ("additionalProperties", booleanOrSchema),
        ("definitions", namedSchemas),
        ("properties", namedSchemas),
        ("patternProperties", namedSchemas),
        ("dependencies", dependencySchemas),
        ("enum", .obj [("type", .str "array"), ("minItems", .int 1), ("uniqueItems", .bool true)]),
        ("type", typeOrTypes (refersTo "#/definitions/simpleTypes")),
        ("format", typed "string"),
        ("allOf", schemaList),
        ("anyOf", schemaList),
        ("oneOf", schemaList),
        ("not", whole) ]),
    ("dependencies", .obj
      [("exclusiveMaximum", texts ["maximum"]), ("exclusiveMinimum", texts ["minimum"])]),
    ("default", anything) ]
where
  positive : Json := refersTo "#/definitions/positiveInteger"
  positiveOrZero : Json := refersTo "#/definitions/positiveIntegerDefault0"
  booleanOrSchema : Json := withDefault (anyOf [typed "boolean", whole]) anything

/-- A number that counts something. -/
def natural : Json := refersTo "#/definitions/nonNegativeInteger"

/-- A number that counts something, by default nothing. -/
def naturalOrZero : Json := refersTo "#/definitions/nonNegativeIntegerDefault0"

/-- The parts that the sixth and the seventh edition share. -/
def sharedDefinitions : Json := .obj
  [ ("schemaArray", nonEmptyListOf whole),
    ("nonNegativeInteger", count),
    ("nonNegativeIntegerDefault0", allOf [natural, withDefault anything (.int 0)]),
    ("simpleTypes", typeNames),
    ("stringArray", .obj
      [ ("type", .str "array"), ("items", typed "string"), ("uniqueItems", .bool true),
        ("default", .arr []) ]) ]

/-- The keywords from `multipleOf` to `propertyNames` of the sixth and the seventh edition. -/
def sharedKeywords (all : Json) : List (String × Json) :=
  [ ("multipleOf", .obj [("type", .str "number"), ("exclusiveMinimum", .int 0)]),
    ("maximum", typed "number"),
    ("exclusiveMaximum", typed "number"),
    ("minimum", typed "number"),
    ("exclusiveMinimum", typed "number"),
    ("maxLength", natural),
    ("minLength", naturalOrZero),
    ("pattern", textIn "regex"),
    ("additionalItems", whole),
    ("items", withDefault (anyOf [whole, schemaList]) all),
    ("maxItems", natural),
    ("minItems", naturalOrZero),
    ("uniqueItems", withDefault (typed "boolean") (.bool false)),
    ("contains", whole),
    ("maxProperties", natural),
    ("minProperties", naturalOrZero),
    ("required", nameList),
    ("additionalProperties", whole),
    ("definitions", namedSchemas),
    ("properties", namedSchemas),
    ("patternProperties", .obj
      [ ("type", .str "object"), ("additionalProperties", whole),
        ("propertyNames", .obj [("format", .str "regex")]), ("default", anything) ]),
    ("dependencies", dependencySchemas),
    ("propertyNames", whole) ]

/-- Several schemas of which some or all hold. -/
def combinations : List (String × Json) :=
  [("allOf", schemaList), ("anyOf", schemaList), ("oneOf", schemaList), ("not", whole)]

/-- The schema of schemas of the sixth edition. -/
def draft6 : Json := .obj
  [ ("$schema", .str "http://json-schema.org/draft-06/schema#"),
    ("$id", .str "http://json-schema.org/draft-06/schema#"),
    ("title", .str "Core schema meta-schema"),
    ("definitions", sharedDefinitions),
    ("type", texts ["object", "boolean"]),
    ("properties", .obj (
      [ ("$id", textIn "uri-reference"),
        ("$schema", textIn "uri"),
        ("$ref", textIn "uri-reference"),
        ("title", typed "string"),
        ("description", typed "string"),
        ("default", anything),
        ("examples", listOf anything) ]
      ++ sharedKeywords anything ++
      [ ("const", anything),
        ("enum", typed "array"),
        ("type", typeOrTypes (refersTo "#/definitions/simpleTypes")),
        ("format", typed "string") ]
      ++ combinations)),
    ("default", anything) ]

/-- The schema of schemas of the seventh edition. -/
def draft7 : Json := .obj
  [ ("$schema", .str "http://json-schema.org/draft-07/schema#"),
    ("$id", .str "http://json-schema.org/draft-07/schema#"),
    ("title", .str "Core schema meta-schema"),
    ("definitions", sharedDefinitions),
    ("type", texts ["object", "boolean"]),
    ("properties", .obj (
      [ ("$id", textIn "uri-reference"),
        ("$schema", textIn "uri"),
        ("$ref", textIn "uri-reference"),
        ("$comment", typed "string"),
        ("title", typed "string"),
        ("description", typed "string"),
        ("default", .bool true),
        ("readOnly", withDefault (typed "boolean") (.bool false)),
        ("examples", listOf (.bool true)) ]
      ++ sharedKeywords (.bool true) ++
      [ ("const", .bool true),
        ("enum", listOf (.bool true)),
        ("type", typeOrTypes (refersTo "#/definitions/simpleTypes")),
        ("format", typed "string"),
        ("contentMediaType", typed "string"),
        ("contentEncoding", typed "string"),
        ("if", whole),
        ("then", whole),
        ("else", whole) ]
      ++ combinations)),
    ("default", .bool true) ]

end ProposalCheck.Metaschema
