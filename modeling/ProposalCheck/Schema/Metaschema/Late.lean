import ProposalCheck.Schema.Metaschema.Basic

/-!
# The schemas of schemas of the newer editions

A newer edition splits the schema of schemas into one for each group of keywords. What is nested within
a schema has to keep to the whole again and not only to the group, so the groups refer to the outermost
schema of schemas that led to them.

## Main definitions

* `Metaschema.draft2019`, `Metaschema.draft2020`: the documents of an edition, the main one first
-/

namespace ProposalCheck.Metaschema

/-- The groups of an edition start alike: with their address and the mark of what can be taken over. -/
def group (edition name title : String) (mark : String × Json) (rest : List (String × Json)) :
    Json := .obj (
  [ ("$schema", .str (edition ++ "schema")),
    ("$id", .str (edition ++ "meta/" ++ name)),
    ("$vocabulary", .obj [(edition ++ "vocab/" ++ name, .bool true)]),
    mark,
    ("title", .str title) ] ++ rest)

/-- Nested schemas by names. -/
def nestedByName (nested : Json) : Json := withDefault (objectOf nested) anything

/-- Nested schemas by patterns. -/
def nestedByPattern (nested : Json) : Json := .obj
  [ ("type", .str "object"), ("additionalProperties", nested),
    ("propertyNames", .obj [("format", .str "regex")]), ("default", anything) ]

/-- Types of schemas. -/
def schemaTypes : String × Json := ("type", texts ["object", "boolean"])

/-- A schema that is part of the same document. -/
def definition (name : String) : Json := refersTo ("#/$defs/" ++ name)

/-- The parts of the group about values. -/
def valueDefinitions : String × Json := ("$defs", .obj
  [ ("nonNegativeInteger", count),
    ("nonNegativeIntegerDefault0", withDefault (definition "nonNegativeInteger") (.int 0)),
    ("simpleTypes", typeNames),
    ("stringArray", .obj
      [ ("type", .str "array"), ("items", typed "string"), ("uniqueItems", .bool true),
        ("default", .arr []) ]) ])

/-- Types and fixed values. -/
def typeKeywords : List (String × Json) :=
  [ ("type", typeOrTypes (definition "simpleTypes")),
    ("const", .bool true),
    ("enum", listOf (.bool true)) ]

/-- Bounds of values. -/
def boundKeywords : List (String × Json) :=
  [ ("multipleOf", .obj [("type", .str "number"), ("exclusiveMinimum", .int 0)]),
    ("maximum", typed "number"),
    ("exclusiveMaximum", typed "number"),
    ("minimum", typed "number"),
    ("exclusiveMinimum", typed "number"),
    ("maxLength", definition "nonNegativeInteger"),
    ("minLength", definition "nonNegativeIntegerDefault0"),
    ("pattern", textIn "regex"),
    ("maxItems", definition "nonNegativeInteger"),
    ("minItems", definition "nonNegativeIntegerDefault0"),
    ("uniqueItems", withDefault (typed "boolean") (.bool false)),
    ("maxContains", definition "nonNegativeInteger"),
    ("minContains", withDefault (definition "nonNegativeInteger") (.int 1)),
    ("maxProperties", definition "nonNegativeInteger"),
    ("minProperties", definition "nonNegativeIntegerDefault0"),
    ("required", definition "stringArray"),
    ("dependentRequired", objectOf (definition "stringArray")) ]

/-- What schemas say for readers. -/
def readerKeywords : List (String × Json) :=
  [ ("title", typed "string"),
    ("description", typed "string"),
    ("default", .bool true),
    ("deprecated", withDefault (typed "boolean") (.bool false)),
    ("readOnly", withDefault (typed "boolean") (.bool false)),
    ("writeOnly", withDefault (typed "boolean") (.bool false)),
    ("examples", listOf (.bool true)) ]

/-- Lists of nested schemas. -/
def nestedLists (nested : Json) : String × Json :=
  ("$defs", .obj [("schemaArray", nonEmptyListOf nested)])

/-- Conditions and combinations of schemas. -/
def combinationKeywords (nested : Json) : List (String × Json) :=
  [ ("propertyNames", nested),
    ("if", nested),
    ("then", nested),
    ("else", nested),
    ("allOf", definition "schemaArray"),
    ("anyOf", definition "schemaArray"),
    ("oneOf", definition "schemaArray"),
    ("not", nested) ]

/-! ### The edition of 2019 -/

/-- The documents of the edition of 2019. -/
def draft2019 : List Json :=
  [ .obj
    [ ("$schema", .str (edition ++ "schema")),
      ("$id", .str (edition ++ "schema")),
      ("$vocabulary", .obj
        [ (edition ++ "vocab/core", .bool true),
          (edition ++ "vocab/applicator", .bool true),
          (edition ++ "vocab/validation", .bool true),
          (edition ++ "vocab/meta-data", .bool true),
          (edition ++ "vocab/format", .bool false),
          (edition ++ "vocab/content", .bool true) ]),
      mark,
      ("title", .str "Core and Validation specifications meta-schema"),
      ("allOf", .arr
        (["core", "applicator", "validation", "meta-data", "format", "content"].map fun name =>
          refersTo ("meta/" ++ name))),
      schemaTypes,
      ("properties", .obj
        [ ("definitions", .obj
          [ ("$comment", .str ("While no longer an official keyword as it is replaced by $defs, "
              ++ "this keyword is retained in the meta-schema to prevent incompatible extensions "
              ++ "as it remains in common use.")),
            ("type", .str "object"), ("additionalProperties", nested), ("default", anything) ]),
          ("dependencies", .obj
          [ ("$comment", .str ("\"dependencies\" is no longer a keyword, but schema authors should "
              ++ "avoid redefining it to facilitate a smooth transition from \"dependencies\" to "
              ++ "\"dependentSchemas\" and \"dependentRequired\"")),
            ("type", .str "object"),
            ("additionalProperties",
              anyOf [nested, refersTo "meta/validation#/$defs/stringArray"]) ]) ]) ],
    group edition "core" "Core vocabulary meta-schema" mark
    [ schemaTypes,
      ("properties", .obj
        [ ("$id", (textIn "uri-reference").withMembers
            [ ("$comment", .str "Non-empty fragments not allowed."),
              ("pattern", .str "^[^#]*#?$") ]),
          ("$schema", textIn "uri"),
          ("$anchor", (typed "string").withMembers
            [("pattern", .str "^[A-Za-z][-A-Za-z0-9.:_]*$")]),
          ("$ref", textIn "uri-reference"),
          ("$recursiveRef", textIn "uri-reference"),
          ("$recursiveAnchor", withDefault (typed "boolean") (.bool false)),
          ("$vocabulary", .obj
            [ ("type", .str "object"), ("propertyNames", textIn "uri"),
              ("additionalProperties", typed "boolean") ]),
          ("$comment", typed "string"),
          ("$defs", nestedByName nested) ]) ],
    group edition "applicator" "Applicator vocabulary meta-schema" mark
    [ schemaTypes,
      ("properties", .obj (
        [ ("additionalItems", nested),
          ("unevaluatedItems", nested),
          ("items", anyOf [nested, definition "schemaArray"]),
          ("contains", nested),
          ("additionalProperties", nested),
          ("unevaluatedProperties", nested),
          ("properties", nestedByName nested),
          ("patternProperties", nestedByPattern nested),
          ("dependentSchemas", objectOf nested) ]
        ++ combinationKeywords nested)),
      nestedLists nested ],
    group edition "validation" "Validation vocabulary meta-schema" mark
    [ schemaTypes,
      ("properties", .obj (boundKeywords ++ typeKeywords.drop 1 ++ typeKeywords.take 1)),
      valueDefinitions ],
    group edition "meta-data" "Meta-data vocabulary meta-schema" mark
    [schemaTypes, ("properties", .obj readerKeywords)],
    group edition "format" "Format vocabulary meta-schema" mark
    [schemaTypes, ("properties", .obj [("format", typed "string")])],
    group edition "content" "Content vocabulary meta-schema" mark
    [ schemaTypes,
      ("properties", .obj
        [ ("contentMediaType", typed "string"),
          ("contentEncoding", typed "string"),
          ("contentSchema", nested) ]) ] ]
where
  edition : String := "https://json-schema.org/draft/2019-09/"
  mark : String × Json := ("$recursiveAnchor", .bool true)
  nested : Json := .obj [("$recursiveRef", .str "#")]

/-! ### The edition of 2020 -/

/-- The documents of the edition of 2020. -/
def draft2020 : List Json :=
  [ .obj
    [ ("$schema", .str (edition ++ "schema")),
      ("$id", .str (edition ++ "schema")),
      ("$vocabulary", .obj
        (["core", "applicator", "unevaluated", "validation", "meta-data", "format-annotation",
          "content"].map fun name => (edition ++ "vocab/" ++ name, .bool true))),
      mark,
      ("title", .str "Core and Validation specifications meta-schema"),
      ("allOf", .arr
        (["core", "applicator", "unevaluated", "validation", "meta-data", "format-annotation",
          "content"].map fun name => refersTo ("meta/" ++ name))),
      schemaTypes,
      ("$comment", .str ("This meta-schema also defines keywords that have appeared in previous "
        ++ "drafts in order to prevent incompatible extensions as they remain in common use.")),
      ("properties", .obj
        [ ("definitions", .obj
          [ ("$comment", .str "\"definitions\" has been replaced by \"$defs\"."),
            ("type", .str "object"), ("additionalProperties", nested),
            ("deprecated", .bool true), ("default", anything) ]),
          ("dependencies", .obj
          [ ("$comment", .str ("\"dependencies\" has been split and replaced by "
              ++ "\"dependentSchemas\" and \"dependentRequired\" in order to serve their differing "
              ++ "semantics.")),
            ("type", .str "object"),
            ("additionalProperties",
              anyOf [nested, refersTo "meta/validation#/$defs/stringArray"]),
            ("deprecated", .bool true), ("default", anything) ]),
          ("$recursiveAnchor", .obj
          [ ("$comment", .str "\"$recursiveAnchor\" has been replaced by \"$dynamicAnchor\"."),
            ("$ref", .str "meta/core#/$defs/anchorString"), ("deprecated", .bool true) ]),
          ("$recursiveRef", .obj
          [ ("$comment", .str "\"$recursiveRef\" has been replaced by \"$dynamicRef\"."),
            ("$ref", .str "meta/core#/$defs/uriReferenceString"),
            ("deprecated", .bool true) ]) ]) ],
    group edition "core" "Core vocabulary meta-schema" mark
    [ schemaTypes,
      ("properties", .obj
        [ ("$id", (definition "uriReferenceString").withMembers
            [ ("$comment", .str "Non-empty fragments not allowed."),
              ("pattern", .str "^[^#]*#?$") ]),
          ("$schema", definition "uriString"),
          ("$ref", definition "uriReferenceString"),
          ("$anchor", definition "anchorString"),
          ("$dynamicRef", definition "uriReferenceString"),
          ("$dynamicAnchor", definition "anchorString"),
          ("$vocabulary", .obj
            [ ("type", .str "object"), ("propertyNames", definition "uriString"),
              ("additionalProperties", typed "boolean") ]),
          ("$comment", typed "string"),
          ("$defs", objectOf nested) ]),
      ("$defs", .obj
        [ ("anchorString", (typed "string").withMembers
            [("pattern", .str "^[A-Za-z_][-A-Za-z0-9._]*$")]),
          ("uriString", textIn "uri"),
          ("uriReferenceString", textIn "uri-reference") ]) ],
    group edition "applicator" "Applicator vocabulary meta-schema" mark
    [ schemaTypes,
      ("properties", .obj (
        [ ("prefixItems", definition "schemaArray"),
          ("items", nested),
          ("contains", nested),
          ("additionalProperties", nested),
          ("properties", nestedByName nested),
          ("patternProperties", nestedByPattern nested),
          ("dependentSchemas", nestedByName nested) ]
        ++ combinationKeywords nested)),
      nestedLists nested ],
    group edition "unevaluated" "Unevaluated applicator vocabulary meta-schema" mark
    [ schemaTypes,
      ("properties", .obj [("unevaluatedItems", nested), ("unevaluatedProperties", nested)]) ],
    group edition "validation" "Validation vocabulary meta-schema" mark
    [schemaTypes, ("properties", .obj (typeKeywords ++ boundKeywords)), valueDefinitions],
    group edition "meta-data" "Meta-data vocabulary meta-schema" mark
    [schemaTypes, ("properties", .obj readerKeywords)],
    group edition "format-annotation"
      "Format vocabulary meta-schema for annotation results" mark
    [schemaTypes, ("properties", .obj [("format", typed "string")])],
    group edition "content" "Content vocabulary meta-schema" mark
    [ schemaTypes,
      ("properties", .obj
        [ ("contentEncoding", typed "string"),
          ("contentMediaType", typed "string"),
          ("contentSchema", nested) ]) ] ]
where
  edition : String := "https://json-schema.org/draft/2020-12/"
  mark : String × Json := ("$dynamicAnchor", .str "meta")
  nested : Json := .obj [("$dynamicRef", .str "#meta")]

end ProposalCheck.Metaschema
