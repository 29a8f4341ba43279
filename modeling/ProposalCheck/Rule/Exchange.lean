import ProposalCheck.Diagnostic.Exchange
import ProposalCheck.Rule.Basic

/-!
# Rules as data

A rule is exchanged as an object with its kind and its parameters. Parameters that no rule of the kind
has are problems, and so are patterns that cannot be read and statuses that form no flow.

## Main definitions

* `Rule.toJson`: a rule as data
* `Rule.ofJson`: the rule that data describe, or all problems of the data
-/

namespace ProposalCheck

namespace Shape

/-- The members of an object. -/
abbrev Members := List (String × Json)

namespace Members

/-- A member that must be there. -/
def required {α : Type} (members : Members) (name : String) (check : Json → Checked α) : Checked α :=
  Shape.required members name check

/-- A member that has a default. -/
def optional {α : Type} (members : Members) (name : String) (default : α)
    (check : Json → Checked α) : Checked α :=
  Shape.optional members name default check

end Members

/-- A written pattern. -/
def pattern (value : Json) : Checked String :=
  (text value).ensure fun written => match Pattern.parse {} written with
    | .ok _ => none
    | .error .roundsTooLarge => some .patternOverflow
    | .error .malformed => some (.rule s!"invalid regular expression `{written}`")

/-- Written patterns; the first that cannot be read is a problem of the list. -/
def patterns (value : Json) : Checked (List String) :=
  (listOf text value).ensure fun all => all.findSome? fun written =>
    match pattern (.str written) with
    | .error (⟨_, kind⟩ :: _) => some kind
    | _ => none

/-- Ranks of statuses that form a flow. -/
def flow (value : Json) : Checked (List (List String)) :=
  (listOf (listOf text) value).ensure fun ranks => match StatusFlow.ofRanks ranks with
    | .ok _ => none
    | .error problem => some (.rule problem.message)

/-- A list of texts. -/
def texts : Json → Checked (List String) := listOf text

/-- Is a pattern required or prohibited? -/
def mode : Json → Checked PatternMode := oneOf PatternMode.ofName?

end Shape

namespace Rule

open Shape Checked

/-- How a kind of rule is read: the names of its parameters and what is made of them. -/
structure Reading where
  parameters : List String
  read : Members → Checked Rule

/-- A rule of a kind that has only a name for a header. -/
def named (make : String → Rule) : Reading :=
  ⟨["name"], fun (members : Members) => (members.required "name" text).map make⟩

/-- A rule of a kind without parameters. -/
def bare (rule : Rule) : Reading := ⟨[], fun _ => .ok rule⟩

/-- The parameter that has two names, of which the first is preferred. -/
def schemaName (members : Members) : String :=
  if (Json.lookup "schema" members).isNone && (Json.lookup "schema_source" members).isSome then
    "schema_source"
  else "schema"

/-- Reads the schema, a problem of which is told under its preferred name. -/
def schemaText (members : Members) : Checked String :=
  match Json.lookup (schemaName members) members with
  | some value => (text value).within (.name "schema")
  | none => .error [⟨[.name "schema"], .missing⟩]

/-- The least length is not above the greatest. -/
def boundsProblem : Rule → Option IssueKind
  | .length ⟨_, some low, some high⟩ =>
    if high < low then some (.rule s!"min ({low}) is greater than max ({high})") else none
  | _ => none

/-- How the rules of a kind are read. -/
def reading? (members : Members) (kind : String) : Option Reading :=
  match kind with
  | "preamble-author" => some (named fun name => .author ⟨name⟩)
  | "preamble-date" => some (named fun name => .date ⟨name⟩)
  | "preamble-file-name" => some ⟨["name", "prefix", "suffix"], fun (members : Members) =>
      map3 (fun name start stop => .fileName ⟨name, start, stop⟩) (members.required "name" text)
        (members.required "prefix" text) (members.required "suffix" text)⟩
  | "preamble-length" => some ⟨["name", "min", "max"], fun (members : Members) =>
      map3 (fun name low high => .length ⟨name, low, high⟩) (members.required "name" text)
        (members.optional "min" none (nullable natural))
        (members.optional "max" none (nullable natural))⟩
  | "preamble-list" => some (named fun name => .list ⟨name⟩)
  | "preamble-no-duplicates" => some (bare (.noDuplicates ⟨⟩))
  | "preamble-one-of" => some ⟨["name", "values"], fun (members : Members) =>
      map2 (fun name values => .oneOf ⟨name, values⟩) (members.required "name" text)
        (members.required "values" texts)⟩
  | "preamble-order" => some ⟨["names"], fun (members : Members) =>
      (members.required "names" texts).map fun names => .order ⟨names⟩⟩
  | "preamble-proposal-ref" => some ⟨["name", "prefix", "suffix"], fun (members : Members) =>
      map3 (fun name start stop => .valueReference ⟨name, start, stop⟩) (members.required "name" text)
        (members.required "prefix" text) (members.required "suffix" text)⟩
  | "preamble-regex" => some ⟨["name", "mode", "pattern", "message"], fun (members : Members) =>
      map4 (fun name mode pattern message => .valuePattern ⟨name, mode, pattern, message⟩)
        (members.required "name" text) (members.required "mode" mode)
        (members.required "pattern" pattern) (members.required "message" text)⟩
  | "preamble-require-referenced" => some ⟨["name", "requires"], fun (members : Members) =>
      map2 (fun name requires => .requireReferenced ⟨name, requires⟩) (members.required "name" text)
        (members.required "requires" text)⟩
  | "preamble-required" => some ⟨["names"], fun (members : Members) =>
      (members.required "names" texts).map fun names => .required ⟨names⟩⟩
  | "preamble-required-if-eq" => some ⟨["when", "equals", "then"], fun (members : Members) =>
      map3 (fun trigger value dependent => .requiredIf ⟨trigger, value, dependent⟩)
        (members.required "when" text) (members.required "equals" text)
        (members.required "then" text)⟩
  | "preamble-requires-status" => some
      ⟨["requires", "status", "flow", "prefix", "suffix"], fun (members : Members) =>
        map5 (fun requires status flow start stop =>
            .requiresStatus ⟨requires, status, flow, start, stop⟩)
          (members.required "requires" text) (members.required "status" text)
          (members.required "flow" flow) (members.required "prefix" text)
          (members.required "suffix" text)⟩
  | "preamble-trim" => some (bare (.trim ⟨⟩))
  | "preamble-uint" => some (named fun name => .uint ⟨name⟩)
  | "preamble-uint-list" => some (named fun name => .uintList ⟨name⟩)
  | "preamble-url" => some (named fun name => .address ⟨name⟩)
  | "markdown-headings-space" => some (bare (.headingSpace ⟨⟩))
  | "markdown-html-comments" => some ⟨["name", "warn_for"], fun (members : Members) =>
      map2 (fun name warnFor => .comment ⟨name, warnFor⟩) (members.required "name" text)
        (members.required "warn_for" texts)⟩
  | "markdown-json-schema" => some
      ⟨["language", schemaName members, "additional_schemas", "help"], fun (members : Members) =>
        map4 (fun language schema additional help =>
            .embeddedJson ⟨language, schema, additional, help⟩)
          (members.required "language" text) (schemaText members)
          (members.optional "additional_schemas" [] (listOf (pairOf text text)))
          (members.optional "help" "" text)⟩
  | "markdown-link-first" => some ⟨["pattern"], fun (members : Members) =>
      (members.required "pattern" pattern).map fun pattern => .linkFirst ⟨pattern⟩⟩
  | "markdown-link-status" => some ⟨["status", "flow", "prefix", "suffix"], fun (members : Members) =>
      map4 (fun status flow start stop => .linkStatus ⟨status, flow, start, stop⟩)
        (members.required "status" text) (members.required "flow" flow)
        (members.required "prefix" text) (members.required "suffix" text)⟩
  | "markdown-proposal-ref" => some ⟨["prefix", "suffix"], fun (members : Members) =>
      map2 (fun start stop => .linkText ⟨start, stop⟩) (members.required "prefix" text)
        (members.required "suffix" text)⟩
  | "markdown-regex" => some ⟨["mode", "pattern", "message"], fun (members : Members) =>
      map3 (fun mode pattern message => .bodyPattern ⟨mode, pattern, message⟩)
        (members.required "mode" mode) (members.required "pattern" pattern)
        (members.required "message" text)⟩
  | "markdown-relative-links" => some ⟨["exceptions"], fun (members : Members) =>
      (members.optional "exceptions" [] patterns).map fun exceptions => .relativeLink ⟨exceptions⟩⟩
  | "markdown-section-order" => some ⟨["sections"], fun (members : Members) =>
      (members.required "sections" texts).map fun sections => .sectionOrder ⟨sections⟩⟩
  | "markdown-section-required" => some ⟨["sections"], fun (members : Members) =>
      (members.required "sections" texts).map fun sections => .sectionRequired ⟨sections⟩⟩
  | _ => none

/-- Reads a rule. -/
def ofJson : Json → Checked Rule
  | .obj members =>
    match Json.lookup "kind" members with
    | none => .fail .unionTagNotFound
    | some (.str kind) => match reading? members kind with
      | none => .fail .unionTagInvalid
      | some reading =>
        let unknown := unknownMembers ("kind" :: reading.parameters) members
        (((reading.read members).alsoCheck unknown).ensure boundsProblem).within (.name kind)
    | some _ => .fail .unionTagInvalid
  | _ => .fail .modelAttributesType

/-- Texts as data. -/
def textsJson (texts : List String) : Json := .arr (texts.map .str)

/-- A number or `null`. -/
def boundJson : Option Nat → Json
  | some n => .ofNat n
  | none => .null

/-- Ranks of statuses as data. -/
def flowJson (ranks : List (List String)) : Json := .arr (ranks.map textsJson)

/-- The parameters of a rule. -/
def parameters : Rule → Members
  | .author ⟨name⟩ | .date ⟨name⟩ | .list ⟨name⟩ | .uint ⟨name⟩ | .uintList ⟨name⟩
  | .address ⟨name⟩ => [("name", .str name)]
  | .fileName ⟨name, start, stop⟩ | .valueReference ⟨name, start, stop⟩ =>
    [("name", .str name), ("prefix", .str start), ("suffix", .str stop)]
  | .length ⟨name, low, high⟩ =>
    [("name", .str name), ("min", boundJson low), ("max", boundJson high)]
  | .noDuplicates _ | .trim _ | .headingSpace _ => []
  | .oneOf ⟨name, values⟩ => [("name", .str name), ("values", textsJson values)]
  | .order ⟨names⟩ | .required ⟨names⟩ => [("names", textsJson names)]
  | .valuePattern ⟨name, mode, pattern, message⟩ =>
    [("name", .str name), ("mode", .str mode.name), ("pattern", .str pattern),
      ("message", .str message)]
  | .requireReferenced ⟨name, requires⟩ => [("name", .str name), ("requires", .str requires)]
  | .requiredIf ⟨trigger, value, dependent⟩ =>
    [("when", .str trigger), ("equals", .str value), ("then", .str dependent)]
  | .requiresStatus ⟨requires, status, flow, start, stop⟩ =>
    [("requires", .str requires), ("status", .str status), ("flow", flowJson flow),
      ("prefix", .str start), ("suffix", .str stop)]
  | .comment ⟨name, warnFor⟩ => [("name", .str name), ("warn_for", textsJson warnFor)]
  | .embeddedJson ⟨language, schema, additional, help⟩ =>
    [("language", .str language), ("schema", .str schema),
      ("additional_schemas", .arr (additional.map fun (uri, schema) => textsJson [uri, schema])),
      ("help", .str help)]
  | .linkFirst ⟨pattern⟩ => [("pattern", .str pattern)]
  | .linkStatus ⟨status, flow, start, stop⟩ =>
    [("status", .str status), ("flow", flowJson flow), ("prefix", .str start),
      ("suffix", .str stop)]
  | .linkText ⟨start, stop⟩ => [("prefix", .str start), ("suffix", .str stop)]
  | .bodyPattern ⟨mode, pattern, message⟩ =>
    [("mode", .str mode.name), ("pattern", .str pattern), ("message", .str message)]
  | .relativeLink ⟨exceptions⟩ => [("exceptions", textsJson exceptions)]
  | .sectionOrder ⟨sections⟩ | .sectionRequired ⟨sections⟩ => [("sections", textsJson sections)]

/-- A rule as data. -/
def toJson (rule : Rule) : Json := .obj (("kind", .str rule.kind) :: rule.parameters)

end Rule

end ProposalCheck
