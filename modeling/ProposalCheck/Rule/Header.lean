import ProposalCheck.Rule.Value

/-!
# Rules about which headers there are

These rules look at the names of all fields of the preamble, without the blanks around them.

## Main definitions

* `RequiredRule`, `RequiredIfRule`: headers that must be there
* `OrderRule`: the order of the headers, and headers of no known name
* `NoDuplicatesRule`: headers that come twice
-/

namespace ProposalCheck

/-- Names in a sentence. -/
def listNames (names : List String) : String :=
  joinWith ", " (names.map fun name => s!"`{name}`")

/-- An excerpt of the line of a field with a mark on its name. -/
def nameExcerpt (context : Context) (field : Field) (label : String) : Finding Excerpt :=
  context.fieldExcerpt field [{ range := field.nameRange, label }]

/-- Headers that every document has. -/
structure RequiredRule where
  names : List String
  deriving DecidableEq, Repr

namespace RequiredRule

/-- What the rule finds. -/
def check (rule : RequiredRule) (context : Context) : Finding (List Snippet) :=
  let present := context.preamble.fields.map fun field => trim field.name
  let missing := rule.names.filter (!present.contains ·)
  if missing.isEmpty then .ok []
  else .ok [{ title := { label := s!"preamble is missing header(s): {listNames missing}" } }]

end RequiredRule

/-- A header that is there exactly if another one has a given value. -/
structure RequiredIfRule where
  trigger : String
  value : String
  dependent : String
  deriving DecidableEq, Repr

namespace RequiredIfRule

/-- What the rule finds. -/
def check (rule : RequiredIfRule) (context : Context) : Finding (List Snippet) :=
  let trigger := (context.preamble.find? rule.trigger).filter (·.trimmed = rule.value)
  match trigger, context.preamble.find? rule.dependent with
  | some field, none => valueFinding context field
      s!"preamble header `{rule.dependent}` is required when `{rule.trigger}` is `{rule.value}`"
      s!"requires `{rule.dependent}`"
  | none, some field => do
    let title :=
      s!"preamble header `{rule.dependent}` is only allowed when `{rule.trigger}` is `{rule.value}`"
    return [.about title (← nameExcerpt context field "remove this header")]
  | _, _ => .ok []

end RequiredIfRule

/-- The headers there may be, in the order in which they come. -/
structure OrderRule where
  names : List String
  deriving DecidableEq, Repr

namespace OrderRule

/-- The place of the last entry equal to `name`. -/
def rank? (names : List String) (name : String) : Option Nat :=
  (names.reverse.findIdx? (· = name)).map fun index => names.length - 1 - index

/-- The headers that come after one with a higher rank, each with the name of the highest before
it. -/
def outOfOrder (names : List String) (highest : Option (Nat × String)) :
    List Field → List (Field × String)
  | [] => []
  | field :: rest =>
    let name := trim field.name
    match rank? names name, highest with
    | none, _ => outOfOrder names highest rest
    | some rank, some (top, topName) =>
      if top ≤ rank then outOfOrder names (some (rank, name)) rest
      else (field, topName) :: outOfOrder names highest rest
    | some rank, none => outOfOrder names (some (rank, name)) rest

/-- What the rule finds. -/
def check (rule : OrderRule) (context : Context) : Finding (List Snippet) := do
  let fields := context.preamble.fields
  let unknown := fields.filter fun field => !rule.names.contains (trim field.name)
  let excerpts ← unknown.mapM (nameExcerpt context · "unrecognized header")
  let extra : List Snippet :=
    if unknown.isEmpty then [] else [{ title := { label := "preamble has extra header(s)" }, excerpts }]
  let misplaced ← (outOfOrder rule.names none fields).mapM fun (field, before) => do
    let title := s!"preamble header `{trim field.name}` must come before `{before}`"
    return Snippet.about title (← nameExcerpt context field "out of order")
      [.help ("headers must appear in the order: " ++ listNames rule.names)]
  return extra ++ misplaced

end OrderRule

/-- No header comes twice. -/
structure NoDuplicatesRule where
  deriving DecidableEq, Repr

namespace NoDuplicatesRule

/-- The fields whose name another one has had before. -/
def repeated (seen : List String) : List Field → List Field
  | [] => []
  | field :: rest =>
    let name := trim field.name
    if seen.contains name then field :: repeated seen rest else repeated (name :: seen) rest

/-- What the rule finds. -/
def check (_ : NoDuplicatesRule) (context : Context) : Finding (List Snippet) :=
  (repeated [] context.preamble.fields).mapM fun field => do
    let title := s!"preamble has duplicate header `{trim field.name}`"
    return .about title (← nameExcerpt context field "duplicate")

end NoDuplicatesRule

end ProposalCheck
