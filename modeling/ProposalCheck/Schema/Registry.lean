import ProposalCheck.Json.Display
import ProposalCheck.Schema.Dialect
import ProposalCheck.Text.Word

/-!
# References to schemas

A schema refers to another one by an address, which may be relative to the address of the schema itself,
and after a number sign by the steps to a part of the schema or by a name that the part gives itself.

## Main definitions

* `Resource`: a schema with the edition that it keeps to
* `Registry`: the schemas that can be referred to
* `Scope`: where references start from
* `Registry.follow`: the schema behind a reference
* `Registry.followRecursive`: the outermost schema that a recursive reference can mean
-/

namespace ProposalCheck

/-- A schema with the edition that it keeps to. -/
structure Resource where
  dialect : Dialect
  contents : Json

namespace Resource

/-- A schema that keeps to the edition it names, or else to that of the schema around it. -/
def ofContents (around : Dialect) (contents : Json) : Except SchemaFault Resource :=
  match contents.get? "$schema" with
  | none | some .null => .ok ⟨around, contents⟩
  | some (.str text) =>
    let named := Dialect.all.find? (·.address = Reference.dropMark text)
    .ok ⟨named.getD around, contents⟩
  | some _ => .error .members

/-- The address that a schema gives itself. -/
def address? (resource : Resource) : Except SchemaFault (Option String) :=
  resource.dialect.addressOf resource.contents

/-- The schemas directly within a schema. -/
def parts (resource : Resource) : Except SchemaFault (List Resource) :=
  (resource.dialect.subschemas resource.contents).mapM (ofContents resource.dialect)

end Resource

/-- A schema within a document, with the address that holds for it. -/
structure DocumentPart where
  address : String
  /-- Does the schema give itself this address? -/
  isAddressed : Bool
  resource : Resource

namespace DocumentPart

mutual

/-- How deep a value is nested. -/
def height : Json → Nat
  | .arr items => itemsHeight items + 1
  | .obj members => membersHeight members + 1
  | _ => 1

/-- How deep the deepest item is nested. -/
def itemsHeight : List Json → Nat
  | [] => 0
  | item :: rest => max (height item) (itemsHeight rest)

/-- How deep the deepest member is nested. -/
def membersHeight : List (String × Json) → Nat
  | [] => 0
  | (_, value) :: rest => max (height value) (membersHeight rest)

end

/-- The schemas in a document, each one after those within it. The depth bounds the nesting. -/
def listed : Nat → String → Resource → Except SchemaFault (List DocumentPart)
  | 0, _, _ => .ok []
  | depth + 1, base, resource => do
    let own ← resource.address?
    let address := match own with
      | some own => Reference.join base own
      | none => base
    let inner ← (← resource.parts).mapM (listed depth address)
    return inner.flatten ++ [⟨address, own.isSome, resource⟩]

/-- The schemas in a document. -/
def ofDocument (address : String) (document : Resource) : Except SchemaFault (List DocumentPart) :=
  listed (height document.contents) address document

/-- The name among those that a schema gives itself. -/
def name? (part : DocumentPart) (name : String) : Option Dialect.LocalName :=
  (part.resource.dialect.anchorsIn part.resource.contents).reverse.find? (·.name = name)

end DocumentPart

/-- The schemas that can be referred to. -/
structure Registry where
  documents : List (String × Resource)
  parts : Thunk (Except SchemaFault (List DocumentPart))

/-- Why a reference leads nowhere. -/
inductive ReferenceProblem where
  | unknownAddress (reference : String)
  | noPart (pointer : String) (contents : Json)
  | noName (name : String) (contents : Json)
  /-- A name that looks like the steps to a part. -/
  | stepsAsName (name : String)
  | fault (fault : SchemaFault)

namespace ReferenceProblem

/-- The kind of a problem. -/
def title : ReferenceProblem → String
  | .unknownAddress _ => "Unresolvable"
  | .noPart _ _ => "PointerToNowhere"
  | .noName _ _ => "NoSuchAnchor"
  | .stepsAsName _ => "InvalidAnchor"
  | .fault _ => ""

/-- The wording of a problem. -/
def message : ReferenceProblem → String
  | .unknownAddress reference => reference
  | .noPart pointer contents =>
    quoted pointer ++ " does not exist within " ++ contents.display
      ++ if pointer = "/" then
        ". The pointer '/' is a valid JSON Pointer but it points to an empty string property ''. "
          ++ "If you intended to point to the entire resource, you should use '#'."
      else ""
  | .noName name contents => quoted name ++ " does not exist within " ++ contents.display
  | .stepsAsName name =>
    s!"'#{name}' is not a valid anchor, neither as a plain name anchor nor as a JSON Pointer. "
      ++ s!"You may have intended to use '#/{name}', as the slash is required "
      ++ "*before each segment* of a JSON pointer."
  | .fault _ => ""

/-- The problem of a schema with such a reference. -/
def asSchemaProblem (problem : ReferenceProblem) : SchemaProblem :=
  match problem with
  | .fault cause => .fault cause
  | problem => .unresolvable s!"{problem.title}: {problem.message}"

end ReferenceProblem

/-- Where references start from: an address, and the addresses of the schemas that led there, the last
one first. -/
structure Scope where
  base : String
  previous : List String := []
  deriving DecidableEq, Repr

namespace Scope

/-- The scope within a schema that may give itself an address. -/
def enter (scope : Scope) : Option String → Scope
  | none => scope
  | some own => { scope with base := Reference.join scope.base own }

/-- The scope at the end of a reference. -/
def goTo (scope : Scope) (address : String) : Scope :=
  let isNew := scope.base ≠ "" && (scope.previous.isEmpty || address ≠ scope.base)
  { base := address, previous := if isNew then scope.base :: scope.previous else scope.previous }

end Scope

namespace Registry

/-- The schemas of some documents and of all that is known already. A document counts more than those
after it. -/
def add (documents : List (String × Resource)) (known : Registry) : Registry where
  documents := documents ++ known.documents
  parts := Thunk.mk fun _ => do
    let parts ← documents.mapM fun (address, document) => DocumentPart.ofDocument address document
    return parts.flatten ++ (← known.parts.get)

/-- The schemas of some documents. -/
def ofDocuments (documents : List (String × Resource)) : Registry :=
  add documents ⟨[], Thunk.pure (.ok [])⟩

/-- The document or the part of a document with an address. -/
def resource? (registry : Registry) (address : String) : Except SchemaFault (Option Resource) :=
  match registry.documents.find? (·.1 = address) with
  | some (_, document) => .ok (some document)
  | none => do
    let part := (← registry.parts.get).find? fun part => part.isAddressed && part.address = address
    return part.map (·.resource)

/-- The part that gives itself a name in the document with an address. -/
def named? (registry : Registry) (address name : String) :
    Except SchemaFault (Option (Dialect.LocalName × Resource)) := do
  return (← registry.parts.get).findSome? fun part =>
    if part.address = address then (part.name? name).map (·, part.resource) else none

/-- The number that a step into a list denotes, which may be counted from the end. -/
def stepNumber? (step : String) : Option Int :=
  let (isNegative, digits) := match trimChars step.toList with
    | '-' :: digits => (true, digits)
    | '+' :: digits => (false, digits)
    | digits => (false, digits)
  let groups := splitWhere (· = '_') digits
  if groups.any (·.isEmpty) then none
  else (decimalNat? groups.flatten).map fun number => if isNegative then -(number : Int) else number

/-- The item that a step leads to. -/
def item? {α : Type} (items : List α) (step : String) : Except ReferenceProblem (Option α) :=
  match stepNumber? step with
  | none => .error (.fault (.step step))
  | some number => .ok (
    if number < 0 then
      if items.length < number.natAbs then none else items[items.length - number.natAbs]?
    else items[number.natAbs]?)

/-- A step as the name of a member. -/
def stepName (step : List Char) : List Char :=
  match step with
  | '~' :: '1' :: rest => '/' :: stepName rest
  | '~' :: '0' :: rest => '~' :: stepName rest
  | c :: rest => c :: stepName rest
  | [] => []

/-- The value that a step leads to. -/
def step? (contents : Json) (step : String) : Except ReferenceProblem (Option Json) :=
  match contents with
  | .arr items => item? items step
  | .str text => do return (← item? text.toList step).map fun c => .str c.toString
  | .obj members => .ok (Json.lookup (String.ofList (stepName step.toList)) members)
  | _ => .error (.fault .kind)

/-- Follows steps into a document. The scope changes with every schema on the way that gives itself an
address; `walked` are the steps since then. -/
def walk (document : Resource) (pointer : String) (scope : Scope) (walked : List String)
    (contents : Json) : List String → Except ReferenceProblem (Scope × Json)
  | [] => .ok (scope, contents)
  | step :: rest => do
    match ← step? contents step with
    | none => .error (.noPart pointer document.contents)
    | some inner =>
      let walked := walked ++ [String.ofList (stepName step.toList)]
      let own ← if document.dialect.isSchemaPath (Dialect.isObject inner) walked then
          (document.dialect.addressOf inner).mapError .fault
        else .ok none
      walk document pointer (scope.enter own) (if own.isSome then [] else walked) inner rest

/-- The schema that takes over from one with a dynamic name: that of the outermost document on the way
that has such a name. -/
def outermost (registry : Registry) (scope : Scope) (name : String) (start : Resource) :
    Except SchemaFault Resource :=
  scope.previous.foldlM (fun found address => do
    match ← registry.named? address name with
    | some (⟨_, true⟩, resource) => return resource
    | _ => return found) start

/-- The schema with a name in a document, and the scope within it. -/
def followName (registry : Registry) (scope : Scope) (address name : String) (document : Resource) :
    Except ReferenceProblem (Scope × Json) := do
  let own ← document.address?.mapError .fault
  let direct ← (registry.named? address name).mapError .fault
  let found ← match direct, own with
    | some found, _ => pure (some found)
    | none, some own => (registry.named? own name).mapError .fault
    | none, none => pure none
  match found with
  | none =>
    if name.toList.contains '/' then .error (.stepsAsName name)
    else .error (.noName name document.contents)
  | some (⟨_, false⟩, resource) => return (scope, resource.contents)
  | some (⟨_, true⟩, resource) =>
    let last ← (registry.outermost scope name resource).mapError .fault
    return (scope.enter (← last.address?.mapError .fault), last.contents)

/-- The schema behind a reference, and the scope within it. -/
def follow (registry : Registry) (scope : Scope) (reference : String) :
    Except ReferenceProblem (Scope × Json) := do
  let (address, fragment) :=
    if reference.startsWith "#" then (scope.base, (reference.drop 1).toString)
    else Reference.splitFragment (Reference.join scope.base reference)
  match ← (registry.resource? address).mapError .fault with
  | none => .error (.unknownAddress reference)
  | some document =>
    let scope := scope.goTo address
    match fragment.toList with
    | [] => return (scope, document.contents)
    | '/' :: steps =>
      let steps := splitWhere (· = '/') (percentDecode (String.ofList steps)).toList
      walk document fragment scope [] document.contents (steps.map String.ofList)
    | _ => registry.followName scope address fragment document

/-- Does a schema allow the schemas that led to it to take over? -/
def isRecursive (contents : Json) : Bool :=
  match contents.get? "$recursiveAnchor" with
  | none | some .null | some (.bool false) => false
  | some _ => true

/-- The outermost schema on the way, as long as the schemas allow it. -/
def recursiveFrom (registry : Registry) (start : Scope) (found : Scope × Json) :
    List String → Except ReferenceProblem (Scope × Json)
  | [] => .ok found
  | address :: rest => do
    let next ← registry.follow start address
    if isRecursive next.2 then recursiveFrom registry start next rest else .ok found

/-- The outermost schema that a recursive reference can mean, and the scope within it. -/
def followRecursive (registry : Registry) (scope : Scope) : Except ReferenceProblem (Scope × Json) := do
  let found ← registry.follow scope "#"
  if isRecursive found.2 then registry.recursiveFrom scope found scope.previous else return found

end Registry

end ProposalCheck
