import ProposalCheck.Yaml.Scalar

/-!
# Documents as data

A node stands for data: text, numbers, truth values, nothing, lists and objects. A mapping may take over
the entries of others; its own entries win over those. No key may come twice among entries of its own.

YAML knows more than that, such as points in time and keys that are no texts. What is none of the above
is kept as nothing, and the data are then said not to be exact.

## Main definitions

* `Content`: a node without its place and with its tags resolved
* `Content.ofNode`: the content of a node
* `Data.ofNode`: the data that a node stands for
-/

namespace ProposalCheck.Yaml

/-- A node without its place and with its tags resolved. -/
inductive Content where
  | scalar (scalar : Scalar)
  | sequence (items : List Content)
  /-- Entries, among them those taken over, which come first. -/
  | mapping (isMerged : Bool) (entries : List (Content × Content))

namespace Content

/-- Kinds of collections that are no data. -/
def foreignKinds : List String := ["set", "omap", "pairs"]

/-- A collection that may have a tag, where `kind` is the usual one. -/
def tagged (kind : String) (tag : Option Tag) (content : Content) : Except YamlProblem Content :=
  match tag with
  | none | some ⟨some "!", ""⟩ => .ok content
  | some tag => match Scalar.commonTag? tag with
    | some name =>
      if name = kind then .ok content
      else if foreignKinds.contains name then .ok (.scalar (.other name))
      else .error .value
    | none => .error .value

/-- The entries that a mapping takes over from the value of a merge key. Of several mappings the first
one wins. -/
def takenOver : Content → Except YamlProblem (List (Content × Content))
  | .mapping _ entries => .ok entries
  | .sequence items => do
    let parts ← items.mapM fun
      | .mapping _ entries => .ok entries
      | _ => .error YamlProblem.value
    return parts.reverse.flatten
  | .scalar _ => .error .value

/-- A mapping with some entries, of which those with a merge key stand for the entries taken over. -/
def ofEntries (entries : List (Content × Content)) : Except YamlProblem Content := do
  let (merging, own) := entries.partition fun (key, _) => key matches .scalar .merge
  let taken ← merging.mapM fun (_, value) => takenOver value
  if (taken.dropLast).any (!·.isEmpty) then throw .duplicateKey
  return .mapping taken.flatten.isEmpty.not (taken.flatten ++ own)

mutual

/-- The content of a node. -/
def ofNode : Node → Except YamlProblem Content
  | .scalar _ tag text plain => match Scalar.ofParts? tag text plain with
    | some meaning => .ok (.scalar meaning)
    | none => .error .value
  | .sequence _ tag items => do tagged "seq" tag (.sequence (← ofNodes items))
  | .mapping _ tag entries => do tagged "map" tag (← ofEntries (← ofNodePairs entries))

/-- The contents of nodes. -/
def ofNodes : List Node → Except YamlProblem (List Content)
  | [] => .ok []
  | node :: rest => do return (← ofNode node) :: (← ofNodes rest)

/-- The contents of keys and values. -/
def ofNodePairs : List (Node × Node) → Except YamlProblem (List (Content × Content))
  | [] => .ok []
  | (key, value) :: rest => do
    return (← ofNode key, ← ofNode value) :: (← ofNodePairs rest)

end

end Content

/-- What a node stands for. Without `isExact`, something that is no data is kept as nothing. -/
structure Data where
  value : Json
  isExact : Bool := true

namespace Data

/-- The text that marks a default value; alone it stands for nothing. -/
def defaultMark : String := "="

/-- The name that a key gives to an entry, if it is a text. -/
def name? : Content → Option String
  | .scalar (.data (.str text)) => some text
  | .scalar (.other text) => if text = defaultMark then some text else none
  | _ => none

/-- Are two keys the same? -/
def isSameKey : Content → Content → Bool
  | .scalar a, .scalar b => a.same b
  | _, _ => false

/-- Checks the keys of entries: a mapping is no key, and no key comes twice. -/
def checkKeys (isMerged : Bool) : List (Content × Content) → Except YamlProblem Unit
  | [] => .ok ()
  | (key, _) :: rest =>
    if key matches .mapping _ _ then .error .value
    else if !isMerged && rest.any (fun (other, _) => isSameKey key other) then .error .duplicateKey
    else checkKeys isMerged rest

mutual

/-- The data that a content stands for. -/
def ofContent : Content → Except YamlProblem Data
  | .scalar (.data value) => .ok { value }
  | .scalar .merge => .error .value
  | .scalar (.other text) =>
    if text = defaultMark then .error .value else .ok { value := .null, isExact := false }
  | .sequence items => do
    let (values, isExact) ← ofItems items
    return { value := .arr values, isExact }
  | .mapping isMerged entries => do
    checkKeys isMerged entries
    let (members, isExact) ← ofEntries [] entries
    return { value := .obj members, isExact }

/-- The data that items stand for, and whether they are exact. -/
def ofItems : List Content → Except YamlProblem (List Json × Bool)
  | [] => .ok ([], true)
  | item :: rest => do
    let data ← ofContent item
    let (values, isExact) ← ofItems rest
    return (data.value :: values, data.isExact && isExact)

/-- The members that entries stand for, after some others, and whether they are exact. -/
def ofEntries (members : List (String × Json)) :
    List (Content × Content) → Except YamlProblem (List (String × Json) × Bool)
  | [] => .ok (members, true)
  | (key, content) :: rest => do
    let data ← ofContent content
    let members := match name? key with
      | some name => Json.insertMember name data.value members
      | none => members
    let (members, isExact) ← ofEntries members rest
    return (members, data.isExact && (name? key).isSome && isExact)

end

/-- The data that a node stands for. -/
def ofNode (node : Node) : Except YamlProblem Data := do ofContent (← Content.ofNode node)

/-- The data that a text stands for. A text without a document stands for nothing. -/
def ofText (text : String) : Except YamlProblem Data := do
  match ← Node.ofText text with
  | some node => ofNode node
  | none => return { value := .null }

end Data

end ProposalCheck.Yaml
