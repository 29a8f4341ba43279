import ProposalCheck.Yaml.Token

/-!
# Nodes

The tokens of a document make up a tree of scalars, sequences and mappings. Every node knows the place
at which it starts. What is left out, such as a value after its colon, is an empty plain scalar. An alias
stands for the node that its anchor is attached to.

## Main definitions

* `Node`: a node of a document
* `Node.ofTokens`: the nodes that tokens describe
* `Node.ofText`: the single document of a text, if there is one
-/

namespace ProposalCheck.Yaml

/-- A node of a document. A tag says what the node stands for, whatever it looks like. -/
inductive Node where
  | scalar (place : Place) (tag : Option Tag) (text : String) (plain : Bool)
  | sequence (place : Place) (tag : Option Tag) (items : List Node)
  | mapping (place : Place) (tag : Option Tag) (entries : List (Node × Node))

namespace Node

/-- The place at which a node starts. -/
def place : Node → Place
  | .scalar place _ _ _ | .sequence place _ _ | .mapping place _ _ => place

/-- What is left out at a place. -/
def empty (place : Place) : Node := .scalar place none "" true

/-- What is left to read, and the nodes with anchors so far. -/
structure Remaining where
  tokens : List Token
  anchors : List (String × Node) := []

/-- Reads a part of the tokens. -/
abbrev Reader (α : Type) := StateT Remaining (Except YamlProblem) α

/-- The first token. -/
def peek : Reader (Option Token) := return (← get).tokens.head?

/-- The kind of the first token. -/
def peekKind : Reader (Option TokenKind) := return (← peek).map (·.kind)

/-- Passes the first token. -/
def drop : Reader Unit := modify fun state => { state with tokens := state.tokens.tail }

/-- Passes the first token if it is of a kind; the place where it ends. -/
def accept (kind : TokenKind) : Reader (Option Place) := do
  match ← peek with
  | some token =>
    if token.kind = kind then
      drop
      return some token.stop
    else return none
  | none => return none

/-- Is the first token of one of some kinds? -/
def isNext (kinds : List TokenKind) : Reader Bool := do
  return (← peek).any fun token => kinds.contains token.kind

/-- The place of the first token. -/
def here : Reader Place := return ((← peek).map (·.start)).getD {}

/-- The anchor and the tag in front of a node. -/
structure Properties where
  anchor : Option String := none
  tag : Option Tag := none
  deriving DecidableEq

/-- Reads the anchor and the tag in front of a node, in either order. -/
def properties (found : Properties := {}) : Nat → Reader Properties
  | 0 => return found
  | more + 1 => do
    match ← peekKind, found with
    | some (.anchor name), { anchor := none, .. } =>
      drop
      properties { found with anchor := some name } more
    | some (.tag tag), { tag := none, .. } =>
      drop
      properties { found with tag := some tag } more
    | _, _ => return found

/-- Attaches an anchor to a node. -/
def attach (anchor : Option String) (node : Node) : Reader Node := do
  if let some name := anchor then
    modify fun state => { state with anchors := (name, node) :: state.anchors }
  return node

/-- The node that an anchor is attached to. -/
def named (name : String) : Reader Node := do
  match (← get).anchors.lookup name with
  | some node => return node
  | none => throw (.unknownAlias name)

/-- Where a node may stand. -/
inductive Position where
  /-- Within brackets. -/
  | flow
  /-- On lines of its own. -/
  | block
  /-- After the colon of a key, where a sequence need not be indented. -/
  | value
  deriving DecidableEq, Repr

/-- Passes the comma between two parts in brackets; `false` if the closing bracket follows. -/
def continues (isFirst : Bool) (closing : TokenKind) : Reader Bool := do
  if (← accept closing).isSome then return false
  if isFirst then return true
  if (← accept .flowEntry).isNone then throw .arrangement
  return (← accept closing).isNone

mutual

/-- Reads a node. The first argument bounds the depth. -/
def read (position : Position) : Nat → Reader Node
  | 0 => throw .arrangement
  | fuel + 1 => do
    let place ← here
    let found ← properties {} 2
    let isBare := found = {}
    match ← peekKind with
    | some (.alias name) =>
      -- an alias has the properties of the node that it names
      if !isBare then throw .arrangement
      drop
      named name
    | some (.scalar text plain) =>
      drop
      attach found.anchor (.scalar place found.tag text plain)
    | some .flowSequenceStart =>
      drop
      attach found.anchor (.sequence place found.tag (← readFlowItems true fuel))
    | some .flowMappingStart =>
      drop
      attach found.anchor (.mapping place found.tag (← readFlowEntries true fuel))
    | some kind =>
      if kind = .blockSequenceStart && position ≠ .flow then
        drop
        attach found.anchor (.sequence place found.tag (← readItems true fuel))
      else if kind = .blockMappingStart && position ≠ .flow then
        drop
        attach found.anchor (.mapping place found.tag (← readEntries fuel))
      -- a sequence that is no further in than its key has no token that starts it
      else if kind = .blockEntry && position = .value then
        attach found.anchor (.sequence place found.tag (← readItems false fuel))
      -- properties alone are those of an empty scalar
      else if !isBare then attach found.anchor (.scalar place found.tag "" true)
      else throw .arrangement
    | none => throw .arrangement

/-- Reads a node, or nothing where the first token is of one of some kinds. -/
def readUnless (stops : List TokenKind) (position : Position) (place : Place) : Nat → Reader Node
  | 0 => throw .arrangement
  | fuel + 1 => do
    if ← isNext stops then return empty place
    read position fuel

/-- Reads the items of a sequence on lines of its own, which a closing token ends if the sequence is
indented. -/
def readItems (indented : Bool) : Nat → Reader (List Node)
  | 0 => throw .arrangement
  | fuel + 1 => do
    match ← accept .blockEntry with
    | some stop =>
      let stops := if indented then [.blockEntry, .blockEnd] else [.blockEntry, .key, .value, .blockEnd]
      let item ← readUnless stops .block stop fuel
      return item :: (← readItems indented fuel)
    | none =>
      if indented && (← accept .blockEnd).isNone then throw .arrangement
      return []

/-- Reads the value after a key. -/
def readValue (stops : List TokenKind) (position : Position) : Nat → Reader Node
  | 0 => throw .arrangement
  | fuel + 1 => do
    match ← accept .value with
    | some stop => readUnless stops position stop fuel
    | none => return empty (← here)

/-- Reads the entries of a mapping on lines of its own. -/
def readEntries : Nat → Reader (List (Node × Node))
  | 0 => throw .arrangement
  | fuel + 1 => do
    if (← accept .blockEnd).isSome then return []
    let stops := [TokenKind.key, .value, .blockEnd]
    let key ← match ← accept .key with
      | some stop => readUnless stops .value stop fuel
      | none => if ← isNext [.value] then pure (empty (← here)) else throw .arrangement
    let value ← readValue stops .value fuel
    return (key, value) :: (← readEntries fuel)

/-- Reads the items of a sequence in brackets. A key makes a mapping of one entry. -/
def readFlowItems (isFirst : Bool) : Nat → Reader (List Node)
  | 0 => throw .arrangement
  | fuel + 1 => do
    if !(← continues isFirst .flowSequenceEnd) then return []
    let place ← here
    let stops := [TokenKind.flowEntry, .flowSequenceEnd]
    let item ← match ← accept .key with
      | some stop => do
        let key ← readUnless (.value :: stops) .flow stop fuel
        let value ← readValue stops .flow fuel
        pure (Node.mapping place none [(key, value)])
      | none => read .flow fuel
    return item :: (← readFlowItems false fuel)

/-- Reads the entries of a mapping in brackets. What has no mark of a key has no value. -/
def readFlowEntries (isFirst : Bool) : Nat → Reader (List (Node × Node))
  | 0 => throw .arrangement
  | fuel + 1 => do
    if !(← continues isFirst .flowMappingEnd) then return []
    let stops := [TokenKind.flowEntry, .flowMappingEnd]
    let entry ← match ← accept .key with
      | some stop => do
        let key ← readUnless (.value :: stops) .flow stop fuel
        pure (key, ← readValue stops .flow fuel)
      | none =>
        if ← isNext [.value] then
          let key := empty (← here)
          pure (key, ← readValue stops .flow fuel)
        else
          let key ← read .flow fuel
          pure (key, empty (← here))
    return entry :: (← readFlowEntries false fuel)

end

/-- Passes tokens of a kind. -/
def dropAll (kind : TokenKind) : List Token → List Token
  | [] => []
  | token :: rest => if token.kind = kind then dropAll kind rest else token :: rest

/-- Checks that nothing but the end of the text is left. -/
def checkEnd : Reader Unit := do
  let kinds : List TokenKind := (dropAll .documentEnd (← get).tokens).map (·.kind)
  match kinds with
  | [.streamEnd] => return
  | .documentStart :: _ | .directive :: _ => throw .manyDocuments
  | _ => throw .arrangement

/-- Reads the single document of a text, if there is one. -/
def readDocument (fuel : Nat) : Reader (Option Node) := do
  if ← isNext [.streamEnd] then return none
  let node ←
    if ← isNext [.directive, .documentStart] then do
      modify fun state => { state with tokens := dropAll .directive state.tokens }
      match ← accept .documentStart with
      | none => throw .arrangement
      | some stop =>
        readUnless [.directive, .documentStart, .documentEnd, .streamEnd] .block stop fuel
    else read .block fuel
  checkEnd
  return some node

/-- The single document that tokens describe, if there is one. -/
def ofTokens (tokens : List Token) : Except YamlProblem (Option Node) :=
  (readDocument (4 * tokens.length + 16)).run' { tokens }

/-- The single document of a text, if there is one. -/
def ofText (text : String) : Except YamlProblem (Option Node) := do
  ofTokens (← Token.ofText text).toList

end Node

end ProposalCheck.Yaml
