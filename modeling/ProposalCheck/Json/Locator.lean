import ProposalCheck.Json.Decode
import ProposalCheck.Text.Utf8
import ProposalCheck.Validation.Issue
import ProposalCheck.Yaml.Scalar

/-!
# Where the parts of a JSON text stand

A JSON text is read a second time as YAML, which tells where every key and every item starts. From the
start of a value its end is found by a scan of the text. A part is named by the path that leads to it.

## Main definitions

* `valueLength?`: the length of the value at the front of a text
* `PartPlace`, `Locator.places`: where the parts of a document start
* `Locator.span?`: the bytes of a part, from its key to the end of its value
-/

namespace ProposalCheck

/-- The scan of brackets and strings: how many brackets are open, and where in a string the scan is. -/
inductive ScanMode where
  | plain
  | inString
  /-- After a backslash in a string. -/
  | escaped
  deriving DecidableEq, Repr

/-- How many characters of `cs` there are up to and including the bracket that closes the last of
`open` brackets. Both kinds of brackets count alike. -/
def bracketLength? (mode : ScanMode) (depth : Nat) : List Char → Option Nat
  | [] => none
  | c :: rest =>
    match mode with
    | .escaped => (bracketLength? .inString depth rest).map (· + 1)
    | .inString =>
      let mode := if c = '\\' then .escaped else if c = '"' then .plain else .inString
      (bracketLength? mode depth rest).map (· + 1)
    | .plain =>
      if c = '"' then (bracketLength? .inString depth rest).map (· + 1)
      else if c = '\x7b' ∨ c = '[' then (bracketLength? .plain (depth + 1) rest).map (· + 1)
      else if c = '\x7d' ∨ c = ']' then
        if depth = 1 then some 1 else (bracketLength? .plain (depth - 1) rest).map (· + 1)
      else (bracketLength? .plain depth rest).map (· + 1)

/-- How many characters of `cs` there are up to and including the quote that closes a string. -/
def stringLength? (isEscaped : Bool) : List Char → Option Nat
  | [] => none
  | c :: rest =>
    if isEscaped then (stringLength? false rest).map (· + 1)
    else if c = '\\' then (stringLength? true rest).map (· + 1)
    else if c = '"' then some 1
    else (stringLength? false rest).map (· + 1)

/-- Does a character end a number or a word? -/
def endsWord (c : Char) : Bool := isBlank c || c = ',' || c = ']' || c = '\x7d'

/-- The length of the value at the front of a text, in characters. -/
def valueLength? (cs : List Char) : Option Nat :=
  match cs with
  | [] => none
  | c :: rest =>
    if c = '\x7b' ∨ c = '[' then bracketLength? .plain 0 cs
    else if c = '"' then (stringLength? false rest).map (· + 1)
    else
      let word := cs.takeWhile (!endsWord ·)
      if word = [] then none else some word.length

/-- A line and a column, counted from 0. -/
structure PartPlace where
  line : Nat
  column : Nat
  deriving DecidableEq, Repr

/-- Where a part starts and where its value starts. They differ where the part has a key. -/
structure PartStart where
  anchor : PartPlace
  value : PartPlace
  deriving DecidableEq, Repr

/-- The places of the parts of a text, in the order in which they were found. -/
structure Locator where
  text : List Char
  places : List (List PathItem × PartStart)

namespace Locator

/-- The place of a node. -/
def placeOf (node : Yaml.Node) : PartPlace := ⟨node.place.line, node.place.column⟩

/-- Adds a part, or replaces the place of the part with the same path. -/
def insert (path : List PathItem) (start : PartStart) :
    List (List PathItem × PartStart) → List (List PathItem × PartStart)
  | [] => [(path, start)]
  | (other, old) :: rest =>
    if other = path then (path, start) :: rest else (other, old) :: insert path start rest

mutual

/-- The parts below a node. -/
def partsBelow (path : List PathItem) : Yaml.Node → List (List PathItem × PartStart)
  | .scalar _ _ _ _ => []
  | .sequence _ _ items => itemParts path 0 items
  | .mapping _ _ entries => entryParts path [] entries

/-- The parts of a sequence from an index on. -/
def itemParts (path : List PathItem) (index : Nat) :
    List Yaml.Node → List (List PathItem × PartStart)
  | [] => []
  | item :: rest =>
    let below := path ++ [.index index]
    (below, ⟨placeOf item, placeOf item⟩) :: partsBelow below item ++ itemParts path (index + 1) rest

/-- The parts of a mapping. Of entries with the same key only the first counts. -/
def entryParts (path : List PathItem) (seen : List Yaml.Scalar) :
    List (Yaml.Node × Yaml.Node) → List (List PathItem × PartStart)
  | [] => []
  | (key, value) :: rest =>
    match Yaml.Scalar.ofNode? key with
    | none => entryParts path seen rest
    | some scalar =>
      if seen.any scalar.same then entryParts path seen rest
      else
        let below := path ++ [.name scalar.name]
        (below, ⟨placeOf key, placeOf value⟩) :: partsBelow below value
          ++ entryParts path (scalar :: seen) rest

end

/-- The place of the first character that is no blank. -/
def firstDark (line column : Nat) : List Char → Option PartPlace
  | [] => none
  | c :: rest =>
    if c = '\n' then firstDark (line + 1) 0 rest
    else if isBlank c then firstDark line (column + 1) rest
    else some ⟨line, column⟩

/-- Finds the parts of a text. There are none if the text is blank or cannot be read. -/
def ofText? (text : String) : Option Locator :=
  match Yaml.Node.ofText text, firstDark 0 0 text.toList with
  | .ok (some node), some place =>
    let root := match node with
      | .scalar _ _ _ _ => place
      | _ => placeOf node
    let parts := partsBelow [] node
    some ⟨text.toList, ([], ⟨root, root⟩) :: parts.foldl (fun all part => insert part.1 part.2 all) []⟩
  | .ok none, some place => some ⟨text.toList, [([], ⟨place, place⟩)]⟩
  | _, _ => none

/-- The characters of a text after some lines; `none` if there are fewer. -/
def afterLines? : Nat → List Char → Option (List Char)
  | 0, cs => some cs
  | _ + 1, [] => none
  | count + 1, c :: rest => if c = '\n' then afterLines? count rest else afterLines? (count + 1) rest

/-- The number of characters before a place; `none` if there is no such place. -/
def offset? (text : List Char) (place : PartPlace) : Option Nat :=
  (afterLines? place.line text).bind fun rest =>
    if place.column ≤ rest.length then some (text.length - rest.length + place.column) else none

/-- The bytes of a part, from its key to the end of its value. -/
def span? (locator : Locator) (path : List PathItem) : Option Span := do
  let start ← locator.places.lookup path
  let first ← offset? locator.text start.anchor
  let value ← offset? locator.text start.value
  let length ← valueLength? (locator.text.drop value)
  return ⟨byteLength (locator.text.take first), byteLength (locator.text.take (value + length))⟩

end Locator

end ProposalCheck
