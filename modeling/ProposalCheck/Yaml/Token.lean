import ProposalCheck.Yaml.Lexeme

/-!
# Tokens

A text is cut into tokens: marks, names and scalars. Some tokens are not written. Outside of brackets a
line that is indented further than the one before it opens a block, and one that is indented less closes
blocks. That something is a key is known only when its colon is met on the same line; the mark for the
key is then put in front of it.

## Main definitions

* `Token`: a token with the place at which it starts
* `Layout`: what has been read so far: tokens, indentation, brackets and possible keys
* `Token.ofText`: the tokens of a text
-/

namespace ProposalCheck.Yaml

/-- What a token says. -/
inductive TokenKind where
  | directive
  | documentStart
  | documentEnd
  | blockSequenceStart
  | blockMappingStart
  | blockEnd
  | flowSequenceStart
  | flowMappingStart
  | flowSequenceEnd
  | flowMappingEnd
  | blockEntry
  | flowEntry
  | key
  | value
  | alias (name : String)
  | anchor (name : String)
  | tag (tag : Tag)
  /-- A scalar; only plain ones may stand for something else than their text. -/
  | scalar (text : String) (plain : Bool)
  | streamEnd
  deriving DecidableEq, Repr

/-- A token with the places at which it starts and ends. -/
structure Token where
  kind : TokenKind
  start : Place
  stop : Place
  deriving DecidableEq, Repr

/-- The two kinds of brackets. -/
inductive Bracket where
  | square
  | curly
  deriving DecidableEq, Repr

/-- Something that may turn out to be a key: how many brackets it is in, how many tokens are before it
and where it starts. A required one is a key or an error. -/
structure PossibleKey where
  depth : Nat
  token : Nat
  place : Place
  required : Bool
  deriving DecidableEq, Repr

/-- What has been read so far. -/
structure Layout where
  cursor : Cursor
  tokens : Array Token := #[]
  brackets : List Bracket := []
  /-- The column of the innermost block, or -1. -/
  indent : Int := -1
  /-- The columns of the blocks around it. -/
  indents : List Int := []
  allowsKey : Bool := true
  keys : List PossibleKey := []

namespace Layout

/-- The result of a step. -/
abbrev Step := Except YamlProblem Layout

/-- The longest key on one line, in characters. -/
def maximumKeyLength : Nat := 1024

variable (layout : Layout)

/-- Is the cursor within brackets? -/
def inFlow : Bool := !layout.brackets.isEmpty

/-- The number of brackets around the cursor. -/
def depth : Nat := layout.brackets.length

/-- Adds a token that starts at the cursor and ends at another place. -/
def push (kind : TokenKind) (after : Cursor) : Layout :=
  { layout with
    tokens := layout.tokens.push ⟨kind, layout.cursor.place, after.place⟩
    cursor := after }

/-- Adds a token that takes no characters. -/
def pushEmpty (kind : TokenKind) : Layout := layout.push kind layout.cursor

/-- Forgets the possible key among the current brackets. -/
def dropKey : Step :=
  match layout.keys.find? (·.depth = layout.depth) with
  | some key =>
    if key.required then .error .missingColon
    else .ok { layout with keys := layout.keys.filter (·.depth ≠ layout.depth) }
  | none => .ok layout

/-- Forgets the possible keys that are too far away for a colon. -/
def dropStaleKeys : Step :=
  let place := layout.cursor.place
  let isStale := fun (key : PossibleKey) =>
    key.place.line ≠ place.line || place.index - key.place.index > maximumKeyLength
  if layout.keys.any fun key => isStale key && key.required then .error .missingColon
  else .ok { layout with keys := layout.keys.filter (!isStale ·) }

/-- Notes that a key may start at the cursor. -/
def noteKey : Step := do
  if !layout.allowsKey then return layout
  let layout ← layout.dropKey
  let place := layout.cursor.place
  let key : PossibleKey :=
    { depth := layout.depth
      token := layout.tokens.size
      place
      required := !layout.inFlow && layout.indent = place.column }
  return { layout with keys := key :: layout.keys }

/-- Opens a block at a column, if that is further than the block around it. -/
def openBlock (column : Nat) : Option Layout :=
  if layout.indent < column then
    some { layout with indent := column, indents := layout.indent :: layout.indents }
  else none

/-- Closes blocks, given the columns of those around the innermost one. -/
def closeBlocks (column : Int) (layout : Layout) : List Int → Layout
  | [] => layout
  | outer :: rest =>
    if layout.indent ≤ column then layout
    else closeBlocks column
      { layout.pushEmpty .blockEnd with indent := outer, indents := rest } rest

/-- Closes the blocks that are indented further than a column. -/
def closeTo (column : Int) : Layout :=
  if layout.inFlow then layout else closeBlocks column layout layout.indents

/-- Passes blanks, line ends and comments up to the next token. Tabs are blanks within brackets and
after an empty line. -/
def skipBlanks : Nat → Layout → Layout
  | 0, layout => layout
  | fuel + 1, layout =>
    let isBlank := fun c => c = ' ' || (c = '\t' && layout.inFlow)
    let cursor := layout.cursor.skipWhile isBlank
    let isComment := cursor.peek = '#'
    let cursor := if isComment then cursor.skipWhile (!isLineEnd ·) else cursor
    match cursor.lineBreak? with
    | some (_, cursor) =>
      let cursor :=
        if !isComment && cursor.peek = '\n' then
          cursor.skipWhile fun c => isSpaceOrTab c || isBreak c
        else cursor
      skipBlanks fuel { layout with cursor, allowsKey := layout.allowsKey || !layout.inFlow }
    | none => { layout with cursor }

/-- Adds an opening bracket. -/
def openBracket (bracket : Bracket) (kind : TokenKind) : Step := do
  let layout ← layout.noteKey
  let layout := layout.push kind layout.cursor.next
  return { layout with brackets := bracket :: layout.brackets, allowsKey := true }

/-- Adds a closing bracket. -/
def closeBracket (kind : TokenKind) : Step := do
  let layout ← layout.dropKey
  let layout := layout.push kind layout.cursor.next
  return { layout with brackets := layout.brackets.tail, allowsKey := false }

/-- Opens a block at the cursor if it is not open yet. -/
def openBlockHere (kind : TokenKind) : Layout :=
  match layout.openBlock layout.cursor.place.column with
  | some opened => opened.pushEmpty kind
  | none => layout

/-- Adds the mark of an entry. -/
def entry : Step := do
  if !layout.inFlow && !layout.allowsKey then throw .misplaced
  let layout := if layout.inFlow then layout else layout.openBlockHere .blockSequenceStart
  let layout ← { layout with allowsKey := true }.dropKey
  return layout.push .blockEntry layout.cursor.next

/-- Adds the mark of a key that is written. -/
def writtenKey : Step := do
  if !layout.inFlow && !layout.allowsKey then throw .misplaced
  let layout := if layout.inFlow then layout else layout.openBlockHere .blockMappingStart
  let layout ← { layout with allowsKey := !layout.inFlow }.dropKey
  return layout.push .key layout.cursor.next

/-- Puts tokens before one that was read earlier. -/
def insertBefore (index : Nat) (place : Place) (kinds : List TokenKind) : Layout :=
  let tokens := kinds.map fun kind => (⟨kind, place, place⟩ : Token)
  { layout with
    tokens := layout.tokens.extract 0 index ++ tokens.toArray
      ++ layout.tokens.extract index layout.tokens.size }

/-- Adds the mark of a value, and before it that of its key. -/
def value : Step := do
  let layout ← match layout.keys.find? (·.depth = layout.depth) with
    | some key =>
      -- there was a possible key, and the colon makes it one: its mark goes in front of it
      let layout := { layout with
        keys := layout.keys.filter (·.depth ≠ layout.depth), allowsKey := false }
      let opened := if layout.inFlow then none else layout.openBlock key.place.column
      pure <| match opened with
        | some opened => opened.insertBefore key.token key.place [.blockMappingStart, .key]
        | none => layout.insertBefore key.token key.place [.key]
    | none =>
      -- no key was possible, so the value has none
      if !layout.inFlow && !layout.allowsKey then throw .misplaced
      let layout := if layout.inFlow then layout else layout.openBlockHere .blockMappingStart
      { layout with allowsKey := !layout.inFlow }.dropKey
  return layout.push .value layout.cursor.next

/-- Adds a token that may start a key. -/
def word {α : Type} (read : Cursor → Reading α) (kind : α → TokenKind) : Step := do
  let layout ← layout.noteKey
  let (text, cursor) ← read layout.cursor
  return { layout with allowsKey := false }.push (kind text) cursor

/-- Adds a plain scalar. -/
def plain : Step := do
  let layout ← layout.noteKey
  let (text, cursor) := plainScalar layout.inFlow (layout.indent + 1) layout.cursor
  let layout := { layout with allowsKey := text.endsLine }
  return layout.push (.scalar (String.ofList text.text) true) cursor

/-- Adds a block of lines. -/
def block : Step := do
  let layout ← { layout with allowsKey := true }.dropKey
  let (text, cursor) ← blockScalar layout.indent layout.cursor
  return layout.push (.scalar text false) cursor

/-- Ends all blocks and possible keys, as a mark between documents does. -/
def finishDocument : Step := do
  let layout ← (layout.closeTo (-1)).dropKey
  return { layout with allowsKey := false }

/-- Adds a mark between documents. -/
def separator (kind : TokenKind) : Step := do
  let layout ← layout.finishDocument
  return layout.push kind (layout.cursor.skip 3)

/-- Adds a directive, which takes the rest of its line. -/
def directive : Step := do
  let layout ← layout.finishDocument
  let line := layout.cursor.takeWhile fun c => !isBreak c
  if !((line.drop 1).head?.any Char.isAlpha) then throw .directive
  return layout.push .directive (layout.cursor.skip line.length)

/-- Is a colon at the cursor the mark of a value? -/
def isValue : Bool :=
  let isBeforeEdge := isEdge (layout.cursor.peekAt 1)
  match layout.brackets with
  | [] => isBeforeEdge
  | .square :: _ => isBeforeEdge
  | .curly :: _ => (layout.tokens.back?.map (·.kind)) ≠ some .value || isBeforeEdge

/-- The characters that start something else than a plain scalar. -/
def marks : List Char := "-?:,[]{}#&*!|>'\"%@\x60".toList

/-- Does a plain scalar start at the cursor? -/
def isPlain : Bool :=
  let c := layout.cursor.peek
  let next := layout.cursor.peekAt 1
  if !isEdge c && !isBreak c && !marks.contains c then true
  else if c = '-' then !isEdge next
  else if c = ':' && layout.inFlow then !isSpaceOrTab next
  else (c = '?' || c = ':') && !layout.inFlow && !isEdge next

/-- Adds the next token. -/
def step : Step := do
  let cursor := layout.cursor
  let next := cursor.peekAt 1
  let isFirst := cursor.place.column = 0
  match cursor.peek with
  | '[' => layout.openBracket .square .flowSequenceStart
  | '{' => layout.openBracket .curly .flowMappingStart
  | ']' => layout.closeBracket .flowSequenceEnd
  | '}' => layout.closeBracket .flowMappingEnd
  | ',' =>
    let layout ← { layout with allowsKey := true }.dropKey
    return layout.push .flowEntry cursor.next
  | '*' => layout.word nameAt .alias
  | '&' => layout.word nameAt .anchor
  | '!' => layout.word tagAt .tag
  | '\'' | '"' => layout.word quotedScalar (.scalar · false)
  | c =>
    if c = '%' && isFirst then layout.directive
    else if isFirst && cursor.isAtMark "---" then layout.separator .documentStart
    else if isFirst && cursor.isAtMark "..." then layout.separator .documentEnd
    else if c = '-' && isEdge next then layout.entry
    else if c = '?' && (layout.inFlow || isEdge next) then layout.writtenKey
    else if c = ':' && layout.isValue then layout.value
    else if (c = '|' || c = '>') && !layout.inFlow then layout.block
    else if layout.isPlain then layout.plain
    else throw (.unexpected c)

/-- Adds tokens up to the end of the text. -/
def run : Nat → Layout → Except YamlProblem (Array Token)
  | 0, _ => .error .arrangement
  | fuel + 1, layout => do
    let layout := skipBlanks (layout.cursor.rest.length + 1) layout
    let layout ← layout.dropStaleKeys
    let layout := layout.closeTo layout.cursor.place.column
    if layout.cursor.rest.isEmpty then
      let layout ← (layout.closeTo (-1)).dropKey
      return (layout.pushEmpty .streamEnd).tokens
    else run fuel (← layout.step)

end Layout

/-- May a text hold a character? -/
def isTextChar (c : Char) : Bool :=
  let n := c.toNat
  n = 9 || n = 10 || n = 13 || (0x20 ≤ n && n ≤ 0x7E) || n = 0x85 || (0xA0 ≤ n && n ≤ 0xD7FF)
    || (0xE000 ≤ n && n ≤ 0xFFFD) || 0x10000 ≤ n

/-- The tokens of a text. A byte order mark in front of it is passed over. -/
def Token.ofText (text : String) : Except YamlProblem (Array Token) :=
  match text.toList.find? (!isTextChar ·) with
  | some c => .error (.character c)
  | none =>
    let cursor := Cursor.ofString text
    let cursor := if cursor.peek = '\ufeff' then cursor.next else cursor
    Layout.run (text.length + 2) { cursor }

end ProposalCheck.Yaml
