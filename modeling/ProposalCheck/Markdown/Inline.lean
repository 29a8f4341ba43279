import ProposalCheck.Markdown.Emphasis
import ProposalCheck.Markdown.Html
import ProposalCheck.Markdown.LinkPart
import ProposalCheck.Text.Punctuation

/-!
# Text within blocks

The text of a block is read from left to right. At each place a mark may start a piece of its own:
a line break, an escape, code, emphasis, a link, an image, an address, HTML or a character reference.
All other characters are plain text.

Where the text of a link ends is found by skipping over the pieces in it, which may be links
themselves. What has been skipped is remembered by its place. The depth of such searches is limited,
and beyond the limit the whole rest counts as one piece.

The mutually recursive functions take fuel. A search goes forward over the text at each of its at most
twenty levels, and the text of an image is shorter than the text around it, so the square of the
length bounds the depth of calls.

## Main definitions

* `LinkTargets`: the destinations that labels are defined to have
* `inlineTrees`: the pieces of a text
-/

namespace ProposalCheck.Markdown

/-- The destinations that labels are defined to have. -/
abbrev LinkTargets := List (String × String)

/-- The greatest depth of nested parts. -/
def maxDepth : Nat := 20

/-- The state of reading: the place, where the text ends, the depth, the plain text not yet made a
token (in reverse), the tokens, the marks of emphasis among them, the ends of pieces that have been
skipped, and for each length the last run of backticks seen, once the whole text has been seen. -/
structure InlineState where
  place : Nat := 0
  stop : Nat
  depth : Nat := 0
  pending : List Char := []
  tokens : Array Token := #[]
  marks : Array Delimiter := #[]
  skips : Array (Option Nat)
  tickRuns : List (Nat × Nat) := []
  ticksSeen : Bool := false

/-- A step of reading. -/
abbrev InlineReader := StateM InlineState

namespace InlineReader

/-- Makes the plain text a token. -/
def flush : InlineReader Unit :=
  modify fun state =>
    if state.pending.isEmpty then state
    else
      { state with
        pending := []
        tokens := state.tokens.push (.text (String.ofList state.pending.reverse)) }

/-- Adds a token. -/
def add (token : Token) : InlineReader Unit := do
  flush
  modify fun state => { state with tokens := state.tokens.push token }

/-- Adds a piece without children. -/
def addLeaf (element : Element) : InlineReader Unit := add (.whole (.leaf element))

/-- Adds plain text. -/
def addPlain (text : List Char) : InlineReader Unit :=
  modify fun state => { state with pending := text.reverse ++ state.pending }

/-- Goes to a place. -/
def goTo (place : Nat) : InlineReader Unit := modify fun state => { state with place }

end InlineReader

open InlineReader

/-- The characters at which a piece may start. -/
def isMark (c : Char) : Bool :=
  c = '\n' || "!#$%&*+-:<=>@[\\]^_\x60\x7b\x7d~".toList.contains c

section

variable (text : Array Char)

/-- The text from a place on. -/
def textFrom (place : Nat) : String := String.ofList (sliceOf text place text.size)

/-- Reads plain text up to the next mark. -/
def readPlain (silent : Bool) : InlineReader Bool := do
  let place := (← get).place
  let stop := skipWhile (!isMark ·) text place (text.size - place)
  if stop = place then return false
  unless silent do addPlain (sliceOf text place stop)
  goTo stop
  return true

/-- Reads a line end. Two spaces before it make it a hard break. -/
def readLineEnd (silent : Bool) : InlineReader Bool := do
  let state ← get
  unless silent do
    match state.pending with
    | ' ' :: ' ' :: rest =>
      set { state with pending := rest.dropWhile (· = ' ') }
      addLeaf { kind := .hardBreak }
    | ' ' :: rest =>
      set { state with pending := rest }
      addLeaf { kind := .softBreak }
    | _ => addLeaf { kind := .softBreak }
  goTo (skipWhile isGap text (state.place + 1) (state.stop - (state.place + 1)))
  return true

/-- Reads a backslash with what it escapes. -/
def readEscape (silent : Bool) : InlineReader Bool := do
  let state ← get
  let next := state.place + 1
  if next ≥ state.stop then return false
  match text[next]? with
  | none => return false
  | some '\n' =>
    unless silent do addLeaf { kind := .hardBreak }
    goTo (skipWhile isGap text (next + 1) (state.stop - (next + 1)))
    return true
  | some c =>
    unless silent do
      let markup := String.ofList ['\\', c]
      let content := if isAsciiPunctuation c then String.singleton c else markup
      addLeaf { kind := .escapedText, content, markup, info := "escape" }
    goTo (next + 1)
    return true

/-- The run of backticks of a given length that closes code, from `place` on: where it starts and
ends. The runs of other lengths are noted. -/
def closingTicks (stop length : Nat) : Nat → Nat → List (Nat × Nat) →
    Option (Nat × Nat) × List (Nat × Nat)
  | 0, _, runs => (none, runs)
  | fuel + 1, place, runs =>
    let start := skipWhile (· ≠ '\x60') text place (text.size - place)
    if start ≥ text.size then (none, runs)
    else
      let last := skipWhile (· = '\x60') text (start + 1) (stop - (start + 1))
      if last - start = length then (some (start, last), runs)
      else closingTicks stop length fuel last ((last - start, start) :: runs)

/-- The content of code: line ends become spaces, and one space on both sides is taken off. -/
def codeContent (content : List Char) : String :=
  let content := content.map fun c => if c = '\n' then ' ' else c
  if content.head? = some ' ' && content.getLast? = some ' ' && content.any (!isBlank ·) then
    String.ofList (content.drop 1).dropLast
  else String.ofList content

/-- Reads code between runs of backticks. -/
def readCode (silent : Bool) : InlineReader Bool := do
  let state ← get
  let start := skipWhile (· = '\x60') text (state.place + 1) (state.stop - (state.place + 1))
  let length := start - state.place
  let ticks := List.replicate length '\x60'
  let plain : InlineReader Bool := do
    unless silent do addPlain ticks
    goTo start
    return true
  -- once a search has come to the end, all runs are known, and there is none of this length ahead
  if state.ticksSeen && (state.tickRuns.lookup length).getD 0 ≤ state.place then plain
  else
    let (closing, tickRuns) := closingTicks text state.stop length (text.size + 1) start state.tickRuns
    match closing with
    | some (last, after) =>
      set { state with tickRuns }
      unless silent do
        addLeaf
          { kind := .code, markup := String.ofList ticks
            content := codeContent (sliceOf text start last) }
      goTo after
      return true
    | none =>
      set { state with tickRuns, ticksSeen := true }
      plain

/-- Is a character a blank beside a mark of emphasis? -/
def isGapBeside (c : Char) : Bool :=
  let n := c.toNat
  (0x2000 ≤ n && n ≤ 0x200A) || (9 ≤ n && n ≤ 13)
    || [0x20, 0xA0, 0x1680, 0x202F, 0x205F, 0x3000].contains n

/-- Reads a run of stars or underscores. What stands beside the run decides whether it may open or
close a part; an underscore does neither within a word. -/
def readMarks (marker : Char) (silent : Bool) : InlineReader Bool := do
  if silent then return false
  let state ← get
  let after := skipWhile (· = marker) text state.place (state.stop - state.place)
  let count := after - state.place
  -- beyond its ends the text counts as blank
  let last := if state.place = 0 then ' ' else (text[state.place - 1]?).getD ' '
  let next := if after < state.stop then (text[after]?).getD ' ' else ' '
  let leftFlanking := !isGapBeside next
    && (!isPunctuationOrSymbol next || isGapBeside last || isPunctuationOrSymbol last)
  let rightFlanking := !isGapBeside last
    && (!isPunctuationOrSymbol last || isGapBeside next || isPunctuationOrSymbol next)
  let mayOpen := leftFlanking && (marker = '*' || !rightFlanking || isPunctuationOrSymbol last)
  let mayClose := rightFlanking && (marker = '*' || !leftFlanking || isPunctuationOrSymbol next)
  flush
  -- every mark is a token of its own, so that each may have its own partner
  for _ in [:count] do
    let token := (← get).tokens.size
    add (.text (String.singleton marker))
    modify fun state =>
      { state with marks := state.marks.push { marker, runLength := count, token, mayOpen, mayClose } }
  goTo after
  return true

/-- Reads an address between `<` and `>`. -/
def readAddress (silent : Bool) : InlineReader Bool := do
  let state ← get
  let last := skipWhile (fun c => c ≠ '<' && c ≠ '>') text (state.place + 1) (text.size - state.place)
  if last ≥ state.stop || text[last]? ≠ some '>' then return false
  let address := String.ofList (sliceOf text (state.place + 1) last)
  let accept := fun (written : String) (shown : String) => do
    let destination := Destination.normalize written
    if !Destination.isSafe destination then return false
    unless silent do
      let children := [Tree.leaf { kind := .text, content := Destination.display shown }]
      add (.whole (.node { kind := .link destination, markup := "autolink", info := "auto" } children))
    goTo (last + 1)
    return true
  if addressPattern.isFoundIn address then accept address address
  else if mailPattern.isFoundIn address then accept ("mailto:" ++ address) address
  else return false

/-- Reads HTML. -/
def readHtml (silent : Bool) : InlineReader Bool := do
  let state ← get
  if state.place + 2 ≥ state.stop then return false
  match text[state.place + 1]? with
  | none => return false
  | some c =>
    if !(c = '!' || c = '?' || c = '/' || c.isAlpha) then return false
    match tagPattern.find? (textFrom text state.place) with
    | none => return false
    | some found =>
      let after := state.place + found.span.stop
      unless silent do
        addLeaf { kind := .html, content := String.ofList (sliceOf text state.place after) }
      goTo after
      return true

/-- Reads a character reference. A number of no character stands for U+FFFD. -/
def readReferenced (silent : Bool) : InlineReader Bool := do
  let state ← get
  if state.place + 1 ≥ state.stop then return false
  match referenceBody? (sliceOf text (state.place + 1) text.size) with
  | none => return false
  | some body =>
    let content := match numberIn? 7 6 body with
      | some code => some (String.singleton ((codeReference? code).getD '\uFFFD'))
      | none => namedReference? body
    match content with
    | none => return false
    | some content =>
      unless silent do
        let markup := String.ofList ('&' :: body ++ [';'])
        addLeaf { kind := .escapedText, content, markup, info := "entity" }
      goTo (state.place + body.length + 2)
      return true

/-- Skips blanks and line ends. -/
def skipGaps (place stop : Nat) : Nat :=
  skipWhile (fun c => isGap c || c = '\n') text place (stop - place)

/-- Reads what stands in parentheses after the text of a link, from after the opening one: a
destination, a blank and a title, where everything may be missing. Gives the destination and the
place where the closing parenthesis should stand. An unsafe destination is not read. -/
def inlineTarget (place stop : Nat) : String × Nat :=
  let withTitle := fun (destination : String) (place : Nat) =>
    let start := skipGaps text place stop
    match titleAt text start stop with
    | .found _ after =>
      if start < stop && start ≠ place then (destination, skipGaps text after stop)
      else (destination, start)
    | _ => (destination, start)
  match destinationAt? text place stop with
  | some (written, after) =>
    let destination := Destination.normalize written
    if Destination.isSafe destination then withTitle destination after else withTitle "" place
  | none => ("", place)

/-- What follows the text of a link. -/
inductive LinkTail where
  /-- The destination and the place after the closing parenthesis. -/
  | direct (destination : String) (after : Nat)
  /-- No destination in parentheses; a label may stand at the place. -/
  | label (place : Nat)
  /-- The text ends after the opening parenthesis. -/
  | cutOff

/-- What follows the text of a link that ends at `last`. -/
def linkTail (last stop : Nat) : LinkTail :=
  if last + 1 < stop && text[last + 1]? = some '(' then
    let place := skipGaps text (last + 2) stop
    if place ≥ stop then .cutOff
    else
      let (destination, closing) := inlineTarget text place stop
      if closing < stop && text[closing]? = some ')' then .direct destination (closing + 1)
      else .label (closing + 1)
  else .label (last + 1)

end

/-- Notes where the piece at `place` ends. -/
def noteSkip (place : Nat) : InlineReader Unit :=
  modify fun state => { state with skips := state.skips.setIfInBounds place (some state.place) }

/-- The state before the first character of a text. -/
def InlineState.start (text : Array Char) : InlineState where
  stop := text.size
  skips := Array.replicate text.size none

/-- The trees of the tokens of a state. -/
def InlineState.trees (state : InlineState) : List Tree := emphasize state.tokens state.marks

section

variable (targets : LinkTargets)

mutual

/-- Reads one piece, if one starts here. With `silent`, nothing is added. -/
def readPiece : Nat → Array Char → Bool → InlineReader Bool
  | 0, _, _ => return false
  | fuel + 1, text, silent => do
    match text[(← get).place]? with
    | none => return false
    | some c =>
      if !isMark c then readPlain text silent
      else match c with
        | '\n' => readLineEnd text silent
        | '\\' => readEscape text silent
        | '\x60' => readCode text silent
        | '*' | '_' => readMarks text c silent
        | '[' => readLink fuel text silent
        | '!' => readImage fuel text silent
        | '<' => if ← readAddress text silent then return true else readHtml text silent
        | '&' => readReferenced text silent
        | _ => return false

/-- Reads pieces and plain text up to the end. -/
def readAll : Nat → Array Char → InlineReader Unit
  | 0, _ => return
  | fuel + 1, text => do
    let state ← get
    if state.place < state.stop then
      unless ← readPiece fuel text false do
        addPlain (sliceOf text state.place (state.place + 1))
        goTo (state.place + 1)
      readAll fuel text
    else flush

/-- Skips one piece or one character. -/
def skipPiece : Nat → Array Char → InlineReader Unit
  | 0, _ => return
  | fuel + 1, text => do
    let state ← get
    match (state.skips[state.place]?).join with
    -- what has been skipped before is not read again
    | some place => goTo place
    | none =>
      if state.depth < maxDepth then
        set { state with depth := state.depth + 1 }
        let found ← readPiece fuel text true
        modify fun after => { after with depth := state.depth }
        unless found do goTo (state.place + 1)
      -- what is nested too deep ends the search
      else goTo (state.stop + 1)
      noteSkip state.place

/-- The place of the bracket that closes the outermost of `opened` brackets. With `flat`, no link may
stand in between. -/
def closingBracket : Nat → Array Char → Bool → Nat → InlineReader (Option Nat)
  | 0, _, _, _ => return none
  | fuel + 1, text, flat, opened => do
    let state ← get
    if state.place ≥ state.stop then return none
    let c := text[state.place]?
    if c = some ']' && opened ≤ 1 then return some state.place
    skipPiece fuel text
    let opened := if c = some ']' then opened - 1 else opened
    if c = some '[' then
      -- a bracket that was skipped alone starts no link
      if (← get).place = state.place + 1 then closingBracket fuel text flat (opened + 1)
      else if flat then return none
      else closingBracket fuel text flat opened
    else closingBracket fuel text flat opened

/-- The end of the text of a link whose opening bracket is at `place`. The place of reading stays. -/
def labelEnd : Nat → Array Char → Bool → Nat → InlineReader (Option Nat)
  | 0, _, _, _ => return none
  | fuel + 1, text, flat, place => do
    let before := (← get).place
    goTo (place + 1)
    let found ← closingBracket fuel text flat 1
    goTo before
    return found

/-- The destination that a label is defined to have, with the place after the reference. The text of
the link stands from `first` to `last`; a label of its own may follow at `place`. -/
def definedTarget : Nat → Array Char → Nat → Nat → Nat → InlineReader (Option (String × Nat))
  | 0, _, _, _, _ => return none
  | fuel + 1, text, first, last, place => do
    if targets.isEmpty then return none
    let own ←
      if place < (← get).stop && text[place]? = some '[' then labelEnd fuel text false place
      else pure none
    let (label, after) := match own with
      | some stop => (sliceOf text (place + 1) stop, stop + 1)
      | none => ([], last + 1)
    -- without a label of its own the text of the link is its label
    let label := if label.isEmpty then sliceOf text first last else label
    return (targets.lookup (normalizeLabel label)).map (·, after)

/-- Reads a link. -/
def readLink : Nat → Array Char → Bool → InlineReader Bool
  | 0, _, _ => return false
  | fuel + 1, text, silent => do
    let state ← get
    let first := state.place + 1
    match ← labelEnd fuel text true state.place with
    | none => return false
    | some last =>
      let target ← match linkTail text last state.stop with
        | .direct destination after => pure (some (destination, after))
        | .label place => definedTarget fuel text first last place
        | .cutOff => pure none
      match target with
      | none => return false
      | some (destination, after) =>
        unless silent do
          flush
          -- the text is read within the same state, but tokens and marks are its own
          let outer ← get
          set { outer with
            place := first, stop := last, depth := outer.depth + 1, tokens := #[], marks := #[] }
          readAll fuel text
          flush
          let inner ← get
          set { inner with
            stop := outer.stop, depth := outer.depth, tokens := outer.tokens, marks := outer.marks }
          add (.whole (.node { kind := .link destination } inner.trees))
        goTo after
        return true

/-- Reads an image. Its text is read on its own. -/
def readImage : Nat → Array Char → Bool → InlineReader Bool
  | 0, _, _ => return false
  | fuel + 1, text, silent => do
    let state ← get
    if state.place + 1 < state.stop && text[state.place + 1]? ≠ some '[' then return false
    let first := state.place + 2
    match ← labelEnd fuel text false (state.place + 1) with
    | none => return false
    | some last =>
      -- an image with a parenthesis behind its text is not looked up by a label
      let isDirect := last + 1 < state.stop && text[last + 1]? = some '('
      let target ← match linkTail text last state.stop with
        | .direct destination after => pure (some (destination, after))
        | .label place => if isDirect then pure none else definedTarget fuel text first last place
        | .cutOff => pure none
      match target with
      | none => return false
      | some (destination, after) =>
        unless silent do
          let content := text.extract first last
          let (_, inner) := (readAll fuel content).run (.start content)
          let element :=
            { kind := .image destination, content := String.ofList content.toList : Element }
          add (.whole (.node element inner.trees))
        goTo after
        return true

end

end

/-- Are two neighbouring trees both text? Then the second is taken into the first. -/
def mergeText (tree : Tree) : List Tree → List Tree
  | .node next nested :: rest =>
    match tree with
    | .node element children =>
      if element.kind = .text && next.kind = .text then
        .node { element with content := element.content ++ next.content } children :: rest
      else tree :: .node next nested :: rest
  | [] => [tree]

mutual

/-- A tree in which escaped characters are part of the text around them. The text of an image is left
as it is. -/
def joinEscapes : Tree → Tree
  | .node element children =>
    match element.kind with
    | .escapedText => .node { element with kind := .text } children
    | .image _ => .node element children
    | _ => .node element (joinEscapesAll children)

/-- The trees of a list in which escaped characters are part of the text around them. -/
def joinEscapesAll : List Tree → List Tree
  | [] => []
  | tree :: rest => mergeText (joinEscapes tree) (joinEscapesAll rest)

end

/-- The pieces of a text. -/
def inlineTrees (targets : LinkTargets) (content : String) : List Tree :=
  let text := content.toList.toArray
  let fuel := 40 * (text.size + 10) * (text.size + 10)
  let (_, state) := (readAll targets fuel text).run (.start text)
  joinEscapesAll state.trees

end ProposalCheck.Markdown
