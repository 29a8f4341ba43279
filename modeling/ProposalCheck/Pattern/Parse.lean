import ProposalCheck.Pattern.Match
import ProposalCheck.Json.Decode

/-!
# Reading patterns

A pattern is written with the usual marks: `.`, `^`, `$`, `[…]`, `|`, `(…)`, the repetitions `*`,
`+`, `?` and `{m,n}` with `?` or `+` after them, and escapes with a backslash. A group that opens with
`(?` is named, silent, atomic, a comment, an assertion, a condition on another group, or changes the
modes of matching. Modes for the whole pattern stand at its very start.

What stands behind a place has a fixed width, so an assertion about it is refused when the widths of
its matches differ. A reference to a group needs the group to be closed.

The recursive functions take fuel; each round of them uses a token, so twice the number of tokens is
enough.

## Main definitions

* `PatternModes`: the modes of matching
* `Pattern.parse`: the pattern that a text describes
-/

namespace ProposalCheck

/-- Why a text describes no pattern. -/
inductive PatternProblem where
  | malformed
  /-- A number of rounds that cannot be counted. -/
  | roundsTooLarge
  deriving DecidableEq, Repr

/-- The modes of matching. -/
structure PatternModes where
  ignoreCase : Bool := false
  multiline : Bool := false
  dotAll : Bool := false
  verbose : Bool := false
  ascii : Bool := false
  deriving DecidableEq, Repr

namespace PatternModes

/-- How characters are compared. -/
def caseRule (modes : PatternModes) : CaseRule :=
  if modes.ignoreCase then (if modes.ascii then .ignoreAscii else .ignore) else .exact

/-- Sets the mode of a letter. -/
def set (modes : PatternModes) (value : Bool) : Char → PatternModes
  | 'i' => { modes with ignoreCase := value }
  | 'm' => { modes with multiline := value }
  | 's' => { modes with dotAll := value }
  | 'x' => { modes with verbose := value }
  | 'a' => { modes with ascii := value }
  | 'u' => { modes with ascii := !value }
  | _ => modes

/-- Sets the modes of some letters. -/
def setAll (modes : PatternModes) (value : Bool) (letters : List Char) : PatternModes :=
  letters.foldl (·.set value ·) modes

end PatternModes

namespace Pattern

/-- A character of a written pattern, alone or after a backslash. -/
inductive Token where
  | plain (c : Char)
  | escaped (c : Char)
  deriving DecidableEq, Repr

/-- Splits a written pattern. A backslash at the end has nothing to escape. -/
def tokens : List Char → Except PatternProblem (List Token)
  | [] => .ok []
  | ['\\'] => .error .malformed
  | '\\' :: c :: cs => (tokens cs).map (.escaped c :: ·)
  | c :: cs => (tokens cs).map (.plain c :: ·)

/-- The part of a pattern a repetition applies to. -/
inductive Role where
  | anchor
  | repetition
  | item
  deriving DecidableEq, Repr

/-- A pattern with the least and the largest width of its matches. -/
structure Piece where
  pattern : Pattern
  low : Nat := 0
  high : Option Nat := some 0
  role : Role := .item
  deriving DecidableEq, Repr

namespace Piece

/-- The larger of two widths. -/
def larger : Option Nat → Option Nat → Option Nat
  | some a, some b => some (max a b)
  | _, _ => none

/-- The sum of two widths. -/
def sum : Option Nat → Option Nat → Option Nat
  | some a, some b => some (a + b)
  | _, _ => none

/-- The product of a width and a number of rounds. -/
def product : Option Nat → Option Nat → Option Nat
  | some 0, _ | _, some 0 => some 0
  | some a, some b => some (a * b)
  | _, _ => none

/-- A single character. -/
def one (pattern : Pattern) : Piece := ⟨pattern, 1, some 1, .item⟩

/-- A condition that takes no characters. -/
def anchored (anchor : Anchor) : Piece := ⟨.anchor anchor, 0, some 0, .anchor⟩

/-- Pieces one after the other. -/
def sequence (pieces : List Piece) : Piece where
  pattern := seqAll (pieces.map (·.pattern))
  low := pieces.foldr (fun piece low => piece.low + low) 0
  high := pieces.foldl (fun width piece => sum width piece.high) (some 0)

/-- A choice between pieces. -/
def choice (first second : Piece) : Piece where
  pattern := .alt first.pattern second.pattern
  low := min first.low second.low
  high := larger first.high second.high

/-- A repetition of a piece. -/
def repeated (low : Nat) (high : Option Nat) (greed : Greed) (piece : Piece) : Piece where
  pattern := .rounds low high greed piece.pattern
  low := low * piece.low
  high := product piece.high high
  role := .repetition

end Piece

/-- What the reader of a pattern has seen and what is left to read. -/
structure Reader where
  left : List Token
  modes : PatternModes
  /-- How many groups have been opened. -/
  opened : Nat := 0
  names : List (String × Nat) := []
  /-- The closed groups and their widths. -/
  closed : List (Nat × Nat × Option Nat) := []
  /-- Within an assertion about what stands behind, the groups that were open before it. -/
  behindLimit : Option Nat := none
  /-- The largest group that a condition asks for. -/
  asked : Nat := 0

/-- A step of the reader. -/
abbrev Reading := StateT Reader (Except PatternProblem)

namespace Reading

/-- Refuses the text. -/
def malformed {α : Type} : Reading α := throw .malformed

/-- The next token, left in place. -/
def peek : Reading (Option Token) := return (← get).left.head?

/-- Takes the next token. -/
def next : Reading (Option Token) := do
  let reader ← get
  set { reader with left := reader.left.tail }
  return reader.left.head?

/-- Takes the next token if it is the given character. -/
def eat (c : Char) : Reading Bool := do
  if (← peek) = some (.plain c) then
    let _ ← next
    return true
  else return false

/-- Takes the given character or refuses the text. -/
def expect (c : Char) : Reading Unit := do
  unless ← eat c do malformed

/-- The characters at the front of the tokens that meet `p`, at most `bound`. -/
def plainRun (p : Char → Bool) : Nat → List Token → List Char × List Token
  | bound + 1, .plain c :: more =>
    if p c then
      let (run, rest) := plainRun p bound more
      (c :: run, rest)
    else ([], .plain c :: more)
  | _, more => ([], more)

/-- Takes up to `bound` characters that meet `p`. -/
def takeWhile (bound : Nat) (p : Char → Bool) : Reading (List Char) := do
  let reader ← get
  let (run, rest) := plainRun p bound reader.left
  set { reader with left := rest }
  return run

/-- Takes a name up to a closing character, which is taken too. -/
def nameUpTo (closing : Char) : Reading (List Char) := do
  let name ← takeWhile (← get).left.length (· ≠ closing)
  expect closing
  if name.isEmpty then malformed
  return name

end Reading

open Reading

/-- May a group have this name? -/
def isName : List Char → Bool
  | [] => false
  | c :: cs => isWordChar c && !isDecimalDigit c && cs.all isWordChar

/-- The letters of the modes. -/
def modeLetters : List Char := ['i', 'm', 's', 'x', 'a', 't', 'u']

/-- The character of a code, if it has one. Codes of half a surrogate pair have a stand-in. -/
def charOfCode? (code : Nat) : Option Char :=
  if 0xD800 ≤ code && code ≤ 0xDFFF then some (Json.surrogateStandIn code)
  else if code < 0x110000 then some (Char.ofNat code) else none

/-- The value of digits in base eight. -/
def octalValue (digits : List Char) : Nat :=
  digits.foldl (fun n c => 8 * n + (c.toNat - '0'.toNat)) 0

/-- Is a character a digit of base eight? -/
def isOctal (c : Char) : Bool := '0' ≤ c && c ≤ '7'

/-- Is a character a letter of the Latin alphabet? -/
def isLatinLetter (c : Char) : Bool := c.isAlpha

/-- The characters that escapes name by a letter, places between characters apart. -/
def controlEscape? : Char → Option Char
  | 'a' => some '\x07'
  | 'f' => some '\x0c'
  | 'n' => some '\n'
  | 'r' => some '\r'
  | 't' => some '\t'
  | 'v' => some '\x0b'
  | '\\' => some '\\'
  | _ => none

/-- The kinds of characters that escapes name. -/
def kindEscape? (ascii : Bool) : Char → Option CharTest
  | 'd' => some (.kind .digit ascii false)
  | 'D' => some (.kind .digit ascii true)
  | 's' => some (.kind .blank ascii false)
  | 'S' => some (.kind .blank ascii true)
  | 'w' => some (.kind .word ascii false)
  | 'W' => some (.kind .word ascii true)
  | _ => none

/-- Reads exactly `count` digits of base sixteen. -/
def hexEscape (count : Nat) : Reading Char := do
  let digits ← takeWhile count (fun c => (hexDigit? c).isSome)
  if digits.length ≠ count then malformed
  match charOfCode? (hexValue digits) with
  | some c => return c
  | none => malformed

/-- The character of an escape that means the same inside a set and outside of it. -/
def commonEscape (c : Char) : Reading Char :=
  match controlEscape? c with
  | some c => return c
  | none =>
    if c = 'x' then hexEscape 2
    else if c = 'u' then hexEscape 4
    else if c = 'U' then hexEscape 8
    else if isLatinLetter c || c.isDigit then malformed
    else return c

/-- The code of an octal escape must fit a byte. -/
def octalEscape (digits : List Char) : Reading Char :=
  if octalValue digits > 0o377 then malformed else return Char.ofNat (octalValue digits)

/-- The meaning of an escape within a set. -/
def setEscape (c : Char) : Reading CharTest := do
  if c = 'b' then return .single '\x08'
  match kindEscape? (← get).modes.ascii c with
  | some test => return test
  | none =>
    if isOctal c then
      return .single (← octalEscape (c :: (← takeWhile 2 isOctal)))
    else return .single (← commonEscape c)

/-- Is a group closed, and may it be referred to from here? -/
def mayRefer (reader : Reader) (group : Nat) : Bool :=
  (reader.closed.any fun entry => entry.1 = group)
    && (reader.behindLimit.map (decide <| group ≤ ·)).getD true

/-- A reference to a group. -/
def reference (group : Nat) : Reading Piece := do
  let reader ← get
  match reader.closed.lookup group with
  | some (low, high) =>
    if mayRefer reader group then
      return { pattern := .backReference group reader.modes.caseRule, low, high }
    else malformed
  | none => malformed

/-- The piece of one character from tests. -/
def setPiece (tests : List CharTest) (negated : Bool) : Reading Piece := do
  return .one (.oneOf ⟨tests, negated, (← get).modes.caseRule⟩)

/-- The meaning of an escape outside of sets. -/
def escape (c : Char) : Reading Piece := do
  let modes := (← get).modes
  match kindEscape? modes.ascii c with
  | some test => setPiece [test] false
  | none =>
    if c = 'A' then return .anchored .textStart
    else if c = 'Z' then return .anchored .textEnd
    else if c = 'b' then return .anchored (.wordEdge modes.ascii false)
    else if c = 'B' then return .anchored (.wordEdge modes.ascii true)
    else if c = '0' then
      setPiece [.single (Char.ofNat (octalValue (← takeWhile 2 isOctal)))] false
    else if c.isDigit then
      match ← takeWhile 1 (·.isDigit) with
      | [] => reference (c.toNat - '0'.toNat)
      | second :: _ =>
        let third ← if isOctal c && isOctal second then takeWhile 1 isOctal else pure []
        if third.isEmpty then reference ((decimalNat? [c, second]).getD 0)
        else setPiece [.single (← octalEscape (c :: second :: third))] false
    else setPiece [.single (← commonEscape c)] false

/-- The end of a range in a set. -/
def rangeEnd : Token → Reading CharTest
  | .plain c => return .single c
  | .escaped c => setEscape c

/-- The tests of a set up to its closing bracket. `tests` is reversed; the bracket right after the
opening one is a member. -/
def setTests : Nat → List CharTest → Reading (List CharTest)
  | 0, _ => malformed
  | fuel + 1, tests => do
    match ← next with
    | none => malformed
    | some token =>
      if token = .plain ']' && !tests.isEmpty then return tests.reverse
      let low ← rangeEnd token
      if ← eat '-' then
        match ← next with
        | none => malformed
        | some (.plain ']') => return (.single '-' :: low :: tests).reverse
        | some token =>
          match low, ← rangeEnd token with
          | .single a, .single b =>
            if b.toNat < a.toNat then malformed
            setTests fuel (.range a.toNat b.toNat :: tests)
          | _, _ => malformed
      else setTests fuel (low :: tests)

/-- The number of rounds that cannot be told from an unbounded number. -/
def tooManyRounds : Nat := 4294967295

/-- The number that digits stand for, if any are given. -/
def roundCount (digits : List Char) : Reading (Option Nat) :=
  match digits with
  | [] => return none
  | _ =>
    let n := (decimalNat? digits).getD 0
    if n ≥ tooManyRounds then throw .roundsTooLarge else return some n

/-- The bounds in braces, or nothing if the brace is an ordinary character. -/
def bracedBounds : Reading (Option (Nat × Option Nat)) := do
  let reader ← get
  if (← peek) = some (.plain '}') then return none
  let low ← takeWhile reader.left.length (·.isDigit)
  let comma ← eat ','
  let high ← if comma then takeWhile reader.left.length (·.isDigit) else pure low
  if ← eat '}' then
    let low ← roundCount low
    let high ← roundCount high
    if high.any (· < low.getD 0) then malformed
    return some (low.getD 0, high)
  else
    set reader
    return none

/-- The bounds of the repetition that a character announces. -/
def bounds (c : Char) : Reading (Option (Nat × Option Nat)) :=
  match c with
  | '?' => return some (0, some 1)
  | '*' => return some (0, none)
  | '+' => return some (1, none)
  | _ => bracedBounds

/-- The mark after a repetition. -/
def greed : Reading Greed := do
  if ← eat '?' then return .lazy
  if ← eat '+' then return .possessive
  return .greedy

/-- Repeats the last of some pieces, given in reverse. -/
def repeatLast (low : Nat) (high : Option Nat) : List Piece → Reading (List Piece)
  | [] => malformed
  | last :: pieces => do
    if last.role ≠ .item then malformed
    return last.repeated low high (← greed) :: pieces

/-- Skips a comment up to its closing parenthesis. -/
def skipComment : List Token → Option (List Token)
  | [] => none
  | .plain ')' :: rest => some rest
  | _ :: rest => skipComment rest

/-- Skips a comment up to the end of its line. -/
def skipLine : List Token → List Token
  | [] => []
  | .plain '\n' :: rest => rest
  | _ :: rest => skipLine rest

/-- Is a character skipped in a verbose pattern? -/
def isLayout (c : Char) : Bool :=
  c = ' ' || c = '\t' || c = '\n' || c = '\r' || c = '\x0b' || c = '\x0c'

/-- What the letters after `(?` ask for. -/
inductive ModeChange where
  | whole (added : List Char)
  | scoped (added removed : List Char)

/-- Reads the letters of a change of modes, of which the first is `c`. -/
def modeChange (c : Char) : Reading ModeChange := do
  let bound := (← get).left.length
  let added ← if c = '-' then pure [] else do pure (c :: (← takeWhile bound (modeLetters.contains ·)))
  if added.contains 'a' && added.contains 'u' then malformed
  let ending ← if c = '-' then pure (some (Token.plain '-')) else next
  match ending with
  | some (.plain ')') => return .whole added
  | some (.plain ':') =>
    if added.contains 't' then malformed
    return .scoped added []
  | some (.plain '-') =>
    let removed ← takeWhile bound (modeLetters.contains ·)
    expect ':'
    if removed.isEmpty || (added ++ removed).contains 't' || removed.contains 'a'
        || removed.contains 'u' || added.any removed.contains then malformed
    return .scoped added removed
  | _ => malformed

/-- Opens a group, with a name if one is given. -/
def openGroup (name : Option String) : Reading Nat := do
  let reader ← get
  let index := reader.opened + 1
  match name with
  | none => set { reader with opened := index }
  | some name =>
    if (reader.names.lookup name).isSome then malformed
    set { reader with opened := index, names := (name, index) :: reader.names }
  return index

/-- Closes a group. -/
def closeGroup (index : Nat) (body : Piece) : Reading Piece := do
  modify fun reader => { reader with closed := (index, body.low, body.high) :: reader.closed }
  return { body with pattern := .group index body.pattern, role := .item }

/-- Reads a group name up to a closing character. -/
def groupName (closing : Char) : Reading String := do
  let name ← nameUpTo closing
  unless isName name do malformed
  return String.ofList name

/-- The group that a condition asks for. -/
def conditionGroup : Reading Nat := do
  let name ← nameUpTo ')'
  let reader ← get
  let index ←
    if isName name then
      match reader.names.lookup (String.ofList name) with
      | some index => pure index
      | none => malformed
    else
      match decimalNat? (trimChars name) with
      | some (index + 1) => pure (index + 1)
      | _ => malformed
  if reader.behindLimit.isSome && !mayRefer reader index then malformed
  set { reader with asked := max reader.asked index }
  return index

/-- The width of a piece that stands behind a place. -/
def fixedWidth (piece : Piece) : Reading Nat := do
  if piece.high ≠ some piece.low || piece.low ≥ 4294967296 then malformed
  return piece.low

mutual

/-- Reads a choice up to a closing parenthesis or the end. `outermost` says that the choice is the
whole pattern. -/
def choices : Nat → Bool → Reading Piece
  | 0, _ => malformed
  | fuel + 1, outermost => do
    let first ← pieces fuel outermost []
    if ← eat '|' then
      let others ← otherChoices fuel
      return .choice first others
    else return first

/-- Reads the choices after the first. -/
def otherChoices : Nat → Reading Piece
  | 0 => malformed
  | fuel + 1 => do
    let first ← pieces fuel false []
    if ← eat '|' then
      let others ← otherChoices fuel
      return .choice first others
    else return first

/-- Reads pieces up to a bar, a closing parenthesis or the end. `done` is reversed. With `atStart`,
nothing but changes of modes has been read. -/
def pieces : Nat → Bool → List Piece → Reading Piece
  | 0, _, _ => malformed
  | fuel + 1, atStart, done => do
    let modes := (← get).modes
    match ← peek with
    | none | some (.plain '|') | some (.plain ')') => return .sequence done.reverse
    | some token =>
      let _ ← next
      match token with
      | .escaped c => pieces fuel atStart ((← escape c) :: done)
      | .plain c =>
        -- in a verbose pattern, blanks and comments are no pieces
        if modes.verbose && isLayout c then pieces fuel atStart done
        else if modes.verbose && c = '#' then
          modify fun reader => { reader with left := skipLine reader.left }
          pieces fuel atStart done
        else if c = '[' then
          let negated ← eat '^'
          let tests ← setTests ((← get).left.length + 1) []
          pieces fuel atStart ((← setPiece tests negated) :: done)
        else if c = '*' || c = '+' || c = '?' || c = '{' then
          match ← bounds c with
          | some (low, high) => pieces fuel atStart (← repeatLast low high done)
          -- a brace that starts no bounds stands for itself
          | none => pieces fuel atStart ((← setPiece [.single c] false) :: done)
        else if c = '.' then
          pieces fuel atStart
            ((← setPiece (if modes.dotAll then [] else [.single '\n']) true) :: done)
        else if c = '^' then
          pieces fuel atStart
            (.anchored (if modes.multiline then .lineStart else .textStart) :: done)
        else if c = '$' then
          pieces fuel atStart
            (.anchored (if modes.multiline then .lineEnd else .lastLineEnd) :: done)
        else if c = '(' then
          match ← parenthesis fuel (atStart && done.isEmpty) with
          | some piece => pieces fuel atStart (piece :: done)
          | none => pieces fuel atStart done
        else pieces fuel atStart ((← setPiece [.single c] false) :: done)

/-- Reads what follows an opening parenthesis. Comments and changes of modes are no pieces. -/
def parenthesis : Nat → Bool → Reading (Option Piece)
  | 0, _ => malformed
  | fuel + 1, mayChangeModes => do
    unless ← eat '?' do
      let index ← openGroup none
      let body ← enclosed fuel
      return some (← closeGroup index body)
    match ← next with
    | some (.plain 'P') =>
      if ← eat '<' then
        let index ← openGroup (some (← groupName '>'))
        let body ← enclosed fuel
        return some (← closeGroup index body)
      else if ← eat '=' then
        let name ← groupName ')'
        match (← get).names.lookup name with
        | some index => return some (← reference index)
        | none => malformed
      else malformed
    | some (.plain ':') => return some { (← enclosed fuel) with role := .item }
    | some (.plain '>') =>
      let body ← enclosed fuel
      return some { body with pattern := .atomic body.pattern, role := .item }
    | some (.plain '#') =>
      match skipComment (← get).left with
      | some rest =>
        modify fun reader => { reader with left := rest }
        return none
      | none => malformed
    | some (.plain '=') => return some { pattern := .ahead false (← enclosed fuel).pattern }
    | some (.plain '!') => return some { pattern := .ahead true (← enclosed fuel).pattern }
    | some (.plain '<') =>
      -- within a look behind, references reach only the groups that were opened before the outermost one
      let negated ← eat '!'
      unless negated do expect '='
      let reader ← get
      set { reader with behindLimit := some (reader.behindLimit.getD reader.opened) }
      let body ← enclosed fuel
      modify fun inner => { inner with behindLimit := reader.behindLimit }
      return some { pattern := .behind negated (← fixedWidth body) body.pattern }
    | some (.plain '(') =>
      let index ← conditionGroup
      let matched ← pieces fuel false []
      -- a condition has one way or two, so a further bar is out of place
      let unmatched ← if ← eat '|' then pieces fuel false [] else pure { pattern := .empty }
      expect ')'
      let choice := Piece.choice matched unmatched
      return some { choice with pattern := .ifGroup index matched.pattern unmatched.pattern }
    | some (.plain c) =>
      if !(c = '-' || modeLetters.contains c) then malformed
      match ← modeChange c with
      | .whole added =>
        -- modes of the whole pattern stand in front of all of it
        unless mayChangeModes do malformed
        modify fun reader => { reader with modes := reader.modes.setAll true added }
        return none
      | .scoped added removed =>
        let outer := (← get).modes
        modify fun reader =>
          { reader with modes := (outer.setAll true added).setAll false removed }
        let body ← enclosed fuel
        modify fun reader => { reader with modes := outer }
        return some { body with role := .item }
    | _ => malformed

/-- Reads a choice and the parenthesis that closes it. -/
def enclosed : Nat → Reading Piece
  | 0 => malformed
  | fuel + 1 => do
    let body ← choices fuel false
    expect ')'
    return body

end

/-- The pattern that a text describes when matching starts out with the given modes. -/
def parse (modes : PatternModes) (text : String) : Except PatternProblem Pattern := do
  let tokens ← tokens text.toList
  let (piece, reader) ← (choices (4 * tokens.length + 4) true).run { left := tokens, modes }
  unless reader.left.isEmpty && reader.asked ≤ reader.opened do throw .malformed
  return piece.pattern

/-- The pattern that a text describes; a text that describes none matches the empty text. -/
def ofText (ignoreCase : Bool) (text : String) : Pattern :=
  match parse { ignoreCase } text with
  | .ok pattern => pattern
  | .error _ => .empty

end Pattern

end ProposalCheck
