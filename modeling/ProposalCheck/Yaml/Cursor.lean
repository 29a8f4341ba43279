/-!
# Reading positions

A YAML text is read from front to back with a cursor that knows how many characters, and how many line
ends, lie behind it. A byte order mark takes no column. Some characters break a line within a scalar
although no line is counted for them.

## Main definitions

* `Place`: a position in a text
* `Cursor`: a position together with what is left to read
* `Cursor.lineBreak?`: the line end at a position
-/

namespace ProposalCheck.Yaml

/-- A position: the characters before it, and its line and column, counted from 0. -/
structure Place where
  index : Nat := 0
  line : Nat := 0
  column : Nat := 0
  deriving DecidableEq, Repr

/-- A position together with what is left to read. -/
structure Cursor where
  rest : List Char
  place : Place := {}

/-- Does a character end a line? -/
def isLineEnd (c : Char) : Bool := ['\n', '\r', '\x85'].contains c

/-- Does a character break a line within a scalar? -/
def isBreak (c : Char) : Bool := isLineEnd c || c = '\u2028' || c = '\u2029'

/-- A space or a tab. -/
def isSpaceOrTab (c : Char) : Bool := c = ' ' || c = '\t'

/-- What `peek` gives at the end of the text. -/
def endMark : Char := '\x00'

/-- Is a character a blank, a line end or the end of the text? -/
def isEdge (c : Char) : Bool := isSpaceOrTab c || isLineEnd c || c = endMark

/-- The position after a character; `next` is the character that follows it. Lines are counted at line
feeds and at carriage returns without one. -/
def Place.after (place : Place) (c : Char) (next : Option Char) : Place :=
  if c = '\n' || (c = '\r' && next ≠ some '\n') then ⟨place.index + 1, place.line + 1, 0⟩
  else if c = '\ufeff' then { place with index := place.index + 1 }
  else ⟨place.index + 1, place.line, place.column + 1⟩

namespace Cursor

/-- The start of a text. -/
def ofString (text : String) : Cursor := ⟨text.toList, {}⟩

/-- The next character. -/
def peek (cursor : Cursor) : Char := cursor.rest.headD endMark

/-- The character at a distance. -/
def peekAt (cursor : Cursor) (distance : Nat) : Char := (cursor.rest.drop distance).headD endMark

/-- The cursor after one character. -/
def next (cursor : Cursor) : Cursor :=
  match cursor.rest with
  | [] => cursor
  | c :: rest => ⟨rest, cursor.place.after c rest.head?⟩

/-- The cursor after some characters. -/
def skip : Nat → Cursor → Cursor
  | 0, cursor => cursor
  | count + 1, cursor => skip count cursor.next

/-- The characters in front that satisfy `p`. -/
def takeWhile (cursor : Cursor) (p : Char → Bool) : List Char := cursor.rest.takeWhile p

/-- The cursor after the characters in front that satisfy `p`. -/
def skipWhile (cursor : Cursor) (p : Char → Bool) : Cursor :=
  cursor.skip (cursor.takeWhile p).length

/-- The line end at the cursor as it counts in a text, and the cursor after it. -/
def lineBreak? (cursor : Cursor) : Option (Char × Cursor) :=
  match cursor.rest with
  | '\r' :: '\n' :: _ => some ('\n', cursor.skip 2)
  | c :: _ =>
    if c = '\u2028' || c = '\u2029' then some (c, cursor.next)
    else if isBreak c then some ('\n', cursor.next)
    else none
  | [] => none

/-- Does one of the marks that separate documents stand at the cursor? -/
def isAtMark (cursor : Cursor) (mark : String) : Bool :=
  cursor.rest.take 3 = mark.toList && isEdge (cursor.peekAt 3)

/-- Does a mark that starts or ends a document stand at the cursor? -/
def isAtSeparator (cursor : Cursor) : Bool := cursor.isAtMark "---" || cursor.isAtMark "..."

end Cursor

end ProposalCheck.Yaml
