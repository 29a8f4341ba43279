import ProposalCheck.Text.Utf8

/-!
# Lines and positions of a text

Byte offsets into a text are related to its lines and columns. Lines end at a line feed and nowhere
else; a carriage return at the end of a line is not part of the line's text. Lines and columns
count from one, columns in characters. Line numbers and offsets come from callers that may have
computed them from elsewhere, so both are integers and are checked.

## Main definitions

* `Span`: a half-open range of byte offsets
* `Row`: one line with the offset at which it starts
* `Lines`: a text with its rows
* `Lines.lineSpan`, `Lines.line`, `Lines.lines`: a line, or several joined
* `Lines.lineOf`, `Lines.position`: the line, or line and column, of an offset
* `Lines.slice`: the text between two offsets
-/

namespace ProposalCheck

/-- The bytes from `start` up to but not including `stop`. -/
structure Span where
  start : Nat
  stop : Nat
  deriving DecidableEq, Repr

/-- Why a position cannot be looked up. -/
inductive PositionError where
  /-- There is no such line in a text of `count` lines. -/
  | lineOutOfRange (line : Int) (count : Nat)
  /-- The offset lies outside the text. -/
  | offsetOutOfRange (offset : Int)
  /-- The range begins or ends inside a character. -/
  | splitsCharacter
  /-- The range ends before it begins. -/
  | negativeLength
  /-- There is no entry with this index. -/
  | indexOutOfRange
  deriving DecidableEq, Repr

namespace PositionError

/-- The wording of a position error. -/
def message : PositionError → String
  | .lineOutOfRange line count => s!"line {line} out of range (1..{count})"
  | .offsetOutOfRange offset => s!"offset {offset} out of range"
  | .splitsCharacter => "range splits a character"
  | .negativeLength => "__len__() should return >= 0"
  | .indexOutOfRange => "list index out of range"

end PositionError

/-- The number of bytes between two offsets. -/
def Span.length (start stop : Int) : Except PositionError Nat :=
  if start ≤ stop then .ok (stop - start).toNat else .error .negativeLength

/-- Two offsets moved by the same distance. -/
def Span.shift (start stop delta : Int) : Int × Int := (start + delta, stop + delta)

/-- A line: the offset of its first byte and its characters up to the line feed. -/
structure Row where
  start : Nat
  chars : List Char
  deriving DecidableEq, Repr

namespace Row

/-- The characters of a line without a carriage return at its end. -/
def dropReturn (cs : List Char) : List Char :=
  if cs.getLast? = some '\r' then cs.dropLast else cs

/-- The text of the line. -/
def text (row : Row) : String := String.ofList (dropReturn row.chars)

/-- The bytes of the line's text. -/
def span (row : Row) : Span := ⟨row.start, row.start + byteLength (dropReturn row.chars)⟩

/-- The rows of `cs`, the first of which starts at `start`. There is always one. -/
def ofChars (start : Nat) : List Char → List Row
  | [] => [⟨start, []⟩]
  | c :: rest =>
    if c = '\n' then ⟨start, []⟩ :: ofChars (start + 1) rest
    else match ofChars (start + c.utf8Size) rest with
      | [] => [⟨start, [c]⟩]
      | row :: others => ⟨start, c :: row.chars⟩ :: others

end Row

/-- A text together with its rows. -/
structure Lines where
  source : String
  rows : Array Row := (Row.ofChars 0 source.toList).toArray
  rows_eq : rows = (Row.ofChars 0 source.toList).toArray := by rfl

namespace Lines

/-- Splits a text into lines. -/
def ofString (source : String) : Lines := { source }

/-- The number of lines; an empty text has one. -/
def count (lines : Lines) : Nat := lines.rows.size

/-- The number of bytes of the whole text. -/
def size (lines : Lines) : Nat := lines.source.utf8ByteSize

/-- The row with the given number. -/
def row (lines : Lines) (line : Int) : Except PositionError Row :=
  if line < 1 then .error (.lineOutOfRange line lines.count)
  else match lines.rows[line.toNat - 1]? with
    | some row => .ok row
    | none => .error (.lineOutOfRange line lines.count)

/-- The bytes of a line's text, without its line end. -/
def lineSpan (lines : Lines) (line : Int) : Except PositionError Span := do
  return (← lines.row line).span

/-- The text of a line, without its line end. -/
def line (lines : Lines) (line : Int) : Except PositionError String := do
  return (← lines.row line).text

/-- The numbers from `first` up to and including `last`. -/
def range (first last : Int) : List Int :=
  (List.range (last + 1 - first).toNat).map fun (k : Nat) => first + (k : Int)

/-- The texts of the lines from `first` up to and including `last`, joined by line feeds. -/
def lines (lines : Lines) (first last : Int) : Except PositionError String := do
  let texts ← (range first last).mapM lines.line
  return "\n".intercalate texts

/-- The line that contains a byte offset. -/
def lineOf (lines : Lines) (offset : Int) : Except PositionError Nat :=
  if offset < 0 ∨ offset > lines.size then .error (.offsetOutOfRange offset)
  else .ok (lines.rows.countP fun row => row.start ≤ offset.toNat)

/-- The line and column of a byte offset. A character that starts before the offset counts, even if
it ends after it. -/
def position (lines : Lines) (offset : Int) : Except PositionError (Nat × Nat) := do
  let line ← lines.lineOf offset
  let row ← lines.row line
  return (line, charsBefore (offset.toNat - row.start) (row.chars ++ ['\n']) + 1)

/-- An offset that may count from the end of a text of `size` bytes, brought into the text. -/
def clampOffset (size : Nat) (offset : Int) : Nat :=
  min size (if offset < 0 then offset + size else offset).toNat

/-- The text between two offsets, which may count from the end. -/
def slice (lines : Lines) (start stop : Int) : Except PositionError String :=
  let start := clampOffset lines.size start
  let stop := clampOffset lines.size stop
  if stop ≤ start then .ok ""
  else match (dropBytes? start lines.source.toList).bind (takeBytes? (stop - start)) with
    | some cs => .ok (String.ofList cs)
    | none => .error .splitsCharacter

end Lines

end ProposalCheck
