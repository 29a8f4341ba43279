import ProposalCheck.Markdown.LinkPart

/-!
# Lines as blocks see them

Quotes and list items hold blocks of their own. For what is inside of them, a line starts after the
marks of the blocks around it. A row tells where a line starts and ends in the text, how many
characters of indentation it has, how many columns these take, and how many columns lie before it.

## Main definitions

* `BlockRow`: a line as the blocks in a container see it
* `BlockScope`: the rows that a container offers to the blocks in it
* `BlockScope.content`: the text of some rows
-/

namespace ProposalCheck.Markdown

/-- A line as the blocks in a container see it. A line that only continues a paragraph of an inner
container has the indentation -1. -/
structure BlockRow where
  first : Nat
  last : Nat
  shift : Nat
  indent : Int
  base : Nat := 0
  deriving DecidableEq, Repr

namespace BlockRow

/-- The place of the first character after the indentation. -/
def start (row : BlockRow) : Nat := row.first + row.shift

/-- Is there nothing after the indentation? -/
def isEmpty (row : BlockRow) : Bool := row.start ≥ row.last

end BlockRow

/-- The column after a space or tab at a column. Tabs stop at multiples of four. -/
def columnAfter (c : Char) (base column : Nat) : Nat :=
  if c = '\t' then column + (4 - (column + base) % 4) else column + 1

/-- Passes spaces and tabs from a place and a column on, up to `last`. -/
def passGaps (text : Array Char) (base last : Nat) : Nat → Nat → Nat → Nat × Nat
  | 0, place, column => (place, column)
  | fuel + 1, place, column =>
    if place ≥ last then (place, column)
    else match text[place]? with
      | some c =>
        if isGap c then passGaps text base last fuel (place + 1) (columnAfter c base column)
        else (place, column)
      | none => (place, column)

/-- The row of a line with nothing around it. -/
def BlockRow.ofLine (text : Array Char) (first last : Nat) : BlockRow :=
  let (place, column) := passGaps text 0 last (last - first) first 0
  ⟨first, last, place - first, column, 0⟩

/-- The rows of a text from a place on. Spaces and tabs at the end that no line feed follows are no
line. -/
def rowsFrom (text : Array Char) : Nat → Nat → List BlockRow
  | 0, _ => []
  | fuel + 1, first =>
    if first ≥ text.size then []
    else
      let last := skipWhile (· ≠ '\n') text first (text.size - first)
      let row := BlockRow.ofLine text first last
      if last ≥ text.size then (if row.isEmpty then [] else [row])
      else row :: rowsFrom text fuel (last + 1)

/-- The rows that a container offers to the blocks in it. They end before row `stop`. Blocks start at
the column `indent`; `outerIndent` is that of the blocks around a list, within a list. -/
structure BlockScope where
  text : Array Char
  rows : Array BlockRow
  stop : Nat
  indent : Nat := 0
  outerIndent : Option Nat := none

namespace BlockScope

/-- The rows of a whole text. -/
def ofText (text : Array Char) : BlockScope :=
  let rows := (rowsFrom text (text.size + 1) 0).toArray
  { text, rows, stop := rows.size }

variable (scope : BlockScope)

/-- A row; past the end of the text rows are empty. -/
def row (line : Nat) : BlockRow :=
  scope.rows.getD line ⟨scope.text.size, scope.text.size, 0, 0, 0⟩

/-- Is a row empty? -/
def isEmpty (line : Nat) : Bool := (scope.row line).isEmpty

/-- Is a row indented so far that it is code? -/
def isCode (line : Nat) : Bool := (scope.row line).indent - scope.indent ≥ 4

/-- Does a row start to the left of the blocks in this container? -/
def isOutdented (line : Nat) : Bool := (scope.row line).indent < scope.indent

/-- The first row from `line` on that is not empty. -/
def skipEmpty (line : Nat) : Nat → Nat
  | 0 => line
  | fuel + 1 =>
    if line < scope.stop && scope.isEmpty line then skipEmpty (line + 1) fuel else line

/-- The character at a place of a row, if the row has it. -/
def char? (line place : Nat) : Option Char :=
  if place < (scope.row line).last then scope.text[place]? else none

/-- The text of a row after its indentation. -/
def lineText (line : Nat) : List Char :=
  let row := scope.row line
  sliceOf scope.text row.start row.last

/-- Takes `indent` columns off the front of a row: the columns taken and the place reached. What the
marks of containers cover counts as spaces. -/
def dropIndent (row : BlockRow) (last indent : Nat) : Nat → Nat → Nat → Nat × Nat
  | 0, place, columns => (place, columns)
  | fuel + 1, place, columns =>
    if place < last && columns < indent then
      match scope.text[place]? with
      | none => (place, columns)
      | some c =>
        if isGap c then
          dropIndent row last indent fuel (place + 1) (columnAfter c row.base columns)
        else if place - row.first < row.shift then
          dropIndent row last indent fuel (place + 1) (columns + 1)
        else (place, columns)
    else (place, columns)

/-- The text of a row without `indent` columns, with its line end if `withEnd`. A tab that is cut
leaves spaces. -/
def rowContent (line indent : Nat) (withEnd : Bool) : List Char :=
  let row := scope.row line
  let last := if withEnd then row.last + 1 else row.last
  let (place, columns) := scope.dropIndent row last indent (last - row.first) row.first 0
  List.replicate (columns - indent) ' ' ++ sliceOf scope.text place last

/-- The text of the rows from `first` to before `stop`, each without `indent` columns. -/
def content (first stop indent : Nat) (withLastEnd : Bool) : List Char :=
  (List.range (stop - first)).flatMap fun i =>
    scope.rowContent (first + i) indent (first + i + 1 < stop || withLastEnd)

/-- The text of a paragraph. -/
def paragraphText (first stop : Nat) : String :=
  String.ofList (trimChars (scope.content first stop scope.indent false))

end BlockScope

end ProposalCheck.Markdown
