import ProposalCheck.Diagnostic.Snippet
import ProposalCheck.Text.Blank

/-!
# Findings as text

A finding is drawn in rows: a heading, for each excerpt its place and its lines with marker rows
below them, and the notes.

    error[rule]: title
      --> origin:line:column
       |
    12 | source line
       |          ^^^ label
       |
       = help: note

Marks over several lines are drawn in a gutter between the line numbers and the text: one column for
each of them, in the order of the marks. Such a mark opens with `/` beside its first line if nothing
but blanks precede it there, and otherwise with an underlined row of its own; it closes with an
underlined row below its last line.

## Main definitions

* `PlacedMark`: a mark with lines and columns
* `Drawing`: an excerpt laid out for drawing
* `Drawing.rowGroup`: the row of a line and the marker rows below it
* `Drawing.visible`: the lines that are shown
* `Snippet.render`: a finding as text
-/

namespace ProposalCheck

/-- A mark with the line and column of its start and, exclusively, of its end. Lines and columns
count from zero. -/
structure PlacedMark where
  range : Span
  severity : Severity
  label : String
  startLine : Nat
  startColumn : Nat
  endLine : Nat
  endColumn : Nat
  deriving DecidableEq, Repr

namespace PlacedMark

/-- Does the mark reach over a line end? -/
def isMultiline (mark : PlacedMark) : Bool := mark.endLine ≠ mark.startLine

/-- The character that a mark is drawn with. -/
def stroke (mark : PlacedMark) : Char := if mark.severity = .error then '^' else '-'

/-- The label as it follows the strokes, with a blank in front unless it is empty. -/
def tail (mark : PlacedMark) : List Char :=
  if mark.label = "" then [] else ' ' :: mark.label.toList

/-- Labels of the three mildest severities are introduced by the severity. -/
def labelText (severity : Severity) (label : String) : String :=
  if label ≠ "" ∧ severity.weight ≤ Severity.info.weight then severity.name ++ ": " ++ label
  else label

/-- The line and column of a byte of an excerpt. -/
def locate (rows : List Row) (offset : Nat) : Nat × Nat :=
  let line := rows.countP (fun row => row.start ≤ offset) - 1
  match rows[line]? with
  | some row => (line, charsWithin (offset - row.start) row.chars)
  | none => (line, 0)

/-- Places a mark in an excerpt; an open severity is the default. The last character that a mark
covers decides where it ends. -/
def place (rows : List Row) (default : Severity) (mark : Mark) : PlacedMark :=
  let severity := mark.severity.getD default
  let (startLine, startColumn) := locate rows mark.range.start
  let (endLine, endColumn) :=
    if mark.range.start < mark.range.stop then
      let (line, column) := locate rows (mark.range.stop - 1)
      (line, column + 1)
    else (startLine, startColumn)
  { range := mark.range, severity, label := labelText severity mark.label
    startLine, startColumn, endLine, endColumn }

/-- Marks are drawn in the order of their starts, then of their ends. -/
def before (a b : PlacedMark) : Bool :=
  a.range.start < b.range.start || (a.range.start = b.range.start && a.range.stop ≤ b.range.stop)

end PlacedMark

/-- An excerpt laid out for drawing, with line numbers `width` characters wide. -/
structure Drawing where
  excerpt : Excerpt
  width : Nat
  rows : List Row
  marks : List PlacedMark

namespace Drawing

/-- Lays out an excerpt. -/
def ofExcerpt (excerpt : Excerpt) (width : Nat) (default : Severity) : Drawing :=
  let rows := Row.ofChars 0 excerpt.source.toList
  { excerpt, width, rows
    marks := (excerpt.marks.map (PlacedMark.place rows default)).mergeSort PlacedMark.before }

variable (drawing : Drawing)

/-- The marks that are drawn in the gutter. -/
def gutterMarks : List PlacedMark := drawing.marks.filter (·.isMultiline)

/-- The characters of a line. -/
def chars (line : Nat) : List Char := (drawing.rows[line]?.map (·.chars)).getD []

/-- Does a mark of the gutter open with `/`? That is so if only blanks precede its start. -/
def opensWithSlash (mark : PlacedMark) : Bool :=
  mark.startColumn ≤ ((drawing.chars mark.startLine).takeWhile isBlank).length

/-- The blanks that take the place of a line number. -/
def padding : List Char := List.replicate drawing.width ' '

/-- Text of a row after the line numbers, without blanks at its end. -/
def unnumbered (text : List Char) : String :=
  String.ofList (trimEndChars (drawing.padding ++ ' ' :: '|' :: ' ' :: text))

/-- The gutter beside the text of a line. -/
def sourceGutter (line : Nat) : List Char :=
  drawing.gutterMarks.map fun mark =>
    if line = mark.startLine then if drawing.opensWithSlash mark then '/' else ' '
    else if mark.startLine < line ∧ line ≤ mark.endLine then '|'
    else ' '

/-- The row with the text of a line. -/
def sourceRow (line : Nat) : String :=
  let number := (toString (drawing.excerpt.lineStart + line)).toList
  let numbered := List.replicate (drawing.width - number.length) ' ' ++ number
  let gutter := drawing.sourceGutter line
  let text := drawing.chars line
  let body := if gutter = [] then text else gutter ++ ' ' :: text
  let row := numbered ++ ' ' :: '|' :: ' ' :: body
  String.ofList (if text = [] then trimEndChars row else row)

/-- The gutter beside a marker row below a line. Of the marks that close on this line, the first
`closed` of the gutter are already closed. -/
def markerGutter (line closed : Nat) : List Char :=
  drawing.gutterMarks.mapIdx fun k mark =>
    if mark.startLine ≤ line ∧ line ≤ mark.endLine
        ∧ ¬ (k < closed ∧ mark.endLine = line)
        ∧ (line = mark.startLine → drawing.opensWithSlash mark)
    then '|' else ' '

/-- The row with the strokes of a mark that stays on one line. -/
def inlineRow (line : Nat) (mark : PlacedMark) : String :=
  let gutter := drawing.markerGutter line 0
  let lead := if gutter = [] then [] else gutter ++ [' ']
  let count := max 1 (mark.endColumn - mark.startColumn)
  drawing.unnumbered (lead ++ List.replicate mark.startColumn ' '
    ++ List.replicate count mark.stroke ++ mark.tail)

/-- The gutter up to the column of the `k`-th mark, with `own` in that column, and a line drawn from
there to a column of the text. -/
def strokeTo (gutter : List Char) (k : Nat) (own : Char) (column : Nat) : List Char :=
  gutter.take k ++ own :: List.replicate (gutter.length + column - k) '_'

/-- The underlined row that opens the `k`-th mark of the gutter. -/
def openingRow (line k : Nat) (mark : PlacedMark) : String :=
  drawing.unnumbered
    (strokeTo (drawing.markerGutter line 0) k ' ' mark.startColumn ++ [mark.stroke])

/-- The underlined row that closes the `k`-th mark of the gutter. -/
def closingRow (line k : Nat) (mark : PlacedMark) : String :=
  drawing.unnumbered
    (strokeTo (drawing.markerGutter line k) k '|' (mark.endColumn - 1) ++ mark.stroke :: mark.tail)

/-- The marker rows below a line: marks that stay on it, then openings, then closings. -/
def markerRows (line : Nat) : List String :=
  let inlineMarks := drawing.marks.filter fun mark => !mark.isMultiline && mark.startLine = line
  let numbered := drawing.gutterMarks.zipIdx
  let openings := numbered.filter fun (mark, _) =>
    mark.startLine = line && !drawing.opensWithSlash mark
  let closings := numbered.filter fun (mark, _) => mark.endLine = line
  inlineMarks.map (drawing.inlineRow line)
    ++ openings.map (fun (mark, k) => drawing.openingRow line k mark)
    ++ closings.map (fun (mark, k) => drawing.closingRow line k mark)

/-- The row of a line and the marker rows below it. -/
def rowGroup (line : Nat) : List String := drawing.sourceRow line :: drawing.markerRows line

/-- Is a line shown when the excerpt is folded? The first and the last line are, and those on which
a mark starts or ends. -/
def isKept (line : Nat) : Bool :=
  line = 0 || line + 1 = drawing.rows.length
    || drawing.marks.any fun mark => line = mark.startLine || line = mark.endLine

/-- The lines that are shown. -/
def visible : List Nat :=
  let all := List.range drawing.rows.length
  if drawing.excerpt.fold then all.filter drawing.isKept else all

/-- The row groups of `lines`, with a row `...` where lines are left out after `previous`. -/
def rowsAfter (previous : Nat) : List Nat → List String
  | [] => []
  | line :: rest =>
    (if line = previous + 1 then [] else ["..."]) ++ drawing.rowGroup line
      ++ rowsAfter line rest

/-- All rows of the lines that are shown. -/
def lineRows : List String :=
  match drawing.visible with
  | [] => []
  | line :: rest => drawing.rowGroup line ++ drawing.rowsAfter line rest

/-- The row that names the place of the first mark, or of the first line if there is no mark. -/
def placeRow (isFirst : Bool) (origin : String) : String :=
  let arrow := if isFirst then "-->" else ":::"
  let (line, column) := match drawing.marks with
    | [] => (drawing.excerpt.lineStart, 1)
    | mark :: _ => (drawing.excerpt.lineStart + mark.startLine, mark.startColumn + 1)
  String.ofList drawing.padding ++ s!"{arrow} {origin}:{line}:{column}"

/-- The row that separates parts of a finding. -/
def blankRow (width : Nat) : String := String.ofList (List.replicate width ' ') ++ " |"

/-- All rows of an excerpt. -/
def allRows (isFirst : Bool) : List String :=
  (match drawing.excerpt.origin with
    | some origin => [drawing.placeRow isFirst origin]
    | none => []) ++ blankRow drawing.width :: drawing.lineRows

end Drawing

namespace Snippet

/-- The heading of a finding. -/
def heading (title : Note) (severity : Severity) : String :=
  match title.id with
  | some id =>
    if id = "" then severity.name ++ ": " ++ title.label
    else severity.name ++ "[" ++ id ++ "]: " ++ title.label
  | none => severity.name ++ ": " ++ title.label

/-- The number of the last line of an excerpt. -/
def lastLine (excerpt : Excerpt) : Int :=
  excerpt.lineStart + (excerpt.source.toList.count '\n' : Nat)

/-- The width of the greatest line number of all excerpts. -/
def numberWidth : List Excerpt → Nat
  | [] => 1
  | first :: rest =>
    (toString (rest.foldl (fun last excerpt => max last (lastLine excerpt)) (lastLine first))).length

/-- The rows of excerpts, each followed by a separating row if there is anything below it. -/
def excerptRows (width : Nat) (severity : Severity) (hasFooter : Bool) :
    Bool → List Excerpt → List String
  | _, [] => []
  | isFirst, excerpt :: rest =>
    (Drawing.ofExcerpt excerpt width severity).allRows isFirst
      ++ (if rest ≠ [] ∨ hasFooter then [Drawing.blankRow width] else [])
      ++ excerptRows width severity hasFooter false rest

/-- The rows of a finding. -/
def renderRows (snippet : Snippet) : List String :=
  let severity := snippet.title.severity.getD .error
  let width := numberWidth snippet.excerpts
  let notes := snippet.footer.map fun note =>
    String.ofList (List.replicate width ' ') ++ " = "
      ++ (note.severity.getD severity).name ++ ": " ++ note.label
  heading snippet.title severity
    :: (excerptRows width severity (!snippet.footer.isEmpty) true snippet.excerpts
      ++ (if snippet.excerpts = [] ∧ snippet.footer ≠ [] then [Drawing.blankRow width] else [])
      ++ notes)

/-- A finding as text. -/
def render (snippet : Snippet) : String := "\n".intercalate snippet.renderRows

end Snippet

end ProposalCheck
