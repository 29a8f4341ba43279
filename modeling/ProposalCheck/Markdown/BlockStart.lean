import ProposalCheck.Markdown.Html
import ProposalCheck.Markdown.Rows

/-!
# Where blocks start

What kind of block a row starts can be told from that row alone, tables apart, whose second row tells
it. The same tests say where a paragraph ends: most blocks may start in the middle of what would
otherwise be one.

## Main definitions

* `BlockScope.fence?`, `rule?`, `listMarker?`, `heading?`, `table?`: the marks that start a block
* `BlockScope.endsParagraph`, `endsQuote`, `endsItem`: whether a row starts a block that ends another
-/

namespace ProposalCheck.Markdown

/-- The start of a fence: its mark, how often the mark is repeated, and what is written beside it. -/
structure FenceStart where
  marker : Char
  length : Nat
  info : List Char

/-- The mark of a list item: the bullet or the character after the number, the number as written, and
the place after the mark. -/
structure ListMarker where
  marker : Char
  number : Option (List Char)
  after : Nat

/-- The header of a table: the texts of its cells. -/
structure TableStart where
  header : List (List Char)

/-- How many times `c` stands in a row at the front. -/
def runOf (c : Char) (text : List Char) : Nat := (text.takeWhile (· = c)).length

/-- The cells of a row, split at bars that no backslash precedes. `escaped` tells whether the character
before was a backslash; `cell` is the reversed text of the current cell. -/
def splitCells (escaped : Bool) (cell : List Char) : List Char → List (List Char)
  | [] => [cell.reverse]
  | '|' :: rest =>
    if escaped then splitCells false ('|' :: cell.drop 1) rest
    else cell.reverse :: splitCells false [] rest
  | c :: rest => splitCells (c = '\\') (c :: cell) rest

/-- The cells of a row of a table. Empty ones at the ends are dropped. -/
def tableCells (line : List Char) : List (List Char) :=
  let cells := splitCells false [] line
  let cells := if cells.head? = some [] then cells.drop 1 else cells
  if cells.getLast? = some [] then cells.dropLast else cells

/-- Is a text the mark under a column: dashes with colons where the text is aligned? -/
def isColumnMark (text : List Char) : Bool :=
  let text := if text.head? = some ':' then text.drop 1 else text
  let text := if text.getLast? = some ':' then text.dropLast else text
  !text.isEmpty && text.all (· = '-')

/-- The number of columns under the header of a table, if a row tells it. Empty pieces may only stand
at the ends. -/
def columnCount? (line : List Char) : Option Nat :=
  let pieces := (splitWhere (· = '|') line).map trimChars
  let inner := if pieces.head? = some [] then pieces.drop 1 else pieces
  let inner := if inner.getLast? = some [] then inner.dropLast else inner
  if inner.all isColumnMark then some inner.length else none

namespace BlockScope

variable (scope : BlockScope)

/-- The fence that a row starts. -/
def fence? (line : Nat) : Option FenceStart :=
  if scope.isCode line then none
  else match scope.lineText line with
    | [] => none
    | marker :: rest =>
      let length := runOf marker rest + 1
      let info := rest.drop (length - 1)
      if (marker = '~' || marker = '\x60') && length ≥ 3
          && !(marker = '\x60' && info.contains '\x60') then some ⟨marker, length, info⟩
      else none

/-- Does a row start a quote? -/
def startsQuote (line : Nat) : Bool :=
  !scope.isCode line && scope.char? line (scope.row line).start = some '>'

/-- The mark of a horizontal rule and how many of them stand in a row. -/
def rule? (line : Nat) : Option (Char × Nat) :=
  if scope.isCode line then none
  else match scope.lineText line with
    | [] => none
    | marker :: rest =>
      let count := rest.count marker + 1
      if (marker = '*' || marker = '-' || marker = '_') && count ≥ 3
          && rest.all (fun c => c = marker || isGap c) then some (marker, count)
      else none

/-- Is a text empty, or does it start with a space or tab? -/
def startsWithGap (text : List Char) : Bool := (text.head?.map isGap).getD true

/-- The mark of a list item in a row. Numbers have at most nine digits. -/
def listMark? (line : Nat) : Option ListMarker :=
  let start := (scope.row line).start
  let text := scope.lineText line
  let digits := text.takeWhile Char.isDigit
  match digits, text.drop digits.length with
  | [], c :: rest =>
    if (c = '*' || c = '-' || c = '+') && startsWithGap rest then some ⟨c, none, start + 1⟩ else none
  | _ :: _, c :: rest =>
    if (c = ')' || c = '.') && digits.length ≤ 9 && startsWithGap rest then
      some ⟨c, some digits, start + digits.length + 1⟩
    else none
  | _, [] => none

/-- The list that a row starts. In the middle of a paragraph a list starts with the number 1 and with
an item that is not empty. -/
def listMarker? (line : Nat) (withinParagraph : Bool) : Option ListMarker :=
  let row := scope.row line
  let belongsOutside := match scope.outerIndent with
    | some outer => row.indent - outer ≥ 4 && row.indent < scope.indent
    | none => false
  if scope.isCode line || belongsOutside then none
  else match scope.listMark? line with
    | none => none
    | some mark =>
      if withinParagraph && row.indent ≥ scope.indent
          && ((mark.number.any fun digits => decimalNat? digits ≠ some 1)
            || (sliceOf scope.text mark.after row.last).all isGap) then none
      else some mark

/-- The HTML block that a row starts. -/
def html? (line : Nat) : Option HtmlBlockRule :=
  if scope.isCode line then none
  else match scope.lineText line with
    | '<' :: rest => htmlBlockRule? (String.ofList ('<' :: rest))
    | _ => none

/-- The level of the heading that a row starts. -/
def heading? (line : Nat) : Option Nat :=
  if scope.isCode line then none
  else
    let text := scope.lineText line
    let level := runOf '#' text
    if 1 ≤ level && level ≤ 6 && startsWithGap (text.drop level) then some level else none

/-- The table that a row starts, where rows are read up to `stop`. -/
def table? (line stop : Nat) : Option TableStart :=
  if line + 2 > stop || scope.isOutdented (line + 1) || scope.isCode (line + 1) then none
  else
    let marks := scope.lineText (line + 1)
    let isMark := fun (c : Char) => c = '|' || c = '-' || c = ':'
    match marks with
    | a :: b :: rest =>
      -- the second row has marks and blanks only, and does not start as an item of a list does
      if !isMark a || !(isMark b || isGap b) || (a = '-' && isGap b)
          || !rest.all (fun c => isMark c || isGap c) then none
      else match columnCount? marks with
        | none => none
        | some count =>
          let text := trimChars (scope.lineText line)
          let header := tableCells text
          if text.contains '|' && !scope.isCode line && header.length ≠ 0
              && header.length = count then some ⟨header⟩
          else none
    | _ => none

/-- Does a row end an item of a list? -/
def endsItem (line : Nat) : Bool :=
  (scope.fence? line).isSome || scope.startsQuote line || (scope.rule? line).isSome

/-- Does a row end a quote, or the table before it? -/
def endsQuote (line : Nat) : Bool :=
  scope.endsItem line || (scope.listMarker? line false).isSome
    || (scope.html? line).any (·.endsParagraph) || (scope.heading? line).isSome

/-- Does a row end a paragraph, or a definition if `isParagraph` is false? -/
def endsParagraph (line stop : Nat) (isParagraph : Bool) : Bool :=
  (scope.table? line stop).isSome || scope.endsItem line
    || (scope.listMarker? line isParagraph).isSome
    || (scope.html? line).any (·.endsParagraph) || (scope.heading? line).isSome

end BlockScope

end ProposalCheck.Markdown
