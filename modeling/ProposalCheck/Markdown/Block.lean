import ProposalCheck.Markdown.Definition
import ProposalCheck.Markdown.Inline

/-!
# Blocks

A text is a sequence of blocks. At each row the kinds of blocks are tried in a fixed order, and a
paragraph is what remains. Quotes and list items hold blocks again; these are read from rows that
start after the marks of their container. Containers nest up to twenty levels; what lies deeper is
left out.

Blocks are read before the texts in them, for a definition counts wherever it stands. In between, the
text of a block is a node without children.

## Main definitions

* `readBlocks`: the blocks of a container
* `Tree.ofMarkdown`: the tree of a text
-/

namespace ProposalCheck.Markdown

/-- Some blocks, the definitions among them, and the row after them. -/
structure Blocks where
  trees : List Tree := []
  targets : LinkTargets := []
  next : Nat

namespace Blocks

/-- One block that covers rows up to `next`. -/
def single (element : Element) (children : List Tree) (first next : Nat) : Blocks where
  trees := [.node { element with lines := some ⟨first, next⟩ } children]
  next := next

/-- A block with other blocks in it. -/
def around (inner : Blocks) (element : Element) (first : Nat) : Blocks :=
  { inner with
    trees := [.node { element with lines := some ⟨first, inner.next⟩ } inner.trees] }

/-- Blocks after other blocks. -/
def followedBy (blocks more : Blocks) : Blocks :=
  ⟨blocks.trees ++ more.trees, blocks.targets ++ more.targets, more.next⟩

end Blocks

/-- A reader of the rows of a container from one row to before another. -/
abbrev BlockReader := BlockScope → Nat → Nat → Blocks

/-- The text of a block, not read yet. -/
def textOf (content : String) (first stop : Nat) : Tree :=
  .leaf { kind := .inline, content, lines := some ⟨first, stop⟩ }

namespace BlockScope

variable (scope : BlockScope)

/-- The row after the code that starts at a row. `last` is the row after the last one that is code. -/
def codeStop (stop last : Nat) : Nat → Nat → Nat
  | 0, _ => last
  | fuel + 1, line =>
    if line ≥ stop then last
    else if scope.isEmpty line then codeStop stop last fuel (line + 1)
    else if scope.isCode line then codeStop stop (line + 1) fuel (line + 1)
    else last

/-- Reads code that is marked by its indentation. -/
def readCodeBlock (line stop : Nat) : Blocks :=
  let last := scope.codeStop stop (line + 1) (stop - line) (line + 1)
  let content := String.ofList (scope.content line last (4 + scope.indent) false) ++ "\n"
  .single { kind := .codeBlock, content } [] line last

/-- Does a row close a fence? -/
def closesFence (fence : FenceStart) (line : Nat) : Bool :=
  let text := scope.lineText line
  let count := runOf fence.marker text
  !scope.isCode line && count ≥ fence.length && (text.drop count).all isGap

/-- The row where the content of a fence ends, and whether that row closes it. -/
def fenceStop (fence : FenceStart) (stop : Nat) : Nat → Nat → Nat × Bool
  | 0, line => (line, false)
  | fuel + 1, line =>
    if line ≥ stop then (line, false)
    else
      let row := scope.row line
      if (row.start < row.last && scope.isOutdented line) || row.start ≥ scope.text.size then
        (line, false)
      else if scope.closesFence fence line then (line, true)
      else fenceStop fence stop fuel (line + 1)

/-- Reads a fenced block. -/
def readFence (fence : FenceStart) (line stop : Nat) : Blocks :=
  let (last, closed) := scope.fenceStop fence stop (stop - line) (line + 1)
  let content := scope.content (line + 1) last (scope.row line).indent.toNat true
  .single
    { kind := .fence, content := String.ofList content, info := String.ofList fence.info
      markup := String.ofList (List.replicate fence.length fence.marker) }
    [] line (if closed then last + 1 else last)

/-- The row after an HTML block of which `line` is a further row. -/
def htmlStop (rule : HtmlBlockRule) (stop : Nat) : Nat → Nat → Nat
  | 0, line => line
  | fuel + 1, line =>
    if line ≥ stop || scope.isOutdented line then line
    else
      let text := scope.lineText line
      if rule.closing.isFoundIn (String.ofList text) then (if text.isEmpty then line else line + 1)
      else htmlStop rule stop fuel (line + 1)

/-- Reads an HTML block. -/
def readHtmlBlock (rule : HtmlBlockRule) (line stop : Nat) : Blocks :=
  let next :=
    if rule.closing.isFoundIn (String.ofList (scope.lineText line)) then line + 1
    else scope.htmlStop rule stop (stop - line) (line + 1)
  let content := String.ofList (scope.content line next scope.indent true)
  .single { kind := .htmlBlock, content } [] line next

/-- Reads a heading that is marked in front. Marks at its end are dropped if a space precedes them. -/
def readHeading (level line : Nat) : Blocks :=
  let text := (scope.lineText line).drop level
  let reversed := text.reverse.dropWhile isGap
  let unmarked := reversed.dropWhile (· = '#')
  let reversed :=
    if unmarked.length < reversed.length && (unmarked.head?.map isGap).getD false then unmarked
    else reversed
  let content := trim (String.ofList reversed.reverse)
  .single { kind := .heading level, markup := String.ofList (List.replicate level '#') }
    [textOf content line (line + 1)] line (line + 1)

/-- The mark of a heading if a row underlines one. -/
def underline? (line : Nat) : Option Char :=
  if scope.isOutdented line then none
  else match scope.lineText line with
    | c :: rest =>
      if (c = '-' || c = '=') && (rest.drop (runOf c rest)).all isGap then some c else none
    | [] => none

/-- The row that underlines the heading of which `line` is a further row, with its mark. -/
def underlineStop? (stop : Nat) : Nat → Nat → Option (Nat × Char)
  | 0, _ => none
  | fuel + 1, line =>
    if line ≥ stop || scope.isEmpty line then none
    else if scope.isCode line then underlineStop? stop fuel (line + 1)
    else match scope.underline? line with
      | some marker => some (line, marker)
      | none =>
        if (scope.row line).indent ≥ 0 && scope.endsParagraph line stop true then none
        else underlineStop? stop fuel (line + 1)

/-- Reads a heading that is marked by a row below. -/
def readUnderlined? (line stop : Nat) : Option Blocks :=
  (scope.underlineStop? stop (stop - line) (line + 1)).map fun (last, marker) =>
    let level := if marker = '=' then 1 else 2
    .single { kind := .heading level, markup := String.singleton marker }
      [textOf (scope.paragraphText line last) line last] line (last + 1)

/-- The row after the paragraph of which `line` is a further row. -/
def paragraphStop : Nat → Nat → Nat
  | 0, line => line
  | fuel + 1, line =>
    if line ≥ scope.stop || scope.isEmpty line then line
    else if !scope.isCode line && (scope.row line).indent ≥ 0
        && scope.endsParagraph line scope.stop true then line
    else paragraphStop fuel (line + 1)

/-- Reads a paragraph. -/
def readParagraph (line : Nat) : Blocks :=
  let next := scope.paragraphStop (scope.stop - line) (line + 1)
  .single { kind := .paragraph } [textOf (scope.paragraphText line next) line next] line next

/-- The cells of a row of a table. -/
def cellTrees (kind : Kind) (cells : List (List Char)) (line : Nat) : List Tree :=
  cells.map fun cell =>
    .node { kind } [textOf (String.ofList (trimChars cell)) line (line + 1)]

/-- A row of a table. -/
def rowTree (kind : Kind) (cells : List (List Char)) (line : Nat) : Tree :=
  .node { kind := .tableRow, lines := some ⟨line, line + 1⟩ } (cellTrees kind cells line)

/-- The rows of the body of a table. Rows that are too short are filled up, as long as the number of
missing cells is within bounds. -/
def bodyRows (columns stop : Nat) : Nat → Int → Nat → List Tree
  | 0, _, _ => []
  | fuel + 1, missing, line =>
    if line ≥ stop || scope.isOutdented line || scope.endsQuote line then []
    else
      let text := trimChars (scope.lineText line)
      let cells := tableCells text
      let missing : Int := missing + columns - cells.length
      if text.isEmpty || scope.isCode line || missing > 0x10000 then []
      else
        let cells := (cells ++ List.replicate columns []).take columns
        rowTree .cell cells line :: bodyRows columns stop fuel missing (line + 1)

/-- Reads a table. -/
def readTable (table : TableStart) (line stop : Nat) : Blocks :=
  let head := .node { kind := .tableHead, lines := some ⟨line, line + 1⟩ }
    [rowTree .headerCell table.header line]
  let rows := scope.bodyRows table.header.length stop (stop - line) 0 (line + 2)
  let next := line + 2 + rows.length
  let body := if rows.isEmpty then []
    else [.node { kind := .tableBody, lines := some ⟨line + 2, next⟩ } rows]
  .single { kind := .table } (head :: body) line next

/-- A row without the mark of a quote and the space after it. A tab after the mark counts as a space
and what remains of it. -/
def unquoted (line : Nat) : BlockRow :=
  let row := scope.row line
  let after := row.start + 1
  let column := row.indent.toNat + 1
  let next := scope.text[after]?
  let isWholeTab := next = some '\t' && (row.base + column) % 4 ≠ 3
  let spaced := next = some ' ' || next = some '\t'
  let taken := if spaced && !isWholeTab then 1 else 0
  let (place, reached) :=
    passGaps scope.text (row.base + if isWholeTab then 1 else 0) row.last (row.last - after)
      (after + taken) (column + taken)
  { first := after + taken
    last := row.last
    shift := place - (after + taken)
    indent := (reached - (column + taken) : Nat)
    base := column + if spaced then 1 else 0 }

/-- Replaces a row. -/
def withRow (line : Nat) (row : BlockRow) : BlockScope :=
  { scope with rows := scope.rows.setIfInBounds line row }

/-- The rows of a quote, from a further row on: what the container offers to the blocks in it, and the
row after the quote. A row without a mark may continue a paragraph unless the row before it is
empty. -/
def quoteRows (stop : Nat) : Nat → BlockScope → Bool → Nat → BlockScope × Nat
  | 0, inner, _, line => (inner, line)
  | fuel + 1, inner, lastEmpty, line =>
    let row := scope.row line
    if line ≥ stop || row.isEmpty then (inner, line)
    else if scope.text[row.start]? = some '>' && !scope.isOutdented line then
      let row := scope.unquoted line
      quoteRows stop fuel (inner.withRow line row) row.isEmpty (line + 1)
    else if lastEmpty then (inner, line)
    else if scope.endsQuote line then
      ({ inner.withRow line { row with indent := row.indent - scope.indent } with stop := line }, line)
    else quoteRows stop fuel (inner.withRow line { row with indent := -1 }) false (line + 1)

/-- Reads a quote. -/
def readQuote (read : BlockReader) (line stop : Nat) : Blocks :=
  let first := scope.unquoted line
  let (inner, last) := scope.quoteRows stop (stop - line) (scope.withRow line first) first.isEmpty
    (line + 1)
  (read { inner with indent := 0 } line last).around { kind := .blockQuote, markup := ">" } line

/-- Reads an item of a list. An item without text that an empty row follows ends there. -/
def readItem (read : BlockReader) (mark : ListMarker) (line stop : Nat) : Blocks :=
  let row := scope.row line
  let initial := row.indent.toNat + (mark.after - row.start)
  let (place, column) :=
    passGaps scope.text row.base row.last (row.last - mark.after) mark.after initial
  let isBare := place ≥ row.last
  let gap := if isBare || column - initial > 4 then 1 else column - initial
  let inner := scope.withRow line { row with shift := place - row.first, indent := column }
  let blocks :=
    if isBare && inner.isEmpty (line + 1) then { next := min (line + 2) stop }
    else read { inner with indent := initial + gap, outerIndent := some scope.indent } line stop
  blocks.around
    { kind := .listItem, info := String.ofList (mark.number.getD [])
      markup := String.singleton mark.marker } line

/-- The mark of another item of a list at a row. -/
def nextItem? (mark : ListMarker) (line stop : Nat) : Option ListMarker :=
  if line ≥ stop || scope.isOutdented line || scope.isCode line || scope.endsItem line then none
  else (scope.listMark? line).filter fun next =>
    next.marker = mark.marker && next.number.isSome = mark.number.isSome

/-- Reads the items of a list. -/
def readItems (read : BlockReader) (stop : Nat) : Nat → ListMarker → Nat → Blocks
  | 0, _, line => { next := line }
  | fuel + 1, mark, line =>
    let item := scope.readItem read mark line stop
    match scope.nextItem? mark item.next stop with
    | some next => item.followedBy (readItems read stop fuel next item.next)
    | none => item

/-- Reads a list. -/
def readList (read : BlockReader) (mark : ListMarker) (line stop : Nat) : Blocks :=
  let kind := if mark.number.isSome then .orderedList else .bulletList
  (scope.readItems read stop (stop - line) mark line).around
    { kind, markup := String.singleton mark.marker } line

/-- Reads the block that a row starts. `inQuote` and `inItem` read what is in quotes and items. -/
def readBlock (inQuote inItem : BlockReader) (line stop : Nat) : Blocks :=
  if let some table := scope.table? line stop then scope.readTable table line stop
  else if scope.isCode line then scope.readCodeBlock line stop
  else if let some fence := scope.fence? line then scope.readFence fence line stop
  else if scope.startsQuote line then scope.readQuote inQuote line stop
  else if let some (marker, count) := scope.rule? line then
    .single { kind := .rule, markup := String.ofList (List.replicate (count + 1) marker) } []
      line (line + 1)
  else if let some mark := scope.listMarker? line false then scope.readList inItem mark line stop
  else if let some definition := scope.definition? line then
    { targets := [(definition.label, definition.destination)], next := definition.next }
  else if let some rule := scope.html? line then scope.readHtmlBlock rule line stop
  else if let some level := scope.heading? line then scope.readHeading level line
  else if let some heading := scope.readUnderlined? line stop then heading
  else scope.readParagraph line

/-- Reads blocks from a row to before `stop`, one after the other. Without `readers`, the rest is left
out. -/
def readFrom (readers : Option (BlockReader × BlockReader)) (stop : Nat) : Nat → Nat → Blocks
  | 0, line => { next := line }
  | fuel + 1, line =>
    if line ≥ stop then { next := line }
    else
      let line := scope.skipEmpty line scope.stop
      if line ≥ stop || scope.isOutdented line then { next := line }
      else match readers with
        | none => { next := stop }
        | some (inQuote, inItem) =>
          let block := scope.readBlock inQuote inItem line stop
          let next := if block.next < stop && scope.isEmpty block.next then block.next + 1
            else block.next
          block.followedBy (readFrom readers stop fuel next)

end BlockScope

/-- Reads the blocks of a container, in which `depth` further levels may nest. A list takes two
levels. -/
def readBlocks : Nat → BlockReader
  | 0, scope, line, stop => scope.readFrom none stop (stop - line + 1) line
  | 1, scope, line, stop =>
    scope.readFrom (some (readBlocks 0, readBlocks 0)) stop (stop - line + 1) line
  | depth + 2, scope, line, stop =>
    scope.readFrom (some (readBlocks (depth + 1), readBlocks depth)) stop (stop - line + 1) line

mutual

/-- A tree in which the texts of blocks have been read. -/
def readTexts (targets : LinkTargets) : Tree → Tree
  | .node element children =>
    if element.kind = .inline then .node element (inlineTrees targets element.content)
    else .node element (readAllTexts targets children)

/-- The trees of a list in which the texts of blocks have been read. -/
def readAllTexts (targets : LinkTargets) : List Tree → List Tree
  | [] => []
  | tree :: rest => readTexts targets tree :: readAllTexts targets rest

end

/-- All line ends as line feeds, and U+FFFD in place of NUL. -/
def unifyLineEnds : List Char → List Char
  | [] => []
  | '\r' :: '\n' :: rest => '\n' :: unifyLineEnds rest
  | '\r' :: rest => '\n' :: unifyLineEnds rest
  | c :: rest => (if c.toNat = 0 then '\uFFFD' else c) :: unifyLineEnds rest

/-- The tree of a text. -/
def Tree.ofMarkdown (text : String) : Tree :=
  let scope := BlockScope.ofText (unifyLineEnds text.toList).toArray
  let blocks := readBlocks maxDepth scope 0 scope.stop
  .node { kind := .root } (readAllTexts blocks.targets blocks.trees)

end ProposalCheck.Markdown
