import ProposalCheck.Markdown.Block
import ProposalCheck.Source.Lines

/-!
# The body of a document

The body is a Markdown tree written down node by node, each before what is below it, so that a node is
known by its index. Nodes carry line numbers of the document, counted from 1. Where the text of a node
can be found as it is in its line, the node carries the bytes of that place, too: the text of a heading,
the destination of a link, a piece of text, or the whole of a block that is not read as text.

Pieces of text know no lines. A cursor goes with them from left to right: each break moves it to the
next line, each piece that is found moves it past that piece.

## Main definitions

* `Node`: an element of the tree with its place in the document
* `Body`: the nodes, with the line on which the body starts
* `Body.ofTree`: the nodes of a tree
* `Body.descendants`: a node and what is below it
-/

namespace ProposalCheck

/-- An element of a body with its place in the document. -/
structure Node where
  index : Nat
  parent : Option Nat
  children : List Nat
  /-- The first and the last line. -/
  lines : Option (Nat × Nat)
  span : Option Span
  kind : Markdown.Kind
  content : String
  info : String
  markup : String
  deriving DecidableEq, Repr

namespace Node

/-- The level of a heading. -/
def level? (node : Node) : Option Nat :=
  match node.kind with
  | .heading level => some level
  | _ => none

/-- The destination of a link or an image. -/
def destination? (node : Node) : Option String :=
  match node.kind with
  | .link destination | .image destination => some destination
  | _ => none

/-- Is the content of a node text that a reader sees? -/
def isReadable (node : Node) : Bool := node.kind = .text || node.kind = .code

end Node

/-- A place within the lines of a document: a line and a column counted from 0. -/
structure Cursor where
  line : Nat
  column : Nat := 0
  deriving DecidableEq, Repr

namespace Body

open Markdown

/-- The first place from `column` on where `needle` stands in `text`. -/
def findIn? (needle : List Char) (text : List Char) (column : Nat) : Option Nat :=
  match text with
  | [] => if needle.isEmpty && column = 0 then some 0 else none
  | c :: rest =>
    if column = 0 && (dropStart? needle (c :: rest)).isSome then some 0
    else (findIn? needle rest (column - 1)).map (· + 1)

/-- The bytes of `needle` in its line at or after a column, and the column after it. -/
def locate? (lines : Lines) (line column : Nat) (needle : String) : Option (Span × Nat) :=
  match lines.row line with
  | .error _ => none
  | .ok row =>
    let text := row.text.toList
    (findIn? needle.toList text column).map fun found =>
      let start := row.start + byteLength (text.take found)
      (⟨start, start + needle.utf8ByteSize⟩, found + needle.length)

mutual

/-- The nodes of a piece of text, of which the first has the given index. The cursor goes past it. -/
def placeInline (lines : Lines) (parent index : Nat) (cursor : Option Cursor) :
    Tree → List Node × Option Cursor
  | .node element children =>
    let (below, indices, span, after) : List Node × List Nat × Option Span × Option Cursor :=
      match element.kind with
      | .softBreak | .hardBreak =>
        ([], [], none, cursor.map fun place => ⟨place.line + 1, 0⟩)
      | .text | .code | .html =>
        match cursor with
        -- nothing is looked for behind a place that is not known
        | none => ([], [], none, none)
        | some place =>
          if element.content = "" then ([], [], none, cursor)
          else match locate? lines place.line place.column element.content with
            | some (span, column) => ([], [], some span, some { place with column })
            -- what is not found leaves the cursor where it is
            | none => ([], [], none, cursor)
      | kind =>
        let (below, indices, after) := placeInlines lines index (index + 1) cursor children
        match kind, cursor, after with
        -- the destination stands behind the text: on the line where the text ends, at or after the column where
        -- the link starts
        | .link destination, some before, some place | .image destination, some before, some place =>
          if destination = "" then (below, indices, none, after)
          else match locate? lines place.line before.column destination with
            | some (span, column) =>
              (below, indices, some span, some { place with column := max place.column column })
            | none => (below, indices, none, after)
        | _, _, _ => (below, indices, none, after)
    let node : Node :=
      { index
        parent := some parent
        children := indices
        lines := cursor.bind fun first => after.map fun last => (first.line, last.line)
        span
        kind := element.kind
        content := element.content
        info := ""
        markup := element.markup }
    (node :: below, after)

/-- The nodes of some pieces of text, with the indices of the pieces themselves. -/
def placeInlines (lines : Lines) (parent index : Nat) (cursor : Option Cursor) :
    List Tree → List Node × List Nat × Option Cursor
  | [] => ([], [], cursor)
  | tree :: rest =>
    let (nodes, cursor) := placeInline lines parent index cursor tree
    let (others, indices, cursor) :=
      placeInlines lines parent (index + nodes.length) cursor rest
    (nodes ++ others, index :: indices, cursor)

end

/-- The bytes of some lines, as far as there are such lines. -/
def blockSpan (lines : Lines) (first last : Nat) : Except PositionError Span := do
  let start ← lines.lineSpan first
  let stop ← lines.lineSpan (min last lines.count)
  return ⟨start.start, stop.stop⟩

/-- The text right below a heading. -/
def headingText : List Tree → String
  | [] => ""
  | inline :: _ => "".intercalate <| inline.children.map fun child =>
    if child.element.kind = .text || child.element.kind = .code then child.element.content else ""

/-- The bytes that a block stands for. -/
def spanOf (lines : Lines) (place : Option (Nat × Nat)) (kind : Kind) (children : List Tree) :
    Except PositionError (Option Span) :=
  match place, kind with
  | some (first, _), .heading _ =>
    let text := trim (headingText children)
    if text = "" then .ok none else .ok ((locate? lines first 0 text).map (·.1))
  | some (first, last), .fence | some (first, last), .codeBlock | some (first, last), .htmlBlock
  | some (first, last), .table => (blockSpan lines first last).map some
  | _, _ => .ok none

/-- The lines of a block in a document whose body starts after `offset` lines. -/
def documentLines (offset : Nat) (range : LineRange) : Nat × Nat :=
  (range.first + offset + 1, max (range.first + 1) range.stop + offset)

mutual

/-- The nodes of a block, of which the first has the given index. A block without lines of its own has
those of the block around it. -/
def placeBlock (lines : Lines) (offset : Nat) (parent : Option Nat) (index : Nat)
    (inherited : Option (Nat × Nat)) : Tree → Except PositionError (List Node)
  | .node element children => do
    let place :=
      if element.kind = .root then none
      else ((element.lines.map (documentLines offset)).or inherited)
    let (below, indices) ←
      if element.kind = .inline then
        -- the text of a block starts on the first line of the block
        let cursor := place.map fun (first, _) => ({ line := first } : Cursor)
        let (below, indices, _) := placeInlines lines index (index + 1) cursor children
        pure (below, indices)
      else placeBlocks lines offset index (index + 1) place children
    let span ← spanOf lines place element.kind children
    return {
      index
      parent
      children := indices
      lines := place
      span
      kind := element.kind
      content := element.content
      info := element.info
      markup := element.markup : Node } :: below

/-- The nodes of some blocks, with the indices of the blocks themselves. -/
def placeBlocks (lines : Lines) (offset parent index : Nat) (inherited : Option (Nat × Nat)) :
    List Tree → Except PositionError (List Node × List Nat)
  | [] => .ok ([], [])
  | tree :: rest => do
    let nodes ← placeBlock lines offset (some parent) index inherited tree
    let (others, indices) ←
      placeBlocks lines offset parent (index + nodes.length) inherited rest
    return (nodes ++ others, index :: indices)

end

end Body

/-- The nodes of a body and the line on which it starts. -/
structure Body where
  nodes : Array Node
  firstLine : Nat

namespace Body

/-- The nodes of a tree whose first line is line `firstLine` of a document. -/
def ofTree (lines : Lines) (firstLine : Nat) (tree : Markdown.Tree) : Except PositionError Body := do
  let nodes ← placeBlock lines (firstLine - 1) none 0 none tree
  return ⟨nodes.toArray, firstLine⟩

/-- The text of a document from a line on, with plain line ends. -/
def textFrom (lines : Lines) (firstLine : Nat) : String :=
  "\n".intercalate ((lines.rows.toList.drop (firstLine - 1)).map Row.text)

/-- Reads what follows the preamble. -/
def parse (lines : Lines) (firstLine : Nat) : Except PositionError Body :=
  ofTree lines firstLine (Markdown.Tree.ofMarkdown (textFrom lines firstLine))

variable (body : Body)

/-- Visits the nodes of a stack and what is below them. -/
def visit : Nat → List Nat → List Node
  | 0, _ => []
  | _, [] => []
  | fuel + 1, index :: rest =>
    match body.nodes[index]? with
    | some node => node :: visit fuel (node.children ++ rest)
    | none => visit fuel rest

/-- A node and what is below it, each before what is below it. -/
def descendants (index : Nat) : List Node := body.visit body.nodes.size [index]

/-- All nodes. -/
def all : List Node := body.descendants 0

/-- The headings, those of one level if it is given. -/
def headings (level : Option Nat) : List Node :=
  body.all.filter fun node => match node.level? with
    | some found => level.isNone || level = some found
    | none => false

/-- The fenced blocks. -/
def fences : List Node := body.all.filter (·.kind = .fence)

/-- Is a node a link? -/
def isLink (node : Node) : Bool := match node.kind with
  | .link _ => true
  | _ => false

/-- Is a node an image? -/
def isImage (node : Node) : Bool := match node.kind with
  | .image _ => true
  | _ => false

/-- The links. -/
def links : List Node := body.all.filter isLink

/-- The images. -/
def images : List Node := body.all.filter isImage

/-- The text and code below a node. -/
def textOf (node : Node) : String :=
  "".intercalate (((body.descendants node.index).filter fun other =>
    other.isReadable && other.index ≠ node.index).map (·.content))

/-- Does a line belong to a block of code? -/
def isCodeLine (line : Nat) : Bool :=
  body.all.any fun node => match node.kind, node.lines with
    | .fence, some (first, last) | .codeBlock, some (first, last) => first ≤ line && line ≤ last
    | _, _ => false

/-- The lines that belong to blocks of code, in ascending order. -/
def codeLines : List Nat :=
  let spans := body.all.filterMap fun node => match node.kind with
    | .fence | .codeBlock => node.lines
    | _ => none
  let last := (spans.map (·.2)).foldl max 0
  (List.range (last + 1)).filter fun line => spans.any fun (first, last) => first ≤ line && line ≤ last

end Body

end ProposalCheck
