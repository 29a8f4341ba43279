/-!
# Markdown trees

A Markdown text is a tree: blocks such as headings and lists, in them inline blocks, and in these the
pieces of text. Blocks know the lines they cover, counted from 0 within the text. Pieces of text do
not; where they stand is for the reader of the tree to find out.

## Main definitions

* `Markdown.Kind`: the kinds of nodes
* `Markdown.Tree`: the trees
-/

namespace ProposalCheck.Markdown

/-- The kinds of nodes. Links and images carry their destination. -/
inductive Kind where
  | root
  | paragraph
  | heading (level : Nat)
  | blockQuote
  | bulletList
  | orderedList
  | listItem
  | codeBlock
  | fence
  | htmlBlock
  | rule
  | table
  | tableHead
  | tableBody
  | tableRow
  | headerCell
  | cell
  | inline
  | text
  | escapedText
  | softBreak
  | hardBreak
  | code
  | html
  | emphasis
  | strong
  | link (destination : String)
  | image (destination : String)
  deriving DecidableEq, Repr

/-- The name of a kind. -/
def Kind.name : Kind → String
  | .root => "root"
  | .paragraph => "paragraph"
  | .heading _ => "heading"
  | .blockQuote => "blockquote"
  | .bulletList => "bullet_list"
  | .orderedList => "ordered_list"
  | .listItem => "list_item"
  | .codeBlock => "code_block"
  | .fence => "fence"
  | .htmlBlock => "html_block"
  | .rule => "hr"
  | .table => "table"
  | .tableHead => "thead"
  | .tableBody => "tbody"
  | .tableRow => "tr"
  | .headerCell => "th"
  | .cell => "td"
  | .inline => "inline"
  | .text => "text"
  | .escapedText => "text_special"
  | .softBreak => "softbreak"
  | .hardBreak => "hardbreak"
  | .code => "code_inline"
  | .html => "html_inline"
  | .emphasis => "em"
  | .strong => "strong"
  | .link _ => "link"
  | .image _ => "image"

/-- The lines of a block: the first one and the one after the last. -/
structure LineRange where
  first : Nat
  stop : Nat
  deriving DecidableEq, Repr

/-- What a node holds apart from its children: its text, what is written beside a fence or before a
list item, and the characters that mark it. -/
structure Element where
  kind : Kind
  lines : Option LineRange := none
  content : String := ""
  info : String := ""
  markup : String := ""
  deriving DecidableEq, Repr

/-- A tree of elements. -/
inductive Tree where
  | node (element : Element) (children : List Tree)
  deriving Repr

namespace Tree

/-- The element at the root of a tree. -/
def element : Tree → Element
  | .node element _ => element

/-- The trees below the root. -/
def children : Tree → List Tree
  | .node _ children => children

/-- A tree without children. -/
def leaf (element : Element) : Tree := .node element []

end Tree

end ProposalCheck.Markdown
