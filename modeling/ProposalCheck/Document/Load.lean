import ProposalCheck.Document.Body
import ProposalCheck.Document.Preamble

/-!
# Documents

A document is a text with a preamble and a body. It remembers where it came from and the text itself,
in which all positions are bytes.

## Main definitions

* `Document`: a text taken apart
* `Document.ofString`, `Document.ofBytes`: reading a document
* `LoadError`: why a text is no document, or why its body has no place in it
-/

namespace ProposalCheck

/-- A text taken apart. -/
structure Document where
  origin : Option String
  lines : Lines
  preamble : Preamble
  body : Body

/-- Why a document cannot be read. Line ends of the body that the document does not count may leave
its last blocks without lines. -/
inductive LoadError where
  | structure (error : DocumentError)
  | position (error : PositionError)
  deriving DecidableEq, Repr

namespace LoadError

/-- The wording of an error. -/
def message : LoadError → String
  | .structure error => error.message
  | .position error => error.message

end LoadError

namespace Document

/-- The text of a document. -/
def source (document : Document) : String := document.lines.source

/-- The text of the body, with its line ends. -/
def bodySource (document : Document) : String :=
  String.ofList <| "\n".toList.intercalate <|
    (document.lines.rows.toList.drop (document.body.firstLine - 1)).map (·.chars)

/-- Reads a document from its text. -/
def ofString (text : String) (origin : Option String) : Except LoadError Document := do
  let lines := Lines.ofString text
  match Preamble.parse lines with
  | .error problem => throw (.structure ⟨problem, origin⟩)
  | .ok (preamble, closing) =>
    match Body.parse lines (closing + 1) with
    | .error error => throw (.position error)
    | .ok body => return ⟨origin, lines, preamble, body⟩

/-- Reads a document from its bytes. -/
def ofBytes (bytes : List UInt8) (origin : Option String) : Except LoadError Document :=
  match decodeUtf8 bytes with
  | .ok text => ofString text origin
  | .error error => .error (.structure ⟨.encoding error, origin⟩)

end Document

end ProposalCheck
