import ProposalCheck.Source.Lines
import ProposalCheck.Text.Blank

/-!
# The preamble of a document

A document opens with a line `---`, then one field `name:value` to a line, then a second line `---`.
Fields are kept exactly as written, blanks and repeated names included; a lookup by name finds the
first field of that name.

## Main definitions

* `Field`: one line of the preamble
* `Field.valueRange`, `Field.items`: where the value, or each item of a list, stands in the line
* `Preamble.parse`: the fields at the top of a text and the number of the closing line
* `DocumentError`: why a text is not a document
-/

namespace ProposalCheck

/-- What is wrong with the structure of a document. -/
inductive DocumentProblem where
  /-- The first line is not `---`. -/
  | missingOpening
  /-- No later line is `---`. -/
  | missingClosing
  /-- A line of the preamble has no colon. -/
  | missingColon (line : Nat)
  /-- There is nothing but blanks before the colon. -/
  | emptyName (line : Nat)
  /-- The bytes are not text. -/
  | encoding (error : Utf8Error)
  deriving DecidableEq, Repr

/-- The wording of a problem. -/
def DocumentProblem.message : DocumentProblem → String
  | .missingOpening => "missing initial `---` of preamble"
  | .missingClosing => "missing closing `---` of preamble"
  | .missingColon line => s!"line {line}: preamble line is missing a colon"
  | .emptyName line => s!"line {line}: preamble header has an empty name"
  | .encoding error => s!"document is not valid UTF-8 ({error.reason})"

/-- A problem with the structure of a document, and where the document came from. -/
structure DocumentError where
  problem : DocumentProblem
  origin : Option String
  deriving DecidableEq, Repr

/-- The wording of an error, after the origin if that is known and not empty. -/
def DocumentError.message (e : DocumentError) : String :=
  match e.origin with
  | none => e.problem.message
  | some origin => if origin = "" then e.problem.message else origin ++ ": " ++ e.problem.message

/-- One line of a preamble: name and value are what stands before and after its first colon. -/
structure Field where
  name : String
  value : String
  line : Nat
  span : Span
  source : String
  deriving DecidableEq, Repr

namespace Field

/-- The value without the blanks around it. -/
def trimmed (field : Field) : String := trim field.value

/-- The byte of the line at which the value starts. -/
def valueOffset (field : Field) : Nat := field.name.utf8ByteSize + 1

/-- The bytes of the line that hold the name. -/
def nameRange (field : Field) : Span := ⟨0, field.name.utf8ByteSize⟩

/-- The bytes that the trimmed form of `text` takes in a line in which `text` starts at `offset`. -/
def trimmedRange (offset : Nat) (text : String) : Span :=
  let start := offset + (leadingBlanks text).utf8ByteSize
  ⟨start, start + (trim text).utf8ByteSize⟩

/-- The bytes of the line that hold the trimmed value. -/
def valueRange (field : Field) : Span := trimmedRange field.valueOffset field.value

/-- Trimmed texts of parts that follow each other with `gap` bytes between them, the first at
`offset`, each with its bytes. -/
def placeItems (gap : Nat) : Nat → List String → List (String × Span)
  | _, [] => []
  | offset, part :: rest =>
    (trim part, trimmedRange offset part) :: placeItems gap (offset + part.utf8ByteSize + gap) rest

/-- The parts of the value between separators, trimmed, each with the bytes that it takes. -/
def items (field : Field) (separator : String) : List (String × Span) :=
  placeItems separator.utf8ByteSize field.valueOffset (splitAt separator field.value)

end Field

/-- The fields of a document in the order in which they are written. -/
structure Preamble where
  fields : List Field
  deriving DecidableEq, Repr

namespace Preamble

/-- The line that opens and closes a preamble. -/
def delimiter : String := "---"

/-- The first field with this name. -/
def find? (preamble : Preamble) (name : String) : Option Field :=
  preamble.fields.find? (·.name = name)

/-- All fields with this name. -/
def findAll (preamble : Preamble) (name : String) : List Field :=
  preamble.fields.filter (·.name = name)

/-- The field at an index; negative indexes count from the end. -/
def fieldAt (preamble : Preamble) (index : Int) : Except PositionError Field :=
  let index := if index < 0 then index + preamble.fields.length else index
  if index < 0 then .error .indexOutOfRange
  else match preamble.fields[index.toNat]? with
    | some field => .ok field
    | none => .error .indexOutOfRange

/-- Is a line a delimiter, perhaps followed by blanks? -/
def isDelimiter (row : Row) : Bool := trimEnd row.text = delimiter

/-- Reads the line with number `line` as a field. -/
def parseField (line : Nat) (row : Row) : Except DocumentProblem Field :=
  let text := row.text.toList
  let name := text.takeWhile (· ≠ ':')
  match text.dropWhile (· ≠ ':') with
  | [] => .error (.missingColon line)
  | _ :: value =>
    if name.all isBlank then .error (.emptyName line)
    else .ok ⟨String.ofList name, String.ofList value, line, row.span, row.text⟩

/-- Reads rows as fields; the first has number `line`. -/
def parseFields : Nat → List Row → Except DocumentProblem (List Field)
  | _, [] => .ok []
  | line, row :: rest => do
    let field ← parseField line row
    let fields ← parseFields (line + 1) rest
    return field :: fields

/-- Reads the preamble at the top of a text. The number of its closing line comes with it. -/
def parse (lines : Lines) : Except DocumentProblem (Preamble × Nat) :=
  match lines.rows.toList with
  | [] => .error .missingOpening
  | first :: rest =>
    if !isDelimiter first then .error .missingOpening
    else
      let body := rest.takeWhile fun row => !isDelimiter row
      if body.length = rest.length then .error .missingClosing
      else (parseFields 2 body).map fun fields => (⟨fields⟩, body.length + 2)

end Preamble

end ProposalCheck
