import ProposalCheck.Fetch.Source
import ProposalCheck.Reference.Path
import ProposalCheck.Text.Utf8

/-!
# Documents in a folder

A folder holds files by their paths. A path is followed name by name: every name but the last must be
that of a folder, and `..` leads back to the folder around it. Texts are read from bytes, and every
line end becomes a line feed.

## Main definitions

* `Folder.read`: the bytes at a path, or why there are none
* `Folder.text`: the text at a path, or why there is none
* `unifyLineEnds`: a text with a line feed at every line end
* `Folder.source`: the files below some root as a source
-/

namespace ProposalCheck

/-- Files by the names on the way to them. -/
structure Folder where
  files : List (List String × List UInt8) := []
  deriving DecidableEq, Repr

/-- Why there is nothing to read at a path. -/
inductive FileProblem where
  | missing
  | isFolder
  | notFolder
  | nameTooLong
  deriving DecidableEq, Repr

namespace FileProblem

/-- The wording of a problem. -/
def message : FileProblem → String
  | .missing => "No such file or directory"
  | .isFolder => "Is a directory"
  | .notFolder => "Not a directory"
  | .nameTooLong => "File name too long"

end FileProblem

/-- A text with a line feed at every line end. -/
def unifyLineEndsChars : List Char → List Char
  | '\r' :: '\n' :: rest => '\n' :: unifyLineEndsChars rest
  | '\r' :: rest => '\n' :: unifyLineEndsChars rest
  | c :: rest => c :: unifyLineEndsChars rest
  | [] => []

/-- A text with a line feed at every line end. -/
def unifyLineEnds (text : String) : String := String.ofList (unifyLineEndsChars text.toList)

/-- Why there is no text at a path. -/
inductive TextProblem where
  | file (problem : FileProblem)
  /-- The bytes are those of no text. -/
  | notUtf8
  deriving DecidableEq, Repr

/-- The text of a file, with a line feed at every line end. -/
def TextProblem.decode (bytes : List UInt8) : Except TextProblem String :=
  match decodeUtf8 bytes with
  | .ok text => .ok (unifyLineEnds text)
  | .error _ => .error .notUtf8

/-- The text of a file as what a source says. -/
def TextProblem.response : Except TextProblem String → Response
  | .ok text => .text text
  | .error (.file .missing) => .refused "file not found"
  | .error (.file problem) => .broken (some problem.message) problem.message
  | .error .notUtf8 => .refused "file is not valid UTF-8"

namespace Folder

/-- The names of a path that lead anywhere. -/
def names (path : String) : List String :=
  ((splitWhere (· = '/') path.toList).map String.ofList).filter fun name => name ≠ "" ∧ name ≠ "."

/-- The file at a place. -/
def fileAt? (folder : Folder) (place : List String) : Option (List UInt8) := folder.files.lookup place

/-- Is a place the folder itself or around it? -/
def isAround (place : List String) : Bool := place.all (· = "..")

/-- Is there a folder at a place? -/
def hasFolder (folder : Folder) (place : List String) : Bool :=
  isAround place || folder.files.any fun (names, _) => place.isPrefixOf names && names != place

/-- The place that names lead to. The start is at the root. -/
def follow (folder : Folder) (place : List String) : List String → Except FileProblem (List String)
  | [] => .ok place
  | name :: rest =>
    if !folder.hasFolder place then
      .error (if (folder.fileAt? place).isSome then .notFolder else .missing)
    else if name = ".." ∧ !isAround place then folder.follow place.dropLast rest
    else if 255 < name.utf8ByteSize then .error .nameTooLong
    else folder.follow (place ++ [name]) rest

/-- The bytes at a path, or why there are none. -/
def read (folder : Folder) (path : String) : Except FileProblem (List UInt8) := do
  let place ← folder.follow [] (names path)
  match folder.fileAt? place with
  | some bytes => return bytes
  | none => throw (if folder.hasFolder place then .isFolder else .missing)

/-- A folder with some files. -/
def ofList (files : List (String × List UInt8)) : Folder :=
  ⟨(files.map fun (path, bytes) => (names path, bytes)).reverse⟩

/-- The text at a path. Nothing outside of the folder is known. -/
def text (folder : Folder) (path : String) : Except TextProblem String :=
  if path.toList.head? = some '/' then .error (.file .missing)
  else match folder.read path with
    | .error problem => .error (.file problem)
    | .ok bytes => TextProblem.decode bytes

/-- The text at a path below `root`. -/
def response (folder : Folder) (root path : String) : Response :=
  TextProblem.response (folder.text (Path.join root path))

/-- The files below `root` as a source. -/
def source (folder : Folder) (root : String := "") : Source := folder.response root

end Folder

end ProposalCheck
