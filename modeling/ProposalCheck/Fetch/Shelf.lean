import ProposalCheck.Fetch.Source
import ProposalCheck.Reference.Path

/-!
# Documents in memory

A shelf holds texts by their paths. Two spellings of one path name the same text.

## Main definitions

* `Shelf.add`, `Shelf.find?`: putting a text on the shelf and looking for it
* `Shelf.source`: the shelf as a source
-/

namespace ProposalCheck

/-- Texts by the normal forms of their paths, the last one first. -/
structure Shelf where
  texts : List (String × String) := []
  deriving DecidableEq, Repr

namespace Shelf

/-- Puts a text on the shelf in place of one that is there. -/
def add (shelf : Shelf) (path text : String) : Shelf :=
  ⟨(Path.normalize path, text) :: shelf.texts⟩

/-- A shelf with some texts. -/
def ofList (documents : List (String × String)) : Shelf :=
  documents.foldl (fun shelf (path, text) => shelf.add path text) {}

/-- The text at a path. -/
def find? (shelf : Shelf) (path : String) : Option String :=
  shelf.texts.lookup (Path.normalize path)

/-- A shelf as a source. -/
def source (shelf : Shelf) : Source := fun path =>
  match shelf.find? path with
  | some text => .text text
  | none => .refused "not found"

end Shelf

end ProposalCheck
