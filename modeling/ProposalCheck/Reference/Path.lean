import ProposalCheck.Text.Blank
import ProposalCheck.Text.CodeTable

/-!
# Logical paths

Documents refer to each other by paths of names between slashes. A path is brought to a normal form
by dropping empty names and `.` and by letting `..` take back the name before it. At the root there
is nothing to take back; above the start of a relative path `..` stays. Exactly two slashes at the
front of a path are kept apart from one or from more.

## Main definitions

* `Path.normalize`: the normal form of a path
* `Path.directory`: a path without its last name
* `Path.join`: a path below a directory
* `resolveSibling`: a path relative to the directory of a document
-/

namespace ProposalCheck

namespace Path

/-- The names of a path, empty ones included. -/
def names (path : List Char) : List (List Char) := splitWhere (· = '/') path

/-- The number of slashes that a normal form keeps in front. -/
def rootSlashes (path : List Char) : Nat :=
  match (path.takeWhile (· = '/')).length with
  | 0 => 0
  | 2 => 2
  | _ => 1

/-- Adds a name to the names of a normal form, which are held in reverse. -/
def addName (rooted : Bool) (kept : List (List Char)) (name : List Char) : List (List Char) :=
  if name = [] ∨ name = ['.'] then kept
  else if name = ['.', '.'] then
    match kept with
    | [] => if rooted then [] else [name]
    | last :: rest => if last = ['.', '.'] then name :: kept else rest
  else name :: kept

/-- Names with slashes between them. -/
def joinNames : List (List Char) → List Char
  | [] => []
  | [name] => name
  | name :: rest => name ++ '/' :: joinNames rest

/-- The normal form of the characters of a path. -/
def normalizeChars (path : List Char) : List Char :=
  let slashes := rootSlashes path
  let kept := ((names path).foldl (addName (slashes != 0)) []).reverse
  let normal := List.replicate slashes '/' ++ joinNames kept
  if normal = [] then ['.'] else normal

/-- The normal form of a path; that of the empty path is `.`. -/
def normalize (path : String) : String := String.ofList (normalizeChars path.toList)

/-- What precedes the last name of a path, without slashes at its end unless there is nothing
else. -/
def directoryChars (path : List Char) : List Char :=
  let head := (path.reverse.dropWhile (· ≠ '/')).reverse
  if head.all (· = '/') then head else (head.reverse.dropWhile (· = '/')).reverse

/-- A path without its last name. -/
def directory (path : String) : String := String.ofList (directoryChars path.toList)

/-- The last name of a path, which is empty if the path ends with a slash. -/
def lastName (path : String) : String :=
  String.ofList (path.toList.reverse.takeWhile (· ≠ '/')).reverse

/-- `path` below `base`; a rooted path stands for itself. -/
def joinChars (base path : List Char) : List Char :=
  if path.head? = some '/' then path
  else if base = [] ∨ base.getLast? = some '/' then base ++ path
  else base ++ '/' :: path

/-- `path` below `base`; a rooted path stands for itself. -/
def join (base path : String) : String := String.ofList (joinChars base.toList path.toList)

end Path

/-- The logical path of `name` in the directory of the document `origin`. -/
def resolveSibling (origin : Option String) (name : String) : String :=
  match origin with
  | none => Path.normalize name
  | some origin =>
    if origin = "" then Path.normalize name
    else Path.normalize (Path.join (Path.directory origin) name)

end ProposalCheck
