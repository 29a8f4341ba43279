import ProposalCheck.Text.Blank

/-!
# Files with variables

A file with variables has a name, an equals sign and a value on every line. Values may stand in quotes,
comments start with `#`, and lines that cannot be read are passed over. A value may take up the values
of other variables.

## Main definitions

* `EnvironmentFile.resolved`: the lines of a file with their names and values
* `EnvironmentFile.resolved`: the variables of a file after all values have been taken up
-/

namespace ProposalCheck.EnvironmentFile

/-- Does a character end a line? -/
def isLineEnd (c : Char) : Bool := c = '\n' || c = '\r'

/-- Is a character blank, but no line end? -/
def isInlineBlank (c : Char) : Bool := isBlank c && !isLineEnd c

/-- Passes blanks within a line. -/
def skipBlanks (text : List Char) : List Char := text.dropWhile isInlineBlank

/-- What follows the line. -/
def afterLine (text : List Char) : List Char :=
  match text.dropWhile (!isLineEnd ·) with
  | '\r' :: '\n' :: rest => rest
  | _ :: rest => rest
  | [] => []

/-- Passes the word `export` in front of a name. -/
def skipExport (text : List Char) : List Char :=
  match dropStart? "export".toList text with
  | some rest => if (rest.head?.map isInlineBlank).getD false then skipBlanks rest else text
  | none => text

/-- Reads up to the quote that ends a text in quotes. A quote after a backslash ends the text only if no
other quote follows; what was read up to the last such quote is kept in `fallback`. -/
def scanQuoted (quote : Char) (fallback : Option (List Char × List Char)) (read : List Char) :
    List Char → Option (List Char × List Char)
  | [] => fallback
  | '\\' :: c :: rest =>
    if c = quote then scanQuoted quote (some (('\\' :: read).reverse, rest)) (c :: '\\' :: read) rest
    else scanQuoted quote fallback ('\\' :: read) (c :: rest)
  | c :: rest => if c = quote then some (read.reverse, rest) else scanQuoted quote fallback (c :: read) rest
termination_by text => text.length

/-- The character that a letter after a backslash stands for. -/
def escaped? (quote : Char) (c : Char) : Option Char :=
  if c = '\\' ∨ c = '\'' then some c
  else if quote = '\'' then none
  else [('"', '"'), ('a', '\x07'), ('b', '\x08'), ('f', '\x0c'), ('n', '\n'), ('r', '\r'), ('t', '\t'),
    ('v', '\x0b')].lookup c

/-- Replaces what follows backslashes by what it stands for. -/
def unescape (quote : Char) : List Char → List Char
  | '\\' :: c :: rest => match escaped? quote c with
    | some meant => meant :: unescape quote rest
    | none => '\\' :: unescape quote (c :: rest)
  | c :: rest => c :: unescape quote rest
  | [] => []
termination_by text => text.length

/-- Cuts off a comment, which starts with `#` after a blank. -/
def dropComment (before : Char) : List Char → List Char
  | [] => []
  | c :: rest => if c = '#' ∧ isBlank before then [] else c :: dropComment c rest

/-- Reads a value, and what follows it. -/
def scanValue (text : List Char) : Option (List Char × List Char) :=
  match text with
  | [] => some ([], [])
  | c :: rest =>
    if c = '\'' ∨ c = '"' then
      (scanQuoted c none [] rest).map fun (value, rest) => (unescape c value, rest)
    else
      let line := text.takeWhile (!isLineEnd ·)
      some (trimEndChars (dropComment 'x' line), text.drop line.length)

/-- Reads a name, and what follows it. There is none on a line with nothing but a comment. -/
def scanName (text : List Char) : Option (Option (List Char) × List Char) :=
  match text with
  | '#' :: _ => some (none, text)
  | '\'' :: rest =>
    let name := rest.takeWhile (· ≠ '\'')
    if name = [] ∨ name.length = rest.length then none
    else some (some name, rest.drop (name.length + 1))
  | _ =>
    let name := text.takeWhile fun c => c ≠ '=' && c ≠ '#' && !isBlank c
    if name = [] then none else some (some name, text.drop name.length)

/-- Passes a comment, and then the end of the line. -/
def scanLineEnd (text : List Char) : Option (List Char) :=
  let text := match skipBlanks text with
    | '#' :: rest => rest.dropWhile (!isLineEnd ·)
    | _ => text
  match skipBlanks text with
  | [] => some []
  | c :: rest => if isLineEnd c then some (afterLine (c :: rest)) else none

/-- What one line says: a name and perhaps a value. -/
abbrev Assignment := String × Option String

/-- Reads a line, and what follows it. -/
def scanLine (text : List Char) : Option Assignment × List Char :=
  match scanName (skipExport text) with
  | none => (none, afterLine (skipExport text))
  | some (name, rest) =>
    let rest := skipBlanks rest
    let value : Option (Option (List Char) × List Char) := match rest with
      | '=' :: rest => (scanValue (skipBlanks rest)).map fun (value, rest) => (some value, rest)
      | _ => some (none, rest)
    match value with
    | none => (none, afterLine rest)
    | some (value, rest) => match scanLineEnd rest with
      | none => (none, afterLine rest)
      | some rest => (name.map fun name => (String.ofList name, value.map String.ofList), rest)

/-- Reads lines. The first argument bounds their number. -/
def scanLines : Nat → List Char → List Assignment
  | 0, _ => []
  | fuel + 1, text => match trimStartChars text with
    | [] => []
    | text =>
      let (assignment, rest) := scanLine text
      assignment.toList ++ scanLines fuel rest

/-- The lines of a file with their names and values. -/
def assignments (text : String) : List Assignment := scanLines (text.length + 1) text.toList

/-- Reads the name of a variable and its default after `$` and an opening brace. -/
def scanVariable (text : List Char) : Option (List Char × List Char × List Char) :=
  let name := text.takeWhile fun c => c ≠ '\x7d' && c ≠ ':'
  match text.drop name.length with
  | '\x7d' :: rest => some (name, [], rest)
  | ':' :: '-' :: rest =>
    let fallback := rest.takeWhile (· ≠ '\x7d')
    if fallback.length = rest.length then none
    else some (name, fallback, rest.drop (fallback.length + 1))
  | _ => none

/-- Takes up the values of other variables. The first argument bounds the number of characters. -/
def expand (valueOf : String → Option String) : Nat → List Char → List Char
  | 0, _ => []
  | _, [] => []
  | fuel + 1, '$' :: '\x7b' :: rest => match scanVariable rest with
    | some (name, fallback, rest) =>
      ((valueOf (String.ofList name)).elim fallback String.toList) ++ expand valueOf fuel rest
    | none => '$' :: expand valueOf fuel ('\x7b' :: rest)
  | fuel + 1, c :: rest => c :: expand valueOf fuel rest

/-- The variables of a file, the last one first. A value takes up variables of earlier lines and of
`outside`. -/
def resolved (outside : List (String × String)) (text : String) : List Assignment :=
  (assignments text).foldl (fun known (name, value) =>
    let valueOf (name : String) : Option String := match known.lookup name with
      | some value => some (value.getD "")
      | none => outside.lookup name
    (name, value.map fun value =>
      String.ofList (expand valueOf (value.length + 1) value.toList)) :: known) []

end ProposalCheck.EnvironmentFile
