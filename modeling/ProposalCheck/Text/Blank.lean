/-!
# Blank characters and trimming

The blank characters are those that Unicode treats as spaces or as separators of lines and
paragraphs. Values are trimmed of them on both sides.

## Main definitions

* `isBlank`: a space, a tab, a line end or another separator
* `trimStart`, `trimEnd`, `trim`: a text without the blanks at its ends
* `splitAt`: the parts of a text between occurrences of a separator
* `words`: the nonempty parts of a text between blanks
-/

namespace ProposalCheck

/-- A space, a tab, a line end, a separator control or another Unicode space. -/
def isBlank (c : Char) : Bool :=
  let n := c.toNat
  (9 ≤ n && n ≤ 13) || (28 ≤ n && n ≤ 32) || n == 0x85 || n == 0xA0 || n == 0x1680
    || (0x2000 ≤ n && n ≤ 0x200A) || n == 0x2028 || n == 0x2029 || n == 0x202F || n == 0x205F
    || n == 0x3000

/-- Drops the blanks in front. -/
def trimStartChars (cs : List Char) : List Char := cs.dropWhile isBlank

/-- Drops the blanks behind. -/
def trimEndChars (cs : List Char) : List Char := (cs.reverse.dropWhile isBlank).reverse

/-- Drops the blanks on both sides. -/
def trimChars (cs : List Char) : List Char := trimEndChars (trimStartChars cs)

/-- A text without the blanks in front. -/
def trimStart (s : String) : String := String.ofList (trimStartChars s.toList)

/-- A text without the blanks behind. -/
def trimEnd (s : String) : String := String.ofList (trimEndChars s.toList)

/-- A text without the blanks on both sides. -/
def trim (s : String) : String := String.ofList (trimChars s.toList)

/-- The blanks in front of a text. -/
def leadingBlanks (s : String) : String := String.ofList (s.toList.takeWhile isBlank)

/-- The blanks behind a text. -/
def trailingBlanks (s : String) : String :=
  String.ofList (s.toList.reverse.takeWhile isBlank).reverse

/-- Is there nothing but blanks in a text? -/
def isBlankText (s : String) : Bool := s.toList.all isBlank

/-- Drops `start` from the front of `cs`, if it is there. -/
def dropStart? (start : List Char) (cs : List Char) : Option (List Char) :=
  match start, cs with
  | [], rest => some rest
  | _ :: _, [] => none
  | a :: start, b :: rest => if a = b then dropStart? start rest else none

/-- The parts of `cs` between occurrences of `separator`, taken from left to right. The first
argument counts how many characters of an occurrence are still to be skipped. -/
def splitOnChars (separator : List Char) : Nat → List Char → List (List Char)
  | _, [] => [[]]
  | skip + 1, _ :: rest => splitOnChars separator skip rest
  | 0, c :: rest =>
    match dropStart? separator (c :: rest) with
    | some _ => [] :: splitOnChars separator (separator.length - 1) rest
    | none => match splitOnChars separator 0 rest with
      | [] => [[c]]
      | first :: others => (c :: first) :: others

/-- The parts of a text between occurrences of a nonempty separator; there is always one. -/
def splitAt (separator : String) (s : String) : List String :=
  (splitOnChars separator.toList 0 s.toList).map String.ofList

/-- The nonempty parts of `cs` between blanks. -/
def wordsOfChars (cs : List Char) : List (List Char) :=
  let step := fun (c : Char) (state : List Char × List (List Char)) =>
    if isBlank c then ([], if state.1 = [] then state.2 else state.1 :: state.2)
    else (c :: state.1, state.2)
  let (first, others) := cs.foldr step ([], [])
  if first = [] then others else first :: others

/-- The nonempty parts of a text between blanks. -/
def words (s : String) : List String := (wordsOfChars s.toList).map String.ofList

/-- The pieces of a text joined by a separator. -/
def joinWith (separator : String) : List String → String
  | [] => ""
  | [piece] => piece
  | piece :: rest => piece ++ separator ++ joinWith separator rest

end ProposalCheck
