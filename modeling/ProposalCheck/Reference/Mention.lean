import ProposalCheck.Text.Blank
import ProposalCheck.Text.Case
import ProposalCheck.Text.Word

/-!
# Mentions of proposals

A proposal is mentioned by a word and its number, with any number of blanks, underscores and hyphens
in between: `EIP-20`, `eip 20`, `Eip20`. The word is what a file prefix such as `eips/eip-` names. The
proposal itself is linked to as prefix, number and suffix.

## Main definitions

* `referenceWord`: the word of a file prefix
* `mentions`: the mentions in a text
* `canonicalReference`: how a mention should be written
* `linkedNumber?`: the number of the proposal that a destination names
-/

namespace ProposalCheck

/-- Is a character a letter of the Latin alphabet or a digit from 0 to 9? -/
def isLatinOrDigit (c : Char) : Bool := c.isAlphanum

/-- The word of a file prefix: what follows its last slash, without marks at the end. -/
def referenceWord (filePrefix : String) : List Char :=
  let last := (filePrefix.toList.reverse.takeWhile (· ≠ '/'))
  (last.dropWhile (!isLatinOrDigit ·)).reverse

/-- The number that digits from 0 to 9 denote. -/
def numberOf (digits : List Char) : Nat := (decimalNat? digits).getD 0

/-- How a mention of a proposal should be written. -/
def canonicalReference (filePrefix : String) (number : Nat) : String :=
  upperCase (String.ofList (referenceWord filePrefix)) ++ "-" ++ toString number

/-- A mention: its place in characters, its text and the digits of its number. -/
structure Mention where
  place : Nat
  text : List Char
  digits : List Char
  deriving DecidableEq, Repr

namespace Mention

/-- The number of the proposal mentioned. -/
def number (mention : Mention) : Nat := numberOf mention.digits

end Mention

/-- What is left of `text` after `word`, where case does not count. -/
def dropIgnoringCase? : List Char → List Char → Option (List Char)
  | [], rest => some rest
  | _ :: _, [] => none
  | a :: word, b :: rest => if equalsIgnoringCase a b then dropIgnoringCase? word rest else none

/-- Is a character allowed between word and number? -/
def isSeparator (c : Char) : Bool := isBlank c || c = '_' || c = '-'

/-- Does a word start or end between two characters? -/
def isWordEdge (before after : Option Char) : Bool :=
  (before.map isWordChar).getD false != (after.map isWordChar).getD false

/-- The mention at the front of a text: its length and its digits. `before` is the character before
the text. -/
def mentionAt? (before : Option Char) (text word : List Char) : Option (Nat × List Char) :=
  if !isWordEdge before text.head? then none
  else match dropIgnoringCase? word text with
    | none => none
    | some rest =>
      let rest := rest.dropWhile isSeparator
      let digits := rest.takeWhile Char.isDigit
      let rest := rest.drop digits.length
      if digits.isEmpty || (rest.head?.map isWordChar).getD false then none
      else some (text.length - rest.length, digits)

/-- The mentions in a text from `place` on, with any of the words. The first argument counts the
characters of a mention still to be passed. -/
def mentionsFrom (words : List (List Char)) (skip place : Nat) (before : Option Char) :
    List Char → List Mention
  | [] => []
  | c :: rest =>
    match skip with
    | skip + 1 => mentionsFrom words skip (place + 1) (some c) rest
    | 0 =>
      match words.findSome? (mentionAt? before (c :: rest)) with
      | some (length, digits) =>
        ⟨place, (c :: rest).take length, digits⟩
          :: mentionsFrom words (length - 1) (place + 1) (some c) rest
      | none => mentionsFrom words 0 (place + 1) (some c) rest

/-- The mentions in a text with any of the words, from left to right. -/
def mentionsOf (words : List (List Char)) (text : String) : List Mention :=
  mentionsFrom words 0 0 none text.toList

/-- The mentions in a text with the word of a file prefix. -/
def mentions (filePrefix text : String) : List Mention := mentionsOf [referenceWord filePrefix] text

/-- Is `rest` nothing, or a fragment? -/
def isFragment (rest : List Char) : Bool := rest.isEmpty || rest.head? = some '#'

/-- The digits at the front of a destination after which suffix and fragment follow. The longest that
fit are taken, and at most `count`. -/
def digitsBefore? (suffix text : List Char) : Nat → Option (List Char)
  | 0 => none
  | count + 1 =>
    if ((dropIgnoringCase? suffix (text.drop (count + 1))).map isFragment).getD false then
      some (text.take (count + 1))
    else digitsBefore? suffix text count

/-- The digits of the number of the proposal that a destination names: perhaps `./`, then prefix,
number, suffix and perhaps a fragment. Case does not count. -/
def linkedDigits? (filePrefix suffix destination : String) : Option (List Char) :=
  let text := destination.toList
  let starts := match dropStart? ['.', '/'] text with
    | some rest => [rest, text]
    | none => [text]
  starts.findSome? fun start => do
    let rest ← dropIgnoringCase? filePrefix.toList start
    digitsBefore? suffix.toList rest (rest.takeWhile Char.isDigit).length

/-- The number of the proposal that a destination names. -/
def linkedNumber? (filePrefix suffix destination : String) : Option Nat :=
  (linkedDigits? filePrefix suffix destination).map numberOf

end ProposalCheck
