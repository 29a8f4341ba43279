import ProposalCheck.Json.Basic
import ProposalCheck.Text.CodeTable

/-!
# Reading JSON text

The reader accepts JSON and, beyond it, the words `NaN`, `Infinity` and `-Infinity` for floats. An
error names what was expected and where: the offset in characters, from which line and column
follow.

All scanning functions take the rest of the text and return what is left of it. An error carries how
many characters were left at its place, so no function has to count. The recursive functions take
fuel; of any two steps at least one uses a character, so twice the length of the text suffices.

An escape such as `\ud800` that names half of a surrogate pair stands for no character. It is kept
as a private-use character of the last plane, one for each of the 2048 halves.

## Main definitions

* `Json.DecodeError`: what is wrong and where
* `Json.decode`: the value that a text denotes
-/

namespace ProposalCheck.Json

/-- The greatest number of digits of an integer. Floats may have more. -/
def maximumDigits : Nat := 4300

/-- What is wrong with a text. -/
inductive DecodeProblem where
  | byteOrderMark
  | expectedValue
  | extraData
  | expectedName
  | expectedColon
  | expectedComma
  | controlCharacter
  | unterminatedString
  | badEscape
  | badUnicodeEscape
  /-- An integer has too many digits. This is no fault of the text as JSON. -/
  | tooManyDigits (count : Nat)
  deriving DecidableEq, Repr

/-- The wording of a problem. -/
def DecodeProblem.message : DecodeProblem → String
  | .byteOrderMark => "Unexpected UTF-8 BOM (decode using utf-8-sig)"
  | .expectedValue => "Expecting value"
  | .extraData => "Extra data"
  | .expectedName => "Expecting property name enclosed in double quotes"
  | .expectedColon => "Expecting ':' delimiter"
  | .expectedComma => "Expecting ',' delimiter"
  | .controlCharacter => "Invalid control character at"
  | .unterminatedString => "Unterminated string starting at"
  | .badEscape => "Invalid \\escape"
  | .badUnicodeEscape => "Invalid \\uXXXX escape"
  | .tooManyDigits count =>
    s!"Exceeds the limit ({maximumDigits} digits) for integer string conversion: value has {count} "
      ++ "digits; use sys.set_int_max_str_digits() to increase the limit"

/-- A problem and the offset, line and column of its place, in characters. -/
structure DecodeError where
  problem : DecodeProblem
  offset : Nat
  line : Nat
  column : Nat
  deriving DecidableEq, Repr

/-- The wording of an error, with its place. -/
def DecodeError.message (e : DecodeError) : String :=
  s!"{e.problem.message}: line {e.line} column {e.column} (char {e.offset})"

/-- A problem and the number of characters left at its place. -/
structure Stop where
  problem : DecodeProblem
  left : Nat

/-- The blank characters between the parts of a value. -/
def isSpace (c : Char) : Bool := c = ' ' || c = '\t' || c = '\n' || c = '\r'

/-- Drops blanks. -/
def skipSpace (cs : List Char) : List Char := cs.dropWhile isSpace

/-- The character that stands for half of a surrogate pair. -/
def surrogateStandIn (code : Nat) : Char := Char.ofNat (code - 0xD800 + 0x10F800)

/-- The half of a surrogate pair that a character stands for. -/
def surrogateOfStandIn? (c : Char) : Option Nat :=
  if 0x10F800 ≤ c.toNat then some (c.toNat - 0x10F800 + 0xD800) else none

/-- The value of exactly four hexadecimal digits, and what follows them. -/
def hexFour? : List Char → Option (Nat × List Char)
  | a :: b :: c :: d :: rest => do
    let a ← hexDigit? a
    let b ← hexDigit? b
    let c ← hexDigit? c
    let d ← hexDigit? d
    return (((a * 16 + b) * 16 + c) * 16 + d, rest)
  | _ => none

/-- The character that a backslash and a letter stand for. -/
def shortEscape? : Char → Option Char
  | '"' => some '"'
  | '\\' => some '\\'
  | '/' => some '/'
  | 'b' => some '\x08'
  | 'f' => some '\x0c'
  | 'n' => some '\n'
  | 'r' => some '\r'
  | 't' => some '\t'
  | _ => none

/-- The four digits of an escape, which must not be the last characters of the text. `cs` is what
follows the `u`. -/
def unicodeEscape (cs : List Char) : Except Stop (Nat × List Char) :=
  match hexFour? cs with
  | some (code, rest) => if rest = [] then .error ⟨.badUnicodeEscape, cs.length + 1⟩
    else .ok (code, rest)
  | none => .error ⟨.badUnicodeEscape, cs.length + 1⟩

/-- The second half of a pair that starts with the half `high`; `rest` follows the first half. -/
def pairEscape (high : Nat) (rest : List Char) : Except Stop (Char × List Char) :=
  match rest with
  | '\\' :: 'u' :: more =>
    if rest.length < 7 then .ok (surrogateStandIn high, rest)
    else match hexFour? more with
      | none => .error ⟨.badUnicodeEscape, more.length + 1⟩
      | some (low, after) =>
        if 0xDC00 ≤ low ∧ low ≤ 0xDFFF then
          .ok (Char.ofNat (0x10000 + (high - 0xD800) * 0x400 + (low - 0xDC00)), after)
        else .ok (surrogateStandIn high, rest)
  | _ => .ok (surrogateStandIn high, rest)

/-- Reads the characters of a string up to its closing quote. `opening` is the number of characters
that were left at the opening quote. -/
def scanString (opening : Nat) : Nat → List Char → List Char → Except Stop (String × List Char)
  | 0, _, _ => .error ⟨.unterminatedString, opening⟩
  | _ + 1, _, [] => .error ⟨.unterminatedString, opening⟩
  | fuel + 1, read, c :: rest =>
    if c = '"' then .ok (String.ofList read.reverse, rest)
    else if c = '\\' then
      match rest with
      | [] => .error ⟨.unterminatedString, opening⟩
      | 'u' :: more => do
        let (code, after) ← unicodeEscape more
        -- half of a pair that has no other half is kept
        if 0xD800 ≤ code ∧ code ≤ 0xDBFF then
          let (char, after) ← pairEscape code after
          scanString opening fuel (char :: read) after
        else if 0xDC00 ≤ code ∧ code ≤ 0xDFFF then
          scanString opening fuel (surrogateStandIn code :: read) after
        else scanString opening fuel (Char.ofNat code :: read) after
      | e :: more =>
        match shortEscape? e with
        | some char => scanString opening fuel (char :: read) more
        | none => .error ⟨.badEscape, rest.length + 1⟩
    else if c.toNat ≤ 0x1F then .error ⟨.controlCharacter, rest.length + 1⟩
    else scanString opening fuel (c :: read) rest

/-- The digits in front of `cs` and what follows them. -/
def spanDigits (cs : List Char) : List Char × List Char :=
  (cs.takeWhile Char.isDigit, cs.dropWhile Char.isDigit)

/-- The number that ASCII digits denote. -/
def digitsValue (digits : List Char) : Nat :=
  digits.foldl (fun value c => value * 10 + (c.toNat - '0'.toNat)) 0

/-- The float nearest to `mantissa * 10 ^ exponent`. Far outside the range of floats the result is
known without computing the power. -/
def nearestFloat (negative : Bool) (mantissa : Nat) (exponent : Int) : Float :=
  let size : Int := (Nat.toDigits 10 mantissa).length + exponent
  let magnitude :=
    if mantissa = 0 ∨ size < -400 then 0.0
    else if 400 < size then 1.0 / 0.0
    else if 0 ≤ exponent then Float.ofScientific mantissa false exponent.toNat
    else Float.ofScientific mantissa true (-exponent).toNat
  if negative then -magnitude else magnitude

/-- The digits after a decimal point, if at least one follows it. -/
def fractionPart : List Char → List Char × List Char
  | '.' :: rest => match spanDigits rest with
    | ([], _) => ([], '.' :: rest)
    | found => found
  | cs => ([], cs)

/-- The exponent, if an `e` is followed by an optional sign and at least one digit. -/
def exponentPart (cs : List Char) : Option (Int × List Char) :=
  match cs with
  | e :: rest =>
    if e = 'e' ∨ e = 'E' then
      let (negative, digits) := match rest with
        | '-' :: more => (true, more)
        | '+' :: more => (false, more)
        | more => (false, more)
      match spanDigits digits with
      | ([], _) => none
      | (found, after) =>
        let value : Int := digitsValue found
        some (if negative then -value else value, after)
    else none
  | [] => none

/-- Reads a number; `none` if there is none. -/
def scanNumber? (cs : List Char) : Option (Json × List Char) :=
  let (negative, unsigned) := match cs with
    | '-' :: rest => (true, rest)
    | rest => (false, rest)
  let whole := match unsigned with
    -- no digits follow a zero at the front
    | '0' :: rest => some (['0'], rest)
    | c :: rest => if c.isDigit then some (spanDigits (c :: rest)) else none
    | [] => none
  whole.map fun (digits, rest) =>
    let (fraction, rest) := fractionPart rest
    match fraction, exponentPart rest with
    | [], none =>
      let value : Int := digitsValue digits
      (.int (if negative then -value else value), rest)
    | fraction, none =>
      (.float (nearestFloat negative (digitsValue (digits ++ fraction)) (-fraction.length)), rest)
    | fraction, some (power, rest) =>
      (.float (nearestFloat negative (digitsValue (digits ++ fraction))
        (power - fraction.length)), rest)

/-- Reads a number that is not too long. -/
def scanNumber (cs : List Char) : Except Stop (Json × List Char) :=
  match scanNumber? cs with
  | none => .error ⟨.expectedValue, cs.length⟩
  | some (.int value, rest) =>
    let unsigned := if cs.head? = some '-' then cs.tail else cs
    let count := (spanDigits unsigned).1.length
    if maximumDigits < count then .error ⟨.tooManyDigits count, cs.length⟩
    else .ok (.int value, rest)
  | some found => .ok found

/-- The words that stand for values. -/
def wordValues : List (List Char × Json) :=
  [("null".toList, .null), ("true".toList, .bool true), ("false".toList, .bool false),
    ("NaN".toList, .float (0.0 / 0.0)), ("Infinity".toList, .float (1.0 / 0.0)),
    ("-Infinity".toList, .float (-1.0 / 0.0))]

/-- Reads one of the words that stand for values; `none` if there is none. -/
def scanWord? (cs : List Char) : Option (Json × List Char) :=
  wordValues.findSome? fun (word, value) =>
    if word.isPrefixOf cs then some (value, cs.drop word.length) else none

mutual

/-- Reads a value that starts at the first character. -/
def scanValue : Nat → List Char → Except Stop (Json × List Char)
  | 0, cs => .error ⟨.expectedValue, cs.length⟩
  | fuel + 1, cs =>
    match cs with
    | '"' :: rest => do
      let (text, rest) ← scanString cs.length cs.length [] rest
      return (.str text, rest)
    | '{' :: rest =>
      match skipSpace rest with
      | '}' :: after => .ok (.obj [], after)
      | more => scanMembers fuel [] more
    | '[' :: rest =>
      match skipSpace rest with
      | ']' :: after => .ok (.arr [], after)
      | more => scanItems fuel [] more
    | _ => match scanWord? cs with
      | some found => .ok found
      | none => scanNumber cs

/-- Reads members from a name onwards up to the closing brace. -/
def scanMembers : Nat → List (String × Json) → List Char → Except Stop (Json × List Char)
  | 0, _, cs => .error ⟨.expectedName, cs.length⟩
  | fuel + 1, members, cs =>
    match cs with
    | '"' :: rest => do
      let (name, rest) ← scanString cs.length cs.length [] rest
      match skipSpace rest with
      | ':' :: rest =>
        let (value, rest) ← scanValue fuel (skipSpace rest)
        let members := insertMember name value members
        match skipSpace rest with
        | '}' :: rest => return (.obj members, rest)
        | ',' :: rest => scanMembers fuel members (skipSpace rest)
        | rest => .error ⟨.expectedComma, rest.length⟩
      | rest => .error ⟨.expectedColon, rest.length⟩
    | _ => .error ⟨.expectedName, cs.length⟩

/-- Reads items from a value onwards up to the closing bracket. `items` is reversed. -/
def scanItems : Nat → List Json → List Char → Except Stop (Json × List Char)
  | 0, _, cs => .error ⟨.expectedValue, cs.length⟩
  | fuel + 1, items, cs => do
    let (value, rest) ← scanValue fuel cs
    match skipSpace rest with
    | ']' :: rest => return (.arr (value :: items).reverse, rest)
    | ',' :: rest => scanItems fuel (value :: items) (skipSpace rest)
    | rest => .error ⟨.expectedComma, rest.length⟩

end

/-- Reads a whole text: blanks, one value, blanks. -/
def scanText (cs : List Char) : Except Stop Json := do
  if cs.head? = some '\uFEFF' then throw ⟨.byteOrderMark, cs.length⟩
  let (value, rest) ← scanValue (2 * cs.length + 2) (skipSpace cs)
  match skipSpace rest with
  | [] => return value
  | rest => throw ⟨.extraData, rest.length⟩

/-- The line and column of the place after the characters `before`. -/
def placeAfter (before : List Char) : Nat × Nat :=
  (before.count '\n' + 1, (before.reverse.takeWhile (· ≠ '\n')).length + 1)

/-- The value that a text denotes, or the first problem of the text. -/
def decode (text : String) : Except DecodeError Json :=
  let cs := text.toList
  match scanText cs with
  | .ok value => .ok value
  | .error stop =>
    let offset := cs.length - stop.left
    let (line, column) := placeAfter (cs.take offset)
    .error ⟨stop.problem, offset, line, column⟩

end ProposalCheck.Json
