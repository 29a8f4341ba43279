import ProposalCheck.Text.Quoted
import ProposalCheck.Text.Blank
import ProposalCheck.Decimal.Shortest

/-!
# Writing JSON text

Values are written in ASCII: every other character is escaped, astral ones as surrogate pairs.
A value is laid out on one line, or with each item and member on a line of its own.

## Main definitions

* `Json.encode`: a value on one line
* `Json.encodeIndented`: a value over several lines
-/

namespace ProposalCheck.Json

/-- An escape for a 16-bit unit. -/
def unitEscape (code : Nat) : List Char := '\\' :: 'u' :: hexDigits 4 code

/-- How one character is written between double quotes. -/
def encodeChar (c : Char) : List Char :=
  match surrogateOfStandIn? c with
  | some half => unitEscape half
  | none =>
    if c = '"' then ['\\', '"']
    else if c = '\\' then ['\\', '\\']
    else if c = '\n' then ['\\', 'n']
    else if c = '\r' then ['\\', 'r']
    else if c = '\t' then ['\\', 't']
    else if c = '\x0c' then ['\\', 'f']
    else if c = '\x08' then ['\\', 'b']
    else if ' ' ≤ c ∧ c ≤ '~' then [c]
    else if c.toNat ≤ 0xFFFF then unitEscape c.toNat
    else
      let offset := c.toNat - 0x10000
      unitEscape (0xD800 + offset / 0x400) ++ unitEscape (0xDC00 + offset % 0x400)

/-- A text between double quotes. -/
def encodeString (s : String) : String :=
  String.ofList ('"' :: (s.toList.flatMap encodeChar ++ ['"']))

/-- How floats are written in JSON. -/
def jsonNotation : DecimalNotation := ⟨-4, 16, 2, "Infinity", "NaN"⟩

/-- Items between brackets; `indent` is the line break and indentation of an item, if items stand on
lines of their own, and `outer` that of the closing bracket. -/
def bracketed (opening closing : String) (indent : Option (String × String)) :
    List String → String
  | [] => opening ++ closing
  | items => match indent with
    | none => opening ++ joinWith ", " items ++ closing
    | some (inner, outer) => opening ++ inner ++ joinWith ("," ++ inner) items ++ outer ++ closing

/-- The line breaks before the items of a value at a nesting depth and before its closing bracket,
with two blanks for each level. -/
def breaksAt (depth : Nat) : String × String :=
  ("\n" ++ "".pushn ' ' (2 * (depth + 1)), "\n" ++ "".pushn ' ' (2 * depth))

mutual

/-- A value at a nesting depth, over several lines if `spread`. -/
def encodeAt (spread : Bool) (depth : Nat) : Json → String
  | .null => "null"
  | .bool true => "true"
  | .bool false => "false"
  | .int n => toString n
  | .float x => floatText jsonNotation x
  | .str s => encodeString s
  | .arr items =>
    bracketed "[" "]" (if spread then some (breaksAt depth) else none)
      (encodeItems spread (depth + 1) items)
  | .obj members =>
    bracketed "\x7b" "\x7d" (if spread then some (breaksAt depth) else none)
      (encodeMembers spread (depth + 1) members)

/-- The items of an array. -/
def encodeItems (spread : Bool) (depth : Nat) : List Json → List String
  | [] => []
  | item :: rest => encodeAt spread depth item :: encodeItems spread depth rest

/-- The members of an object. -/
def encodeMembers (spread : Bool) (depth : Nat) : List (String × Json) → List String
  | [] => []
  | (name, value) :: rest =>
    (encodeString name ++ ": " ++ encodeAt spread depth value) :: encodeMembers spread depth rest

end

/-- A value on one line. -/
def encode (value : Json) : String := encodeAt false 0 value

/-- A value over several lines, indented by two blanks for each level. -/
def encodeIndented (value : Json) : String := encodeAt true 0 value

end ProposalCheck.Json
