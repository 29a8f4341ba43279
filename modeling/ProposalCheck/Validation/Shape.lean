import ProposalCheck.Validation.Issue
import ProposalCheck.Json.Decode
import ProposalCheck.Text.Blank

/-!
# Checks of simple shapes

Readers for the values that options and findings are made of. Numbers and truth values are also
read from texts that denote them and from each other where nothing is lost.

## Main definitions

* `Shape.text`, `Shape.integer`, `Shape.float`, `Shape.truth`: simple values
* `Shape.listOf`, `Shape.pairOf`, `Shape.nullable`: composed ones
* `Shape.required`, `Shape.optional`, `Shape.unknownMembers`: members of an object
-/

namespace ProposalCheck.Shape

variable {α β : Type}

/-- A text. -/
def text : Json → Checked String
  | .str s => .ok s
  | _ => .fail .stringType

/-- The integer that a finite float equals. -/
def integerOfFloat? (x : Float) : Option Int :=
  (Dyadic.ofFloat? x).bind fun value =>
    if value.isInteger then
      some (value.mantissa * twoTo value.exponent.toNat / twoTo (-value.exponent).toNat)
    else none

/-- Reads digits that may be separated by single underscores. -/
def separatedDigits? (cs : List Char) : Option (List Char) :=
  let digits := cs.filter (· ≠ '_')
  let pieces := splitWhere (· = '_') cs
  if digits ≠ [] ∧ digits.all Char.isDigit ∧ pieces.all (· ≠ []) then some digits else none

/-- The sign in front of a number, and what follows it. -/
def signOf : List Char → Bool × List Char
  | '-' :: rest => (true, rest)
  | '+' :: rest => (false, rest)
  | rest => (false, rest)

/-- The integer that a text denotes: a sign, digits, and perhaps a fraction of zeros. -/
def integerOfText? (s : String) : Option Int :=
  let (negative, unsigned) := signOf (trimChars s.toList)
  let whole := unsigned.takeWhile (· ≠ '.')
  let fraction := (unsigned.dropWhile (· ≠ '.')).drop 1
  if fraction.all (· = '0') ∧ (fraction ≠ [] ∨ '.' ∉ unsigned) then
    (separatedDigits? whole).map fun digits =>
      let value : Int := Json.digitsValue digits
      if negative then -value else value
  else none

/-- An integer, or what denotes one without loss. -/
def integer : Json → Checked Int
  | .int n => .ok n
  | .bool b => .ok b.toNat
  | .float x =>
    match Dyadic.ofFloat? x, integerOfFloat? x with
    | none, _ => .fail .finiteNumber
    | some _, some n => .ok n
    | some _, none => .fail .intFromFloat
  | .str s => match integerOfText? s with
    | some n => .ok n
    | none => .fail .intParsing
  | _ => .fail .intType

/-- An integer that is not negative. -/
def natural (value : Json) : Checked Nat :=
  match integer value with
  | .ok n => if n < 0 then .fail .greaterThanEqual else .ok n.toNat
  | .error issues => .error issues

/-- The words for truth values. -/
def truthOfText? (s : String) : Option Bool :=
  let word := String.ofList (s.toList.map Char.toLower)
  if word ∈ ["1", "t", "true", "y", "yes", "on"] then some true
  else if word ∈ ["0", "f", "false", "n", "no", "off"] then some false
  else none

/-- The truth value that an integer stands for. -/
def truthOfInteger (n : Int) : Checked Bool :=
  if n = 0 then .ok false else if n = 1 then .ok true else .fail .boolParsing

/-- A truth value, or a number or word that stands for one. -/
def truth : Json → Checked Bool
  | .bool b => .ok b
  | .int n => truthOfInteger n
  | .float x => match integerOfFloat? x with
    | some n => truthOfInteger n
    | none => .fail .boolType
  | .str s => match truthOfText? s with
    | some b => .ok b
    | none => .fail .boolParsing
  | _ => .fail .boolType

/-- The float that a text denotes. -/
def floatOfText? (s : String) : Option Float :=
  let (negative, unsigned) := signOf (trimChars s.toList)
  let lower := String.ofList (unsigned.map Char.toLower)
  let signed (x : Float) : Float := if negative then -x else x
  if lower = "inf" ∨ lower = "infinity" then some (signed (1.0 / 0.0))
  else if lower = "nan" then some (0.0 / 0.0)
  else
    let isExponent := fun c => c = 'e' || c = 'E'
    let mantissa := unsigned.takeWhile (!isExponent ·)
    let power := (unsigned.dropWhile (!isExponent ·)).drop 1
    let whole := mantissa.takeWhile (· ≠ '.')
    let fraction := (mantissa.dropWhile (· ≠ '.')).drop 1
    let wholeDigits := if whole = [] then some [] else separatedDigits? whole
    let fractionDigits := if fraction = [] then some [] else separatedDigits? fraction
    let exponent := if power = [] then (if unsigned.any isExponent then none else some 0)
      else
        let (down, digits) := signOf power
        (separatedDigits? digits).map fun digits =>
          let value : Int := Json.digitsValue digits
          if down then -value else value
    match wholeDigits, fractionDigits, exponent with
    | some whole, some fraction, some exponent =>
      if whole = [] ∧ fraction = [] then none
      else some (Json.nearestFloat negative (Json.digitsValue (whole ++ fraction))
        (exponent - fraction.length))
    | _, _, _ => none

/-- The float nearest to an integer. -/
def floatOfInteger (n : Int) : Float := Json.nearestFloat (n < 0) n.natAbs 0

/-- A float, or what denotes one. -/
def float : Json → Checked Float
  | .float x => .ok x
  | .int n => .ok (floatOfInteger n)
  | .bool b => .ok (floatOfInteger b.toNat)
  | .str s => match floatOfText? s with
    | some x => .ok x
    | none => .fail .floatParsing
  | _ => .fail .floatType

/-- `null`, or a value of another shape. -/
def nullable (check : Json → Checked α) : Json → Checked (Option α)
  | .null => .ok none
  | value => (check value).map some

/-- A list of values of one shape. -/
def listOf (check : Json → Checked α) : Json → Checked (List α)
  | .arr items => Checked.itemsFrom check 0 items
  | _ => .fail .listType

/-- A list of exactly two values. -/
def pairOf (first : Json → Checked α) (second : Json → Checked β) : Json → Checked (α × β)
  | .arr [a, b] => ((first a).within (.index 0)).both ((second b).within (.index 1))
  | .arr [a] => ((first a).within (.index 0)).both (.error [⟨[.index 1], .missing⟩])
  | .arr [] => .error [⟨[.index 0], .missing⟩, ⟨[.index 1], .missing⟩]
  | .arr _ => .fail .tooLong
  | _ => .fail .tupleType

/-- One of a set of words. -/
def oneOf (ofName? : String → Option α) : Json → Checked α
  | .str s => match ofName? s with
    | some value => .ok value
    | none => .fail .enumeration
  | _ => .fail .enumeration

/-- A member that must be there. -/
def required (members : List (String × Json)) (name : String) (check : Json → Checked α) :
    Checked α :=
  match Json.lookup name members with
  | some value => (check value).within (.name name)
  | none => .error [⟨[.name name], .missing⟩]

/-- A member that has a default. -/
def optional (members : List (String × Json)) (name : String) (default : α)
    (check : Json → Checked α) : Checked α :=
  match Json.lookup name members with
  | some value => (check value).within (.name name)
  | none => .ok default

/-- The members of an object that are not among the known ones, as problems. -/
def unknownMembers (known : List String) (members : List (String × Json)) : List Issue :=
  (members.filter fun (name, _) => name ∉ known).map fun (name, _) => ⟨[.name name], .extraForbidden⟩

end ProposalCheck.Shape
