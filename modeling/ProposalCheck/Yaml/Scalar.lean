import ProposalCheck.Json.Display
import ProposalCheck.Pattern.Parse
import ProposalCheck.Validation.Shape
import ProposalCheck.Yaml.Node

/-!
# What scalars stand for

A plain scalar may be a number, a truth value or nothing, depending on how it is written. A tag decides
regardless of that. Everything else is text.

## Main definitions

* `Scalar`: what a scalar stands for
* `Scalar.ofPlain`, `Scalar.ofNode?`: what a plain scalar, and what a node, stands for
-/

namespace ProposalCheck.Yaml

/-- What a scalar stands for. -/
inductive Scalar where
  /-- A text, a number, a truth value or nothing. -/
  | data (value : Json)
  /-- The mark of a mapping whose entries are taken over. -/
  | merge
  /-- A point in time, or something else that is no data of the kinds above. -/
  | other (text : String)

namespace Scalar

/-- The forms of integers. -/
def integerPattern : Pattern :=
  .ofText false "^(?:[-+]?0b[0-1_]+|[-+]?0o?[0-7_]+|[-+]?[0-9_]+|[-+]?0x[0-9a-fA-F_]+)$"

/-- The forms of other numbers. -/
def floatPattern : Pattern :=
  .ofText false <|
    "^(?:[-+]?(?:[0-9][0-9_]*)\\.[0-9_]*(?:[eE][-+]?[0-9]+)?|[-+]?(?:[0-9][0-9_]*)(?:[eE][-+]?[0-9]+)"
      ++ "|[-+]?\\.[0-9_]+(?:[eE][-+][0-9]+)?|[-+]?\\.(?:inf|Inf|INF)|\\.(?:nan|NaN|NAN))$"

/-- The forms of points in time. -/
def timePattern : Pattern :=
  .ofText false <|
    "^(?:[0-9][0-9][0-9][0-9]-[0-9][0-9]-[0-9][0-9]|[0-9][0-9][0-9][0-9]-[0-9][0-9]?-[0-9][0-9]?"
      ++ "(?:[Tt]|[ \\t]+)[0-9][0-9]?:[0-9][0-9]:[0-9][0-9](?:\\.[0-9]*)?"
      ++ "(?:[ \\t]*(?:Z|[-+][0-9][0-9]?(?::[0-9][0-9])?))?)$"

/-- The value of digits in a base. -/
def inBase (base : Nat) (digits : List Char) : Nat :=
  digits.foldl (fun value c => value * base + (hexDigit? c).getD 0) 0

/-- The integer of a form of integers. -/
def integerOf (text : String) : Int :=
  let (negative, digits) := Shape.signOf (text.toList.filter (· ≠ '_'))
  let value : Nat := match digits with
    | '0' :: 'b' :: rest => inBase 2 rest
    | '0' :: 'o' :: rest => inBase 8 rest
    | '0' :: 'x' :: rest => inBase 16 rest
    | digits => inBase 10 digits
  if negative then -value else value

/-- The number of another form of numbers. -/
def floatOf (text : String) : Float :=
  let (negative, digits) := Shape.signOf (text.toList.filter (· ≠ '_'))
  let infinity : Float := 1.0 / 0.0
  match digits.map Char.toLower with
  | '.' :: 'i' :: _ => if negative then -infinity else infinity
  | '.' :: 'n' :: _ => 0.0 / 0.0
  | _ => (Shape.floatOfText? (String.ofList (text.toList.filter (· ≠ '_')))).getD 0

/-- What a plain scalar stands for. -/
def ofPlain (text : String) : Scalar :=
  let startsNumber := (text.toList.head?.map fun c => c.isDigit || "-+.".toList.contains c).getD false
  if ["", "~", "null", "Null", "NULL"].contains text then .data .null
  else if ["true", "True", "TRUE"].contains text then .data (.bool true)
  else if ["false", "False", "FALSE"].contains text then .data (.bool false)
  else if text = "<<" then .merge
  else if text = "=" then .other text
  else if !startsNumber then .data (.str text)
  else if floatPattern.isFoundIn text then .data (.float (floatOf text))
  else if text.toList.head? ≠ some '.' && integerPattern.isFoundIn text then
    .data (.int (integerOf text))
  else if timePattern.isFoundIn text then .other text
  else .data (.str text)

/-- The name of a tag of the common kinds. -/
def commonTag? (tag : Tag) : Option String :=
  let common := "tag:yaml.org,2002:"
  match tag.handle with
  | some "!!" => some tag.suffix
  | none => if tag.suffix.startsWith common then some (tag.suffix.drop common.length).toString else none
  | _ => none

/-- What a scalar stands for; `none` if it does not have the form of its tag. -/
def ofParts? (tag : Option Tag) (text : String) (plain : Bool) : Option Scalar :=
  match tag with
  | none => some (if plain then ofPlain text else .data (.str text))
  | some ⟨some "!", ""⟩ => some (.data (.str text))
  | some tag => match commonTag? tag, ofPlain text with
    | some "str", _ => some (.data (.str text))
    | some "null", _ => some (.data .null)
    | some "int", .data (.int n) => some (.data (.int n))
    | some "float", .data (.int n) => some (.data (.float (Shape.floatOfInteger n)))
    | some "float", .data (.float x) => some (.data (.float x))
    | some "bool", .data (.bool b) => some (.data (.bool b))
    | some "timestamp", .other text => some (.other text)
    | _, _ => none

/-- What a node stands for if it is a scalar of a known form. -/
def ofNode? : Node → Option Scalar
  | .scalar _ tag text plain => ofParts? tag text plain
  | _ => none

/-- The text by which an entry with this key is named. -/
def name : Scalar → String
  | .data (.str text) => text
  | .data value => value.display
  | .merge => "<<"
  | .other text => text

/-- Do two scalars stand for the same? -/
def same : Scalar → Scalar → Bool
  | .data (.str a), .data (.str b) => a == b
  | .data a, .data b => Json.equalWith true a b
  | .merge, .merge => true
  | .other a, .other b => a == b
  | _, _ => false

end Scalar

end ProposalCheck.Yaml
