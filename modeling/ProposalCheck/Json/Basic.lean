import ProposalCheck.Decimal.Dyadic

/-!
# JSON values

Members of an object keep the order in which their names first occur; a name that occurs again
replaces the value in place. Numbers written without a fraction and an exponent are integers of any
size, all others are floats.

## Main definitions

* `Json`: a value
* `Json.insertMember`: add or replace a member
* `Json.get?`: look up a member
* `Json.equalWith`: equality in which numbers compare by value, and `true` is `1` only if that is asked for
-/

namespace ProposalCheck

/-- A JSON value. -/
inductive Json where
  | null
  | bool (value : Bool)
  | int (value : Int)
  | float (value : Float)
  | str (value : String)
  | arr (items : List Json)
  | obj (members : List (String × Json))
  deriving Inhabited

namespace Json

/-- Adds a member at the end, or replaces the value of the member that has this name. -/
def insertMember (name : String) (value : Json) : List (String × Json) → List (String × Json)
  | [] => [(name, value)]
  | (other, old) :: rest =>
    if other = name then (name, value) :: rest else (other, old) :: insertMember name value rest

/-- The value of the member with a name. -/
def lookup (name : String) : List (String × Json) → Option Json
  | [] => none
  | (other, value) :: rest => if other = name then some value else lookup name rest

/-- The member of an object with a name; `none` for other values. -/
def get? (value : Json) (name : String) : Option Json :=
  match value with
  | .obj members => lookup name members
  | _ => none

/-- The exact value of a number; `none` for other values and for floats that are not finite. -/
def dyadic? : Json → Option Dyadic
  | .int n => some (Dyadic.ofInt n)
  | .float x => Dyadic.ofFloat? x
  | _ => none

/-- Is the value an integer or a float? -/
def isNumber : Json → Bool
  | .int _ | .float _ => true
  | _ => false

/-- Do two numbers have the same value? A float that is not a number equals nothing. -/
def equalNumbers (a b : Json) : Bool :=
  match dyadic? a, dyadic? b with
  | some x, some y => x.compare y == .eq
  | none, none => match a, b with
    | .float x, .float y => x == y
    | _, _ => false
  | _, _ => false

mutual

/-- Equality of values: numbers by value, objects without regard to order. Booleans equal numbers
only if `loose` is set, and then `false` is zero and `true` is one. A float that is not a number equals
another one unless `loose` is set. -/
def equalWith (loose : Bool) : Json → Json → Bool
  | .null, .null => true
  | .bool a, .bool b => a == b
  | .str a, .str b => a == b
  | .arr a, .arr b => equalItems loose a b
  | .obj a, .obj b => a.length == b.length && equalMembers loose a b
  | .bool a, b => loose && equalNumbers (.int a.toNat) b
  | .int a, .bool b => loose && a == b.toNat
  | .float a, .bool b => loose && equalNumbers (.float a) (.int b.toNat)
  | .int a, b => equalNumbers (.int a) b
  | .float a, .float b => equalNumbers (.float a) (.float b) || (!loose && a.isNaN && b.isNaN)
  | .float a, b => equalNumbers (.float a) b
  | _, _ => false

/-- Are two lists of values equal item by item? -/
def equalItems (loose : Bool) : List Json → List Json → Bool
  | [], [] => true
  | a :: as, b :: bs => equalWith loose a b && equalItems loose as bs
  | _, _ => false

/-- Does each member occur, with an equal value, among `others`? -/
def equalMembers (loose : Bool) : List (String × Json) → List (String × Json) → Bool
  | [], _ => true
  | (name, value) :: rest, others =>
    (match lookup name others with
      | some other => equalWith loose value other
      | none => false) && equalMembers loose rest others

end

end Json

end ProposalCheck
