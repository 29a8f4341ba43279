import ProposalCheck.Json.Decode
import ProposalCheck.Json.Display
import ProposalCheck.Pattern.Parse
import ProposalCheck.Schema.Dialect
import ProposalCheck.Schema.Format

/-!
# Keywords about a value alone

Some keywords of a schema are judged by the value without its being held against other schemas: its
type, its size, the names of its members. What is wrong is said in messages about the whole value.

## Main definitions

* `Verdict`: what a keyword finds wrong with a value
* `Json.order?`: the order of two numbers
* `Assertion.judge?`: the verdict of a keyword
-/

namespace ProposalCheck

namespace Json

/-- A truth value as a number: one for `true`. -/
def asNumber : Json → Json
  | .bool value => .int value.toNat
  | value => value

/-- The order of two numbers. A float that is not a number has no place in it. -/
def order? (a b : Json) : Option Ordering :=
  match a.dyadic?, b.dyadic?, a, b with
  | some x, some y, _, _ => some (x.compare y)
  | some _, none, _, .float y => order (0 < y) (y < 0)
  | none, some _, .float x, _ => order (x < 0) (0 < x)
  | none, none, .float x, .float y => if x == y then some .eq else order (x < y) (y < x)
  | _, _, _, _ => none
where
  order (isLess isMore : Bool) : Option Ordering :=
    if isLess then some .lt else if isMore then some .gt else none

/-- Does a value count as true: is it neither empty nor zero? -/
def isTruthy : Json → Bool
  | .null => false
  | .bool value => value
  | .int value => value ≠ 0
  | .float value => !(value == 0)
  | .str text => text ≠ ""
  | .arr items => !items.isEmpty
  | .obj members => !members.isEmpty

/-- What a value consists of: items, names of members or characters. -/
def constituents? : Json → Option (List Json)
  | .arr items => some items
  | .obj members => some (members.map fun (name, _) => .str name)
  | .str text => some (text.toList.map fun c => .str c.toString)
  | _ => none

end Json

/-- The messages about what is wrong with a value. -/
abbrev Verdict := Except SchemaFault (List String)

namespace Assertion

/-- Nothing is wrong if a condition holds. -/
def require (condition : Bool) (message : String) : Verdict :=
  .ok (if condition then [] else [message])

/-- What a value consists of, where it has to consist of something. -/
def constituents (value : Json) : Except SchemaFault (List Json) :=
  match value.constituents? with
  | some parts => .ok parts
  | none => .error .kind

/-- The members of a value, which has to be an object. -/
def members : Json → Except SchemaFault (List (String × Json))
  | .obj members => .ok members
  | _ => .error .members

/-- The order of two values, which have to be numbers or truth values. -/
def order (a b : Json) : Except SchemaFault (Option Ordering) :=
  let a := a.asNumber
  let b := b.asNumber
  if a.isNumber && b.isNumber then .ok (a.order? b) else .error .kind

/-- Texts between commas. -/
def listed (texts : List String) : String := joinWith ", " texts

/-- Values in a message. -/
def shown (values : List Json) : String := listed (values.map Json.display)

/-- Does an object have a member? A value that is no text names none. -/
def hasMember (object : List (String × Json)) (name : Json) : Except SchemaFault Bool :=
  match name with
  | .str name => .ok (Json.lookup name object).isSome
  | .arr _ | .obj _ => .error .kind
  | _ => .ok false

/-! ### Types and fixed values -/

/-- Is a value of one of the types with these names? -/
def isOfType (dialect : Dialect) (value : Json) : List Json → Except SchemaFault Bool
  | [] => .ok false
  | .str name :: rest => do
    if ← dialect.isType name value then return true else isOfType dialect value rest
  | .arr _ :: _ | .obj _ :: _ => .error .kind
  | name :: _ => .error (.unknownType name.display)

/-- The list that stands for a value: a text is a list of one. -/
def asList : Json → Except SchemaFault (List Json)
  | .str text => .ok [.str text]
  | value => constituents value

/-- A value has one of some types. -/
def judgeType (dialect : Dialect) (types value : Json) : Verdict := do
  let types ← asList types
  require (← isOfType dialect value types) s!"{value.display} is not of type {shown types}"

/-- A value is one of some values. -/
def judgeEnum (values value : Json) : Verdict := do
  require ((← constituents values).any (·.equalWith false value))
    s!"{value.display} is not one of {values.display}"

/-! ### Numbers -/

/-- A bound of numbers: on which side of it they have to be, and whether they may be equal to it. -/
structure Bound where
  isLower : Bool
  isStrict : Bool
  deriving DecidableEq, Repr

/-- The words for a number that is on the wrong side of a bound. -/
def Bound.words : Bound → String
  | ⟨true, false⟩ => "less than the minimum of"
  | ⟨true, true⟩ => "less than or equal to the minimum of"
  | ⟨false, false⟩ => "greater than the maximum of"
  | ⟨false, true⟩ => "greater than or equal to the maximum of"

/-- A number keeps to a bound. -/
def judgeBound (bound : Bound) (limit value : Json) : Verdict := do
  if !value.isNumber then return []
  let isBroken := match ← order value limit with
    | some .lt => bound.isLower
    | some .gt => !bound.isLower
    | some .eq => bound.isStrict
    | none => false
  require (!isBroken) s!"{value.display} is {bound.words} {limit.display}"

/-- The float nearest to a number. -/
def nearest (value : Json) : Except SchemaFault Float :=
  match value with
  | .float x => .ok x
  | .int n =>
    let x := Json.nearestFloat (n < 0) n.natAbs 0
    if x.isInf then .error .tooLarge else .ok x
  | _ => .error .kind

/-- Is a number a multiple of a float? The quotient of the floats decides; if it is beyond all floats,
the exact values do. -/
def isFloatMultiple (value : Json) (step : Float) : Except SchemaFault Bool := do
  let dividend ← nearest value
  if step == 0 then throw .zeroDivisor
  let quotient := dividend / step
  if quotient.isNaN then throw .notANumber
  match Dyadic.ofFloat? quotient, value.dyadic?, Dyadic.ofFloat? step with
  | some exact, _, _ => return exact.isInteger
  | none, some value, some step => return step.divides value
  | none, _, _ => throw .tooLarge

/-- Is a number a multiple of an integer? -/
def isIntegerMultiple (value : Json) (step : Int) : Except SchemaFault Bool := do
  if step = 0 then throw .zeroDivisor
  match value with
  | .int n => return n % step = 0
  | value =>
    let step ← nearest (.int step)
    match value.dyadic?, Dyadic.ofFloat? step with
    | some value, some step => return step.divides value
    | _, _ => return false

/-- A number is a multiple of another one. -/
def judgeMultiple (step value : Json) : Verdict := do
  if !value.isNumber then return []
  let isMultiple ← match step.asNumber with
    | .float step => isFloatMultiple value step
    | .int step => isIntegerMultiple value step
    | _ => throw .kind
  require isMultiple s!"{value.display} is not a multiple of {step.display}"

/-! ### Sizes -/

/-- What is wrong with a size that is below or above a limit. -/
structure SizeWords where
  few : String
  many : String
  deriving DecidableEq, Repr

/-- The words for texts and lists. -/
def lengthWords : SizeWords := ⟨"is too short", "is too long"⟩

/-- The words for objects. -/
def memberWords : SizeWords := ⟨"does not have enough properties", "has too many properties"⟩

/-- A size is at least as large as a limit. -/
def judgeLeast (words : SizeWords) (limit : Json) (size : Nat) (value : Json) : Verdict := do
  let isBroken := (← order (.int size) limit) = some .lt
  let words := if limit.asNumber.equalWith false (.int 1) then "should be non-empty" else words.few
  require (!isBroken) s!"{value.display} {words}"

/-- A size is at most as large as a limit. -/
def judgeMost (words : SizeWords) (limit : Json) (size : Nat) (value : Json) : Verdict := do
  let isBroken := (← order (.int size) limit) = some .gt
  let words := if limit.asNumber.equalWith false (.int 0) then "is expected to be empty" else words.many
  require (!isBroken) s!"{value.display} {words}"

/-! ### Texts -/

/-- The pattern of a text. -/
def patternOf (text : String) : Except SchemaFault Pattern :=
  match Pattern.parse {} text with
  | .ok pattern => .ok pattern
  | .error .malformed => .error .pattern
  | .error .roundsTooLarge => .error .patternOverflow

/-- Does a text have a match of a pattern? -/
def hasMatch (pattern text : String) : Except SchemaFault Bool := do
  return (← patternOf pattern).isFoundIn text

/-- A text has a match of a pattern. -/
def judgePattern (pattern : Json) (text : String) : Verdict :=
  match pattern with
  | .str pattern => do
    require (← hasMatch pattern text) s!"{quoted text} does not match {quoted pattern}"
  | _ => .error .kind

/-- A text is in a format, the names of which are those of an edition. -/
def judgeFormat (dialect : Dialect) (format : Json) (text : String) : Verdict :=
  match format with
  | .str format => do
    require (← dialect.isInFormat format text) s!"{quoted text} is not a {quoted format}"
  | .arr _ | .obj _ => .error .kind
  | _ => .ok []

/-! ### Lists -/

/-- Is no item equal to one after it? -/
def areDistinct : List Json → Bool
  | [] => true
  | item :: rest => rest.all (fun other => !item.equalWith false other) && areDistinct rest

/-! ### Objects -/

/-- An object has some members. -/
def judgeRequired (names : Json) (object : List (String × Json)) : Verdict := do
  let absent ← (← constituents names).filterM fun name => do return !(← hasMember object name)
  return absent.map fun name => s!"{name.display} is a required property"

/-- An object with a member has some others. -/
def judgeDependency (name : String) (needed : List Json) (object : List (String × Json)) :
    Verdict := do
  let absent ← needed.filterM fun name => do return !(← hasMember object name)
  return absent.map fun other => s!"{other.display} is a dependency of {quoted name}"

/-- An object with some members has others. -/
def judgeDependencies (dependencies : Json) (object : List (String × Json)) : Verdict := do
  let present := (← members dependencies).filter fun (name, _) => (Json.lookup name object).isSome
  let verdicts ← present.mapM fun (name, needed) => do
    judgeDependency name (← constituents needed) object
  return verdicts.flatten

/-- The verdict of a keyword with an argument on a value. The other keywords of the schema may change
what it means, and the names of formats are those of an edition. There is no verdict for keywords that
hold the value against other schemas. -/
def judge? (formats dialect : Dialect) (keyword : String) (argument : Json)
    (others : List (String × Json)) (value : Json) : Option Verdict :=
  match keyword, value with
  | "type", _ => if dialect = .draft3 then none else some (judgeType dialect argument value)
  | "enum", _ => some (judgeEnum argument value)
  | "const", _ => some (require (value.equalWith false argument) s!"{argument.display} was expected")
  | "minimum", _ => some (judgeBound ⟨true, isMadeStrict "exclusiveMinimum"⟩ argument value)
  | "maximum", _ => some (judgeBound ⟨false, isMadeStrict "exclusiveMaximum"⟩ argument value)
  | "exclusiveMinimum", _ => some (judgeBound ⟨true, true⟩ argument value)
  | "exclusiveMaximum", _ => some (judgeBound ⟨false, true⟩ argument value)
  | "multipleOf", _ | "divisibleBy", _ => some (judgeMultiple argument value)
  | "minLength", .str text => some (judgeLeast lengthWords argument text.length value)
  | "maxLength", .str text => some (judgeMost lengthWords argument text.length value)
  | "pattern", .str text => some (judgePattern argument text)
  | "format", .str text => some (judgeFormat formats argument text)
  | "minItems", .arr items => some (judgeLeast lengthWords argument items.length value)
  | "maxItems", .arr items => some (judgeMost lengthWords argument items.length value)
  | "uniqueItems", .arr items =>
    some (require (!argument.isTruthy || areDistinct items)
      s!"{value.display} has non-unique elements")
  | "required", .obj object => some (judgeRequired argument object)
  | "minProperties", .obj object => some (judgeLeast memberWords argument object.length value)
  | "maxProperties", .obj object => some (judgeMost memberWords argument object.length value)
  | "dependentRequired", .obj object => some (judgeDependencies argument object)
  | _, _ => none
where
  isMadeStrict (name : String) : Bool :=
    dialect.rank ≤ 1 && ((Json.lookup name others).map Json.isTruthy).getD false

end Assertion

end ProposalCheck
