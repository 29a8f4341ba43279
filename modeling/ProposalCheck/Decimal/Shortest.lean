import ProposalCheck.Decimal.Dyadic

/-!
# The shortest decimal of a float

A float is written with the fewest significant digits that read back to it; among decimals with that
many digits the nearest to its value is taken. The search is exact: it compares natural numbers and
uses no float arithmetic.

## Main definitions

* `Decimal`: digits and a power of ten
* `Decimal.shortest`: the shortest decimal that reads back to a positive float
* `DecimalNotation`: the decisions of an output format
* `floatText`: a float as text in a notation
-/

namespace ProposalCheck

/-- The number `digits * 10 ^ exponent`. -/
structure Decimal where
  digits : Nat
  exponent : Int
  deriving DecidableEq, Repr

namespace Decimal

/-- The interval of reals that round to the float `m * 2 ^ q`, in units of `2 ^ (q - 2)`: its two
ends. The gap below a power of two is half as wide. -/
def roundingInterval (m : Nat) (q : Int) : Nat × Nat :=
  let narrow := m = twoTo 52 ∧ -1074 < q
  (if narrow then 4 * m - 1 else 4 * m - 2, 4 * m + 2)

/-- Does `candidate * 10 ^ e` read back as the float `m * 2 ^ q`? The ends of the interval count if
`m` is even. -/
def readsBack (m : Nat) (q : Int) (candidate : Nat) (e : Int) : Bool :=
  let (low, high) := roundingInterval m q
  let unit := q - 2
  let left := candidate * tenTo e.toNat * twoTo (-unit).toNat
  let scale := twoTo unit.toNat * tenTo (-e).toNat
  if m % 2 = 0 then low * scale ≤ left && left ≤ high * scale
  else low * scale < left && left < high * scale

/-- The integer part of `m * 2 ^ q / 10 ^ e`, with numerator and denominator of the quotient. -/
def quotient (m : Nat) (q e : Int) : Nat × Nat × Nat :=
  let numerator := m * twoTo q.toNat * tenTo (-e).toNat
  let denominator := twoTo (-q).toNat * tenTo e.toNat
  (numerator / denominator, numerator, denominator)

/-- The neighbour of `m * 2 ^ q` on the grid of multiples of `10 ^ e` that reads back, if one does;
of two, the nearer, and the even one of two equally near. -/
def onGrid? (m : Nat) (q e : Int) : Option Nat :=
  let (below, numerator, denominator) := quotient m q e
  let above := below + 1
  match readsBack m q below e && below ≠ 0, readsBack m q above e with
  | true, true =>
    let twice := 2 * numerator
    let middle := (below + above) * denominator
    if twice < middle then some below
    else if middle < twice then some above
    else if below % 2 = 0 then some below else some above
  | true, false => some below
  | false, true => some above
  | false, false => none

/-- Moves trailing zeros of the digits into the exponent; at most `fuel` of them. -/
def stripZeros : Nat → Decimal → Decimal
  | 0, d => d
  | fuel + 1, d =>
    if d.digits ≠ 0 ∧ d.digits % 10 = 0 then stripZeros fuel ⟨d.digits / 10, d.exponent + 1⟩ else d

/-- The least `k` with `m * 2 ^ q < 10 ^ k`, searched upwards from `k`. -/
def scaleFrom (m : Nat) (q : Int) : Nat → Int → Int
  | 0, k => k
  | fuel + 1, k => if (quotient m q k).1 = 0 then k else scaleFrom m q fuel (k + 1)

/-- The shortest decimal that reads back to the positive float `m * 2 ^ q`. -/
def shortest (m : Nat) (q : Int) : Decimal :=
  let estimate := ((m.log2 : Int) + q) * 30103 / 100000 - 1
  let scale := scaleFrom m q 8 estimate
  let grids := (List.range 17).map fun (n : Nat) => scale - ((n : Int) + 1)
  match grids.findSome? fun e => (onGrid? m q e).map fun digits => (⟨digits, e⟩ : Decimal) with
  | some d => stripZeros 20 d
  | none => ⟨(quotient m q (scale - 17)).1, scale - 17⟩

end Decimal

/-- The decisions of a format for floats. -/
structure DecimalNotation where
  /-- Positional notation is used while the power of ten of the first digit is at least this, -/
  lowest : Int
  /-- and below this. -/
  limit : Int
  /-- The least number of digits of an exponent. -/
  exponentWidth : Nat
  infinity : String
  notANumber : String

namespace DecimalNotation

/-- Natural number in decimal digits. -/
def digitsOf (n : Nat) : List Char := Nat.toDigits 10 n

/-- Lays out digits and exponent. -/
def layout (format : DecimalNotation) (d : Decimal) : String :=
  let digits := digitsOf d.digits
  let count : Int := digits.length
  let first := count + d.exponent - 1
  -- a number that is neither very small nor very large is written without an exponent
  if format.lowest ≤ first ∧ first < format.limit then
    if 0 ≤ d.exponent then String.ofList (digits ++ List.replicate d.exponent.toNat '0') ++ ".0"
    else if 0 ≤ first then
      String.ofList (digits.take (first + 1).toNat ++ '.' :: digits.drop (first + 1).toNat)
    else "0." ++ String.ofList (List.replicate (-first - 1).toNat '0' ++ digits)
  else
    let mantissa := match digits with
      | [] => []
      | [c] => [c]
      | c :: rest => c :: '.' :: rest
    let magnitude := digitsOf first.natAbs
    let padding := List.replicate (format.exponentWidth - magnitude.length) '0'
    String.ofList (mantissa ++ 'e' :: (if first < 0 then '-' else '+') :: padding ++ magnitude)

end DecimalNotation

/-- A float as text in a notation. -/
def floatText (format : DecimalNotation) (x : Float) : String :=
  let negative := x.toBits.toNat / twoTo 63 = 1
  match Dyadic.ofFloat? x with
  | none =>
    if x.toBits.toNat % twoTo 52 ≠ 0 then format.notANumber
    else (if negative then "-" else "") ++ format.infinity
  | some value =>
    let text := if value.mantissa = 0 then format.layout ⟨0, 0⟩
      else format.layout (Decimal.shortest value.mantissa.natAbs value.exponent)
    (if negative then "-" else "") ++ text

/-- How floats are written in messages: positionally from 0.0001 up to 16 digits, otherwise with an
exponent of at least two digits. -/
def messageNotation : DecimalNotation := ⟨-4, 16, 2, "inf", "nan"⟩

end ProposalCheck
