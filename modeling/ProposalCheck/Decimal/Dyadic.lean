/-!
# The exact value of a float

A finite float is an integer times a power of two. Comparing floats with integers of any size, and
asking whether one is a multiple of the other, is done on those exact values.

## Main definitions

* `twoTo`, `tenTo`: powers of two and of ten
* `Dyadic`: the number `mantissa * 2 ^ exponent`
* `Dyadic.ofFloat?`: the exact value of a finite float
* `Dyadic.compare`: the order of two exact values
* `Dyadic.divides`: is one value an integer multiple of another?
-/

namespace ProposalCheck

/-- A power of two. -/
def twoTo (exponent : Nat) : Nat := Nat.pow 2 exponent

/-- A power of ten. -/
def tenTo (exponent : Nat) : Nat := Nat.pow 10 exponent

/-- The number `mantissa * 2 ^ exponent`. -/
structure Dyadic where
  mantissa : Int
  exponent : Int
  deriving DecidableEq, Repr

namespace Dyadic

/-- An integer. -/
def ofInt (n : Int) : Dyadic := ⟨n, 0⟩

/-- The exact value of a finite float; `none` for infinities and for what is not a number. -/
def ofFloat? (x : Float) : Option Dyadic :=
  let bits := x.toBits.toNat
  let negative := bits / twoTo 63 == 1
  let biased : Nat := bits / twoTo 52 % twoTo 11
  let fraction : Nat := bits % twoTo 52
  let signed : Nat → Int := fun m => if negative then -(m : Int) else m
  if biased = 2047 then none
  else if biased = 0 then some ⟨signed fraction, -1074⟩
  else some ⟨signed (fraction + twoTo 52), (biased : Int) - 1075⟩

/-- The mantissas of two values over the smaller of their exponents. -/
def align (a b : Dyadic) : Int × Int :=
  let low := min a.exponent b.exponent
  (a.mantissa * twoTo (a.exponent - low).toNat, b.mantissa * twoTo (b.exponent - low).toNat)

/-- The order of two values. -/
def compare (a b : Dyadic) : Ordering :=
  let (x, y) := align a b
  Ord.compare x y

/-- Is the value an integer? -/
def isInteger (a : Dyadic) : Bool :=
  0 ≤ a.exponent || a.mantissa % twoTo (-a.exponent).toNat = 0

/-- Is `b` an integer multiple of `a`? -/
def divides (a b : Dyadic) : Bool :=
  let (x, y) := align a b
  if x = 0 then y = 0 else y % x = 0

end Dyadic

end ProposalCheck
