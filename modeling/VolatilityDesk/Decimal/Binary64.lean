/-!
# Doubles as exact numbers

A double is a sign, a whole mantissa and a power of two. `Binary64.ofFloat` reads that exact
value off the bits, and `Binary64.nearest` goes back from a fraction to the nearest double. All
exact text and all exact rounding of this library is done between the two, in whole numbers.
-/

namespace VolatilityDesk

/-- Quotient of two naturals rounded to the nearest natural, a half to the even neighbour. -/
def roundDiv (num den : Nat) : Nat :=
  let quotient := num / den
  let rest := num % den
  if 2 * rest > den ∨ (2 * rest = den ∧ quotient % 2 = 1) then quotient + 1 else quotient

/-- The exact value of a double: `± mantissa * 2 ^ exponent`, an infinity or not a number. -/
inductive Binary64 where
  | nan
  | infinite (negative : Bool)
  | finite (negative : Bool) (mantissa : Nat) (exponent : Int)
  deriving DecidableEq, Repr

namespace Binary64

/-- The exponent of the smallest positive double. -/
def leastExponent : Int := -1074

/-- Two to the power of 52: the mantissa of every normal double lies in `[hidden, 2 * hidden)`. -/
def hidden : Nat := 4503599627370496

/-- Two to the power of 63: the bit of the sign. -/
def signBit : Nat := 9223372036854775808

/-- The exact value stored in the 64 bits of a double. -/
def ofBits (bits : Nat) : Binary64 :=
  let negative := bits / signBit % 2 == 1
  let biased := bits / hidden % 2048
  let fraction := bits % hidden
  if biased = 2047 then
    if fraction = 0 then .infinite negative else .nan
  else if biased = 0 then .finite negative fraction leastExponent
  else .finite negative (hidden + fraction) ((biased : Int) - 1075)

/-- What the bits of a double say. -/
def ofFloat (x : Float) : Binary64 := ofBits x.toBits.toNat

/-- The numerator and denominator of `mantissa * 2 ^ exponent`. -/
def fraction (mantissa : Nat) (exponent : Int) : Nat × Nat :=
  (mantissa * Nat.pow 2 exponent.toNat, Nat.pow 2 (-exponent).toNat)

/-- The exponent at which `num / den` has a mantissa of 53 binary places, never below the least
exponent. -/
def exponentOf (num den : Nat) : Int :=
  let guess : Int := (Nat.log2 num : Int) - (Nat.log2 den : Int) - 52
  let short := num * Nat.pow 2 (-guess).toNat < den * Nat.pow 2 guess.toNat * hidden
  max (if short then guess - 1 else guess) leastExponent

/-- The bits of the positive double nearest to `num / den`, a tie to the even mantissa. `none`
when that lies beyond the largest double. -/
def nearestBits? (num den : Nat) : Option Nat :=
  if num = 0 then some 0
  else
    let exponent := exponentOf num den
    let mantissa := roundDiv (num * Nat.pow 2 (-exponent).toNat) (den * Nat.pow 2 exponent.toNat)
    let bits := (exponent - leastExponent).toNat * hidden + mantissa
    if bits < 2047 * hidden then some bits else none

/-- The double nearest to `± num / den`, `none` when its magnitude overflows. -/
def nearest? (negative : Bool) (num den : Nat) : Option Float :=
  (nearestBits? num den).map fun bits =>
    Float.ofBits (UInt64.ofNat (if negative then signBit + bits else bits))

/-- The infinity of a sign. -/
def infinity (negative : Bool) : Float :=
  if negative then -1.0 / 0.0 else 1.0 / 0.0

/-- The double without a value. -/
def notANumber : Float := 0.0 / 0.0

/-- The double nearest to `± num / den`, an infinity when its magnitude overflows. -/
def nearest (negative : Bool) (num den : Nat) : Float :=
  (nearest? negative num den).getD (infinity negative)

/-- The double nearest to a whole number, `none` when its magnitude overflows. -/
def ofInt? (n : Int) : Option Float := nearest? (n < 0) n.natAbs 1

/-- The value rounded to `places` decimal places, a half to the even neighbour, as the nearest
double. Infinities, not a number and the sign of zero are kept. -/
def roundTo (places : Nat) (x : Float) : Float :=
  match ofFloat x with
  | .finite negative mantissa exponent =>
    let (num, den) := fraction mantissa exponent
    nearest negative (roundDiv (num * Nat.pow 10 places) den) (Nat.pow 10 places)
  | _ => x

/-- The largest whole number that is not above the value, `none` without a finite value. -/
def floor? (x : Float) : Option Int :=
  match ofFloat x with
  | .finite negative mantissa exponent =>
    let (num, den) := fraction mantissa exponent
    let signed : Int := if negative then -(num : Int) else num
    some (Int.fdiv signed den)
  | _ => none

end Binary64

end VolatilityDesk
