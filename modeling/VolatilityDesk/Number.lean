import VolatilityDesk.Decimal.Binary64
/-!
# Arithmetic of prices

Indicators, price levels, positions and daily results are computed over a type of numbers that
has the four operations, comparisons, decimal constants, and the three steps of an exchange desk:
rounding an amount to four places, taking the whole part of a quotient, and scaling by a whole
quantity. Doubles are the numbers that the desk runs on; exact numbers are another instance, on
which its laws can be stated without rounding errors.
-/

namespace VolatilityDesk

/-- Why a number has no whole part. -/
inductive WholeFault where
  | nan
  | infinite
  deriving DecidableEq, Repr

/-- Numbers that prices are computed in. -/
class Number (α : Type) extends Add α, Sub α, Mul α, Div α, Neg α, LT α, LE α, BEq α,
    OfScientific α where
  decideLT : DecidableLT α
  decideLE : DecidableLE α
  /-- A count as a number. -/
  ofCount : Nat → α
  /-- A whole quantity as a number, `none` when it is too large for one. -/
  ofInt? : Int → Option α
  /-- The nearest number of four decimal places, a half to the even neighbour. -/
  round4 : α → α
  /-- The largest whole number that is not above. -/
  whole : α → Except WholeFault Int

instance Number.instDecidableLT {α : Type} [Number α] : DecidableLT α := Number.decideLT

instance Number.instDecidableLE {α : Type} [Number α] : DecidableLE α := Number.decideLE

/-- Numbers with a square root. -/
class Root (α : Type) where
  sqrt : α → α

instance : Number Float where
  decideLT := inferInstance
  decideLE := inferInstance
  ofCount n := (Binary64.ofInt? n).getD (Binary64.infinity false)
  ofInt? := Binary64.ofInt?
  round4 := Binary64.roundTo 4
  whole x :=
    match Binary64.floor? x with
    | some n => .ok n
    | none => .error (if x == x then .infinite else .nan)

instance : Root Float where
  sqrt := Float.sqrt

namespace Number

variable {α : Type} [Number α]

/-- Differs from itself, as only a double without a value does. -/
def isNan (x : α) : Bool := !(x == x)

/-- The first unless the second is below it. -/
def least (x y : α) : α := if y < x then y else x

/-- The first unless the second is above it. -/
def greatest (x y : α) : α := if x < y then y else x

/-- The absolute value. -/
def magnitude (x : α) : α := if x < 0.0 then -x else x

end Number

end VolatilityDesk
