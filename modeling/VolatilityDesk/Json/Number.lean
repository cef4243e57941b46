import VolatilityDesk.Decimal.Reader
import VolatilityDesk.Json
/-!
# What a number stands for

A number without a point and a power of ten is whole and has any size; every other number is the
nearest double.
-/

namespace VolatilityDesk.Json

/-- The value of a number: whole if its text has neither a point nor an exponent. -/
inductive NumberValue where
  | whole (value : Int)
  | float (value : Float)

/-- Digits, with or without a minus. -/
def wholeValue? (literal : List Char) : Option Int :=
  let (negative, digits) := match literal with
    | '-' :: rest => (true, rest)
    | _ => (false, literal)
  if digits.isEmpty ∨ digits.any (!·.isDigit) then none
  else
    let n : Int := Decimal.natOfDigits digits
    some (if negative then -n else n)

/-- The value of a number's text. -/
def numberValue (literal : String) : NumberValue :=
  match wholeValue? literal.toList with
  | some n => .whole n
  | none => .float ((Decimal.parse? literal.toList).getD Binary64.notANumber)

end VolatilityDesk.Json
