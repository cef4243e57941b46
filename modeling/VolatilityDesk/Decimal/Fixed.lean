import VolatilityDesk.Decimal.Shortest
/-!
# A fixed number of places

Amounts and percentages are printed with a fixed number of decimal places. The exact value of
the double is rounded to the last place, a half to the even neighbour, and the sign of the double
is kept even when all printed digits are zero.
-/

namespace VolatilityDesk

/-- How a number with fixed places is written. -/
structure FixedFormat where
  places : Nat
  /-- A plus sign stands before numbers that are not negative. -/
  plus : Bool := false
  /-- Commas divide the whole part into groups of three. -/
  grouped : Bool := false

namespace FixedFormat

/-- Two places, as in prices. -/
def cents : FixedFormat := { places := 2 }

/-- Amounts of money: two places and groups of thousands. -/
def amount : FixedFormat := { places := 2, grouped := true }

/-- A gain or a loss: an amount with its sign. -/
def signedAmount : FixedFormat := { places := 2, plus := true, grouped := true }

/-- A change in percent with its sign. -/
def signedCents : FixedFormat := { places := 2, plus := true }

/-- One place. -/
def tenths : FixedFormat := { places := 1 }

/-- No places. -/
def whole : FixedFormat := { places := 0 }

/-- Puts a comma before every full group of three digits, counted from the right. -/
def group (digits : List Char) : List Char :=
  match digits with
  | [] => []
  | c :: rest =>
    if rest.length ≠ 0 ∧ rest.length % 3 = 0 then c :: ',' :: group rest else c :: group rest

/-- The digits of a number of last places: `units / 10 ^ places`. -/
def magnitude (f : FixedFormat) (units : Nat) : String :=
  let whole := (toString (units / Nat.pow 10 f.places)).toList
  let whole := String.ofList (if f.grouped then group whole else whole)
  if f.places = 0 then whole
  else
    let behind := toString (units % Nat.pow 10 f.places)
    whole ++ "." ++ DecimalDigits.zeros (f.places - behind.length) ++ behind

/-- The sign in front of a number. -/
def sign (f : FixedFormat) (negative : Bool) : String :=
  if negative then "-" else if f.plus then "+" else ""

/-- The text of a double in this format. -/
def text (f : FixedFormat) (x : Float) : String :=
  match Binary64.ofFloat x with
  | .nan => f.sign false ++ "nan"
  | .infinite negative => f.sign negative ++ "inf"
  | .finite negative mantissa exponent =>
    let (num, den) := Binary64.fraction mantissa exponent
    f.sign negative ++ f.magnitude (roundDiv (num * Nat.pow 10 f.places) den)

/-- A share as a percentage: the double times one hundred, in this format. -/
def percent (f : FixedFormat) (x : Float) : String := f.text (x * 100.0) ++ "%"

end FixedFormat

end VolatilityDesk
