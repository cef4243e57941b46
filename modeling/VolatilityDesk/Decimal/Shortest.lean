import VolatilityDesk.Decimal.Binary64
/-!
# The fewest digits that read back

Among the decimals that round to a given double, `Shortest.digits` picks one with the fewest
digits and of those the nearest to the double. A double stands for every real in the interval
between the midpoints to its two neighbours, with the ends when its mantissa is even. For one
digit, two digits and so on, the two decimals around the double on that grid are tested against
the interval: if any decimal of the grid lies in it, one of these two does.
-/

namespace VolatilityDesk

/-- A positive decimal `digits * 10 ^ exponent`. -/
structure DecimalDigits where
  digits : Nat
  exponent : Int
  deriving DecidableEq, Repr

namespace Shortest

/-- The interval of reals that round to `mantissa * 2 ^ exponent`, in units of a quarter of the
last place. -/
structure Interval where
  low : Nat
  middle : Nat
  high : Nat
  /-- The power of two of one unit. -/
  exponent : Int
  closed : Bool

/-- Below a power of two the doubles lie twice as dense, so the lower midpoint is nearer. -/
def interval (mantissa : Nat) (exponent : Int) : Interval :=
  let crossing := mantissa = Binary64.hidden ∧ Binary64.leastExponent < exponent
  { low := if crossing then 4 * mantissa - 1 else 4 * mantissa - 2
    middle := 4 * mantissa
    high := 4 * mantissa + 2
    exponent := exponent - 2
    closed := mantissa % 2 = 0 }

/-- `units * 2 ^ binary` and `count * 10 ^ decimal` over one common denominator. -/
def common (units : Nat) (binary : Int) (count : Nat) (decimal : Int) : Nat × Nat :=
  (units * Nat.pow 2 binary.toNat * Nat.pow 10 (-decimal).toNat,
   count * Nat.pow 10 decimal.toNat * Nat.pow 2 (-binary).toNat)

/-- The interval holds `count * 10 ^ decimal`. -/
def Interval.holds (i : Interval) (count : Nat) (decimal : Int) : Bool :=
  let (low, value) := common i.low i.exponent count decimal
  let (high, _) := common i.high i.exponent count decimal
  if i.closed then decide (low ≤ value ∧ value ≤ high) else decide (low < value ∧ value < high)

/-- The whole part of the middle of the interval on the grid of `10 ^ decimal`. -/
def Interval.below (i : Interval) (decimal : Int) : Nat :=
  let (middle, unit) := common i.middle i.exponent 1 decimal
  middle / unit

/-- Twice the middle of the interval is not below the sum of `count` and its successor on the
grid of `10 ^ decimal`, so the successor is at least as near. -/
def Interval.upperNearer (i : Interval) (count : Nat) (decimal : Int) : Bool :=
  let (twice, sum) := common (2 * i.middle) i.exponent (2 * count + 1) decimal
  twice > sum ∨ (twice = sum ∧ count % 2 = 1)

/-- The decimal of the grid of `10 ^ decimal` that lies in the interval and is nearest to its
middle. -/
def Interval.onGrid? (i : Interval) (decimal : Int) : Option Nat :=
  let count := i.below decimal
  match i.holds count decimal, i.holds (count + 1) decimal with
  | true, true => some (if i.upperNearer count decimal then count + 1 else count)
  | true, false => some count
  | false, true => some (count + 1)
  | false, false => none

/-- Moves factors of ten from the digits to the exponent. The first argument bounds the number
of steps. -/
def stripZeros : Nat → Nat → Int → DecimalDigits
  | 0, digits, exponent => ⟨digits, exponent⟩
  | bound + 1, digits, exponent =>
    if digits ≠ 0 ∧ digits % 10 = 0 then stripZeros bound (digits / 10) (exponent + 1)
    else ⟨digits, exponent⟩

/-- The number of decimal places before the point: `10 ^ (magnitude - 1) ≤ value < 10 ^ magnitude`.
The guess from the binary length is at most one off. -/
def magnitude (mantissa : Nat) (exponent : Int) : Int :=
  let guess : Int := Int.fdiv (((Nat.log2 mantissa : Int) + exponent) * 30103) 100000 + 1
  let (value, bound) := common mantissa exponent 1 guess
  if bound ≤ value then guess + 1
  else
    let (value, bound) := common mantissa exponent 1 (guess - 1)
    if value < bound then guess - 1 else guess

/-- The first grid that meets the interval, from `places` digits on. -/
def search (i : Interval) (magnitude : Int) : Nat → Nat → DecimalDigits
  | 0, places => ⟨i.below (magnitude - places), magnitude - places⟩
  | more + 1, places =>
    let decimal := magnitude - places
    match i.onGrid? decimal with
    | some count => stripZeros 20 count decimal
    | none => search i magnitude more (places + 1)

/-- The shortest decimal that rounds to `mantissa * 2 ^ exponent`, for a positive mantissa. No
double needs more than seventeen digits. -/
def digits (mantissa : Nat) (exponent : Int) : DecimalDigits :=
  search (interval mantissa exponent) (magnitude mantissa exponent) 17 1

end Shortest

/-- The words for the doubles that are not finite. -/
structure NumberWords where
  nan : String
  infinity : String

/-- The words used in messages and reports. -/
def NumberWords.lower : NumberWords := ⟨"nan", "inf"⟩

/-- The words used in interchange text. -/
def NumberWords.upper : NumberWords := ⟨"NaN", "Infinity"⟩

namespace DecimalDigits

/-- Zeros, as text. -/
def zeros (n : Nat) : String := String.ofList (List.replicate n '0')

/-- The exponent of the leading digit. -/
def leading (d : DecimalDigits) : Int := d.exponent + (toString d.digits).length - 1

/-- One digit before the point, the others behind it, and an exponent of at least two digits. -/
def scientific (d : DecimalDigits) : String :=
  let text := (toString d.digits).toList
  let head := String.ofList (text.take 1)
  let tail := String.ofList (text.drop 1)
  let power := toString d.leading.natAbs
  let power := if power.length < 2 then "0" ++ power else power
  (if tail.isEmpty then head else head ++ "." ++ tail)
    ++ (if d.leading < 0 then "e-" else "e+") ++ power

/-- All digits around the point, with at least one digit on either side. -/
def positional (d : DecimalDigits) : String :=
  let text := toString d.digits
  if 0 ≤ d.exponent then text ++ zeros d.exponent.toNat ++ ".0"
  else
    let behind := (-d.exponent).toNat
    if behind < text.length then
      let before := text.length - behind
      String.ofList (text.toList.take before) ++ "." ++ String.ofList (text.toList.drop before)
    else "0." ++ zeros (behind - text.length) ++ text

/-- Positional from one ten-thousandth up to below ten to the sixteenth, else scientific. -/
def text (d : DecimalDigits) : String :=
  if d.leading < -4 ∨ 16 ≤ d.leading then d.scientific else d.positional

end DecimalDigits

/-- The text of a double: the fewest digits that read back. -/
def Shortest.text (words : NumberWords) (x : Float) : String :=
  match Binary64.ofFloat x with
  | .nan => words.nan
  | .infinite negative => if negative then "-" ++ words.infinity else words.infinity
  | .finite negative mantissa exponent =>
    let magnitude := if mantissa = 0 then "0.0" else (Shortest.digits mantissa exponent).text
    if negative then "-" ++ magnitude else magnitude

end VolatilityDesk
