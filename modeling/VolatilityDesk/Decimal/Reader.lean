import VolatilityDesk.Decimal.Binary64
import VolatilityDesk.Text.Blank
import VolatilityDesk.Text.Digit
/-!
# Reading decimal text

A decimal is a sign, digits with at most one point, and an optional power of ten; the words
`inf`, `infinity` and `nan` stand for the other doubles in any letter case. `Decimal.parse?` reads
exactly that grammar. Two conventions on top of it say what else may stand around and between the
digits: `floatOfText?` and `intOfText?` take the digits of every script and underscores between
digits, `looseFloat?` and `looseInt?` take plain digits and are freer about underscores and
trailing zeros.
-/

namespace VolatilityDesk.Decimal

/-- The whole number written by decimal digits. -/
def natOfDigits (digits : List Char) : Nat :=
  digits.foldl (fun n c => 10 * n + (c.toNat - 0x30)) 0

/-- The double nearest to `± digits * 10 ^ exponent`. Beyond three hundred places on either side
nothing but an infinity or a zero is near, so no large power is ever computed. -/
def value (negative : Bool) (digits : Nat) (exponent : Int) : Float :=
  let magnitude := exponent + (Nat.log2 digits : Int) / 3
  if digits = 0 then Binary64.nearest negative 0 1
  else if 400 < exponent then Binary64.infinity negative
  else if magnitude < -400 then Binary64.nearest negative 0 1
  else Binary64.nearest negative (digits * Nat.pow 10 exponent.toNat) (Nat.pow 10 (-exponent).toNat)

/-- Splits off a leading sign; the flag says that it is a minus. -/
def splitSign : List Char → Bool × List Char
  | '-' :: rest => (true, rest)
  | '+' :: rest => (false, rest)
  | s => (false, s)

/-- The power of ten behind the digits: nothing, or `e` with a sign and digits. -/
def exponentPart? : List Char → Option Int
  | [] => some 0
  | e :: rest =>
    if e = 'e' ∨ e = 'E' then
      let (negative, digits) := splitSign rest
      if digits.isEmpty ∨ digits.any (!·.isDigit) then none
      else
        let n : Int := natOfDigits digits
        some (if negative then -n else n)
    else none

/-- Digits with at most one point, at least one of them a digit, then the power of ten. -/
def magnitude? (s : List Char) : Option (Nat × Int) :=
  let before := s.takeWhile Char.isDigit
  let rest := s.dropWhile Char.isDigit
  let (behind, rest) := match rest with
    | '.' :: rest => (rest.takeWhile Char.isDigit, rest.dropWhile Char.isDigit)
    | rest => ([], rest)
  if before.isEmpty ∧ behind.isEmpty then none
  else (exponentPart? rest).map fun power =>
    (natOfDigits (before ++ behind), power - behind.length)

/-- Reads a decimal or one of the words for the doubles that are not finite. -/
def parse? (s : List Char) : Option Float :=
  let (negative, rest) := splitSign s
  let word := String.ofList (rest.map Char.toLower)
  if word = "inf" ∨ word = "infinity" then some (Binary64.infinity negative)
  else if word = "nan" then some Binary64.notANumber
  else (magnitude? rest).map fun (digits, power) => value negative digits power

/-- Every digit of any script as a plain digit, other characters as they are. -/
def plainDigits (s : List Char) : List Char :=
  s.map fun c => ((Text.digitValue? c).map Text.digitChar).getD c

/-- Removes underscores that stand between two digits; `none` when one stands elsewhere. The first
argument says whether a digit stands before the list. -/
def joinDigits? : Bool → List Char → Option (List Char)
  | _, [] => some []
  | afterDigit, '_' :: rest =>
    match afterDigit, rest with
    | true, next :: _ => if next.isDigit then joinDigits? false rest else none
    | _, _ => none
  | _, c :: rest => (joinDigits? c.isDigit rest).map (c :: ·)

/-- A double written with digits of any script, white space around it and underscores between
digits. -/
def floatOfText? (s : String) : Option Float := do
  parse? (← joinDigits? false (plainDigits (Text.trimWhile Text.isWhiteSpace s.toList)))

/-- No whole number of more digits is read from text. -/
def digitLimit : Nat := 4300

/-- A whole number written with digits of any script, white space around it, a sign and underscores
between digits. -/
def intOfText? (s : String) : Option Int := do
  let text := plainDigits (Text.trimWhile Text.isWhiteSpace s.toList)
  let (negative, rest) := splitSign text
  let digits ← joinDigits? false rest
  if digits.isEmpty || digits.any (!·.isDigit) || digitLimit < digits.length then none
  else
    let n : Int := natOfDigits digits
    some (if negative then -n else n)

/-- Drops all underscores; `none` when one stands first or last or next to another. -/
def dropUnderscores? (s : List Char) : Option (List Char) :=
  let doubled := (s.zip (s.drop 1)).any fun (a, b) => a == '_' && b == '_'
  if s.head? = some '_' ∨ s.getLast? = some '_' ∨ doubled then none
  else some (s.filter (· ≠ '_'))

/-- A double in plain digits: with white space around it, or with single underscores inside. -/
def looseFloat? (s : String) : Option Float :=
  (parse? (Text.trimWhile Text.isWhiteSpace s.toList)).or
    ((dropUnderscores? s.toList).bind parse?)

/-- Drops zeros and underscores before the first digit that counts, keeping one zero when the
number is nothing else. A leading minus stops the search, any other first character fails. -/
def dropLeadingZeros? (s : List Char) : Option (List Char) :=
  match s with
  | '-' :: _ => some s
  | '0' :: rest =>
    let skipped := rest.takeWhile fun c => c = '0' || c = '_'
    match rest.dropWhile fun c => c = '0' || c = '_' with
    | [] => some [(skipped.getLast?).getD '0']
    | c :: more =>
      if c = '.' then some ((skipped.getLast?).getD '0' :: c :: more)
      else if c.isDigit then some (c :: more) else none
  | c :: _ => if c.isDigit then some s else none
  | [] => none

/-- Drops a point that only zeros follow. -/
def dropZeroFraction (s : List Char) : List Char :=
  let before := s.takeWhile (· ≠ '.')
  match s.dropWhile (· ≠ '.') with
  | _ :: zeros => if zeros.all (· = '0') then before else s
  | [] => s

/-- Digits without a leading zero, or zero alone. -/
def canonicalNat? (s : List Char) : Option Nat :=
  match s with
  | ['0'] => some 0
  | '0' :: _ => none
  | [] => none
  | _ => if s.all Char.isDigit then some (natOfDigits s) else none

/-- How reading a whole number fails. -/
inductive IntFault where
  | malformed
  | tooLong

/-- A whole number in plain digits: white space around it, zeros in front, a fraction of zeros
and single underscores are accepted. -/
def looseInt (s : String) : Except IntFault Int :=
  let parsed : Option Int := do
    let text := Text.trimWhile Text.isWhiteSpace s.toList
    let text ← match text with
      | '+' :: rest => if rest.head? = some '-' then none else some rest
      | _ => some text
    let digits ← dropUnderscores? (dropZeroFraction (← dropLeadingZeros? text))
    match digits with
    | '-' :: rest => (canonicalNat? rest).map fun n => -(n : Int)
    | _ => (canonicalNat? digits).map fun n => (n : Int)
  if digitLimit < s.utf8ByteSize then .error .tooLong
  else match parsed with
    | some n => .ok n
    | none => .error .malformed

end VolatilityDesk.Decimal
