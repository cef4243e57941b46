import VolatilityDesk.Decimal.Reader
import VolatilityDesk.Text.Quoted
import VolatilityDesk.Text.Segments
import VolatilityDesk.Time.Timestamp
import VolatilityDesk.Word
/-!
# Clock times

Times of day, to the microsecond. Those at which a session opens and closes are written as hours and
minutes with a colon between them.
-/

namespace VolatilityDesk

/-- A time of day. -/
structure Clock where
  hour : Nat
  minute : Nat
  second : Nat := 0
  /-- The microseconds of the second. -/
  fraction : Nat := 0
  hour_lt : hour < 24 := by decide
  minute_lt : minute < 60 := by decide
  second_lt : second < 60 := by decide
  fraction_lt : fraction < 1000000 := by decide

/-- Why a text is no clock time. -/
inductive ClockFault where
  | malformed (text : String)
  /-- A number beyond the machine's long word. -/
  | beyondLong
  /-- A number beyond the machine's word, on either side. -/
  | beyondWord (negative : Bool)
  deriving DecidableEq, Repr

/-- What is said about the fault. -/
def ClockFault.message : ClockFault → String
  | malformed text => "expected HH:MM, got " ++ Text.quoted text
  | beyondLong => "Python int too large to convert to C long"
  | beyondWord false => "signed integer is greater than maximum"
  | beyondWord true => "signed integer is less than minimum"

namespace Clock

/-- The microseconds from midnight to the clock time. -/
def micros (c : Clock) : Int :=
  c.hour * Micros.perHour + c.minute * Micros.perMinute + c.second * Micros.perSecond + c.fraction

/-- Every clock time is at midnight or later, and before the next midnight. -/
theorem micros_bounds (c : Clock) : 0 ≤ c.micros ∧ c.micros < Micros.perDay := by
  have hour := c.hour_lt
  have minute := c.minute_lt
  have second := c.second_lt
  have fraction := c.fraction_lt
  unfold micros Micros.perDay Micros.perHour Micros.perMinute Micros.perSecond
  omega

/-- Hours, minutes and seconds. -/
def text (c : Clock) : String :=
  Date.padded 2 c.hour ++ ":" ++ Date.padded 2 c.minute ++ ":" ++ Date.padded 2 c.second

/-- A number that the machine's word holds. -/
def word (n : Int) : Except ClockFault Int :=
  if !Word.holds64 n then .error .beyondLong
  else if !Word.holds32 n then .error (.beyondWord (n < 0))
  else .ok n

/-- Reads hours and minutes divided by one colon. Both must be whole numbers before either is
tested for its range. -/
def parse (text : String) : Except ClockFault Clock :=
  match Text.segments ':' (Text.trimWhile Text.isSpace text.toList) with
  | [hour, minute] =>
    match Decimal.intOfText? (String.ofList hour), Decimal.intOfText? (String.ofList minute) with
    | some hour, some minute => do
      let hour ← word hour
      let minute ← word minute
      if h : hour.toNat < 24 ∧ minute.toNat < 60 then
        if 0 ≤ hour ∧ 0 ≤ minute then
          .ok ⟨hour.toNat, minute.toNat, 0, 0, h.1, h.2, Nat.succ_pos _, Nat.succ_pos _⟩
        else .error (.malformed text)
      else .error (.malformed text)
    | _, _ => .error (.malformed text)
  | _ => .error (.malformed text)

/-- The first clock time is earlier. -/
def isBefore (c d : Clock) : Bool := c.micros < d.micros

end Clock

end VolatilityDesk
