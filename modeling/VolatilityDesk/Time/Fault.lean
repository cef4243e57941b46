import VolatilityDesk.Text.Quoted
/-!
# What can be wrong with a time

The causes for which a time cannot be read, shifted or compared, and their messages.
-/

namespace VolatilityDesk

/-- A whole number of microseconds, as its days, seconds and microseconds. -/
def spanText (micros : Int) : String :=
  let days := micros / 86400000000
  let seconds := micros % 86400000000 / 1000000
  let rest := micros % 1000000
  let named (name : String) (n : Int) := if n = 0 then [] else [s!"{name}={n}"]
  let parts := named "days" days ++ named "seconds" seconds ++ named "microseconds" rest
  "datetime.timedelta(" ++ (if parts.isEmpty then "0" else ", ".intercalate parts) ++ ")"

/-- Why there is no such time. -/
inductive TimeFault where
  /-- The text is no date and time. -/
  | notIso (text : String)
  | yearRange (year : Int)
  | monthRange
  | dayRange
  | hourRange
  | minuteRange
  | secondRange
  /-- An offset of a day or more from universal time, in microseconds. -/
  | offsetRange (micros : Int)
  /-- A result outside the years 1 to 9999. -/
  | outOfRange
  /-- A time with an offset was compared with one without. -/
  | incomparable
  /-- A span of more days than a span can have. -/
  | spanDays (days : Int)
  /-- A span of more days than a machine number holds. -/
  | spanTooLong
  deriving DecidableEq, Repr

/-- What is said about the fault. -/
def TimeFault.message : TimeFault → String
  | notIso text => "Invalid isoformat string: " ++ Text.quoted text
  | yearRange year => s!"year {year} is out of range"
  | monthRange => "month must be in 1..12"
  | dayRange => "day is out of range for month"
  | hourRange => "hour must be in 0..23"
  | minuteRange => "minute must be in 0..59"
  | secondRange => "second must be in 0..59"
  | offsetRange micros =>
    "offset must be a timedelta strictly between -timedelta(hours=24) and timedelta(hours=24), not "
      ++ spanText micros ++ "."
  | outOfRange => "date value out of range"
  | incomparable => "can't compare offset-naive and offset-aware datetimes"
  | spanDays days => s!"days={days}; must have magnitude <= 999999999"
  | spanTooLong => "Python int too large to convert to C int"

end VolatilityDesk
