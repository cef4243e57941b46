import VolatilityDesk.Time.Calendar
import VolatilityDesk.Time.Fault
/-!
# Times

A timestamp is what a wall clock shows, counted in microseconds since the start of year one, with
the clock's offset from universal time where it is known. Two timestamps with offsets denote the
same instant when their universal times agree, whatever their clocks show.
-/

namespace VolatilityDesk

namespace Micros

/-- The microseconds of a second. -/
def perSecond : Int := 1000000

/-- The microseconds of a minute. -/
def perMinute : Int := 60 * perSecond

/-- The microseconds of an hour. -/
def perHour : Int := 60 * perMinute

/-- The microseconds of a day. -/
def perDay : Int := 24 * perHour

end Micros

/-- A wall clock's reading with its offset east of universal time, both in microseconds. -/
structure Timestamp where
  wall : Int
  offset : Option Int
  deriving DecidableEq, Repr

namespace Timestamp

/-- The years 1 to 9999, in microseconds. -/
def limit : Int := 3652059 * Micros.perDay

/-- The wall clock shows a time in the years 1 to 9999. -/
def inRange (wall : Int) : Bool := 0 ≤ wall && wall < limit

/-- The date on the wall clock. -/
def date (t : Timestamp) : Date := ⟨t.wall / Micros.perDay⟩

/-- The microseconds since midnight on the wall clock. -/
def timeOfDay (t : Timestamp) : Int := t.wall % Micros.perDay

/-- The hour on the wall clock. -/
def hour (t : Timestamp) : Int := t.timeOfDay / Micros.perHour

/-- The minute on the wall clock. -/
def minute (t : Timestamp) : Int := t.timeOfDay % Micros.perHour / Micros.perMinute

/-- The second on the wall clock. -/
def second (t : Timestamp) : Int := t.timeOfDay % Micros.perMinute / Micros.perSecond

/-- The microseconds of the second on the wall clock. -/
def fraction (t : Timestamp) : Int := t.timeOfDay % Micros.perSecond

/-- The universal time of the timestamp; a clock without an offset shows universal time. -/
def instant (t : Timestamp) : Int := t.wall - t.offset.getD 0

/-- The timestamp of an instant on a clock that shows universal time. -/
def ofInstant (instant : Int) : Timestamp := ⟨instant, some 0⟩

/-- The same instant on a clock that shows universal time. -/
def toUniversal (t : Timestamp) : Except TimeFault Timestamp :=
  if inRange t.instant then .ok (ofInstant t.instant) else .error .outOfRange

/-- Takes a clock without an offset to show universal time. -/
def assumeUniversal (t : Timestamp) : Timestamp := { t with offset := some (t.offset.getD 0) }

/-- The first timestamp is earlier: instants are compared when both offsets are known, and wall
clocks when neither is. -/
def isBefore (s t : Timestamp) : Except TimeFault Bool :=
  match s.offset, t.offset with
  | some a, some b => .ok (s.wall - a < t.wall - b)
  | none, none => .ok (s.wall < t.wall)
  | _, _ => .error .incomparable

/-- The latest of times, of equal ones the first. -/
def latest : List Timestamp → Except TimeFault (Option Timestamp)
  | [] => .ok none
  | t :: rest => some <$> rest.foldlM (fun best t => do
      return if ← best.isBefore t then t else best) t

/-! ### Text -/

open Date (padded)

/-- Hours and minutes of an offset, then seconds and microseconds where they are not zero. -/
def offsetText (offset : Int) : String :=
  let size : Int := offset.natAbs
  let seconds := size % Micros.perMinute / Micros.perSecond
  let rest := size % Micros.perSecond
  (if offset < 0 then "-" else "+") ++ padded 2 (size / Micros.perHour) ++ ":"
    ++ padded 2 (size % Micros.perHour / Micros.perMinute)
    ++ (if seconds = 0 ∧ rest = 0 then "" else ":" ++ padded 2 seconds)
    ++ (if rest = 0 then "" else "." ++ padded 6 rest)

/-- Hours and minutes. -/
def minuteText (t : Timestamp) : String := padded 2 t.hour ++ ":" ++ padded 2 t.minute

/-- Hours, minutes and seconds. -/
def secondText (t : Timestamp) : String := t.minuteText ++ ":" ++ padded 2 t.second

/-- Date and time joined by the letter T, microseconds where they are not zero, and the offset. -/
def text (t : Timestamp) : String :=
  t.date.text ++ "T" ++ t.secondText
    ++ (if t.fraction = 0 then "" else "." ++ padded 6 t.fraction)
    ++ (t.offset.map offsetText).getD ""

/-- The date with its year as short as it is. -/
def shortDateText (t : Timestamp) : String :=
  let c := t.date.civil
  toString c.year ++ "-" ++ padded 2 c.month ++ "-" ++ padded 2 c.day

/-- The name of the clock: universal time, an offset from it, or nothing. -/
def clockName (t : Timestamp) : String :=
  match t.offset with
  | none => ""
  | some 0 => "UTC"
  | some offset => "UTC" ++ offsetText offset

/-- The digits of date and time down to the microsecond. -/
def stamp (t : Timestamp) : String :=
  let c := t.date.civil
  toString c.year ++ padded 2 c.month ++ padded 2 c.day ++ padded 2 t.hour ++ padded 2 t.minute
    ++ padded 2 t.second ++ padded 6 t.fraction

/-- Date, hours and minutes. -/
def dayMinuteText (t : Timestamp) : String := t.shortDateText ++ " " ++ t.minuteText

end Timestamp

end VolatilityDesk
