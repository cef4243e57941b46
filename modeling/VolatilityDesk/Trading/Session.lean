import VolatilityDesk.Settings
import VolatilityDesk.Time.ZoneNames
import VolatilityDesk.Word
/-!
# The trading session

Trading is open on trading days from the opening, which is included, to the close, which is not,
by the clock of one zone. Within a margin before the close open positions are to be closed. All
comparisons are between wall clocks of that zone.
-/

namespace VolatilityDesk

/-- A daily session in a zone. -/
structure Session where
  start : Clock
  stop : Clock
  zone : Zone
  /-- Saturdays and Sundays are trading days too. -/
  weekends : Bool
  /-- The microseconds before the close in which positions are closed. -/
  margin : Int

/-- Why a session cannot be set up. -/
inductive SessionFault where
  | clock (fault : ClockFault)
  | zone (fault : ZoneFault)
  | span (fault : TimeFault)
  deriving DecidableEq, Repr

/-- What is said about the fault. -/
def SessionFault.message : SessionFault → String
  | clock fault => fault.message
  | zone fault => fault.message
  | span fault => fault.message

namespace Session

/-- The most days that a span of time can have. -/
def longestSpan : Int := 999999999

/-- A number of minutes in microseconds. -/
def spanOfMinutes (minutes : Int) : Except TimeFault Int :=
  let micros := minutes * Micros.perMinute
  let days := micros / Micros.perDay
  if !Word.holds32 days then .error .spanTooLong
  else if days < -longestSpan ∨ longestSpan < days then .error (.spanDays days)
  else .ok micros

/-- The session that a plan describes, with the offsets of its zone from the machine's data. -/
def ofPlan (zones : ZoneDatabase) (p : SessionPlan) : Except SessionFault Session := do
  let start ← (Clock.parse p.start).mapError .clock
  let stop ← (Clock.parse p.stop).mapError .clock
  let zone ← (Zone.ofName zones p.timezone).mapError .zone
  let margin ← (spanOfMinutes p.flattenMinutes).mapError .span
  return ⟨start, stop, zone, p.weekends, margin⟩

/-- The session's wall clock. -/
def toLocal (s : Session) (now : Timestamp) : Except TimeFault Timestamp := s.zone.toLocal now

/-- The date on the session's wall clock. -/
def tradingDay (s : Session) (now : Timestamp) : Except TimeFault Date :=
  return (← s.toLocal now).date

/-- A wall clock's date is a trading day. -/
def tradesOn (s : Session) (here : Timestamp) : Bool := s.weekends || here.date.weekday < 5

/-- Now is a trading day. -/
def isTradingDay (s : Session) (now : Timestamp) : Except TimeFault Bool :=
  if s.weekends then .ok true else return s.tradesOn (← s.toLocal now)

/-- Trading is open when the wall clock shows a time. -/
def opensAt (s : Session) (here : Timestamp) : Bool :=
  s.tradesOn here && s.start.micros ≤ here.timeOfDay && here.timeOfDay < s.stop.micros

/-- Trading is open now. -/
def isOpen (s : Session) (now : Timestamp) : Except TimeFault Bool :=
  return s.opensAt (← s.toLocal now)

/-- The close of the day that a wall clock shows. -/
def closeOn (s : Session) (here : Timestamp) : Int :=
  here.date.number * Micros.perDay + s.stop.micros

/-- Trading is within the margin before the close. -/
def shouldFlatten (s : Session) (now : Timestamp) : Except TimeFault Bool := do
  let here ← s.toLocal now
  if s.tradesOn here then
    let close := s.closeOn here
    if Timestamp.inRange (close - s.margin) then
      return decide (close - s.margin ≤ here.wall ∧ here.wall < close)
    else throw .outOfRange
  else return false

/-- The microseconds to the close, none when trading is closed. -/
def timeToClose (s : Session) (now : Timestamp) : Except TimeFault (Option Int) := do
  let here ← s.toLocal now
  return if s.opensAt here then some (s.closeOn here - here.wall) else none

end Session

end VolatilityDesk
