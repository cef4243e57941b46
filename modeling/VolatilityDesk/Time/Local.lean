import VolatilityDesk.Time.Zone
/-!
# Times on a machine's own clock

A time without an offset is read on the clock of the machine, which shows the time of some zone. The
second of universal time is sought at which that clock shows the time. Where the clock is set back
there are two such seconds, and the earlier one is taken. Where it is set forward there is none;
then the time is taken to have the offset from after the change.
-/

namespace VolatilityDesk.Zone

/-- The seconds of a day; a clock is not set twice within one. -/
def daySeconds : Int := 86400

/-- What the clock of the zone shows at a second of universal time, both in seconds since 1970. It
has to show a year from 1 to 9999. -/
def shownAt (z : Zone) (second : Int) : Except TimeFault Int :=
  let shown := second + z.offsetAt second
  let day : Date := ⟨(shown + epoch) / daySeconds⟩
  if day.inRange then .ok shown else .error (.yearRange day.civil.year)

/-- The second at which the clock would show a time if it always had the offset of another
second. -/
def secondWithOffsetOf (z : Zone) (shown second : Int) : Except TimeFault Int := do
  return shown - ((← z.shownAt second) - second)

/-- The second of universal time at which the clock of the zone shows a time. A first second comes
from the offset near the time. Another one comes from the offset a day before it if the clock shows
the time there, and else from the offset that it does have there. -/
def secondShowing (z : Zone) (shown : Int) : Except TimeFault Int := do
  let first ← z.secondWithOffsetOf shown shown
  let fits := (← z.shownAt first) = shown
  let other ← z.secondWithOffsetOf shown (if fits then first - daySeconds else first)
  if (← z.shownAt other) = shown then return other
  else return if fits then first else max first other

/-- Reads a time without an offset on the clock of the zone: it gets the offset that the clock has
at that time, which has to be less than a day. A time with an offset is as it is. -/
def readLocal (z : Zone) (t : Timestamp) : Except TimeFault Timestamp :=
  match t.offset with
  | some _ => .ok t
  | none => do
    let offset := z.offsetAt (← z.secondShowing (secondOf t.wall)) * Micros.perSecond
    if offset.natAbs < Micros.perDay.natAbs then return { t with offset := some offset }
    else throw (.offsetRange offset)

end VolatilityDesk.Zone
