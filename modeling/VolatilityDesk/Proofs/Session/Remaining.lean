import VolatilityDesk.Proofs.Session.Margin
/-!
# The time that is left of a session

The time to the close is the distance on the session's wall clock. It is the time that passes until
the close as long as the clock is not shifted meanwhile: if the zone has another offset at the
close, the time that passes is shorter by what the clock is set forward, or longer by what it is set
back.

* `remaining_unless_shifted` — the time left, and by how much it is wrong.
* `not_always_remaining` — a morning on which it is.
-/

namespace VolatilityDesk

open Fallible

namespace Zone

/-- What the wall clock of the zone shows at an instant. -/
def wallAt (z : Zone) (instant : Int) : Int := instant + z.offset instant

/-- From some seconds to the next the offset may change; from all others it stays. -/
def FinitelyShifted (z : Zone) : Prop :=
  ∃ shifts : List Int, ∀ second, second ∉ shifts → z.offsetAt second = z.offsetAt (second - 1)

theorem toLocal_eq_ok_iff {z : Zone} {now here : Timestamp} :
    z.toLocal now = .ok here ↔ Timestamp.inRange now.instant = true ∧
      Timestamp.inRange (z.wallAt now.instant) = true ∧
      here = ⟨z.wallAt now.instant, some (z.offset now.instant)⟩ := by
  unfold toLocal wallAt
  rw [bind_eq_ok_iff]
  constructor
  · rintro ⟨universal, converted, placed⟩
    obtain ⟨rfl, early⟩ := Timestamp.toUniversal_eq_ok_iff.mp converted
    simp only [Timestamp.instant_ofInstant] at placed
    split at placed
    · rename_i ranged
      cases placed
      exact ⟨early, ranged, rfl⟩
    · cases placed
  · rintro ⟨early, ranged, rfl⟩
    refine ⟨_, Timestamp.toUniversal_eq_ok_iff.mpr ⟨rfl, early⟩, ?_⟩
    simp only [Timestamp.instant_ofInstant]
    rw [if_pos ranged]
    rfl

end Zone

namespace Session

variable {s : Session} {now here there : Timestamp} {left : Int}

/-- The distance on the wall clock. -/
theorem closeOn_eq_of_timeToClose (shown : s.toLocal now = .ok here)
    (remains : s.timeToClose now = .ok (some left)) : s.closeOn here = here.wall + left := by
  rw [timeToClose_of_shown shown, Except.ok.injEq] at remains
  split at remains
  · have distance := s.closeOn_sub_wall here
    rw [Option.some.injEq] at remains
    omega
  · cases remains

/-- A wall clock shows the close of a date exactly if it shows the date and the time of the
close. -/
theorem wall_eq_closeOn_iff : there.wall = s.closeOn here ↔
    there.date = here.date ∧ there.timeOfDay = s.stop.micros := by
  have time := there.timeOfDay_bounds
  have stop := s.stop.micros_bounds
  have day : Micros.perDay = 86400000000 := rfl
  rw [there.wall_eq, closeOn]
  rw [day] at time stop ⊢
  constructor
  · intro same
    have number : there.date.number = here.date.number := by omega
    exact ⟨congrArg Date.mk number, by omega⟩
  · rintro ⟨date, time⟩
    rw [date, time]

/-- The close of a date in the calendar is in the calendar. -/
theorem inRange_closeOn (ranged : Timestamp.inRange here.wall = true) :
    Timestamp.inRange (s.closeOn here) = true := by
  have time := here.timeOfDay_bounds
  have stop := s.stop.micros_bounds
  have day : Micros.perDay = 86400000000 := rfl
  rw [Timestamp.inRange_iff, Timestamp.limit, here.wall_eq, day] at ranged
  rw [Timestamp.inRange_iff, Timestamp.limit, closeOn, day]
  rw [day] at time stop
  omega

/-- **The time to the close is the time that is left, unless the clock is shifted.** After as much
time as is said to be left, the session's clock shows the close of the date exactly if its zone has
the offset then that it has now. And at whatever instant the clock shows the close, the time until
then is what is said to be left, less what the clock is set forward by meanwhile. -/
theorem remaining_unless_shifted (shown : s.toLocal now = .ok here)
    (remains : s.timeToClose now = .ok (some left)) :
    (∀ there, s.toLocal (.ofInstant (now.instant + left)) = .ok there →
        ((there.date = here.date ∧ there.timeOfDay = s.stop.micros) ↔
          s.zone.offset (now.instant + left) = s.zone.offset now.instant)) ∧
      (Timestamp.inRange (now.instant + left) = true →
        s.zone.offset (now.instant + left) = s.zone.offset now.instant →
        ∃ there, s.toLocal (.ofInstant (now.instant + left)) = .ok there ∧
          there.date = here.date ∧ there.timeOfDay = s.stop.micros) ∧
      ∀ close, s.zone.wallAt close = s.closeOn here →
        close - now.instant = left - (s.zone.offset close - s.zone.offset now.instant) := by
  have distance := closeOn_eq_of_timeToClose shown remains
  obtain ⟨-, ranged, same⟩ := Zone.toLocal_eq_ok_iff.mp shown
  have wall : here.wall = now.instant + s.zone.offset now.instant := by
    rw [same]
    rfl
  refine ⟨?_, ?_, ?_⟩
  · intro there shows
    obtain ⟨-, -, same⟩ := Zone.toLocal_eq_ok_iff.mp shows
    have later : there.wall = now.instant + left + s.zone.offset (now.instant + left) := by
      rw [same, Timestamp.instant_ofInstant]
      rfl
    rw [← wall_eq_closeOn_iff]
    omega
  · intro inside unshifted
    have reached : s.zone.wallAt (now.instant + left) = s.closeOn here := by
      rw [Zone.wallAt]
      omega
    have shows : s.toLocal (.ofInstant (now.instant + left)) =
        .ok ⟨s.closeOn here, some (s.zone.offset (now.instant + left))⟩ := by
      refine Zone.toLocal_eq_ok_iff.mpr ?_
      rw [Timestamp.instant_ofInstant, reached]
      exact ⟨inside, inRange_closeOn (Zone.inRange_of_toLocal shown), rfl⟩
    exact ⟨_, shows, wall_eq_closeOn_iff.mp rfl⟩
  · intro close shows
    rw [Zone.wallAt] at shows
    omega

/-! ### A morning in spring -/

/-- Clocks that are set forward by an hour once, at seven in the morning of a Sunday in March
2025. -/
def setForward : ZoneTable where
  name := "America/New_York"
  before := -18000
  base := -18000
  changes := [(7106166000, 3600)]
  rule := none

open RiskDesk (sample)

/-- A session of that zone, from midnight to 16:00. -/
def sampleSpring : Session :=
  { sample.session with
    start := { sample.session.stop with hour := 0, hour_lt := by decide }
    zone := setForward.zone
    weekends := true }

/-- The universal hours of that Sunday. -/
def sunday (hours : Int) : Timestamp := ⟨739318 * Micros.perDay + hours * Micros.perHour, some 0⟩

theorem offsetAt_setForward (second : Int) :
    setForward.zone.offsetAt second = if second < 1741503600 then -18000 else -14400 := by
  have since : ZoneTable.origin + (7106166000 : Nat) = 1741503600 := rfl
  simp only [ZoneTable.zone, ZoneTable.offsetAt, setForward, ZoneTable.lookup, since]
  by_cases before : second < 1741503600
  · simp [before]
  · simp [before]

theorem finitelyShifted_setForward : setForward.zone.FinitelyShifted := by
  refine ⟨[1741503600], ?_⟩
  intro second apart
  rw [List.mem_singleton] at apart
  rw [offsetAt_setForward, offsetAt_setForward]
  split
  · rw [if_pos (by omega)]
  · rw [if_neg (by omega)]

theorem wallAt_setForward (instant : Int) : setForward.zone.wallAt instant =
    if instant < (sunday 7).wall then instant - 5 * Micros.perHour
    else instant - 4 * Micros.perHour := by
  have seven : (sunday 7).wall = (1741503600 + Zone.epoch) * Micros.perSecond := rfl
  have second : Zone.secondOf instant < 1741503600 ↔ instant < (sunday 7).wall := by
    rw [seven]
    unfold Zone.secondOf Micros.perSecond
    omega
  have hour : Micros.perHour = 3600 * Micros.perSecond := rfl
  rw [Zone.wallAt, Zone.offset, offsetAt_setForward, hour]
  split
  · rw [if_pos (second.mp ‹_›)]
    omega
  · rw [if_neg (mt second.mpr ‹_›)]
    omega

/-- At five in the morning, when the clocks have been set forward, eleven hours are left, and then
it is the close. At one o'clock they are not, and of the fifteen hours that are said to be left one
is missing. -/
theorem remaining_unless_shifted_in_spring :
    (∃ here there, sampleSpring.toLocal (sunday 9) = .ok here ∧
      sampleSpring.timeToClose (sunday 9) = .ok (some (11 * Micros.perHour)) ∧
      sampleSpring.toLocal (.ofInstant ((sunday 9).instant + 11 * Micros.perHour)) = .ok there ∧
      there.date = here.date ∧ there.timeOfDay = sampleSpring.stop.micros) ∧
    ∃ here, sampleSpring.toLocal (sunday 6) = .ok here ∧
      sampleSpring.timeToClose (sunday 6) = .ok (some (15 * Micros.perHour)) ∧
      sampleSpring.zone.wallAt (sunday 20).instant = sampleSpring.closeOn here ∧
      (sunday 20).instant - (sunday 6).instant = 15 * Micros.perHour - Micros.perHour := by
  constructor
  · have shown : sampleSpring.toLocal (sunday 9) =
        .ok ⟨(sunday 5).wall, some (-4 * Micros.perHour)⟩ :=
      rfl
    have remains : sampleSpring.timeToClose (sunday 9) = .ok (some (11 * Micros.perHour)) := by
      decide +kernel
    obtain ⟨-, reaches, -⟩ := remaining_unless_shifted shown remains
    obtain ⟨there, shows, date, time⟩ := reaches rfl rfl
    exact ⟨_, there, shown, remains, shows, date, time⟩
  · have shown : sampleSpring.toLocal (sunday 6) =
        .ok ⟨(sunday 1).wall, some (-5 * Micros.perHour)⟩ :=
      rfl
    have remains : sampleSpring.timeToClose (sunday 6) = .ok (some (15 * Micros.perHour)) := by
      decide +kernel
    obtain ⟨-, -, lasts⟩ := remaining_unless_shifted shown remains
    exact ⟨_, shown, remains, rfl, lasts (sunday 20).instant rfl⟩

/-- On that morning the clock shows the close once, and not when the time that is said to be left is
over. -/
theorem not_always_remaining :
    ¬ ∀ (s : Session) (now here : Timestamp) (left : Int), s.zone.FinitelyShifted →
        s.toLocal now = .ok here → s.timeToClose now = .ok (some left) →
        (∃! close, s.zone.wallAt close = s.closeOn here) →
        ∃ there, s.toLocal (.ofInstant (now.instant + left)) = .ok there ∧
          there.date = here.date ∧ there.timeOfDay = s.stop.micros := by
  intro remaining
  have shown : sampleSpring.toLocal (sunday 6) =
      .ok ⟨(sunday 1).wall, some (-5 * Micros.perHour)⟩ :=
    rfl
  have once : ∃! close, sampleSpring.zone.wallAt close =
      sampleSpring.closeOn ⟨(sunday 1).wall, some (-5 * Micros.perHour)⟩ := by
    refine ⟨(sunday 20).instant, rfl, ?_⟩
    intro close shows
    have seven : (sunday 7).wall = (sunday 20).instant - 13 * Micros.perHour := rfl
    have ends : sampleSpring.closeOn ⟨(sunday 1).wall, some (-5 * Micros.perHour)⟩ =
        (sunday 20).instant - 4 * Micros.perHour := rfl
    have hour : Micros.perHour = 3600000000 := rfl
    rw [ends, sampleSpring, wallAt_setForward, seven, hour] at shows
    split at shows
    · omega
    · omega
  have remains : sampleSpring.timeToClose (sunday 6) = .ok (some (15 * Micros.perHour)) := by
    decide +kernel
  obtain ⟨there, shows, -, time⟩ :=
    remaining sampleSpring (sunday 6) _ _ finitelyShifted_setForward shown remains once
  have late : sampleSpring.toLocal (.ofInstant ((sunday 6).instant + 15 * Micros.perHour)) =
      .ok ⟨(sunday 17).wall, some (-4 * Micros.perHour)⟩ := rfl
  obtain rfl := Except.ok.inj (late.symm.trans shows)
  revert time
  decide

end Session

end VolatilityDesk
