import VolatilityDesk.Proofs.Fallible
import VolatilityDesk.Proofs.Time.Timestamp
import VolatilityDesk.Time.Local
/-!
# Reading times on a machine's own clock

A time with an offset denotes the same instant on every machine. One without an offset denotes the
instant at which the machine's clock shows it; where that clock always shows universal time, this is
the time read as universal time.

* `Zone.instant_readLocal` — what is read denotes the instant that was meant.
* `Zone.readLocal_universal_iff` — which times are read on a universal clock.
-/

namespace VolatilityDesk.Zone

open Fallible

/-- The clocks of the zone always show universal time. -/
def IsUniversal (z : Zone) : Prop := ∀ second, z.offsetAt second = 0

theorem isUniversal_universal : universal.IsUniversal := fun _ => rfl

/-- A second in the years 1 to 9999. -/
def InCalendar (second : Int) : Prop :=
  0 ≤ second + epoch ∧ second + epoch < 3652059 * daySeconds

variable {z : Zone} {s t : Timestamp} {shown second found : Int}

/-! ### The second at which a universal clock shows a time -/

theorem inRange_iff_inCalendar :
    Date.inRange ⟨(second + epoch) / daySeconds⟩ = true ↔ InCalendar second := by
  have last : Date.last.number = 3652058 := rfl
  unfold Date.inRange InCalendar daySeconds
  rw [Bool.and_eq_true, decide_eq_true_iff, decide_eq_true_iff, last]
  dsimp only
  omega

theorem shownAt_eq_ok_iff (always : z.IsUniversal) :
    z.shownAt second = .ok found ↔ found = second ∧ InCalendar second := by
  unfold shownAt
  rw [always second, Int.add_zero]
  dsimp only
  by_cases inside : InCalendar second
  · rw [if_pos (inRange_iff_inCalendar.mpr inside), Except.ok.injEq]
    constructor
    · exact fun same => ⟨same.symm, inside⟩
    · exact fun told => told.1.symm
  · rw [if_neg fun ranged => inside (inRange_iff_inCalendar.mp ranged)]
    constructor
    · intro told
      cases told
    · exact fun told => absurd told.2 inside

theorem secondWithOffsetOf_eq_ok_iff (always : z.IsUniversal) :
    z.secondWithOffsetOf shown second = .ok found ↔ found = shown ∧ InCalendar second := by
  unfold secondWithOffsetOf
  rw [bind_eq_ok_iff]
  constructor
  · rintro ⟨told, there, same⟩
    obtain ⟨rfl, inside⟩ := (shownAt_eq_ok_iff always).mp there
    have same := pure_eq_ok_iff.mp same
    exact ⟨by omega, inside⟩
  · rintro ⟨rfl, inside⟩
    refine ⟨second, (shownAt_eq_ok_iff always).mpr ⟨rfl, inside⟩, pure_eq_ok_iff.mpr (by omega)⟩

/-- The clock shows a time at the second that has it, unless the calendar lacks the day before. -/
theorem secondShowing_eq_ok_iff (always : z.IsUniversal) : z.secondShowing shown = .ok found ↔
    found = shown ∧ InCalendar shown ∧ InCalendar (shown - daySeconds) := by
  unfold secondShowing
  simp only [bind_eq_ok_iff, secondWithOffsetOf_eq_ok_iff always, shownAt_eq_ok_iff always]
  constructor
  · rintro ⟨_, ⟨rfl, inside⟩, _, ⟨rfl, -⟩, _, ⟨rfl, before⟩, _, ⟨rfl, -⟩, given⟩
    rw [if_pos rfl] at given before
    exact ⟨(pure_eq_ok_iff.mp given).symm, inside, before⟩
  · rintro ⟨rfl, inside, before⟩
    refine ⟨found, ⟨rfl, inside⟩, found, ⟨rfl, inside⟩, found, ⟨rfl, ?_⟩, found, ⟨rfl, inside⟩, ?_⟩
    · rw [if_pos rfl]
      exact before
    · rw [if_pos rfl]
      rfl

/-! ### Reading -/

theorem readLocal_of_offset {offset : Int} (known : t.offset = some offset) :
    z.readLocal t = .ok t := by
  unfold readLocal
  rw [known]

/-- A universal clock reads the times of the calendar, less its first day. -/
theorem readLocal_universal_iff (always : z.IsUniversal) : z.readLocal t = .ok s ↔
    s = t.assumeUniversal ∧
      (t.offset = none → Micros.perDay ≤ t.wall ∧ t.wall < Timestamp.limit) := by
  obtain ⟨wall, offset⟩ := t
  cases offset with
  | some offset =>
    rw [readLocal_of_offset rfl, Except.ok.injEq, eq_comm]
    exact ⟨fun same => ⟨same, nofun⟩, fun told => told.1⟩
  | none =>
    have calendar : InCalendar (secondOf wall) ∧ InCalendar (secondOf wall - daySeconds) ↔
        Micros.perDay ≤ wall ∧ wall < Timestamp.limit := by
      unfold InCalendar secondOf daySeconds Timestamp.limit Micros.perDay Micros.perHour
        Micros.perMinute Micros.perSecond
      omega
    unfold readLocal
    simp only [bind_eq_ok_iff, secondShowing_eq_ok_iff always, calendar, true_implies]
    constructor
    · rintro ⟨_, ⟨rfl, inside⟩, given⟩
      rw [always, Int.zero_mul] at given
      exact ⟨(pure_eq_ok_iff.mp given).symm, inside⟩
    · rintro ⟨rfl, inside⟩
      refine ⟨_, ⟨rfl, inside⟩, ?_⟩
      rw [always, Int.zero_mul]
      rfl

/-- What is read denotes the instant that was meant, if times without an offset mean universal time
and are read on a universal clock. -/
theorem instant_readLocal (read : z.readLocal t = .ok s) (meant : t.offset = none → z.IsUniversal) :
    s.instant = t.instant := by
  cases known : t.offset with
  | some offset =>
    rw [readLocal_of_offset known] at read
    cases read
    rfl
  | none =>
    obtain ⟨rfl, -⟩ := (readLocal_universal_iff (meant known)).mp read
    rfl

end VolatilityDesk.Zone
