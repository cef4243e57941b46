import VolatilityDesk.Proofs.Fallible
import VolatilityDesk.Proofs.Time.Timestamp
import VolatilityDesk.Trading.Session
/-!
# Session hours

When trading is open and when it is within the margin before the close, in terms of what the
session's wall clock shows. Both depend on the date and the time of day alone, so from a time within
the margin on, the rest of the day is within the margin or after the close.

* `isOpen_eq_ok_iff`, `shouldFlatten_eq_true_iff` — both questions in terms of the wall clock.
* `shouldFlatten_of_later` — later on a date that is about to end it is still about to end.
-/

namespace VolatilityDesk

open Fallible

namespace Session

variable {s : Session} {now later here : Timestamp}

theorem opensAt_iff : s.opensAt here = true ↔
    s.tradesOn here = true ∧ s.start.micros ≤ here.timeOfDay ∧ here.timeOfDay < s.stop.micros := by
  simp [opensAt, and_assoc]

theorem isOpen_eq_ok_iff {isOpen : Bool} : s.isOpen now = .ok isOpen ↔
    ∃ here, s.toLocal now = .ok here ∧ s.opensAt here = isOpen := by
  simp only [Session.isOpen, bind_eq_ok_iff, pure_eq_ok_iff]

theorem shouldFlatten_eq_true_iff : s.shouldFlatten now = .ok true ↔
    ∃ here, s.toLocal now = .ok here ∧ s.tradesOn here = true ∧
      Timestamp.inRange (s.closeOn here - s.margin) = true ∧
      s.closeOn here - s.margin ≤ here.wall ∧ here.wall < s.closeOn here := by
  unfold shouldFlatten
  rw [bind_eq_ok_iff]
  refine exists_congr fun here => and_congr_right fun _ => ?_
  by_cases trades : s.tradesOn here = true
  · by_cases ranged : Timestamp.inRange (s.closeOn here - s.margin) = true
    · simp [trades, ranged, pure_eq_ok_iff]
    · simp [trades, ranged]
  · simp [trades, pure_eq_ok_iff]

/-! ### Later on the same day -/

/-- On the session's wall clock a time is on the same date, at the same time of day or later. -/
def LaterThatDay (s : Session) (now later : Timestamp) : Prop :=
  ∃ here there, s.toLocal now = .ok here ∧ s.toLocal later = .ok there ∧
    there.date = here.date ∧ here.timeOfDay ≤ there.timeOfDay

/-- While trading is still open, later times of the day are within the margin too. -/
theorem shouldFlatten_of_later (ending : s.shouldFlatten now = .ok true)
    (after : s.LaterThatDay now later) (isOpen : s.isOpen later = .ok true) :
    s.shouldFlatten later = .ok true := by
  obtain ⟨here, there, shown, shows, sameDate, order⟩ := after
  obtain ⟨_, shown', trades, ranged, begun, -⟩ := shouldFlatten_eq_true_iff.mp ending
  obtain rfl := Except.ok.inj (shown.symm.trans shown')
  obtain ⟨_, shows', opens⟩ := isOpen_eq_ok_iff.mp isOpen
  obtain rfl := Except.ok.inj (shows.symm.trans shows')
  -- The date alone fixes whether the day is traded on and when it closes.
  have sameDay : s.tradesOn there = s.tradesOn here := by rw [tradesOn, sameDate, tradesOn]
  have sameClose : s.closeOn there = s.closeOn here := by rw [closeOn, sameDate, closeOn]
  have before := (opensAt_iff.mp opens).2.2
  refine shouldFlatten_eq_true_iff.mpr
    ⟨there, shows, sameDay ▸ trades, sameClose ▸ ranged, ?_, ?_⟩
  · have shift := here.wall_eq
    rw [sameClose, there.wall_eq, sameDate]
    omega
  · rw [there.wall_eq, closeOn]
    omega

end Session

end VolatilityDesk
