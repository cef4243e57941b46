import VolatilityDesk.Proofs.Session.Hours
import VolatilityDesk.Proofs.Risk.Step
/-!
# The margin before the close

Whether trading is open, whether the session is about to end and how long it still goes on are read
off one wall clock in three ways: by the time of day, by the distance to the close of the date, and
by both. In a session whose margin is a part of it the answers fit together (`Agree`).

A clock that is looked at often enough cannot jump over the margin. `Follows` says what often enough
is: on one date the readings never go back and are at most the margin apart. Of such readings, the
first before the margin and the last at the close or after it, one is within the margin.

* `coherent_hours` — the answers agree, and ticks that are close enough meet the margin.
* `Proper.exists_ending` — one of the readings before the close is within the margin.
-/

namespace VolatilityDesk

open Fallible

/-- What a zone's wall clock shows is a time of the calendar. -/
theorem Zone.inRange_of_toLocal {z : Zone} {now here : Timestamp}
    (shown : z.toLocal now = .ok here) : Timestamp.inRange here.wall = true := by
  obtain ⟨universal, -, shows⟩ := bind_eq_ok_iff.mp shown
  dsimp only at shows
  split at shows
  · rename_i ranged
    cases shows
    exact ranged
  · cases shows

namespace Session

/-- The session closes later than it opens, and its margin is a part of it. -/
structure Proper (s : Session) : Prop where
  ordered : s.start.micros < s.stop.micros
  margin_pos : 0 < s.margin
  margin_le : s.margin ≤ s.stop.micros - s.start.micros

variable {s : Session} {now here : Timestamp}

/-! ### Three answers to one clock -/

/-- The distance from a wall clock to the close of its date is one of times of day. -/
theorem closeOn_sub_wall (s : Session) (here : Timestamp) :
    s.closeOn here - here.wall = s.stop.micros - here.timeOfDay := by
  rw [closeOn, here.wall_eq]
  omega

theorem tradesOn_of_isTradingDay (shown : s.toLocal now = .ok here)
    (trading : s.isTradingDay now = .ok true) : s.tradesOn here = true := by
  unfold isTradingDay at trading
  split at trading
  · rename_i always
    simp [tradesOn, always]
  · obtain ⟨there, shown', trades⟩ := bind_eq_ok_iff.mp trading
    obtain rfl := Except.ok.inj (shown.symm.trans shown')
    exact pure_eq_ok_iff.mp trades

theorem isOpen_of_shown (shown : s.toLocal now = .ok here) :
    s.isOpen now = .ok (s.opensAt here) :=
  isOpen_eq_ok_iff.mpr ⟨here, shown, rfl⟩

theorem timeToClose_of_shown (shown : s.toLocal now = .ok here) :
    s.timeToClose now =
      .ok (if s.opensAt here then some (s.stop.micros - here.timeOfDay) else none) := by
  rw [← closeOn_sub_wall]
  exact bind_eq_ok_iff.mpr ⟨here, shown, rfl⟩

/-- The margin of a date in the calendar begins in the calendar. -/
theorem Proper.inRange_margin (proper : s.Proper) (shown : s.toLocal now = .ok here) :
    Timestamp.inRange (s.closeOn here - s.margin) = true := by
  obtain ⟨nonneg, below⟩ := Timestamp.inRange_iff.mp (Zone.inRange_of_toLocal shown)
  have opening := s.start.micros_bounds.1
  have closing := s.stop.micros_bounds.2
  have positive := proper.margin_pos
  have fits := proper.margin_le
  have day : Micros.perDay = 86400000000 := rfl
  rw [Timestamp.limit, day] at below
  rw [Timestamp.inRange_iff, closeOn, Timestamp.limit, Timestamp.date, day]
  dsimp only
  rw [day] at closing
  omega

/-- Within a proper session the margin is where trading is open and the close is no further than the
margin. -/
theorem Proper.shouldFlatten_of_shown (proper : s.Proper) (shown : s.toLocal now = .ok here) :
    s.shouldFlatten now =
      .ok (s.opensAt here && decide (s.stop.micros - here.timeOfDay ≤ s.margin)) := by
  have ranged := proper.inRange_margin shown
  have distance := s.closeOn_sub_wall here
  have fits := proper.margin_le
  refine bind_eq_ok_iff.mpr ⟨here, shown, ?_⟩
  by_cases trades : s.tradesOn here = true
  · have margin_iff : (s.closeOn here - s.margin ≤ here.wall ∧ here.wall < s.closeOn here) ↔
        (s.start.micros ≤ here.timeOfDay ∧ here.timeOfDay < s.stop.micros) ∧
          s.stop.micros - here.timeOfDay ≤ s.margin := by
      omega
    simp only [opensAt, trades, ranged, if_true, pure_eq_ok_iff, Bool.true_and]
    rw [decide_eq_decide.mpr margin_iff, Bool.decide_and, Bool.decide_and]
  · simp [opensAt, trades, pure_eq_ok_iff]

/-- What a session answers at one time: whether trading is open, whether it is within the margin,
and the time that is left. -/
structure Agree (s : Session) (isOpen ending : Bool) (left : Option Int) : Prop where
  ending_iff : ending = true ↔ isOpen = true ∧ ∃ rest, left = some rest ∧ rest ≤ s.margin
  left_of_open : isOpen = true →
    ∃ rest, left = some rest ∧ 0 < rest ∧ rest ≤ s.stop.micros - s.start.micros
  left_of_closed : isOpen = false → left = none

/-- The answers to one clock agree. -/
theorem agree_opensAt (s : Session) (here : Timestamp) :
    s.Agree (s.opensAt here) (s.opensAt here && decide (s.stop.micros - here.timeOfDay ≤ s.margin))
      (if s.opensAt here then some (s.stop.micros - here.timeOfDay) else none) := by
  cases opens : s.opensAt here with
  | false => exact ⟨by simp, nofun, fun _ => rfl⟩
  | true =>
    obtain ⟨-, opened, unclosed⟩ := opensAt_iff.mp opens
    constructor
    · simp
    · intro _
      exact ⟨_, rfl, by omega, by omega⟩
    · nofun

/-! ### A clock that is looked at -/

/-- From one reading of the session's wall clock on, times are read off it one after the other, up
to the last reading: all on one date, none earlier than the one before it, none later than that by
more than the margin. -/
inductive Follows (s : Session) : Timestamp → List Timestamp → Timestamp → Prop where
  | nil {here : Timestamp} : Follows s here [] here
  | cons {here there last now : Timestamp} {later : List Timestamp}
      (shown : s.toLocal now = .ok there) (sameDate : there.date = here.date)
      (forward : here.timeOfDay ≤ there.timeOfDay)
      (near : there.timeOfDay - here.timeOfDay ≤ s.margin) (rest : Follows s there later last) :
      Follows s here (now :: later) last

/-- From before the margin one reading leads to another one before it, or into it. -/
theorem Proper.before_or_ending (proper : s.Proper) {there : Timestamp}
    (trades : s.tradesOn there = true) (shown : s.toLocal now = .ok there)
    (before : here.timeOfDay < s.stop.micros - s.margin)
    (near : there.timeOfDay - here.timeOfDay ≤ s.margin) :
    there.timeOfDay < s.stop.micros - s.margin ∨ s.shouldFlatten now = .ok true := by
  by_cases early : there.timeOfDay < s.stop.micros - s.margin
  · exact .inl early
  · right
    have fits := proper.margin_le
    have opens : s.opensAt there = true := opensAt_iff.mpr ⟨trades, by omega, by omega⟩
    rw [proper.shouldFlatten_of_shown shown, opens]
    simp only [Bool.true_and, Except.ok.injEq, decide_eq_true_eq]
    omega

/-- Readings that start before the margin and end at the close or after it have one within it. -/
theorem Proper.exists_ending (proper : s.Proper) {last : Timestamp} {ticks : List Timestamp}
    (follows : s.Follows here ticks last) (trades : s.tradesOn here = true)
    (before : here.timeOfDay < s.stop.micros - s.margin) (beyond : s.stop.micros ≤ last.timeOfDay) :
    ∃ now ∈ ticks, s.shouldFlatten now = .ok true := by
  -- On the readings: what is kept is that the latest one is still before the margin.
  induction follows with
  | nil =>
    have positive := proper.margin_pos
    omega
  | @cons here there last now later shown sameDate forward near rest ih =>
    have trades' : s.tradesOn there = true := by rwa [tradesOn, sameDate]
    rcases proper.before_or_ending trades' shown before near with early | ending
    · obtain ⟨other, inside, ending⟩ := ih trades' early beyond
      exact ⟨other, .tail _ inside, ending⟩
    · exact ⟨now, .head _, ending⟩

/-- **The hours of a session are coherent.** At every time that the session's wall clock can show,
the three questions have answers that agree. And of ticks on one trading day that follow each other
within the margin, the first before the margin and the last at the close or after it, at least one
is within the margin. -/
theorem coherent_hours (s : Session) (proper : s.Proper) :
    (∀ now here, s.toLocal now = .ok here →
      ∃ isOpen ending left, s.isOpen now = .ok isOpen ∧ s.shouldFlatten now = .ok ending ∧
        s.timeToClose now = .ok left ∧ s.Agree isOpen ending left) ∧
    ∀ first here ticks last, s.toLocal first = .ok here → s.isTradingDay first = .ok true →
      s.Follows here ticks last → here.timeOfDay < s.stop.micros - s.margin →
        s.stop.micros ≤ last.timeOfDay → ∃ now ∈ ticks, s.shouldFlatten now = .ok true := by
  constructor
  · intro now here shown
    exact ⟨_, _, _, isOpen_of_shown shown, proper.shouldFlatten_of_shown shown,
      timeToClose_of_shown shown, s.agree_opensAt here⟩
  · intro first here ticks last shown trading follows before beyond
    have trades := tradesOn_of_isTradingDay shown trading
    exact proper.exists_ending follows trades before beyond

/-! ### An afternoon -/

open RiskDesk (sample)

/-- The minutes since midnight on a Tuesday. -/
def tuesday (minutes : Int) : Timestamp :=
  ⟨739446 * Micros.perDay + minutes * Micros.perMinute, some 0⟩

theorem proper_sample : sample.session.Proper := by constructor <;> decide

/-- At 15:58 the session that closes at 16:00 has two minutes left. Looked at six minutes before the
close, then at 15:58 and at the close, its clock is seen within the margin of five minutes. -/
theorem coherent_hours_before_four :
    sample.session.Proper ∧ sample.session.toLocal (tuesday 958) = .ok (tuesday 958) ∧
      (∃ ending, sample.session.shouldFlatten (tuesday 958) = .ok ending ∧
        sample.session.Agree true ending (some (2 * Micros.perMinute))) ∧
      sample.session.Follows (tuesday 954) [tuesday 958, tuesday 960] (tuesday 960) ∧
      ∃ now ∈ [tuesday 958, tuesday 960], sample.session.shouldFlatten now = .ok true := by
  have shown (minutes : Int) (day : minutes = 954 ∨ minutes = 958 ∨ minutes = 960) :
      sample.session.toLocal (tuesday minutes) = .ok (tuesday minutes) := by
    rcases day with rfl | rfl | rfl <;> rfl
  have follows : sample.session.Follows (tuesday 954) [tuesday 958, tuesday 960] (tuesday 960) :=
    .cons (shown 958 (by simp)) rfl (by decide) (by decide)
      (.cons (shown 960 (by simp)) rfl (by decide) (by decide) .nil)
  obtain ⟨answers, met⟩ := coherent_hours sample.session proper_sample
  refine ⟨proper_sample, shown 958 (by simp), ?_, follows, ?_⟩
  · obtain ⟨isOpen, ending, left, opens, ends, remains, agree⟩ :=
      answers (tuesday 958) (tuesday 958) (shown 958 (by simp))
    have trading : sample.session.opensAt (tuesday 958) = true := by decide
    rw [isOpen_of_shown (shown 958 (by simp)), trading, Except.ok.injEq] at opens
    have distance :
        sample.session.stop.micros - (tuesday 958).timeOfDay = 2 * Micros.perMinute := by
      decide
    rw [timeToClose_of_shown (shown 958 (by simp)), trading, if_pos rfl, distance, Except.ok.injEq]
      at remains
    subst opens remains
    exact ⟨ending, ends, agree⟩
  · exact met (tuesday 954) (tuesday 954) _ _ (shown 954 (by simp)) rfl follows (by decide)
      (by decide)

end Session

end VolatilityDesk
