import VolatilityDesk.Proofs.Monitor.Running
import VolatilityDesk.Proofs.Signal.Window
/-!
# The history of a run

The signals of every report go into the history, whatever becomes of the report at the outlets, and
the oldest give way once the history is full. So after a run the history is the end of all signals
that were reported: all of them as long as they fit, and the newest otherwise.

* `history_run` — the history after a run is the end of the signals reported.
* `remembers_count` — what one tick adds to it.
-/

namespace VolatilityDesk

namespace Monitor

variable {φ : Type}

/-- The number of signals that the history holds. -/
def room (m : Monitor φ) : Nat := m.settings.historySize.toNat

/-- The signals of a report, if a tick comes to one. -/
def signalsOf (out : Except TickFault (TickReport Float)) : List (Signal Float) :=
  out.toOption.toList.flatMap (·.signals)

/-- What a monitor has in its history when some more signals were reported. -/
structure Remembers (m after : Monitor φ) (signals : List (Signal Float)) : Prop where
  history : after.history = lastItems m.room (m.history ++ signals)
  settings : after.settings = m.settings

/-! ### One tick -/

section Tick

variable {m middle after : Monitor φ} {signals more : List (Signal Float)}

theorem Remembers.refl (fits : m.history.length ≤ m.room) : m.Remembers m [] := by
  refine ⟨?_, rfl⟩
  rw [List.append_nil, lastItems_eq_self fits]

theorem Remembers.room_eq (remembers : m.Remembers after signals) : after.room = m.room := by
  rw [room, remembers.settings, room]

/-- What is remembered in two steps is what is remembered in one. -/
theorem Remembers.trans (first : m.Remembers middle signals)
    (second : middle.Remembers after more) :
    m.Remembers after (signals ++ more) := by
  refine ⟨?_, second.settings.trans first.settings⟩
  rw [second.history, first.history, first.room_eq, lastItems_append_lastItems, List.append_assoc]

theorem Remembers.fits (remembers : m.Remembers after signals) :
    after.history.length ≤ after.room := by
  rw [remembers.history, remembers.room_eq, length_lastItems]
  exact Nat.min_le_left _ _

/-- The counter of ticks and the waits have nothing to do with what is remembered. -/
theorem Remembers.congr {last : Monitor φ} (remembers : m.Remembers after signals)
    (history : last.history = after.history) (settings : last.settings = after.settings) :
    m.Remembers last signals :=
  ⟨history.trans remembers.history, settings.trans remembers.settings⟩

theorem remembers_evaluate (fits : m.history.length ≤ m.room) (snapshot : Snapshot Float)
    (now : Timestamp) :
    m.Remembers (m.evaluate snapshot now).2 (signalsOf (m.evaluate snapshot now).1) := by
  unfold evaluate
  split
  case h_1 => exact .refl fits
  case h_2 => exact .refl fits
  case h_3 =>
    split
    · exact (Remembers.refl fits).congr rfl rfl
    · rename_i report desk returned
      have reported : signalsOf (.ok report) = report.signals := List.append_nil _
      rw [reported]
      exact ⟨rfl, rfl⟩

theorem remembers_pause (fits : m.history.length ≤ m.room) : m.Remembers m.pause [] := by
  unfold pause
  split
  · exact (Remembers.refl fits).congr rfl rfl
  · exact .refl fits

variable [PriceFeed φ]

theorem remembers_observe (fits : m.history.length ≤ m.room) (given : Option Timestamp)
    (clock : Timestamp) :
    m.Remembers (m.observe given clock).2 (signalsOf (m.observe given clock).1) := by
  have fetched : m.Remembers m.fetching [] := (Remembers.refl fits).congr rfl rfl
  rw [observe_eq]
  split
  · exact fetched
  · split
    · exact fetched
    · exact fetched.trans (remembers_evaluate fetched.fits _ _)

/-- A tick that counts remembers what was observed, whatever the outlets make of it. -/
theorem remembers_count (fits : m.history.length ≤ m.room) (o : Outlets) (now : Timestamp) :
    m.Remembers (m.count o now).1 (signalsOf (m.observe none now).1) := by
  have history : (m.count o now).1.history = (m.tick o none now).2.1.history := rfl
  have settings : (m.count o now).1.settings = (m.tick o none now).2.1.settings := rfl
  rw [monitor_tick] at history settings
  exact (remembers_observe fits none now).congr history settings

end Tick

/-! ### Runs -/

variable [PriceFeed φ]

/-- The reports that a number of ticks come to, in order. A tick that fails before it has a report
adds none; one that fails at the outlets has been reported. -/
def reports (clock : Nat → Timestamp) : Nat → Monitor φ → Outlets → List (TickReport Float)
  | 0, _, _ => []
  | n + 1, m, o =>
    (m.observe none (clock m.ticks)).1.toOption.toList ++
      reports clock n (m.count o (clock m.ticks)).1.pause (m.count o (clock m.ticks)).2

/-- The signals that a number of ticks report. -/
def reported (clock : Nat → Timestamp) (n : Nat) (m : Monitor φ) (o : Outlets) :
    List (Signal Float) :=
  (reports clock n m o).flatMap (·.signals)

theorem reported_succ (clock : Nat → Timestamp) (n : Nat) (m : Monitor φ) (o : Outlets) :
    reported clock (n + 1) m o = signalsOf (m.observe none (clock m.ticks)).1 ++
      reported clock n (m.count o (clock m.ticks)).1.pause (m.count o (clock m.ticks)).2 :=
  List.flatMap_append

theorem remembers_ticking (clock : Nat → Timestamp) (n : Nat) {m : Monitor φ} (o : Outlets)
    (fits : m.history.length ≤ m.room) :
    m.Remembers (ticking clock n m o).1 (reported clock n m o) := by
  induction n using Nat.twoStepInduction generalizing m o with
  | zero => exact .refl fits
  | one =>
    rw [reported_succ]
    exact (remembers_count fits o _).trans (.refl (remembers_count fits o _).fits)
  | more n _ ih =>
    have counted := remembers_count fits o (clock m.ticks)
    have paused := counted.trans (remembers_pause counted.fits)
    rw [List.append_nil] at paused
    rw [reported_succ]
    exact paused.trans (ih _ paused.fits)

/-- After a run of a number of ticks that nothing ends before, a monitor with an empty history has
the end of all signals reported. -/
theorem history_run {m : Monitor φ} (running : m.stopped = false) (empty : m.history = [])
    (o : Outlets) (clock : Nat → Timestamp) {limit : Nat}
    (silent : ∀ i < max 1 limit, m.stopsAfter i = false) :
    (m.run o clock limit).2.1.history =
      lastItems m.room (reported clock (max 1 limit) m o) := by
  obtain ⟨n, made⟩ : ∃ n, max 1 limit = n + 1 := ⟨max 1 limit - 1, by omega⟩
  rw [made] at silent ⊢
  have within : ticksWithin limit = n + 1 := made
  have makes : m.Makes o clock limit (n + 1) :=
    makes_of_runFor (exists_runFor_eq running (fun i below => silent i (by omega)) (.inl within))
  obtain ⟨waits, same⟩ := makes.ticked
  have fits : m.history.length ≤ m.room := by simp [empty]
  have remembers := remembers_ticking clock (n + 1) o fits
  have whole := remembers.history
  rw [empty, List.nil_append] at whole
  rw [same]
  exact whole

end Monitor

end VolatilityDesk
