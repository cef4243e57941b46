import VolatilityDesk.Monitor
import VolatilityDesk.Proofs.Tick.Step
/-!
# Steps of the monitor

A tick of the monitor leads the desk through a run of operations: none when the fetch fails, when
there is no time to date the tick by, or outside the session, and those of the desk's own tick
otherwise. The outlets have no say in it. So what runs of the desk keep, the monitor keeps, whatever
else is done to it between two ticks.

* `exists_after_eq_tick`, `exists_after_eq_run` — a tick, and a run of ticks, is a run of operations
  of the desk.
* `Sees.evaluated` — what a tick makes of the snapshot that it sees.
* `later_runFor` — a run does to a monitor nothing but what `Later` says.
-/

namespace VolatilityDesk.Monitor

variable {φ : Type}

theorem desk_pause (m : Monitor φ) : m.pause.desk = m.desk := by
  unfold pause
  split <;> rfl

/-! ### Evaluations -/

/-- Evaluating a snapshot touches the desk and the history, and nothing else of the monitor. -/
theorem evaluate_frame (m : Monitor φ) (snapshot : Snapshot Float) (now : Timestamp) :
    ∃ desk history, (m.evaluate snapshot now).2 = { m with desk := desk, history := history } := by
  unfold evaluate
  split
  · exact ⟨m.desk, m.history, rfl⟩
  · exact ⟨m.desk, m.history, rfl⟩
  · split
    · exact ⟨_, m.history, rfl⟩
    · exact ⟨_, _, rfl⟩

/-- What evaluating a snapshot answers, and the desk after it. -/
inductive Evaluated (d : RiskDesk Float) (rules : SignalRules Float) (snapshot : Snapshot Float)
    (now : Timestamp) : Except TickFault (TickReport Float) → RiskDesk Float → Prop where
  | timeless {fault : TimeFault} (fails : d.session.isOpen now = .error fault) :
      Evaluated d rules snapshot now (.error (.time fault)) d
  | skipped (closed : d.session.isOpen now = .ok false) :
      Evaluated d rules snapshot now (.ok { time := now, skipped := true }) d
  | failed {fault : TradingFault} {after : RiskDesk Float}
      (isOpen : d.session.isOpen now = .ok true)
      (fails : d.runTick rules snapshot now = (.error fault, after)) :
      Evaluated d rules snapshot now (.error (.trading fault)) after
  | reported {report : TickReport Float} {after : RiskDesk Float}
      (isOpen : d.session.isOpen now = .ok true)
      (returns : d.runTick rules snapshot now = (.ok report, after)) :
      Evaluated d rules snapshot now (.ok report) after

theorem evaluated_evaluate (m : Monitor φ) (snapshot : Snapshot Float) (now : Timestamp) :
    Evaluated m.desk m.settings.rules snapshot now (m.evaluate snapshot now).1
      (m.evaluate snapshot now).2.desk := by
  unfold evaluate
  split
  · rename_i fault fails
    exact .timeless fails
  · rename_i closed
    exact .skipped closed
  · rename_i isOpen
    split
    · rename_i fault desk fails
      exact .failed isOpen fails
    · rename_i report desk returns
      exact .reported isOpen returns

theorem Evaluated.exists_after_eq {d after : RiskDesk Float} {rules : SignalRules Float}
    {snapshot : Snapshot Float} {now : Timestamp} {out : Except TickFault (TickReport Float)}
    (evaluated : Evaluated d rules snapshot now out after) :
    ∃ operations, d.after operations = after ∧
      ((d.session.isOpen now = .ok true → d.session.shouldFlatten now = .ok true) →
        ∀ o ∈ operations, o.isSignal = false) := by
  cases evaluated with
  | timeless | skipped => exact ⟨[], rfl, fun _ => nofun⟩
  | failed isOpen ends | reported isOpen ends =>
    obtain ⟨operations, same, silent⟩ := d.exists_after_eq_runTick rules snapshot now
    rw [ends] at same
    exact ⟨operations, same, fun ending => silent (ending isOpen)⟩

theorem Evaluated.skipped_or_ticked {d after : RiskDesk Float} {rules : SignalRules Float}
    {snapshot : Snapshot Float} {now : Timestamp} {report : TickReport Float}
    (evaluated : Evaluated d rules snapshot now (.ok report) after) :
    (d.session.isOpen now = .ok false ∧ report = { time := now, skipped := true }) ∨
      (d.session.isOpen now = .ok true ∧ d.Ticked rules snapshot now report after) := by
  cases evaluated with
  | skipped closed => exact .inl ⟨closed, rfl⟩
  | reported isOpen returns => exact .inr ⟨isOpen, RiskDesk.ticked_of_runTick returns⟩

/-! ### Ticks -/

variable [PriceFeed φ]

/-- The monitor after a fetch. -/
def fetching (m : Monitor φ) : Monitor φ :=
  { m with
    feed := (PriceFeed.fetch m.feed m.settings.watchlist).2
    stopped := m.stopped || (PriceFeed.fetch m.feed m.settings.watchlist).1.stop }

theorem observe_eq (m : Monitor φ) (given : Option Timestamp) (clock : Timestamp) :
    m.observe given clock =
      match (PriceFeed.fetch m.feed m.settings.watchlist).1.series with
      | .error fault => (.error (.feed fault), m.fetching)
      | .ok snapshot =>
        match m.tickTime snapshot given clock with
        | .error fault => (.error (.time fault), m.fetching)
        | .ok now => m.fetching.evaluate snapshot now := rfl

theorem observe_frame (m : Monitor φ) (given : Option Timestamp) (clock : Timestamp) :
    ∃ desk history, (m.observe given clock).2 =
      { m.fetching with desk := desk, history := history } := by
  rw [observe_eq]
  split
  · exact ⟨m.desk, m.history, rfl⟩
  · split
    · exact ⟨m.desk, m.history, rfl⟩
    · exact m.fetching.evaluate_frame _ _

/-- The snapshot that a tick fetches, and the time that it is dated by. -/
structure Sees (m : Monitor φ) (given : Option Timestamp) (clock : Timestamp)
    (snapshot : Snapshot Float) (now : Timestamp) : Prop where
  fetched : (PriceFeed.fetch m.feed m.settings.watchlist).1.series = .ok snapshot
  dated : m.tickTime snapshot given clock = .ok now

section Tick

variable {m : Monitor φ} {o : Outlets} {given : Option Timestamp} {clock now : Timestamp}
  {snapshot : Snapshot Float} {report : TickReport Float}

theorem monitor_tick : (m.tick o given clock).2.1 = (m.observe given clock).2 := by
  unfold tick
  rcases observed : m.observe given clock with ⟨out, after⟩
  cases out <;> rfl

/-- A tick that completes gives the report of what was observed. -/
theorem observed_of_tick (completes : (m.tick o given clock).1 = .ok report) :
    (m.observe given clock).1 = .ok report := by
  unfold tick at completes
  rcases observed : m.observe given clock with ⟨out, after⟩
  rw [observed] at completes
  cases out with
  | error fault => cases completes
  | ok seen =>
    simp only [publish] at completes
    split at completes
    · exact completes
    · split at completes
      · cases completes
      · exact completes

/-- A tick that completes has seen a snapshot. -/
theorem exists_sees_of_tick (completes : (m.tick o given clock).1 = .ok report) :
    ∃ snapshot now, m.Sees given clock snapshot now := by
  have observed := observed_of_tick completes
  rw [observe_eq] at observed
  cases fetched : (PriceFeed.fetch m.feed m.settings.watchlist).1.series with
  | error fault => simp [fetched] at observed
  | ok snapshot =>
    cases dated : m.tickTime snapshot given clock with
    | error fault => simp [fetched, dated] at observed
    | ok now => exact ⟨snapshot, now, fetched, dated⟩

/-- A tick that sees a snapshot evaluates it. -/
theorem Sees.evaluated (sees : m.Sees given clock snapshot now) :
    Evaluated m.desk m.settings.rules snapshot now (m.observe given clock).1
      (m.observe given clock).2.desk := by
  rw [observe_eq]
  simp only [sees.fetched, sees.dated]
  exact evaluated_evaluate m.fetching snapshot now

/-- A tick that completes was skipped, or its report is that of a tick of the desk. -/
theorem Sees.skipped_or_ticked (sees : m.Sees given clock snapshot now)
    (completes : (m.tick o given clock).1 = .ok report) :
    (m.desk.session.isOpen now = .ok false ∧ report = { time := now, skipped := true }) ∨
      (m.desk.session.isOpen now = .ok true ∧
        m.desk.Ticked m.settings.rules snapshot now report (m.tick o given clock).2.1.desk) := by
  have evaluated := sees.evaluated
  rw [observed_of_tick completes, ← monitor_tick (o := o)] at evaluated
  exact evaluated.skipped_or_ticked

/-- A tick that sees nothing does nothing to the desk. -/
theorem sees_or_desk_eq (m : Monitor φ) (given : Option Timestamp) (clock : Timestamp) :
    (∃ snapshot now, m.Sees given clock snapshot now) ∨
      (m.observe given clock).2.desk = m.desk := by
  rw [observe_eq]
  cases fetched : (PriceFeed.fetch m.feed m.settings.watchlist).1.series with
  | error fault => exact .inr rfl
  | ok snapshot =>
    cases dated : m.tickTime snapshot given clock with
    | error fault =>
      right
      simp only [dated]
      rfl
    | ok now => exact .inl ⟨snapshot, now, fetched, dated⟩

/-- A tick of the monitor is a run of operations of its desk, whether it fails or not. -/
theorem exists_after_eq_tick (m : Monitor φ) (o : Outlets) (given : Option Timestamp)
    (clock : Timestamp) :
    ∃ operations, m.desk.after operations = (m.tick o given clock).2.1.desk := by
  rw [monitor_tick]
  rcases m.sees_or_desk_eq given clock with ⟨snapshot, now, sees⟩ | same
  · obtain ⟨operations, same, -⟩ := sees.evaluated.exists_after_eq
    exact ⟨operations, same⟩
  · exact ⟨[], same.symm⟩

end Tick

/-! ### Runs -/

/-- What can be done to a monitor: ticks, also those that a run counts, waits, and calls to stop. -/
inductive Later (start : Monitor φ × Outlets) : Monitor φ × Outlets → Prop where
  | refl : Later start start
  | tick {m : Monitor φ} {o : Outlets} (given : Option Timestamp) (clock : Timestamp)
      (later : Later start (m, o)) : Later start (m.tick o given clock).2
  | count {m : Monitor φ} {o : Outlets} (clock : Timestamp) (later : Later start (m, o)) :
      Later start (m.count o clock)
  | pause {m : Monitor φ} {o : Outlets} (later : Later start (m, o)) : Later start (m.pause, o)
  | stop {m : Monitor φ} {o : Outlets} (later : Later start (m, o)) : Later start (m.stop, o)

theorem Later.exists_after_eq {start last : Monitor φ × Outlets} (later : Later start last) :
    ∃ operations, start.1.desk.after operations = last.1.desk := by
  induction later with
  | refl => exact ⟨[], rfl⟩
  | @tick m o given clock later ih =>
    obtain ⟨earlier, first⟩ := ih
    obtain ⟨operations, second⟩ := m.exists_after_eq_tick o given clock
    exact ⟨earlier ++ operations, by rw [RiskDesk.after_append, first, second]⟩
  -- Counting adds to the number of ticks, which the desk does not see.
  | @count m o clock later ih =>
    obtain ⟨earlier, first⟩ := ih
    obtain ⟨operations, second⟩ := m.exists_after_eq_tick o none clock
    exact ⟨earlier ++ operations, by rw [RiskDesk.after_append, first, second]; rfl⟩
  | @pause m o later ih => simpa only [desk_pause] using ih
  | stop later ih => exact ih

/-- A run only ticks and waits. -/
theorem later_runFor {start : Monitor φ × Outlets} (clock : Nat → Timestamp) (left : Nat)
    {m : Monitor φ} {o : Outlets} (later : Later start (m, o)) :
    Later start (runFor clock left m o) := by
  induction left generalizing m o with
  | zero => exact later
  | succ left ih =>
    have counted := later.count (clock m.ticks)
    rw [runFor]
    split
    · exact later
    · dsimp only
      split
      · exact counted
      · exact ih counted.pause

/-- A run changes the desk by operations only. -/
theorem exists_after_eq_run (m : Monitor φ) (o : Outlets) (clock : Nat → Timestamp) (limit : Int) :
    ∃ operations, m.desk.after operations = (m.run o clock limit).2.1.desk :=
  (later_runFor clock (ticksWithin limit) .refl).exists_after_eq

end VolatilityDesk.Monitor
