import VolatilityDesk.Proofs.Monitor.Step
/-!
# Runs of ticks

A run makes whole ticks, one after the other with a wait between two of them, whether they fail or
not. It ends when its limit is reached or, before that, with the tick in which it is told to stop.
The limit is looked at behind a tick only, so a limit of zero lets one tick pass like a limit of
one.

* `ticks_within_limit` — how many ticks a run makes.
* `exists_runFor_eq` — a run is its ticks, one after the other.
* `not_every_limit_kept` — a run under the limit zero makes a tick.
-/

namespace VolatilityDesk

/-- A feed after a number of fetches of the same instruments. -/
def PriceFeed.afterFetches {φ : Type} [PriceFeed φ] (instruments : List String) : Nat → φ → φ
  | 0, feed => feed
  | n + 1, feed => afterFetches instruments n (PriceFeed.fetch feed instruments).2

namespace Monitor

variable {φ : Type} [PriceFeed φ]

/-- The monitor is told to stop in the tick that comes after a number of others. -/
def stopsAfter (m : Monitor φ) (n : Nat) : Bool :=
  let feed := PriceFeed.afterFetches m.settings.watchlist n m.feed
  (PriceFeed.fetch feed m.settings.watchlist).1.stop

/-- The monitor and the outlets after a number of ticks with waits between them. -/
def ticking (clock : Nat → Timestamp) : Nat → Monitor φ → Outlets → Monitor φ × Outlets
  | 0, m, o => (m, o)
  | 1, m, o => m.count o (clock m.ticks)
  | n + 2, m, o =>
    let (m, o) := m.count o (clock m.ticks)
    ticking clock (n + 1) m.pause o

/-! ### What a tick of a run leaves -/

variable {m : Monitor φ} {o : Outlets} {clock : Nat → Timestamp}

/-- Whatever comes of a tick, it has fetched once and is counted once. -/
theorem count_frame (m : Monitor φ) (o : Outlets) (now : Timestamp) :
    ∃ desk history, (m.count o now).1 =
      { m.fetching with ticks := m.ticks + 1, desk := desk, history := history } := by
  obtain ⟨desk, history, observed⟩ := m.observe_frame none now
  have counted : (m.count o now).1 =
      { (m.tick o none now).2.1 with ticks := (m.tick o none now).2.1.ticks + 1 } := rfl
  rw [counted, monitor_tick, observed]
  exact ⟨desk, history, rfl⟩

/-- What a run of ticks reads and what it counts, behind a tick and the wait after it. -/
theorem pause_count_frame (m : Monitor φ) (o : Outlets) (now : Timestamp) :
    (m.count o now).1.pause.settings = m.settings ∧
      (m.count o now).1.pause.feed = (PriceFeed.fetch m.feed m.settings.watchlist).2 ∧
      (m.count o now).1.pause.ticks = m.ticks + 1 ∧
      (m.count o now).1.pause.stopped = (m.count o now).1.stopped := by
  obtain ⟨desk, history, same⟩ := m.count_frame o now
  rw [same, pause]
  split <;> exact ⟨rfl, rfl, rfl, rfl⟩

theorem stopped_count (m : Monitor φ) (o : Outlets) (now : Timestamp) :
    (m.count o now).1.stopped = (m.stopped || m.stopsAfter 0) := by
  obtain ⟨desk, history, same⟩ := m.count_frame o now
  rw [same]
  rfl

theorem stopsAfter_pause_count (m : Monitor φ) (o : Outlets) (now : Timestamp) (n : Nat) :
    (m.count o now).1.pause.stopsAfter n = m.stopsAfter (n + 1) := by
  obtain ⟨settings, feed, -, -⟩ := m.pause_count_frame o now
  rw [stopsAfter, settings, feed]
  rfl

theorem ticks_ticking (clock : Nat → Timestamp) (n : Nat) (m : Monitor φ) (o : Outlets) :
    (ticking clock n m o).1.ticks = m.ticks + n := by
  induction n using Nat.twoStepInduction generalizing m o with
  | zero => rfl
  | one =>
    obtain ⟨desk, history, same⟩ := m.count_frame o (clock m.ticks)
    rw [ticking, same]
  | more n _ ih =>
    rw [ticking, ih, (m.pause_count_frame o (clock m.ticks)).2.2.1]
    omega

theorem feed_ticking (clock : Nat → Timestamp) (n : Nat) (m : Monitor φ) (o : Outlets) :
    (ticking clock n m o).1.feed = PriceFeed.afterFetches m.settings.watchlist n m.feed := by
  induction n using Nat.twoStepInduction generalizing m o with
  | zero => rfl
  | one =>
    obtain ⟨desk, history, same⟩ := m.count_frame o (clock m.ticks)
    rw [ticking, same]
    rfl
  | more n _ ih =>
    obtain ⟨settings, feed, -⟩ := m.pause_count_frame o (clock m.ticks)
    rw [ticking, ih, settings, feed]
    rfl

/-! ### How many ticks a run makes -/

theorem runFor_of_stopped (stopped : m.stopped = true) (left : Nat) :
    runFor clock left m o = (m, o) := by
  cases left with
  | zero => rfl
  | succ left => simp [runFor, stopped]

theorem runFor_succ (running : m.stopped = false) (left : Nat) :
    runFor clock (left + 1) m o =
      if left = 0 then m.count o (clock m.ticks)
      else runFor clock left (m.count o (clock m.ticks)).1.pause (m.count o (clock m.ticks)).2 := by
  simp [runFor, running]

/-- A run makes as many ticks as its limit allows, or ends with the first one in which it is told to
stop. Then it has waited once more, which leaves no other trace. -/
theorem exists_runFor_eq {n left : Nat} (running : m.stopped = false)
    (silent : ∀ i < n, m.stopsAfter i = false)
    (ends : left = n + 1 ∨ n + 1 < left ∧ m.stopsAfter n = true) :
    ∃ waits, runFor clock left m o =
      ({ (ticking clock (n + 1) m o).1 with waits := waits }, (ticking clock (n + 1) m o).2) := by
  induction n generalizing m o left with
  | zero =>
    rcases ends with rfl | ⟨further, stops⟩
    · exact ⟨_, by rw [runFor_succ running, if_pos rfl]; rfl⟩
    · obtain ⟨rest, rfl⟩ : ∃ rest, left = rest + 1 + 1 := ⟨left - 2, by omega⟩
      have stopped : (m.count o (clock m.ticks)).1.pause.stopped = true := by
        rw [(m.pause_count_frame o _).2.2.2, stopped_count, stops, Bool.or_true]
      rw [runFor_succ running, if_neg (Nat.succ_ne_zero _), runFor_of_stopped stopped, pause]
      split
      · exact ⟨_, rfl⟩
      · exact ⟨_, rfl⟩
  | succ n ih =>
    obtain ⟨rest, rfl⟩ : ∃ rest, left = rest + 1 + 1 := ⟨left - 2, by omega⟩
    have next (i : Nat) := m.stopsAfter_pause_count o (clock m.ticks) i
    have running' : (m.count o (clock m.ticks)).1.pause.stopped = false := by
      rw [(m.pause_count_frame o _).2.2.2, stopped_count, running, silent 0 (by omega)]
      rfl
    rw [runFor_succ running, if_neg (Nat.succ_ne_zero _)]
    refine ih running' ?_ ?_
    · intro i below
      rw [next]
      exact silent (i + 1) (by omega)
    · rw [next]
      exact ends.imp (by omega) fun ⟨further, stops⟩ => ⟨by omega, stops⟩

/-- A run makes a number of ticks, and nothing but these and the waits. -/
structure Makes (m : Monitor φ) (o : Outlets) (clock : Nat → Timestamp) (limit : Int)
    (made : Nat) : Prop where
  answer : (m.run o clock limit).1 = made
  counted : (m.run o clock limit).2.1.ticks = m.ticks + made
  fetched : (m.run o clock limit).2.1.feed =
    PriceFeed.afterFetches m.settings.watchlist made m.feed
  /-- Every tick was made to its end. -/
  ticked : ∃ waits, (m.run o clock limit).2 =
    ({ (ticking clock made m o).1 with waits := waits }, (ticking clock made m o).2)

theorem makes_of_runFor {limit : Int} {made : Nat} (ran : ∃ waits,
    runFor clock (ticksWithin limit) m o =
      ({ (ticking clock made m o).1 with waits := waits }, (ticking clock made m o).2)) :
    m.Makes o clock limit made := by
  obtain ⟨waits, same⟩ := ran
  have counted : (m.run o clock limit).2.1.ticks = m.ticks + made := by
    simp only [run, same, ticks_ticking]
  exact
    { answer := by
        simp only [run, same, ticks_ticking]
        omega
      counted := counted
      fetched := by simp only [run, same, feed_ticking]
      ticked := ⟨waits, by simp only [run, same]⟩ }

/-- **A run keeps to its limit.** A monitor that is stopped makes no tick in a run. One that is not
stopped makes, whatever its feed does and whether its ticks fail or not, as many ticks as the limit
says, and one if the limit is zero; if it is told to stop in one of them, that tick is the last and
comes to its end. It fetches once in each tick and answers with their number. -/
theorem ticks_within_limit (m : Monitor φ) (o : Outlets) (clock : Nat → Timestamp) (limit : Nat) :
    (m.stopped = true → m.run o clock limit = (0, m, o)) ∧
      (m.stopped = false → (∀ i < max 1 limit, m.stopsAfter i = false) →
        m.Makes o clock limit (max 1 limit)) ∧
      (m.stopped = false → ∀ last < max 1 limit, (∀ i < last, m.stopsAfter i = false) →
        m.stopsAfter last = true → m.Makes o clock limit (last + 1)) := by
  have within : ticksWithin limit = max 1 limit := rfl
  refine ⟨?stopped, ?limited, ?told⟩
  case stopped =>
    intro stopped
    simp only [run, runFor_of_stopped stopped, Nat.sub_self]
  case limited =>
    intro running silent
    obtain ⟨n, made⟩ : ∃ n, max 1 limit = n + 1 := ⟨max 1 limit - 1, by omega⟩
    rw [made] at silent ⊢
    refine makes_of_runFor (exists_runFor_eq running (fun i below => silent i (by omega)) ?_)
    rw [within, made]
    exact .inl rfl
  case told =>
    intro running last below silent stops
    refine makes_of_runFor (exists_runFor_eq running silent ?_)
    rw [within]
    by_cases final : max 1 limit = last + 1
    · exact .inl final
    · exact .inr ⟨by omega, stops⟩

/-! ### Runs to compute with -/

open RiskDesk (noon)

/-- The first fetch fails, and in the third one the monitor is told to stop. -/
def sampleStopping : Monitor Script where
  settings := { Settings.defaults with watchlist := ["AAPL"] }
  feed := ⟨[{ series := .error ⟨"connection lost"⟩ }, { series := .ok [] },
    { series := .ok [], stop := true }]⟩
  desk := RiskDesk.sample

/-- A limit of two ends the run before it is told to stop, and a limit of ten does not. -/
theorem ticks_within_two_and_ten :
    sampleStopping.stop.run {} (fun _ => noon 739446) 2 = (0, sampleStopping.stop, {}) ∧
      sampleStopping.Makes {} (fun _ => noon 739446) 2 2 ∧
      sampleStopping.Makes {} (fun _ => noon 739446) 10 3 := by
  have silent : ∀ i < 2, sampleStopping.stopsAfter i = false := by decide
  have told : sampleStopping.stopsAfter 2 = true := by decide
  refine ⟨?_, ?_, ?_⟩
  · exact (ticks_within_limit sampleStopping.stop {} _ 2).1 rfl
  · exact (ticks_within_limit sampleStopping {} _ 2).2.1 rfl silent
  · exact (ticks_within_limit sampleStopping {} _ 10).2.2 rfl 2 (by decide) silent told

/-- Nothing is ever fetched, and nobody tells the monitor to stop. -/
def sampleIdle : Monitor Script := { sampleStopping with feed := ⟨[]⟩ }

theorem stopsAfter_sampleIdle (n : Nat) : sampleIdle.stopsAfter n = false := by
  have same : PriceFeed.afterFetches sampleIdle.settings.watchlist n sampleIdle.feed = ⟨[]⟩ := by
    induction n with
    | zero => rfl
    | succ n ih => exact ih
  rw [stopsAfter, same]
  rfl

/-- A run of no ticks makes one. -/
theorem not_every_limit_kept :
    ¬ ∀ (m : Monitor Script) (o : Outlets) (clock : Nat → Timestamp) (limit : Nat),
        m.stopped = false → (∀ i, m.stopsAfter i = false) →
        (m.run o clock limit).1 = limit := by
  intro claim
  have none_made := claim sampleIdle {} (fun _ => noon 739446) 0 rfl stopsAfter_sampleIdle
  have one_made : (sampleIdle.run {} (fun _ => noon 739446) (0 : Nat)).1 = 1 := by decide +kernel
  omega

end Monitor

end VolatilityDesk
