import VolatilityDesk.Proofs.Market.Replay
import VolatilityDesk.Proofs.Monitor.Step
import VolatilityDesk.Proofs.Signal.Window
/-!
# Trimmed replays

A replay may hand out the last samples of its series in place of whole histories. When those are as
many as the periods of the indicators need, a monitor cannot tell the difference: from one tick to
the next the two monitors differ in nothing but the window of their feeds, and give the same reports
and tell their outlets the same.

* `same_when_trimmed` — indicators, signals and whole replays on trimmed series.
* `tick_trimmed`, `run_trimmed` — one tick, and a run, on a trimmed feed.
-/

namespace VolatilityDesk

/-! ### Fetches -/

namespace Replay

/-- The same replay, which gives at most a number of samples of each series. -/
def trimmed (width : Int) (r : Replay) : Replay := { r with window := some width }

variable {r : Replay} {width : Int}

theorem slice_windowStart (positive : 0 < width) (s : Series Float) {stop : Nat}
    (within : stop ≤ s.size) :
    s.slice (windowStart (some width) stop) stop =
      (s.slice (windowStart none stop) stop).last width.toNat := by
  have start : windowStart (some width) stop = stop - width.toNat := by
    refine windowStart_eq ?_ stop
    rintro _ ⟨⟩
    exact positive
  have whole : windowStart none stop = 0 := rfl
  have volumes : stop ≤ s.volumes.length := s.volumes_length ▸ within
  have timestamps : s.timestamps = [] ∨ stop ≤ s.timestamps.length :=
    s.timestamps_length.imp_right fun same => within.trans_eq same.symm
  simp only [start, whole, Series.slice, Series.last, List.drop_zero, lastItems_take (.inr within),
    lastItems_take (.inr volumes), lastItems_take timestamps]

theorem visible?_trimmed (whole : r.window = none) (positive : 0 < width) (instrument : String) :
    (r.trimmed width).visible? instrument =
      (r.visible? instrument).map fun (key, s) => (key, s.last width.toNat) := by
  simp only [visible?, trimmed, whole]
  cases r.recorded.lookup instrument with
  | none => rfl
  | some s =>
    simp only [slice_windowStart positive s (Nat.min_le_right r.cursor s.size)]
    split
    · rfl
    · rfl

theorem advance_trimmed : (r.trimmed width).advance = r.advance.trimmed width := by
  have same : (r.trimmed width).exhausted = r.exhausted := rfl
  rw [advance, advance, same]
  split
  · rfl
  · rfl

theorem fetch_trimmed (whole : r.window = none) (positive : 0 < width) (instruments : List String) :
    (r.trimmed width).fetch instruments =
      ((r.fetch instruments).1.last width.toNat, (r.fetch instruments).2.trimmed width) := by
  have shown := visible?_trimmed (window_advance.trans whole) positive
  simp only [fetch, advance_trimmed, Snapshot.last, List.map_filterMap, funext shown]

end Replay

/-! ### Ticks -/

theorem RiskDesk.runTick_last {α : Type} [Number α] [Root α] {rules : SignalRules α} {size : Nat}
    (fits : rules.periods.FitIn size) (d : RiskDesk α) (snapshot : Snapshot α) (now : Timestamp) :
    d.runTick rules (snapshot.last size) now = d.runTick rules snapshot now := by
  simp only [runTick, Snapshot.latestPrices_last fits.size_pos, Snapshot.signals_last fits]

namespace Monitor

/-- The same monitor with its replay trimmed. -/
def trimmed (width : Int) (m : Monitor Replay) : Monitor Replay :=
  { m with feed := m.feed.trimmed width }

/-- The replay gives whole histories, and `width` samples would do for the indicators. -/
structure Trims (width : Int) (m : Monitor Replay) : Prop where
  whole : m.feed.window = none
  fits : m.settings.rules.periods.FitIn width.toNat

section Tick

variable {m : Monitor Replay} {width : Int}

theorem evaluate_trimmed (trims : m.Trims width) (snapshot : Snapshot Float) (now : Timestamp) :
    (m.trimmed width).evaluate (snapshot.last width.toNat) now =
      ((m.evaluate snapshot now).1, (m.evaluate snapshot now).2.trimmed width) := by
  simp only [evaluate, trimmed, RiskDesk.runTick_last trims.fits]
  split
  · rfl
  · rfl
  · split
    · rfl
    · rfl

theorem Trims.fetching (trims : m.Trims width) : m.fetching.Trims width :=
  ⟨Replay.window_advance.trans trims.whole, trims.fits⟩

/-- A replay is always fetched from, so only the time of a tick may be missing. -/
theorem observe_replay (m : Monitor Replay) (given : Option Timestamp) (clock : Timestamp) :
    m.observe given clock =
      match m.tickTime (m.feed.fetch m.settings.watchlist).1 given clock with
      | .error fault => (.error (.time fault), m.fetching)
      | .ok now => m.fetching.evaluate (m.feed.fetch m.settings.watchlist).1 now := rfl

theorem observe_trimmed (trims : m.Trims width) (given : Option Timestamp) (clock : Timestamp) :
    (m.trimmed width).observe given clock =
      ((m.observe given clock).1, (m.observe given clock).2.trimmed width) := by
  have positive : 0 < width.toNat := trims.fits.size_pos
  have fetched : (m.trimmed width).feed.fetch (m.trimmed width).settings.watchlist =
      ((m.feed.fetch m.settings.watchlist).1.last width.toNat,
        (m.feed.fetch m.settings.watchlist).2.trimmed width) :=
    Replay.fetch_trimmed trims.whole (by omega) _
  have next : (m.trimmed width).fetching = m.fetching.trimmed width := by
    have feed : (PriceFeed.fetch (m.trimmed width).feed (m.trimmed width).settings.watchlist).2 =
        m.fetching.feed.trimmed width := congrArg Prod.snd fetched
    rw [Monitor.fetching, feed]
    rfl
  have dated (snapshot : Snapshot Float) :
      (m.trimmed width).tickTime (snapshot.last width.toNat) given clock =
        m.tickTime snapshot given clock := by
    simp only [tickTime, trimmed, Snapshot.latestTime_last positive]
  rw [observe_replay, observe_replay, fetched, next, dated]
  split
  · rfl
  · exact evaluate_trimmed trims.fetching _ _

theorem tick_trimmed (trims : m.Trims width) (o : Outlets) (given : Option Timestamp)
    (clock : Timestamp) :
    (m.trimmed width).tick o given clock =
      ((m.tick o given clock).1, (m.tick o given clock).2.1.trimmed width,
        (m.tick o given clock).2.2) := by
  rw [tick, tick, observe_trimmed trims]
  rcases m.observe given clock with ⟨out, after⟩
  cases out with
  | error fault => rfl
  | ok report => rfl

/-- A tick leaves the settings and the window of the replay as they are. -/
theorem Trims.tick (trims : m.Trims width) (o : Outlets) (given : Option Timestamp)
    (clock : Timestamp) : (m.tick o given clock).2.1.Trims width := by
  obtain ⟨desk, history, same⟩ := m.observe_frame given clock
  rw [monitor_tick, same]
  exact ⟨trims.fetching.whole, trims.fetching.fits⟩

end Tick

/-! ### Runs -/

/-- Ticks one after the other, each with the time that is given for it and the time of the clock:
their answers, and the monitor and the outlets after them. -/
def tickAll {φ : Type} [PriceFeed φ] : List (Option Timestamp × Timestamp) → Monitor φ → Outlets →
    List (Except TickFault (TickReport Float)) × Monitor φ × Outlets
  | [], m, o => ([], m, o)
  | (given, clock) :: rest, m, o =>
    let (out, m, o) := m.tick o given clock
    let (outs, m, o) := tickAll rest m o
    (out :: outs, m, o)

section Runs

variable {m : Monitor Replay} {width : Int}

theorem tickAll_trimmed (trims : m.Trims width) (times : List (Option Timestamp × Timestamp))
    (o : Outlets) :
    tickAll times (m.trimmed width) o =
      ((tickAll times m o).1, (tickAll times m o).2.1.trimmed width, (tickAll times m o).2.2) := by
  induction times generalizing m o with
  | nil => rfl
  | cons time rest ih =>
    simp only [tickAll, tick_trimmed trims, ih (trims.tick o time.1 time.2)]

theorem count_trimmed (trims : m.Trims width) (o : Outlets) (clock : Timestamp) :
    (m.trimmed width).count o clock =
      ((m.count o clock).1.trimmed width, (m.count o clock).2) := by
  simp only [Monitor.count, tick_trimmed trims]
  rfl

theorem Trims.count (trims : m.Trims width) (o : Outlets) (clock : Timestamp) :
    (m.count o clock).1.Trims width :=
  ⟨(trims.tick o none clock).whole, (trims.tick o none clock).fits⟩

theorem pause_trimmed : (m.trimmed width).pause = m.pause.trimmed width := by
  have same : (m.trimmed width).settings = m.settings := rfl
  rw [pause, pause, same]
  split
  · rfl
  · rfl

theorem Trims.pause (trims : m.Trims width) : m.pause.Trims width := by
  unfold Monitor.pause
  split
  · exact ⟨trims.whole, trims.fits⟩
  · exact trims

theorem runFor_trimmed (clock : Nat → Timestamp) (left : Nat) (trims : m.Trims width)
    (o : Outlets) :
    runFor clock left (m.trimmed width) o =
      ((runFor clock left m o).1.trimmed width, (runFor clock left m o).2) := by
  induction left generalizing m o with
  | zero => rfl
  | succ left ih =>
    have same : (m.trimmed width).ticks = m.ticks := rfl
    have stopped : (m.trimmed width).stopped = m.stopped := rfl
    have counted := trims.count o (clock m.ticks)
    simp only [runFor, same, stopped, count_trimmed trims, pause_trimmed, ih counted.pause]
    split
    · rfl
    · split
      · rfl
      · rfl

theorem run_trimmed (trims : m.Trims width) (o : Outlets) (clock : Nat → Timestamp) (limit : Int) :
    (m.trimmed width).run o clock limit =
      ((m.run o clock limit).1, (m.run o clock limit).2.1.trimmed width,
        (m.run o clock limit).2.2) := by
  simp only [run, runFor_trimmed clock _ trims]
  rfl

end Runs

/-- **Trimming never changes a decision.** With a positive period of the strength, a window of as
many samples as the periods require has the indicators of its series and gives the signal that the
series gives. So a monitor on a replay with such a window, or a larger one, makes the ticks of the
monitor on the whole replay: it gives the same reports, comes to the same desk and the same history,
and tells its outlets the same, whether it is told to tick or ticks in a run. -/
theorem same_when_trimmed {rules : SignalRules Float} (positive : 0 < rules.periods.strength)
    {width : Int} (enough : rules.periods.required ≤ width) :
    (∀ s : Series Float, ∃ last, s.window width = .ok last ∧
        Indicator.compute rules.periods last = Indicator.compute rules.periods s ∧
        ∀ now, Classify.signal? rules last now = Classify.signal? rules s now) ∧
      ∀ m : Monitor Replay, m.settings.rules = rules → m.feed.window = none → ∀ o,
        (∀ times, tickAll times (m.trimmed width) o =
            ((tickAll times m o).1, (tickAll times m o).2.1.trimmed width,
              (tickAll times m o).2.2)) ∧
          ∀ clock limit, (m.trimmed width).run o clock limit =
            ((m.run o clock limit).1, (m.run o clock limit).2.1.trimmed width,
              (m.run o clock limit).2.2) := by
  have fits := Indicator.Periods.fitIn_of_required_le positive enough
  constructor
  · intro s
    have sized : ¬ width ≤ 0 := by
      have := fits.size_pos
      omega
    exact ⟨s.last width.toNat, if_neg sized, Indicator.compute_last fits s,
      Classify.signal?_last fits s⟩
  · rintro m rfl whole o
    have trims : m.Trims width := ⟨whole, fits⟩
    exact ⟨fun times => tickAll_trimmed trims times o, run_trimmed trims o⟩

/-! ### A replay to compute with -/

open RiskDesk (sampleSeries sampleRules noon)

/-- One sample more than the rules need has been given out, and the price rises. -/
def sampleReplaying : Monitor Replay where
  settings := { Settings.defaults with watchlist := ["AAPL"], rules := sampleRules }
  feed :=
    { recorded := [("AAPL", sampleSeries "AAPL" [102.0, 99.0, 100.0, 101.0, 100.0, 101.0])]
      cursor := 5 }
  desk := RiskDesk.sample

/-- On four samples the tick buys as it does on all six. -/
theorem same_when_trimmed_rising :
    ∃ report after o', tickAll [(none, noon 739446)] sampleReplaying {} =
        ([.ok report], after, o') ∧
      tickAll [(none, noon 739446)] (sampleReplaying.trimmed 4) {} =
        ([.ok report], after.trimmed 4, o') ∧
      report.opened.map (·.entry) = [101.0] := by
  have buys : (sampleReplaying.tick {} none (noon 739446)).1.toOption.map
      (fun r => r.opened.map Position.entry) = some [101.0] := by decide +kernel
  obtain ⟨report, completes, entries⟩ := Fallible.map_toOption_eq_some_iff.mp buys
  have ticks : tickAll [(none, noon 739446)] sampleReplaying {} = ([.ok report], _, _) :=
    congrArg (fun out => ([out], _, _)) completes
  obtain ⟨-, replays⟩ := same_when_trimmed (by decide : 0 < sampleRules.periods.strength)
    (by decide : sampleRules.periods.required ≤ 4)
  obtain ⟨same, -⟩ := replays sampleReplaying rfl rfl {}
  have trimmed := same [(none, noon 739446)]
  rw [ticks] at trimmed
  exact ⟨report, _, _, ticks, trimmed, entries⟩

end Monitor

end VolatilityDesk
