import VolatilityDesk.Proofs.Monitor.Step
import VolatilityDesk.Proofs.Session.Hours
/-!
# The closing of a day

Once a tick within the margin before the close has come to its end, the day is closed: only
positions without a price are left, and no later tick of the day opens another one. A later tick
finds the session within the margin, where it applies no signal, or over, where it is skipped.

* `no_reentry_after_closing` — what is left after a closing tick, and what later ticks may do.
-/

namespace VolatilityDesk

/-- An instrument without a price has no samples in the snapshot. -/
theorem Snapshot.size_eq_zero_of_lookup {α : Type} [Number α] {snapshot : Snapshot α}
    {instrument : String} (missing : snapshot.latestPrices.lookup instrument = none)
    {series : Series α} (member : (instrument, series) ∈ snapshot) : series.size = 0 := by
  by_contra samples
  have priced : (instrument, series.latestPrice) ∈ snapshot.latestPrices :=
    List.mem_filterMap.mpr ⟨_, member, if_neg samples⟩
  have absent := List.lookup_eq_none_iff.mp missing _ priced
  simp at absent

namespace RiskDesk

section Ending

variable {d after : RiskDesk Float} {rules : SignalRules Float} {snapshot : Snapshot Float}
  {now : Timestamp} {report : TickReport Float}

theorem Ticked.lookup_eq_none (ticked : Ticked d rules snapshot now report after)
    (ending : d.session.shouldFlatten now = .ok true) {p : Position Float}
    (left : p ∈ after.book.active) : snapshot.latestPrices.lookup p.instrument = none := by
  cases ticked with
  | trading early =>
    rw [ending] at early
    cases early
  | closing _ evaluated scans flattens => exact lookup_eq_none_of_flatten flattens left

theorem Ticked.opened_eq_nil (ticked : Ticked d rules snapshot now report after)
    (ending : d.session.shouldFlatten now = .ok true) : report.opened = [] := by
  cases ticked with
  | trading early =>
    rw [ending] at early
    cases early
  | closing => rfl

end Ending

end RiskDesk

namespace Monitor

variable {φ : Type} [PriceFeed φ]

/-- A tick opens nothing where an open session is one within the margin. -/
theorem Sees.opens_nothing {m : Monitor φ} {given : Option Timestamp} {clock now : Timestamp}
    {snapshot : Snapshot Float} (sees : m.Sees given clock snapshot now) (o : Outlets)
    (ending : m.desk.session.isOpen now = .ok true → m.desk.session.shouldFlatten now = .ok true) :
    Book.NoneOpened m.desk.book (m.tick o given clock).2.1.desk.book ∧
      ∀ report, (m.tick o given clock).1 = .ok report → report.opened = [] := by
  constructor
  · obtain ⟨operations, same, silent⟩ := sees.evaluated.exists_after_eq
    rw [monitor_tick, ← same]
    exact m.desk.noneOpened_after (silent ending)
  · intro report completes
    rcases sees.skipped_or_ticked completes with ⟨-, rfl⟩ | ⟨isOpen, ticked⟩
    · rfl
    · exact ticked.opened_eq_nil (ending isOpen)

/-- **No re-entry after the closing of a day.** When a tick in an open session and within the margin
before its close completes, the positions that are still open are those of instruments without a
sample in its snapshot. Whatever is done to the monitor afterwards, a tick at the same or a later
time of that day opens nothing, be the session still within the margin or over. -/
theorem no_reentry_after_closing {m : Monitor φ} {o : Outlets} {given : Option Timestamp}
    {clock now : Timestamp} {snapshot : Snapshot Float} {report : TickReport Float}
    (sees : m.Sees given clock snapshot now) (completes : (m.tick o given clock).1 = .ok report)
    (isOpen : m.desk.session.isOpen now = .ok true)
    (ending : m.desk.session.shouldFlatten now = .ok true) :
    (∀ p ∈ (m.tick o given clock).2.1.desk.book.active, ∀ series,
        (p.instrument, series) ∈ snapshot → series.size = 0) ∧
      ∀ (m' : Monitor φ) (o' : Outlets), Later (m.tick o given clock).2 (m', o') →
        ∀ given' clock' snapshot' now', m'.Sees given' clock' snapshot' now' →
          m.desk.session.LaterThatDay now now' →
          Book.NoneOpened m'.desk.book (m'.tick o' given' clock').2.1.desk.book ∧
            ∀ report', (m'.tick o' given' clock').1 = .ok report' → report'.opened = [] := by
  constructor
  · intro p left series member
    rcases sees.skipped_or_ticked completes with ⟨closed, -⟩ | ⟨-, ticked⟩
    · rw [isOpen] at closed
      cases closed
    · exact Snapshot.size_eq_zero_of_lookup (ticked.lookup_eq_none ending left) member
  · intro m' o' later given' clock' snapshot' now' sees' after
    -- In between the desk only ran operations, and those do not touch its session.
    have session : m'.desk.session = m.desk.session := by
      obtain ⟨first, ticked⟩ := m.exists_after_eq_tick o given clock
      obtain ⟨rest, same⟩ := later.exists_after_eq
      rw [← ticked, ← RiskDesk.after_append] at same
      rw [← same]
      exact (m.desk.settings_after _).1
    refine sees'.opens_nothing o' fun isOpen' => ?_
    rw [session] at isOpen' ⊢
    exact Session.shouldFlatten_of_later ending after isOpen'

/-! ### A closing to compute with -/

open RiskDesk (sampleSeries sampleRules sampleSignal noon)

/-- Minutes after noon of one day. -/
def pastNoon (minutes : Int) : Timestamp :=
  ⟨(noon 739446).wall + minutes * Micros.perMinute, some 0⟩

/-- One instrument is held, the other one is about to rise. -/
def sampleMonitor : Monitor Script where
  settings := { Settings.defaults with watchlist := ["AAPL", "MSFT"], rules := sampleRules }
  feed := ⟨[{ series := .ok [("AAPL", sampleSeries "AAPL" [101.0])] },
    { series := .ok [("MSFT", sampleSeries "MSFT" [100.0, 101.0, 100.0, 101.0])] }]⟩
  desk := RiskDesk.sample.after [.act (sampleSignal "AAPL" .buy) 100.0 (noon 739446)]

/-- The monitor and its outlets after a tick three minutes before the close. -/
def sampleClosed : Monitor Script × Outlets := (sampleMonitor.tick {} none (pastNoon 237)).2

/-- That tick flattens the position; the tick of the next minute opens none on its signal. -/
theorem no_reentry_next_minute :
    ∃ report report', (sampleMonitor.tick {} none (pastNoon 237)).1 = .ok report ∧
      report.flattened.map (·.id) = ["AAPL-000000000001"] ∧
      (sampleClosed.1.tick sampleClosed.2 none (pastNoon 238)).1 = .ok report' ∧
      report'.signals.map (·.instrument) = ["MSFT"] ∧ report'.opened = [] := by
  have first : (sampleMonitor.tick {} none (pastNoon 237)).1.toOption.map
      (fun r => r.flattened.map Position.id) = some ["AAPL-000000000001"] := by decide +kernel
  have second : (sampleClosed.1.tick sampleClosed.2 none (pastNoon 238)).1.toOption.map
      (fun r => r.signals.map Signal.instrument) = some ["MSFT"] := by decide +kernel
  obtain ⟨report, completes, flattened⟩ := Fallible.map_toOption_eq_some_iff.mp first
  obtain ⟨report', completes', signals⟩ := Fallible.map_toOption_eq_some_iff.mp second
  have sees : sampleMonitor.Sees none (pastNoon 237)
      [("AAPL", sampleSeries "AAPL" [101.0])] (pastNoon 237) := ⟨rfl, rfl⟩
  have sees' : sampleClosed.1.Sees none (pastNoon 238)
      [("MSFT", sampleSeries "MSFT" [100.0, 101.0, 100.0, 101.0])] (pastNoon 238) := by
    obtain ⟨desk, history, same⟩ := sampleMonitor.observe_frame none (pastNoon 237)
    rw [sampleClosed, monitor_tick, same]
    exact ⟨rfl, rfl⟩
  have session : sampleMonitor.desk.session = RiskDesk.sample.session :=
    (RiskDesk.sample.settings_after _).1
  have after : sampleMonitor.desk.session.LaterThatDay (pastNoon 237) (pastNoon 238) := by
    rw [session]
    exact ⟨pastNoon 237, pastNoon 238, rfl, rfl, rfl, by decide⟩
  obtain ⟨-, quiet⟩ := no_reentry_after_closing sees completes (by rw [session]; rfl)
    (by rw [session]; rfl)
  obtain ⟨-, opened⟩ := quiet _ _ .refl _ _ _ _ sees' after
  exact ⟨report, report', completes, flattened, completes', signals, opened report' completes'⟩

end Monitor

end VolatilityDesk
