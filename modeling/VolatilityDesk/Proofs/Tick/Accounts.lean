import VolatilityDesk.Proofs.Book.Traded
import VolatilityDesk.Proofs.Signal.Batch
import VolatilityDesk.Proofs.Tick.Step
/-!
# The accounts of a tick

A report tells each trade of its tick once. The signals of a tick are on different instruments, so a
position that one of them opens is not closed by another; and at the price that it was opened at it
has lost nothing, so the stops of the same tick spare it. What a tick opens is therefore still open
after it, and what the report lists as closed was open before.

* `tick_accounted` — what a tick opens and closes is what its report tells, once.
* `Ticked.traded` — a tick is a balance of the book.
-/

namespace VolatilityDesk

open TradeEvent

/-! ### Positions that were just opened -/

namespace Book

/-- At its entry price a position has lost nothing and is not stopped. -/
theorem stopRule_ne_some_at_entry {prices : Prices Float} {limit : Float} {now : Timestamp}
    {p : Position Float} (nonneg : 0.0 ≤ limit)
    (priced : prices.lookup p.instrument = some p.entry) (q : Position Float) :
    stopRule prices limit now p ≠ .ok (some q) := by
  intro closes
  obtain ⟨price, pnl, quoted, result, lost, -⟩ := stopRule_eq_some_iff.mp closes
  obtain rfl : p.entry = price := Option.some.inj (priced.symm.trans quoted)
  obtain ⟨units, -, valued⟩ := Fallible.bind_eq_ok_iff.mp result
  obtain rfl := Fallible.pure_eq_ok_iff.mp valued
  -- Zero for every finite price and no number for an infinite one; neither is above the limit.
  have gainless : p.unitGain p.entry = p.entry - p.entry := by
    unfold Position.unitGain
    split <;> rfl
  rw [gainless] at lost
  exact ((Double.isNothing_sub_self p.entry).mul units).neg.not_lt nonneg lost

end Book

namespace RiskDesk

/-! ### Signals of a tick -/

section Signals

variable {α : Type} [Number α] {prices : Prices α} {now : Timestamp} {signals : List (Signal α)}
  {results : List (TradeResult α)} {d after : RiskDesk α}

/-- There is one result per signal, in the same order. -/
theorem Applied.instruments_eq (applied : Applied prices now signals d results after) :
    results.map (·.instrument) = signals.map (·.instrument) := by
  induction applied with
  | nil => rfl
  | @cons s rest price d middle after result results priced acts later ih =>
    have here : result.instrument = s.instrument := by
      rcases refused_or_acted acts with ⟨-, same, -⟩ | acted
      · exact same
      · exact acted.instrument_eq
    rw [List.map_cons, List.map_cons, ih, here]

theorem Applied.mem_of_other (applied : Applied prices now signals d results after)
    {p : Position α} (member : p ∈ d.book.active)
    (other : p.instrument ∉ signals.map (·.instrument)) : p ∈ after.book.active := by
  induction applied with
  | nil => exact member
  | @cons s rest price d middle after result results priced acts later ih =>
    have apart : p.instrument ≠ s.instrument := List.ne_of_not_mem_cons other
    refine ih ?_ (List.not_mem_of_not_mem_cons other)
    rcases refused_or_acted acts with ⟨same, -⟩ | acted
    · rwa [same]
    · exact acted.mem_of_other member apart

theorem Applied.maxLoss_eq (applied : Applied prices now signals d results after) :
    after.maxLoss = d.maxLoss := by
  induction applied with
  | nil => rfl
  | @cons s rest price d middle after result results priced acts later ih =>
    have first := (step_perform d (.act s price now)).maxLoss_eq
    rw [acts] at first
    exact ih.trans first

/-- What signals on different instruments open is open after them, at the price of its
instrument. -/
theorem Applied.mem_of_opened (applied : Applied prices now signals d results after)
    (distinct : (signals.map (·.instrument)).Nodup) {p : Position α}
    (opened : p ∈ results.filterMap (·.opened?)) :
    p ∈ after.book.active ∧ prices.lookup p.instrument = some p.entry := by
  induction applied with
  | nil => cases opened
  | @cons s rest price d middle after result results priced acts later ih =>
    obtain ⟨alone, distinct⟩ := List.nodup_cons.mp distinct
    obtain ⟨answer, inside, opens⟩ := List.mem_filterMap.mp opened
    -- The rest of the batch is on other instruments and leaves what the first signal opens alone.
    rcases List.mem_cons.mp inside with rfl | inside
    · rcases refused_or_acted acts with ⟨-, -, none⟩ | acted
      · rw [none] at opens
        cases opens
      · obtain ⟨member, named, rfl⟩ := acted.mem_of_opened opens
        refine ⟨later.mem_of_other member ?_, named ▸ priced⟩
        rwa [named]
    · exact ih distinct (List.mem_filterMap.mpr ⟨answer, inside, opens⟩)

end Signals

/-! ### What was traded -/

section Traded

variable {prices : Prices Float} {now : Timestamp} {d after : RiskDesk Float}

/-- An operation that answers trades what it reports, and leaves the book sound. -/
theorem traded_of_perform {o : Operation Float} {answer : Answer Float} (sound : d.book.Sound)
    (performs : d.perform o = (.ok answer, after)) :
    Book.Traded d.book after.book (openings answer.events) (closings answer.events) ∧
      after.book.Sound := by
  have change := (step_perform d o).change sound.instruments
  rw [performs] at change
  exact ⟨.of_change change, sound.change change⟩

theorem Applied.traded {signals : List (Signal Float)} {results : List (TradeResult Float)}
    (applied : Applied prices now signals d results after) (sound : d.book.Sound) :
    Book.Traded d.book after.book (results.filterMap (·.opened?))
        (results.filterMap (·.closed?)) ∧
      after.book.Sound := by
  induction applied with
  | nil => exact ⟨.refl _, sound⟩
  | @cons s rest price d middle after result results priced acts later ih =>
    obtain ⟨first, between⟩ := traded_of_perform sound acts
    obtain ⟨second, last⟩ := ih between
    have events : (Answer.traded result).events = result.events := rfl
    rw [events, TradeResult.openings_events, TradeResult.closings_events] at first
    have joined := first.trans second
    refine ⟨?_, last⟩
    simp only [List.filterMap_cons]
    cases opens : result.opened? <;> cases closes : result.closed? <;>
      simpa [opens, closes] using joined

theorem traded_of_scan {scan : RiskScan Float} (sound : d.book.Sound)
    (scans : d.perform (.scan prices now) = (.ok (.scanned scan), after)) :
    Book.Traded d.book after.book [] scan.closed ∧ after.book.Sound := by
  simpa [Answer.events] using traded_of_perform sound scans

theorem traded_of_flatten {gone : List (Position Float)} (sound : d.book.Sound)
    (flattens : d.perform (.flatten prices now) = (.ok (.flattened gone), after)) :
    Book.Traded d.book after.book [] gone ∧ after.book.Sound := by
  simpa [Answer.events] using traded_of_perform sound flattens

/-- A scan spares a position at its entry price. -/
theorem mem_of_scan {scan : RiskScan Float} {p : Position Float}
    (scans : d.perform (.scan prices now) = (.ok (.scanned scan), after))
    (nonneg : 0.0 ≤ d.maxLoss) (member : p ∈ d.book.active)
    (priced : prices.lookup p.instrument = some p.entry) : p ∈ after.book.active := by
  obtain ⟨kept, swept, same⟩ := Book.closeBy_eq_ok_iff.mp (scanStops_of_perform scans)
  rw [same]
  exact swept.mem_kept member (Book.stopRule_ne_some_at_entry nonneg priced)

end Traded

/-! ### The whole tick -/

/-- The report of a tick accounts for what the tick did. -/
structure Accounted (d after : RiskDesk Float) (now : Timestamp) (report : TickReport Float) :
    Prop where
  /-- The closed positions grow by those of the report, in its order. -/
  closed : after.book.closed = d.book.closed ++ report.closed
  /-- The open positions are those before and those opened, without those closed. -/
  active : after.book.active =
    (d.book.active ++ report.opened).filter (fun p => p.id ∉ report.closed.map (·.id))
  /-- What was closed was open before. -/
  held : ∀ q ∈ report.closed, ∃ p ∈ d.book.active, q.asOpened = p.asOpened
  openedOnce : (report.opened.map (·.id)).Nodup
  closedOnce : (report.closed.map (·.id)).Nodup
  apart : ∀ p ∈ report.opened, ∀ q ∈ report.closed, p.id ≠ q.id
  /-- No two signals are on one instrument, so that the instrument of a result tells its signal. -/
  signals : (report.signals.map (·.instrument)).Nodup
  /-- There is one result per signal, and none before the end of the session. -/
  results : ∃ ending, d.session.shouldFlatten now = .ok ending ∧
    report.results.map (·.instrument) =
      if ending then [] else report.signals.map (·.instrument)

variable {d after : RiskDesk Float} {now : Timestamp} {report : TickReport Float}

/-- A tick is accounted for when its report tells what was traded and what it opened stays open. -/
theorem accounted_of_traded (traded : Book.Traded d.book after.book report.opened report.closed)
    (sound : after.book.Sound) (stays : ∀ p ∈ report.opened, p ∈ after.book.active)
    (signals : (report.signals.map (·.instrument)).Nodup)
    (results : ∃ ending, d.session.shouldFlatten now = .ok ending ∧
      report.results.map (·.instrument) =
        if ending then [] else report.signals.map (·.instrument)) :
    Accounted d after now report := by
  have left := traded.nodup_left sound.identifiers
  have entered := traded.nodup_entered sound.identifiers
  rw [List.map_append, List.nodup_append] at left entered
  -- An identifier is not at once that of an open and of a closed position.
  have apart : ∀ p ∈ report.opened, ∀ q ∈ report.closed, p.id ≠ q.id := by
    intro p opened q closed
    exact left.2.2 p.id (List.mem_map_of_mem (stays p opened)) q.id (List.mem_map_of_mem closed)
  refine
    { closed := traded.closed
      active := traded.active_eq sound.identifiers
      held := ?_
      openedOnce := entered.2.1
      closedOnce := left.2.1
      apart := apart
      signals := signals
      results := results }
  intro q closed
  have entry := traded.balance.mem_iff.mp (List.mem_map_of_mem (List.mem_append_right _ closed))
  obtain ⟨p, present, same⟩ := List.mem_map.mp entry
  rcases List.mem_append.mp present with before | opened
  · exact ⟨p, before, same.symm⟩
  · exact absurd (congrArg Position.id same :) (apart p opened q closed)

/-- A tick trades what its report tells. -/
theorem Ticked.traded {rules : SignalRules Float} {snapshot : Snapshot Float}
    (ticked : Ticked d rules snapshot now report after) (sound : d.book.Sound) :
    Book.Traded d.book after.book report.opened report.closed ∧ after.book.Sound := by
  cases ticked with
  | trading early evaluated applied scans =>
    obtain ⟨first, between⟩ := applied.traded sound
    obtain ⟨second, last⟩ := traded_of_scan between scans
    refine ⟨?_, last⟩
    simpa [TickReport.opened, TickReport.closed] using first.trans second
  | closing ending evaluated scans flattens =>
    obtain ⟨first, between⟩ := traded_of_scan sound scans
    obtain ⟨second, last⟩ := traded_of_flatten between flattens
    refine ⟨?_, last⟩
    simpa [TickReport.opened, TickReport.closed] using first.trans second

theorem Ticked.accounted {rules : SignalRules Float} {snapshot : Snapshot Float}
    (ticked : Ticked d rules snapshot now report after) (sound : d.book.Sound)
    (nonneg : 0.0 ≤ d.maxLoss) (keyed : snapshot.Keyed) : Accounted d after now report := by
  obtain ⟨traded, last⟩ := ticked.traded sound
  cases ticked with
  | trading early evaluated applied scans =>
    have distinct := Classify.nodup_instruments keyed evaluated
    refine accounted_of_traded traded last ?_ distinct ⟨false, early, applied.instruments_eq⟩
    intro p opened
    obtain ⟨member, priced⟩ := applied.mem_of_opened distinct opened
    rw [← applied.maxLoss_eq] at nonneg
    exact mem_of_scan scans nonneg member priced
  | closing ending evaluated scans flattens =>
    have distinct := Classify.nodup_instruments keyed evaluated
    exact accounted_of_traded traded last (by simp [TickReport.opened]) distinct
      ⟨true, ending, rfl⟩

/-- **A report tells every trade of its tick once.** Wherever a run of operations from a fresh book
has led, a tick on a snapshot with one series per instrument that gives a report is accounted for by
it: the closed positions of the report are appended to those of the book, the open ones are those
before and those opened without those closed, no position is opened and closed or told of twice, and
there is one result per signal, in the order of the signals, unless the session is about to end. -/
theorem tick_accounted {d : RiskDesk Float} {l : Limits Float} {serial : Nat}
    (fresh : d.book = Book.ofLimits l serial) (nonneg : 0.0 ≤ d.maxLoss)
    (operations : List (Operation Float)) {rules : SignalRules Float}
    {snapshot : Snapshot Float} (keyed : snapshot.Keyed)
    (returns : (d.after operations).runTick rules snapshot now = (.ok report, after)) :
    Accounted (d.after operations) after now report := by
  have start : d.book.Sound := by
    rw [fresh]
    exact Book.sound_ofLimits l serial
  have limit : 0.0 ≤ (d.after operations).maxLoss := by rwa [maxLoss_after]
  exact (ticked_of_runTick returns).accounted (sound_book_after start operations) limit keyed

/-! ### A tick that stops and opens -/

/-- One instrument has fallen, another one rises. -/
def sampleSnapshot : Snapshot Float :=
  [("AAPL", sampleSeries "AAPL" [90.0]),
    ("MSFT", sampleSeries "MSFT" [100.0, 101.0, 100.0, 101.0])]

theorem keyed_sampleSnapshot : sampleSnapshot.Keyed where
  distinct := by decide
  named := by decide

/-- A tick stops one position and opens another. -/
theorem tick_accounted_stop_and_open :
    ∃ report after,
      (sample.after [.act (sampleSignal "AAPL" .buy) 100.0 (noon 739446)]).runTick sampleRules
          sampleSnapshot (noon 739446) = (.ok report, after) ∧
        report.opened.map (·.id) = ["MSFT-000000000002"] ∧
        report.closed.map (·.id) = ["AAPL-000000000001"] ∧
        Accounted (sample.after [.act (sampleSignal "AAPL" .buy) 100.0 (noon 739446)]) after
          (noon 739446) report := by
  have sorted : Classify.sortedByKey sampleSnapshot = sampleSnapshot :=
    List.mergeSort_of_pairwise (by decide)
  have trades : ((sample.after [.act (sampleSignal "AAPL" .buy) 100.0 (noon 739446)]).runTick
        sampleRules sampleSnapshot (noon 739446)).1.toOption.map
          (fun r => (r.opened.map Position.id, r.closed.map Position.id)) =
      some (["MSFT-000000000002"], ["AAPL-000000000001"]) := by
    unfold runTick Classify.signals
    rw [sorted]
    decide +kernel
  obtain ⟨report, returns, parts⟩ := Fallible.map_toOption_eq_some_iff.mp trades
  obtain ⟨opened, closed⟩ := Prod.mk.inj parts
  have fresh : sample.book = Book.ofLimits Settings.defaults.limits 0 := rfl
  exact ⟨report, _, Prod.ext returns rfl, opened, closed,
    tick_accounted fresh (by decide) _ keyed_sampleSnapshot (Prod.ext returns rfl)⟩

end RiskDesk

end VolatilityDesk
