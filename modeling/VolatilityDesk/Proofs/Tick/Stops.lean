import VolatilityDesk.Proofs.Book.Stops
import VolatilityDesk.Proofs.Tick.Accounts
/-!
# The stops of a tick

A tick scans for stops after all its signals, at the prices that the signals were applied at. So no
position that is left open after it has lost more than the limit at the price of the snapshot, be it
held from before, kept by a signal or just opened: a loss of exactly the limit is allowed, more is
not.

* `stopped_exactly` — which positions a scan, and a tick, closes.
-/

namespace VolatilityDesk.RiskDesk

variable {d after : RiskDesk Float} {rules : SignalRules Float} {snapshot : Snapshot Float}
  {prices : Prices Float} {now : Timestamp} {report : TickReport Float} {p : Position Float}
  {price : Float}

/-- What a scan of the desk leaves open has not lost more than its limit. -/
theorem not_lt_loss_of_scan {scan : RiskScan Float}
    (scans : d.perform (.scan prices now) = (.ok (.scanned scan), after))
    (left : p ∈ after.book.active) (priced : prices.lookup p.instrument = some price) :
    ∃ pnl, p.pnlAt price = .ok pnl ∧ ¬ d.maxLoss < -pnl := by
  obtain ⟨kept, swept, same⟩ := Book.closeBy_eq_ok_iff.mp (scanStops_of_perform scans)
  rw [same] at left
  exact Book.stopRule_eq_none_iff.mp (swept.stays_of_mem_kept left) price priced

theorem Ticked.not_lt_loss (ticked : Ticked d rules snapshot now report after)
    (left : p ∈ after.book.active)
    (priced : snapshot.latestPrices.lookup p.instrument = some price) :
    ∃ pnl, p.pnlAt price = .ok pnl ∧ ¬ d.maxLoss < -pnl := by
  cases ticked with
  | trading early evaluated applied scans =>
    rw [← applied.maxLoss_eq]
    exact not_lt_loss_of_scan scans left priced
  | closing ending evaluated scans flattens =>
    -- Flattening leaves nothing that has a price.
    rw [lookup_eq_none_of_flatten flattens left] at priced
    cases priced

/-- **The stop per trade is exact.** On the book of every run a scan at any prices closes exactly
the open positions that have a price at which they have lost more than the limit, in the order of
their opening and each at its price, and leaves the others as they are; a second scan at the same
prices closes nothing. So after a tick on any desk no open position has lost more than the desk's
limit at the price that the snapshot has for it. -/
theorem stopped_exactly (l : Limits Float) (serial : Nat) :
    (∀ operations prices limit now, ∃ after gone,
        ((Book.ofLimits l serial).after operations).scanStops prices limit now =
            .ok (after, gone) ∧
          Book.Scanned ((Book.ofLimits l serial).after operations) after prices limit now gone ∧
          ∀ later, after.scanStops prices limit later = .ok (after, [])) ∧
      ∀ (d after : RiskDesk Float) rules snapshot now report,
        d.runTick rules snapshot now = (.ok report, after) →
          ∀ p ∈ after.book.active, ∀ price,
            snapshot.latestPrices.lookup p.instrument = some price →
              ∃ pnl, p.pnlAt price = .ok pnl ∧ ¬ d.maxLoss < -pnl := by
  constructor
  · intro operations prices limit now
    obtain ⟨after, gone, scans⟩ :=
      (Book.valued_after l serial operations).exists_scanStops prices limit now
    exact ⟨after, gone, scans, Book.scanned_of_scanStops scans, Book.scanStops_again scans⟩
  · intro d after rules snapshot now report returns p left price priced
    exact (ticked_of_runTick returns).not_lt_loss left priced

/-! ### A loss at the limit and one beyond it -/

/-- Two positions are bought at 100. -/
def bothBought : List (Book.Operation Float) :=
  [.act (sampleSignal "AAPL" .buy) 100.0 (noon 739446),
    .act (sampleSignal "MSFT" .buy) 100.0 (noon 739446)]

/-- The first one has lost 100, the second one 50. -/
def sampleFall : Snapshot Float :=
  [("AAPL", sampleSeries "AAPL" [90.0]), ("MSFT", sampleSeries "MSFT" [95.0])]

/-- A desk with both positions and a limit of 50. -/
def sampleHolding : RiskDesk Float :=
  { sample with book := (Book.ofLimits Settings.defaults.limits 0).after bothBought }

/-- A scan and a tick under this limit close the first one and leave the second one open. -/
theorem stopped_exactly_at_limit :
    (∃ after gone,
        sampleHolding.book.scanStops sampleFall.latestPrices 50.0 (noon 739446) =
            .ok (after, gone) ∧
          gone.map (·.id) = ["AAPL-000000000001"] ∧
          after.active.map (·.id) = ["MSFT-000000000002"] ∧
          Book.Scanned sampleHolding.book after sampleFall.latestPrices 50.0 (noon 739446) gone) ∧
      ∃ report after,
        sampleHolding.runTick sampleRules sampleFall (noon 739446) = (.ok report, after) ∧
          ∃ p ∈ after.book.active, p.id = "MSFT-000000000002" ∧
            ∃ pnl, p.pnlAt 95.0 = .ok pnl ∧ ¬ 50.0 < -pnl := by
  obtain ⟨exact, limited⟩ := stopped_exactly Settings.defaults.limits 0
  constructor
  · obtain ⟨after, gone, scans, scanned, -⟩ :=
      exact bothBought sampleFall.latestPrices 50.0 (noon 739446)
    have parts : (sampleHolding.book.scanStops sampleFall.latestPrices 50.0
          (noon 739446)).toOption.map (fun r => (r.2.map Position.id, r.1.active.map Position.id)) =
        some (["AAPL-000000000001"], ["MSFT-000000000002"]) := by decide +kernel
    obtain ⟨_, answers, same⟩ := Fallible.map_toOption_eq_some_iff.mp parts
    obtain rfl := Except.ok.inj (answers.symm.trans scans)
    obtain ⟨closed, left⟩ := Prod.mk.inj same
    exact ⟨after, gone, scans, closed, left, scanned⟩
  · have sorted : Classify.sortedByKey sampleFall = sampleFall :=
      List.mergeSort_of_pairwise (by decide)
    have ticks : ((sampleHolding.runTick sampleRules sampleFall (noon 739446)).1.toOption.map
          (fun _ => (sampleHolding.runTick sampleRules sampleFall
            (noon 739446)).2.book.active.map (fun p => (p.id, p.instrument)))) =
        some [("MSFT-000000000002", "MSFT")] := by
      unfold runTick Classify.signals
      rw [sorted]
      decide +kernel
    obtain ⟨report, returns, open'⟩ := Fallible.map_toOption_eq_some_iff.mp ticks
    obtain ⟨p, alone, parts⟩ := List.map_eq_singleton_iff.mp open'
    obtain ⟨identifier, named⟩ := Prod.mk.inj parts
    have left : p ∈ (sampleHolding.runTick sampleRules sampleFall (noon 739446)).2.book.active := by
      rw [alone]
      exact List.mem_singleton_self p
    refine ⟨report, _, Prod.ext returns rfl, p, left, identifier, ?_⟩
    exact limited sampleHolding _ _ _ _ _ (Prod.ext returns rfl) p left 95.0 (by rw [named]; rfl)

end VolatilityDesk.RiskDesk
