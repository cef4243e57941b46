import VolatilityDesk.Proofs.Book.Quotes
import VolatilityDesk.Proofs.Signal.Levels
import VolatilityDesk.Proofs.Tick.Accounts
/-!
# Snapshots in any order

A tick reads a snapshot in two ways: the batch of signals sorts it by its keys, and everything else
looks prices up. Where the keys are distinct neither of them sees in which order the entries came,
so a tick on the same entries in another order gives the same answer, a fault included, and leaves
the same desk.

* `same_tick_in_any_order` — a tick does the same on a snapshot in another order.
* `signals_eq_of_perm` — the batch of signals is the same.
-/

namespace VolatilityDesk

/-! ### Prices -/

namespace Snapshot

variable {α : Type} [Number α] {snapshot snapshot' : Snapshot α}

/-- The prices of a snapshot do not depend on the order of its entries. -/
theorem agree_latestPrices (keyed : snapshot.Keyed) (perm : snapshot.Perm snapshot') :
    Prices.Agree snapshot.latestPrices snapshot'.latestPrices := by
  have distinct := keyed.distinct.sublist (keys_latestPrices_sublist snapshot)
  exact lookup_eq_of_perm (perm.filterMap _) distinct

end Snapshot

/-! ### Batches -/

namespace Classify

section Sorting

variable {β : Type} {entries entries' : List (String × β)}

theorem pairwise_sortedByKey (entries : List (String × β)) :
    (sortedByKey entries).Pairwise fun a b => a.1 ≤ b.1 :=
  pairwise_mergeSort_key (·.1) entries

/-- Distinct keys leave no choice in the order. -/
theorem sortedByKey_eq_of_perm (perm : entries.Perm entries')
    (distinct : (entries.map (·.1)).Nodup) : sortedByKey entries = sortedByKey entries' := by
  have first : (sortedByKey entries).Perm entries := List.mergeSort_perm _ _
  have second : (sortedByKey entries').Perm entries' := List.mergeSort_perm _ _
  refine List.Perm.eq_of_pairwise ?_ (pairwise_sortedByKey entries) (pairwise_sortedByKey entries')
    (first.trans (perm.trans second.symm))
  intro a b left right below above
  have here : a ∈ entries := first.mem_iff.mp left
  have there : b ∈ entries := perm.mem_iff.mpr (second.mem_iff.mp right)
  exact List.inj_on_of_nodup_map distinct here there (String.le_antisymm below above)

theorem ascending_sortedByKey (distinct : (entries.map (·.1)).Nodup) :
    ((sortedByKey entries).map (·.1)).Pairwise (· < ·) := by
  have perm : (sortedByKey entries).Perm entries := List.mergeSort_perm _ _
  have sorted : ((sortedByKey entries).map (·.1)).Pairwise (· ≤ ·) :=
    List.pairwise_map.mpr (pairwise_sortedByKey entries)
  exact ascending_of_nodup sorted ((perm.map _).nodup_iff.mpr distinct)

end Sorting

variable {α : Type} [Number α] [Root α] {rules : SignalRules α} {now : Timestamp}
  {snapshot snapshot' : Snapshot α}

theorem signals_eq_of_perm (keyed : snapshot.Keyed) (perm : snapshot.Perm snapshot') :
    Classify.signals rules snapshot now = Classify.signals rules snapshot' now := by
  rw [Classify.signals, Classify.signals, sortedByKey_eq_of_perm perm keyed.distinct]

/-- The signals of a batch come in the strict order of their instruments. -/
theorem ascending_signals {signals : List (Signal α)} (keyed : snapshot.Keyed)
    (evaluated : Classify.signals rules snapshot now = .ok signals) :
    (signals.map (·.instrument)).Pairwise (· < ·) := by
  exact (ascending_sortedByKey keyed.distinct).sublist (instruments_sublist_sorted keyed evaluated)

end Classify

/-! ### Operations and ticks -/

namespace RiskDesk

section Agreeing

variable {α : Type} [Number α] {prices prices' : Prices α} {now : Timestamp}
  (agree : prices.Agree prices') (d : RiskDesk α)

include agree

theorem scan_congr : d.scan prices now = d.scan prices' now := by
  simp only [scan, Book.scanStops_congr agree, Book.unrealized_congr agree]

theorem flatten_congr : d.flatten prices now = d.flatten prices' now := by
  simp only [flatten, Book.flatten_congr agree]

theorem actAll_congr (signals : List (Signal α)) :
    actAll prices now signals d = actAll prices' now signals d := by
  induction signals generalizing d with
  | nil => rfl
  | cons s rest ih =>
    unfold actAll
    rw [agree s.instrument]
    simp only [ih]

theorem settle_congr (flattening : Bool) (report : TickReport α) :
    d.settle prices flattening report = d.settle prices' flattening report := by
  simp only [settle, scan_congr agree, flatten_congr agree]

end Agreeing

variable {α : Type} [Number α] [Root α] {rules : SignalRules α} {snapshot snapshot' : Snapshot α}
  {now : Timestamp}

theorem runTick_eq_of_perm (keyed : snapshot.Keyed) (perm : snapshot.Perm snapshot')
    (d : RiskDesk α) : d.runTick rules snapshot' now = d.runTick rules snapshot now := by
  have agree := Snapshot.agree_latestPrices keyed perm
  simp only [runTick, Classify.signals_eq_of_perm keyed perm, actAll_congr agree,
    settle_congr agree]

theorem Ticked.evaluated {d after : RiskDesk α} {report : TickReport α}
    (ticked : Ticked d rules snapshot now report after) :
    Classify.signals rules snapshot now = .ok report.signals := by
  cases ticked with
  | trading early evaluated applied scans => exact evaluated
  | closing ending evaluated scans flattens => exact evaluated

/-- **A tick does not depend on the order of its snapshot.** On two snapshots with the same entries,
every series under its instrument and no instrument twice, a tick of any desk gives the same report,
or fails with the same fault, and leaves the same desk. The signals of the batch, and so those of
the report, come in the strict order of their instruments, at most one on each. -/
theorem same_tick_in_any_order (keyed : snapshot.Keyed) (perm : snapshot.Perm snapshot')
    (d : RiskDesk α) :
    d.runTick rules snapshot' now = d.runTick rules snapshot now ∧
      (∀ signals, Classify.signals rules snapshot now = .ok signals →
        (signals.map (·.instrument)).Pairwise (· < ·)) ∧
      ∀ report after, d.runTick rules snapshot now = (.ok report, after) →
        (report.signals.map (·.instrument)).Pairwise (· < ·) := by
  refine ⟨runTick_eq_of_perm keyed perm d, ?batch, ?report⟩
  case batch =>
    intro signals evaluated
    exact Classify.ascending_signals keyed evaluated
  case report =>
    intro report after returns
    exact Classify.ascending_signals keyed (ticked_of_runTick returns).evaluated

/-! ### Two instruments that rise -/

/-- Both instruments rise; the second one in order is listed first. -/
def sampleRising : Snapshot Float :=
  [("MSFT", sampleSeries "MSFT" [100.0, 101.0, 100.0, 101.0]),
    ("AAPL", sampleSeries "AAPL" [100.0, 101.0, 100.0, 101.0])]

theorem keyed_sampleRising : sampleRising.Keyed where
  distinct := by decide
  named := by decide

/-- Listed either way, both are bought in their order. -/
theorem same_tick_in_any_order_rising :
    ∃ report after, sample.runTick sampleRules sampleRising (noon 739446) = (.ok report, after) ∧
      sample.runTick sampleRules sampleRising.reverse (noon 739446) = (.ok report, after) ∧
      report.opened.map (·.id) = ["AAPL-000000000001", "MSFT-000000000002"] ∧
      (report.signals.map (·.instrument)).Pairwise (· < ·) := by
  have sorted : Classify.sortedByKey sampleRising.reverse = sampleRising.reverse :=
    List.mergeSort_of_pairwise (by decide)
  have buys : (sample.runTick sampleRules sampleRising.reverse (noon 739446)).1.toOption.map
      (fun r => r.opened.map Position.id) = some ["AAPL-000000000001", "MSFT-000000000002"] := by
    unfold runTick Classify.signals
    rw [sorted]
    decide +kernel
  obtain ⟨report, returns, opened⟩ := Fallible.map_toOption_eq_some_iff.mp buys
  obtain ⟨same, -, ascending⟩ := @same_tick_in_any_order Float _ _ sampleRules _ _ (noon 739446)
    keyed_sampleRising (List.reverse_perm sampleRising).symm sample
  have returns' : sample.runTick sampleRules sampleRising.reverse (noon 739446) = (.ok report, _) :=
    Prod.ext returns rfl
  rw [same] at returns'
  exact ⟨report, _, returns', same.trans returns', opened, ascending report _ returns'⟩

end RiskDesk

end VolatilityDesk
