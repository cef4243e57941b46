import VolatilityDesk.Proofs.Lookup
import VolatilityDesk.Proofs.Number.Order
import VolatilityDesk.Proofs.Signal.Batch
/-!
# Levels of a signal

A signal is given only through all gates of its decision: enough history, a positive price, a
sufficient score and return, and a target and a stop on the two sides of the entry. So every signal
of a batch has its levels in the order of its direction around the latest price of its series, which
is a positive number, since nothing that is not a number lies between two levels.

* `verdict?_eq_some_iff` — a decision is made exactly when all gates let it through.
* `qualified_of_signal?` — what every signal satisfies.
-/

namespace VolatilityDesk

open Fallible

/-! ### Prices of a snapshot -/

section Prices

variable {α : Type} [Number α]

theorem Snapshot.keys_latestPrices_sublist (snapshot : Snapshot α) :
    (snapshot.latestPrices.map (·.1)).Sublist (snapshot.map (·.1)) := by
  induction snapshot with
  | nil => exact .slnil
  | cons entry rest ih =>
    simp only [Snapshot.latestPrices, List.filterMap_cons]
    split
    · exact ih.cons _
    · rename_i pair priced
      have named : pair.1 = entry.1 := by
        split at priced
        · cases priced
        · rw [← Option.some.inj priced]
      rw [List.map_cons, List.map_cons, named]
      exact ih.cons_cons _

/-- In a snapshot with distinct keys the price under a key is the latest one of its series. -/
theorem Snapshot.lookup_latestPrices {snapshot : Snapshot α} {key : String} {series : Series α}
    (distinct : (snapshot.map (·.1)).Nodup) (member : (key, series) ∈ snapshot)
    (samples : series.size ≠ 0) :
    snapshot.latestPrices.lookup key = some series.latestPrice := by
  have priced : (key, series.latestPrice) ∈ snapshot.latestPrices :=
    List.mem_filterMap.mpr ⟨(key, series), member, by simp [samples]⟩
  exact (lookup_eq_some_iff_mem (distinct.sublist snapshot.keys_latestPrices_sublist)).mpr priced

end Prices

namespace Classify

/-! ### Levels around an entry -/

section Gates

variable {α : Type} [Number α]

/-- For a buy the stop is below the entry and the target above it, for a sale it is the other way
round. -/
def Straddles (entry target stop : α) : Direction → Prop
  | .buy => stop < entry ∧ entry < target
  | .sell => target < entry ∧ entry < stop

theorem ordered_iff {entry target stop : α} {d : Direction} :
    ordered entry target stop d = true ↔ Straddles entry target stop d := by
  cases d <;> simp [ordered, Straddles]

/-- A decision has passed all gates. -/
structure Allowed [Root α] (r : SignalRules α) (s : Series α) (v : Verdict α) : Prop where
  history : r.periods.required ≤ (s.size : Int)
  indicators : v.indicators = Indicator.compute r.periods s
  positive : ¬ v.indicators.price ≤ 0.0
  confident : ¬ v.confidence < r.minConfidence
  profitable : ¬ v.expectedReturn < r.minReturn
  placed : Straddles v.indicators.price v.levels.target v.levels.stop v.direction

/-- What a decision that has passed all gates is made of. -/
structure Decided [Root α] (r : SignalRules α) (s : Series α) (v : Verdict α) : Prop
    extends Allowed r s v where
  directed : direction? v.indicators = some v.direction
  levels : v.levels = Classify.levels r v.indicators v.indicators.price v.direction
  gain : v.expectedReturn = Classify.expectedReturn v.indicators.price v.levels.target v.direction
  confidence : v.confidence = score r v.indicators

theorem verdict?_eq_some_iff [Root α] {r : SignalRules α} {s : Series α} {v : Verdict α} :
    verdict? r s = some v ↔ Decided r s v := by
  constructor
  · intro decided
    unfold verdict? at decided
    dsimp only at decided
    split at decided
    · cases decided
    rename_i history
    split at decided
    · cases decided
    rename_i positive
    split at decided
    · cases decided
    rename_i confident
    split at decided
    · cases decided
    rename_i d directed
    split at decided
    · cases decided
    rename_i profitable
    split at decided
    · rename_i placed
      cases decided
      exact
        { history := Int.not_lt.mp history
          indicators := rfl
          positive := positive
          confident := confident
          profitable := profitable
          placed := ordered_iff.mp placed
          directed := directed
          levels := rfl
          gain := rfl
          confidence := rfl }
    · cases decided
  · obtain ⟨d, i, l, gain, confidence⟩ := v
    rintro ⟨⟨history, made, positive, confident, profitable, placed⟩, directed, leveled, gained,
      scored⟩
    dsimp only at made positive confident profitable placed directed leveled gained scored
    subst made leveled gained scored
    simp only [verdict?, if_neg (Int.not_lt.mpr history), if_neg positive, if_neg confident,
      directed, if_neg profitable, if_pos (ordered_iff.mpr placed)]

theorem allowed_of_verdict? [Root α] {r : SignalRules α} {s : Series α} {v : Verdict α}
    (decided : verdict? r s = some v) : Allowed r s v :=
  (verdict?_eq_some_iff.mp decided).toAllowed

end Gates

/-! ### Signals of a batch -/

/-- What a signal on a series always carries. -/
structure Qualified (r : SignalRules Float) (series : Series Float) (s : Signal Float) : Prop where
  history : r.periods.required ≤ (series.size : Int)
  /-- The entry is the latest price. -/
  entry : s.entry = series.latestPrice
  positive : 0.0 < s.entry
  confident : ¬ s.confidence < r.minConfidence
  profitable : ¬ s.expectedReturn < r.minReturn
  placed : Straddles s.entry s.target s.stop s.direction

variable {rules : SignalRules Float} {now : Timestamp} {series : Series Float}
  {snapshot : Snapshot Float} {signal : Signal Float}

/-- What lies between two levels and is not at or below zero is above zero. -/
theorem pos_of_straddles {entry target stop : Float} {d : Direction}
    (placed : Straddles entry target stop d) (positive : ¬ entry ≤ 0.0) : 0.0 < entry := by
  have number : Number.isNan entry = false := by
    cases d with
    | buy => exact (Double.isNan_eq_false_of_lt placed.1).2
    | sell => exact (Double.isNan_eq_false_of_lt placed.1).2
  exact Double.lt_of_not_le number rfl positive

theorem qualified_of_signal? (found : signal? rules series now = .ok (some signal)) :
    Qualified rules series signal := by
  unfold signal? at found
  cases decided : verdict? rules series with
  | none =>
    rw [decided] at found
    cases found
  | some v =>
    simp only [decided] at found
    obtain ⟨id, -, parts⟩ := bind_eq_ok_iff.mp found
    cases parts
    have allowed := allowed_of_verdict? decided
    have latest : v.indicators.price = series.latestPrice := by rw [allowed.indicators]; rfl
    exact
      { history := allowed.history
        entry := latest
        positive := pos_of_straddles allowed.placed allowed.positive
        confident := allowed.confident
        profitable := allowed.profitable
        placed := allowed.placed }

/-- Every signal of a batch is one on a series of the snapshot. -/
theorem exists_series_of_mem {signals : List (Signal Float)}
    (evaluated : Classify.signals rules snapshot now = .ok signals) (member : signal ∈ signals) :
    ∃ entry ∈ snapshot, signal? rules entry.2 now = .ok (some signal) := by
  obtain ⟨found, each, parts⟩ := bind_eq_ok_iff.mp evaluated
  obtain rfl := pure_eq_ok_iff.mp parts
  obtain ⟨result, inside, same⟩ := List.mem_filterMap.mp member
  obtain rfl : result = some signal := same
  obtain ⟨entry, present, given⟩ := exists_of_mem_mapM each inside
  have sorted : (sortedByKey snapshot).Perm snapshot := List.mergeSort_perm _ _
  exact ⟨entry, sorted.mem_iff.mp present, given⟩

/-- In a snapshot with every series under its instrument, the price for a signal is its entry. -/
theorem Qualified.priced (qualified : Qualified rules series signal) (keyed : snapshot.Keyed)
    (member : (signal.instrument, series) ∈ snapshot) :
    snapshot.latestPrices.lookup signal.instrument = some signal.entry := by
  have samples : series.size ≠ 0 := by
    intro empty
    have nothing : series.latestPrice = 0.0 := by
      rw [Series.latestPrice, List.eq_nil_of_length_eq_zero empty]
      rfl
    have positive := qualified.positive
    rw [qualified.entry, nothing] at positive
    revert positive
    decide
  rw [qualified.entry]
  exact Snapshot.lookup_latestPrices keyed.distinct member samples

end Classify

end VolatilityDesk
