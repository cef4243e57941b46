import Mathlib.Data.List.Basic
import VolatilityDesk.Signal.Classify
/-!
# Decisions on the last samples

Every indicator reads the end of its series: the mean and the deviation the samples of a period, the
strength one more for its differences, the change the last two. A series cut down to its last
samples, as many as the periods need at least, therefore has the indicators of the whole series, and
since it is too short for a decision exactly when the whole series is, the decision is the same. So
are the prices and the time that a tick takes from a snapshot.

* `compute_last` — the indicators of the last samples.
* `signals_last` — the signals on them.
-/

namespace VolatilityDesk

/-! ### Ends of lists -/

section Lists

variable {α : Type} {count size : Nat}

theorem lastItems_eq_self {items : List α} (fits : items.length ≤ size) :
    lastItems size items = items := by
  rw [lastItems, Nat.sub_eq_zero_of_le fits, List.drop_zero]

/-- What was dropped from the front earlier does not count later. -/
theorem lastItems_append_lastItems (earlier items : List α) :
    lastItems size (lastItems size earlier ++ items) = lastItems size (earlier ++ items) := by
  by_cases fits : earlier.length ≤ size
  · rw [lastItems_eq_self fits]
  · have whole : earlier.take (earlier.length - size) ++ lastItems size earlier = earlier :=
      List.take_append_drop _ _
    have enough : size ≤ (lastItems size earlier ++ items).length := by
      rw [List.length_append, length_lastItems]
      omega
    conv_rhs => rw [← whole, List.append_assoc]
    exact (lastItems_append_of_le _ _ enough).symm

theorem lastItems_lastItems (within : count ≤ size) (items : List α) :
    lastItems count (lastItems size items) = lastItems count items := by
  have skip : items.length - size + (items.length - (items.length - size) - count) =
      items.length - count := by omega
  simp only [lastItems, List.drop_drop, List.length_drop, skip]

theorem lastItems_take {stop : Nat} {items : List α} (within : items = [] ∨ stop ≤ items.length) :
    lastItems count (items.take stop) = (items.take stop).drop (stop - count) := by
  rcases within with rfl | within
  · simp [lastItems]
  · rw [lastItems, List.length_take, Nat.min_eq_left within]

theorem getLast?_lastItems (positive : 0 < size) (items : List α) :
    (lastItems size items).getLast? = items.getLast? := by
  rw [lastItems, List.getLast?_drop]
  split
  · have empty : items = [] := List.eq_nil_of_length_eq_zero (by omega)
    rw [empty, List.getLast?_nil]
  · rfl

theorem reverse_lastItems (items : List α) :
    (lastItems size items).reverse = items.reverse.take size := by
  rw [lastItems, List.reverse_drop, Nat.sub_sub_eq_min, Nat.min_comm, List.take_eq_take_iff,
    List.length_reverse]
  omega

/-- Among the last items there are enough for a period exactly when there are among all. -/
theorem length_lastItems_lt_iff {period : Int} (enough : period ≤ size) (items : List α) :
    ((lastItems size items).length : Int) < period ↔ (items.length : Int) < period := by
  rw [length_lastItems]
  omega

end Lists

namespace Indicator

variable {α : Type} {size : Nat} {period : Int}

/-! ### Periods within a size -/

/-- So many samples are enough for the indicators of these periods. -/
structure Periods.FitIn (p : Periods α) (size : Nat) : Prop where
  band : p.band ≤ size
  strength : p.strength + 1 ≤ size
  volume : p.volume ≤ size
  change : 2 ≤ size

section Periods

variable {p : Periods α}

/-- The required history is enough: with a positive period of the strength it has the two samples
of the change. -/
theorem Periods.fitIn_of_required_le {count : Int} (positive : 0 < p.strength)
    (enough : p.required ≤ count) : p.FitIn count.toNat := by
  simp only [required, requiredHistory] at enough
  exact
    { band := by omega
      strength := by omega
      volume := by omega
      change := by omega }

theorem Periods.FitIn.required_le (fits : p.FitIn size) : p.required ≤ size := by
  obtain ⟨band, strength, volume, -⟩ := fits
  simp only [required, requiredHistory]
  omega

theorem Periods.FitIn.size_pos (fits : p.FitIn size) : 0 < size := Nat.zero_lt_of_lt fits.change

end Periods

theorem window?_lastItems (enough : period ≤ size) (values : List α) :
    window? (lastItems size values) period = window? values period := by
  have within : period.toNat ≤ size := by omega
  simp only [window?, length_lastItems_lt_iff enough, lastItems_lastItems within]

/-! ### Indicators of the last samples -/

section Indicators

variable [Number α]

theorem movingAverage_lastItems (enough : period ≤ size) (values : List α) :
    movingAverage (lastItems size values) period = movingAverage values period := by
  simp only [movingAverage, window?_lastItems enough]

theorem band_lastItems [Root α] (enough : period ≤ size) (prices : List α) (deviations : α) :
    band (lastItems size prices) period deviations = band prices period deviations := by
  simp only [band, deviation, length_lastItems_lt_iff enough, movingAverage_lastItems enough,
    window?_lastItems enough]

theorem strength_lastItems (enough : period + 1 ≤ size) (prices : List α) :
    strength (lastItems size prices) period = strength prices period := by
  simp only [strength, length_lastItems_lt_iff enough]
  split
  · rfl
  · have within : period.toNat + 1 ≤ size := by omega
    rw [lastItems_lastItems within]

theorem volumeRatio_lastItems (positive : 0 < size) (enough : period ≤ size) (volumes : List α) :
    volumeRatio (lastItems size volumes) period = volumeRatio volumes period := by
  simp only [volumeRatio, movingAverage_lastItems enough, getLast?_lastItems positive]

theorem priceChange_lastItems (two : 2 ≤ size) (prices : List α) :
    priceChange (lastItems size prices) = priceChange prices := by
  obtain ⟨more, rfl⟩ := Nat.exists_eq_add_of_le' two
  rw [priceChange, priceChange, reverse_lastItems]
  match prices.reverse with
  | [] => rfl
  | [latest] => rfl
  | latest :: before :: rest => rfl

theorem compute_last [Root α] {p : Periods α} (fits : p.FitIn size) (s : Series α) :
    compute p (s.last size) = compute p s := by
  simp only [compute, Series.last, Series.latestPrice, getLast?_lastItems fits.size_pos,
    band_lastItems fits.band, strength_lastItems fits.strength,
    volumeRatio_lastItems fits.size_pos fits.volume, priceChange_lastItems fits.change]

end Indicators

end Indicator

/-! ### Decisions -/

namespace Classify

variable {α : Type} [Number α] [Root α] {rules : SignalRules α} {size : Nat}

theorem verdict?_last (fits : rules.periods.FitIn size) (s : Series α) :
    verdict? rules (s.last size) = verdict? rules s := by
  have short : ((s.last size).size : Int) < rules.periods.required ↔
      (s.size : Int) < rules.periods.required :=
    length_lastItems_lt_iff fits.required_le s.prices
  simp only [verdict?, Indicator.compute_last fits, short]

theorem signal?_last (fits : rules.periods.FitIn size) (s : Series α) (now : Timestamp) :
    signal? rules (s.last size) now = signal? rules s now := by
  simp only [signal?, verdict?_last fits]
  rfl

end Classify

/-! ### Snapshots cut down -/

namespace Snapshot

variable {α : Type} {size : Nat}

/-- The last samples of every series, at most `size` of each. -/
def last (s : Snapshot α) (size : Nat) : Snapshot α :=
  s.map fun (key, series) => (key, series.last size)

theorem latestPrices_last [Number α] (positive : 0 < size) (s : Snapshot α) :
    (s.last size).latestPrices = s.latestPrices := by
  simp only [latestPrices, last, List.filterMap_map]
  refine List.filterMap_congr fun (key, series) _ => ?_
  have empty : (series.last size).size = 0 ↔ series.size = 0 := by
    simp only [Series.size, Series.last, length_lastItems]
    omega
  have price : (series.last size).latestPrice = series.latestPrice := by
    simp only [Series.latestPrice, Series.last, getLast?_lastItems positive]
  simp only [Function.comp_apply, empty, price]

theorem latestTime_last (positive : 0 < size) (s : Snapshot α) :
    (s.last size).latestTime = s.latestTime := by
  simp only [latestTime, last, List.filterMap_map]
  congr 1
  refine List.filterMap_congr fun (key, series) _ => ?_
  exact getLast?_lastItems positive series.timestamps

theorem signals_last [Number α] [Root α] {rules : SignalRules α}
    (fits : rules.periods.FitIn size) (s : Snapshot α) (now : Timestamp) :
    Classify.signals rules (s.last size) now = Classify.signals rules s now := by
  -- The keys stay as they are, so cutting down before sorting is cutting down after it.
  have sorted : Classify.sortedByKey (s.last size) = last (Classify.sortedByKey s) size := by
    unfold Classify.sortedByKey last
    refine (List.map_mergeSort ?_).symm
    intro _ _ _ _
    rfl
  rw [Classify.signals, Classify.signals, sorted, last, List.mapM_map]
  congr 2
  funext (key, series)
  exact Classify.signal?_last fits series now

end Snapshot

end VolatilityDesk
