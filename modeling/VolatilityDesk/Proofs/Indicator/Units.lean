import VolatilityDesk.Proofs.Indicator.Strength
/-!
# Units of prices and volumes

Prices can be counted in cents and volumes in lots. Written in another unit, with a positive factor
on every price and another one on every volume, the average and the band of a series come out in
the new unit, and its strength, its volume ratio and its change, which are percentages, stay what
they are. That holds of every window: where one is too short for an indicator, both have the same
neutral value, and zero is zero in every unit.

* `Indicator.compute_inUnits` — the indicators of a series in other units.
-/

namespace VolatilityDesk

open Exact

namespace Indicator

theorem window?_map {α β : Type} (f : α → β) (values : List α) (period : Int) :
    window? (values.map f) period = (window? values period).map (List.map f) := by
  unfold window?
  rw [List.length_map, lastItems_map]
  split <;> rfl

section Field

variable {K : Type} [Field K] [LinearOrder K] [FloorRing K]

/-! ### Averages -/

theorem mean_eq (values : List K) : mean values = values.sum / values.length := by
  rw [mean, sum_eq]
  rfl

theorem mean_map_mul (c : K) (values : List K) :
    mean (values.map (c * ·)) = c * mean values := by
  rw [mean_eq, mean_eq, List.length_map, List.sum_map_mul_left, List.map_id', mul_div_assoc]

theorem variance_eq (values : List K) : variance values =
    (values.map fun x => (x - mean values) * (x - mean values)).sum / values.length := by
  rw [variance, sum_eq]
  rfl

/-- The variance goes along with the square of the unit. -/
theorem variance_map_mul (c : K) (values : List K) :
    variance (values.map (c * ·)) = c * c * variance values := by
  have squares : ∀ x : K, (c * x - c * mean values) * (c * x - c * mean values) =
      c * c * ((x - mean values) * (x - mean values)) := by
    intro x
    ring
  rw [variance_eq, variance_eq, List.length_map, mean_map_mul, List.map_map, ← mul_div_assoc,
    ← List.sum_map_mul_left]
  simp only [Function.comp_def, squares]

theorem movingAverage_map_mul (c : K) (values : List K) (period : Int) :
    movingAverage (values.map (c * ·)) period = c * movingAverage values period := by
  unfold movingAverage
  rw [window?_map]
  cases window? values period with
  | none => simp [zero_literal]
  | some window => exact mean_map_mul c window

/-! ### Strength, volume and change -/

variable [IsStrictOrderedRing K] {c : K}

theorem strength_map_mul (pos : 0 < c) (prices : List K) (period : Int) :
    strength (prices.map (c * ·)) period = strength prices period := by
  unfold strength
  rw [List.length_map, lastItems_map, differences_map fun x y => (mul_sub c y x).symm,
    strengthOf_map_mul pos]

theorem volumeRatio_map_mul (pos : 0 < c) (volumes : List K) (period : Int) :
    volumeRatio (volumes.map (c * ·)) period = volumeRatio volumes period := by
  have latest : (volumes.map (c * ·)).getLast?.getD 0.0 = c * volumes.getLast?.getD 0.0 := by
    rw [List.getLast?_map]
    cases volumes.getLast? with
    | none => simp [zero_literal]
    | some x => rfl
  have sign : c * movingAverage volumes period ≤ 0 ↔ movingAverage volumes period ≤ 0 := by
    rw [← not_lt, ← not_lt, mul_pos_iff_of_pos_left pos]
  unfold volumeRatio
  rw [latest, movingAverage_map_mul]
  simp only [zero_literal, sign]
  rw [mul_div_mul_left _ _ pos.ne']

theorem priceChange_map_mul (pos : 0 < c) (prices : List K) :
    priceChange (prices.map (c * ·)) = priceChange prices := by
  unfold priceChange
  rw [← List.map_reverse]
  rcases prices.reverse with _ | ⟨latest, _ | ⟨before, rest⟩⟩
  · rfl
  · rfl
  · have zero : (c * before == 0) = (before == 0) := by
      rw [Bool.eq_iff_iff, beq_iff_eq, beq_iff_eq, mul_eq_zero_iff_left pos.ne']
    simp only [List.map_cons, zero_literal, zero]
    rw [← mul_sub, mul_div_mul_left _ _ pos.ne']

end Field

/-! ### Bands -/

theorem deviation_map_mul {c : ℝ} (nonneg : 0 ≤ c) (values : List ℝ) (period : Int) :
    deviation (values.map (c * ·)) period = c * deviation values period := by
  unfold deviation
  rw [window?_map]
  cases window? values period with
  | none => simp [zero_literal]
  | some window =>
    change Real.sqrt (variance (window.map (c * ·))) = c * Real.sqrt (variance window)
    rw [variance_map_mul, Real.sqrt_mul (mul_self_nonneg c), Real.sqrt_mul_self nonneg]

/-- The band in another unit. -/
def Band.inUnits (c : ℝ) (b : Band ℝ) : Band ℝ := ⟨c * b.middle, c * b.upper, c * b.lower⟩

theorem band_map_mul {c : ℝ} (nonneg : 0 ≤ c) (prices : List ℝ) (period : Int) (deviations : ℝ) :
    band (prices.map (c * ·)) period deviations = (band prices period deviations).inUnits c := by
  unfold band
  rw [List.length_map, movingAverage_map_mul, deviation_map_mul nonneg]
  split
  · simp [Band.inUnits, zero_literal]
  · simp only [Band.inUnits, mul_add, mul_sub, mul_left_comm]

end Indicator

/-! ### Series and indicators -/

/-- The series with its prices and its volumes in other units. -/
def Series.inUnits (c d : ℝ) (s : Series ℝ) : Series ℝ where
  instrument := s.instrument
  prices := s.prices.map (c * ·)
  volumes := s.volumes.map (d * ·)
  timestamps := s.timestamps
  volumes_length := by simp [s.volumes_length]
  timestamps_length := by simpa using s.timestamps_length

theorem Series.latestPrice_inUnits (c d : ℝ) (s : Series ℝ) :
    (s.inUnits c d).latestPrice = c * s.latestPrice := by
  unfold Series.latestPrice Series.inUnits
  rw [List.getLast?_map]
  cases s.prices.getLast? with
  | none => simp [zero_literal]
  | some x => rfl

/-- The indicators with their prices in another unit. -/
def Indicators.inUnits (c : ℝ) (i : Indicators ℝ) : Indicators ℝ :=
  { i with
    price := c * i.price
    average := c * i.average
    upperBand := c * i.upperBand
    lowerBand := c * i.lowerBand }

/-- The indicators of a series in other units are its indicators in the unit of the prices. -/
theorem Indicator.compute_inUnits {c d : ℝ} (pos : 0 < c) (pos' : 0 < d)
    (p : Indicator.Periods ℝ) (s : Series ℝ) :
    Indicator.compute p (s.inUnits c d) = (Indicator.compute p s).inUnits c := by
  unfold Indicator.compute
  rw [Series.latestPrice_inUnits]
  simp only [Series.inUnits, band_map_mul pos.le, strength_map_mul pos, volumeRatio_map_mul pos',
    priceChange_map_mul pos]
  rfl

end VolatilityDesk
