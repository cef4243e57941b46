import VolatilityDesk.Proofs.Indicator.Units
import VolatilityDesk.Signal.Classify
/-!
# Classification in any unit

The classifier compares a price with shares of the band and percentages with thresholds. Every
comparison of prices is between two of them, so the unit drops out: the same market, quoted in cents
or counted in lots, is near the same bands and gets the same score and the same direction.

* `same_in_other_units` — bands, score and direction do not depend on the units.
-/

namespace VolatilityDesk.Classify

open Exact

section Unit

variable {c : ℝ} {i : Indicators ℝ}

theorem nearUpper_inUnits (pos : 0 < c) : nearUpper (i.inUnits c) = nearUpper i := by
  unfold nearUpper
  apply decide_eq_decide.mpr
  change c * i.upperBand * _ ≤ c * i.price ↔ _
  rw [mul_assoc]
  exact mul_le_mul_iff_right₀ pos

theorem nearLower_inUnits (pos : 0 < c) : nearLower (i.inUnits c) = nearLower i := by
  unfold nearLower
  apply decide_eq_decide.mpr
  change c * i.price ≤ c * i.lowerBand * _ ↔ _
  rw [mul_assoc]
  exact mul_le_mul_iff_right₀ pos

theorem score_inUnits (pos : 0 < c) (r : SignalRules ℝ) : score r (i.inUnits c) = score r i := by
  unfold score
  rw [nearUpper_inUnits pos, nearLower_inUnits pos]
  rfl

theorem direction?_inUnits (pos : 0 < c) : direction? (i.inUnits c) = direction? i := by
  unfold direction?
  rw [nearUpper_inUnits pos, nearLower_inUnits pos]
  rfl

end Unit

/-- **Units drop out.** With prices in one unit and volumes in another, the prices among the
indicators are in that unit and the percentages are the same, and so are the bands that the price is
near, the score and the direction. Nothing is asked of the series: a short one has neutral values in
every unit. -/
theorem same_in_other_units (r : SignalRules ℝ) (s : Series ℝ) {c d : ℝ} (pos : 0 < c)
    (pos' : 0 < d) :
    let i := Indicator.compute r.periods s
    let j := Indicator.compute r.periods (s.inUnits c d)
    (j.price = c * i.price ∧ j.average = c * i.average ∧ j.upperBand = c * i.upperBand ∧
      j.lowerBand = c * i.lowerBand) ∧
    (j.strength = i.strength ∧ j.volumeRatio = i.volumeRatio ∧ j.priceChange = i.priceChange) ∧
    (nearUpper j = nearUpper i ∧ nearLower j = nearLower i ∧ score r j = score r i ∧
      direction? j = direction? i) := by
  intro i j
  have same : j = i.inUnits c := Indicator.compute_inUnits pos pos' r.periods s
  rw [same]
  refine ⟨⟨rfl, rfl, rfl, rfl⟩, ⟨rfl, rfl, rfl⟩, ?_⟩
  exact ⟨nearUpper_inUnits pos, nearLower_inUnits pos, score_inUnits pos r, direction?_inUnits pos⟩

/-- Rules that look back at two samples. -/
noncomputable def realRules : SignalRules ℝ where
  periods := ⟨2, 3, 1, 2⟩
  overbought := 70
  oversold := 30
  volumeThreshold := 120
  minChange := 1
  minReturn := 3
  stopDistance := 1
  minConfidence := 0.6
  timeframe := "1d"
  localZone := .universal

/-- Two prices in dollars. -/
def realSeries : Series ℝ where
  instrument := "AAPL"
  prices := [100, 102]
  volumes := [500, 700]
  timestamps := []
  volumes_length := rfl
  timestamps_length := .inl rfl

theorem compute_sample : Indicator.compute realRules.periods realSeries =
    ⟨102, 101, 104, 98, 100, 350 / 3, 2⟩ := by
  have center : Indicator.mean [(100 : ℝ), 102] = 101 := by norm_num [Indicator.mean_eq]
  have spread : Root.sqrt (Indicator.variance [(100 : ℝ), 102]) = 1 := by
    have unit : Indicator.variance [(100 : ℝ), 102] = 1 := by
      norm_num [Indicator.variance_eq, center]
    rw [unit]
    exact Real.sqrt_one
  have volume : Indicator.mean [(500 : ℝ), 700] = 600 := by norm_num [Indicator.mean_eq]
  have band : Indicator.band realSeries.prices 2 3 = ⟨101, 104, 98⟩ := by
    norm_num [Indicator.band, Indicator.movingAverage, Indicator.deviation, Indicator.window?,
      lastItems, realSeries, center, spread]
  have strength : Indicator.strength realSeries.prices 1 = 100 := by
    have noLoss : Indicator.losses [(2 : ℝ)] = 0 := by norm_num [Indicator.losses_eq_zero_iff]
    have deltas : Indicator.differences [(100 : ℝ), 102] = [2] := by
      norm_num [Indicator.differences]
    norm_num [Indicator.strength, lastItems, realSeries, deltas,
      Indicator.strengthOf_of_no_loss noLoss]
  have volumeRatio : Indicator.volumeRatio realSeries.volumes 2 = 350 / 3 := by
    norm_num [Indicator.volumeRatio, Indicator.movingAverage, Indicator.window?, lastItems,
      realSeries, volume]
  have priceChange : Indicator.priceChange realSeries.prices = 2 := by
    norm_num [Indicator.priceChange, realSeries]
  have latest : realSeries.latestPrice = 102 := rfl
  simp [Indicator.compute, realRules, band, strength, volumeRatio, priceChange, latest]

/-- A rise to the upper band is one for sale in cents as well. -/
theorem same_in_cents :
    let j := Indicator.compute realRules.periods (realSeries.inUnits 100 (1 / 100))
    (0 : ℝ) < 100 ∧ (0 : ℝ) < 1 / 100 ∧ j.upperBand = 10400 ∧ nearUpper j = true ∧
      direction? j = some .sell := by
  intro j
  have pos : (0 : ℝ) < 100 := by norm_num
  have pos' : (0 : ℝ) < 1 / 100 := by norm_num
  obtain ⟨⟨-, -, upper, -⟩, -, near, -, -, direction⟩ :=
    same_in_other_units realRules realSeries pos pos'
  rw [compute_sample] at upper near direction
  refine ⟨pos, pos', ?_, ?_, ?_⟩
  · rw [upper]
    norm_num
  · rw [near]
    norm_num [nearUpper, proximity]
  · rw [direction]
    norm_num [direction?, nearUpper, nearLower, proximity]

end VolatilityDesk.Classify
