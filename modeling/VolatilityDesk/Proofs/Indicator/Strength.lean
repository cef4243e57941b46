import VolatilityDesk.Proofs.Indicator.Sums
/-!
# Relative strength

In exact arithmetic the relative strength is the share of the gains in all movement, in percent, and
100 where nothing was lost. It depends on the differences of the window alone, and on them only up
to a positive factor; turning all prices upside down exchanges gains and losses.

* `strength_laws` — the bounds of the strength, when they are reached, and what leaves it alone.
* `strengthOf_eq` — the strength in terms of gains and losses.
-/

namespace VolatilityDesk.Indicator

open Exact

/-! ### Differences -/

section Differences

variable {α : Type} [Number α]

theorem length_differences (values : List α) :
    (differences values).length = values.length - 1 := by
  fun_induction differences values with
  | case1 first second rest ih => simp [ih]
  | case2 values short =>
    cases values with
    | nil => rfl
    | cons first rest =>
      cases rest with
      | nil => rfl
      | cons second rest => exact absurd rfl (short first second rest)

theorem differences_tail (values : List α) :
    differences values.tail = (differences values).tail := by
  cases values with
  | nil => rfl
  | cons first rest => cases rest <;> rfl

theorem differences_drop (count : Nat) (values : List α) :
    differences (values.drop count) = (differences values).drop count := by
  induction count with
  | zero => rfl
  | succ count ih => rw [← List.tail_drop, differences_tail, ih, List.tail_drop]

/-- The differences of the last values are the last differences. -/
theorem differences_lastItems (count : Nat) (values : List α) :
    differences (lastItems (count + 1) values) = lastItems count (differences values) := by
  have skipped : values.length - (count + 1) = values.length - 1 - count := by omega
  rw [lastItems, lastItems, differences_drop, length_differences, skipped]

/-- A map of values that acts on their differences maps the differences. -/
theorem differences_map {f g : α → α} (acts : ∀ x y, f y - f x = g (y - x)) (values : List α) :
    differences (values.map f) = (differences values).map g := by
  fun_induction differences values with
  | case1 first second rest ih =>
    rw [List.map_cons] at ih
    simp only [List.map_cons, differences, acts, ih]
  | case2 values short =>
    cases values with
    | nil => rfl
    | cons first rest =>
      cases rest with
      | nil => rfl
      | cons second rest => exact absurd rfl (short first second rest)

/-- With enough prices the strength is that of the last differences. -/
theorem strength_eq {prices : List α} {period : Int} (positive : 1 ≤ period)
    (enough : period + 1 ≤ prices.length) :
    strength prices period = strengthOf (lastItems period.toNat (differences prices)) := by
  rw [strength, if_neg (by omega), differences_lastItems]

end Differences

/-! ### Gains and losses -/

section Exact

variable {K : Type} [Field K] [LinearOrder K] [FloorRing K]

/-- The sum of the differences upwards. -/
def gains (deltas : List K) : K := (deltas.filter fun x => decide (0 < x)).sum

/-- The sum of the differences downwards, as a positive number. -/
def losses (deltas : List K) : K := -(deltas.filter fun x => decide (x < 0)).sum

theorem strengthOf_eq (deltas : List K) : strengthOf deltas =
    if losses deltas = 0 then 100 else 100 - 100 / (1 + gains deltas / losses deltas) := by
  have hundred : (100.0 : K) = 100 := by norm_num
  have one : (1.0 : K) = 1 := by norm_num
  unfold strengthOf gains losses
  simp only [sum_eq, zero_literal, hundred, one, beq_iff_eq]

theorem strengthOf_of_no_loss {deltas : List K} (none : losses deltas = 0) :
    strengthOf deltas = 100 := by
  rw [strengthOf_eq, if_pos none]

theorem gains_cons (x : K) (rest : List K) : gains (x :: rest) = max x 0 + gains rest := by
  unfold gains
  by_cases up : 0 < x
  · rw [List.filter_cons_of_pos (by simpa using up), List.sum_cons, max_eq_left up.le]
  · rw [List.filter_cons_of_neg (by simpa using up), max_eq_right (not_lt.mp up), zero_add]

variable [IsStrictOrderedRing K] {deltas : List K}

/-- What is lost is gained upside down. -/
theorem losses_eq_gains_neg (deltas : List K) : losses deltas = gains (deltas.map (-·)) := by
  induction deltas with
  | nil => simp [losses, gains]
  | cons x rest ih =>
    rw [List.map_cons, gains_cons, ← ih]
    unfold losses
    by_cases down : x < 0
    · rw [List.filter_cons_of_pos (by simpa using down), List.sum_cons, neg_add,
        max_eq_left (neg_pos.mpr down).le]
    · rw [List.filter_cons_of_neg (by simpa using down),
        max_eq_right (neg_nonpos.mpr (not_lt.mp down)), zero_add]

theorem losses_map_neg (deltas : List K) : losses (deltas.map (-·)) = gains deltas := by
  rw [losses_eq_gains_neg, List.map_map]
  simp

theorem gains_nonneg (deltas : List K) : 0 ≤ gains deltas := by
  induction deltas with
  | nil => simp [gains]
  | cons x rest ih =>
    rw [gains_cons]
    exact add_nonneg (le_max_right x 0) ih

theorem losses_nonneg (deltas : List K) : 0 ≤ losses deltas := by
  rw [losses_eq_gains_neg]
  exact gains_nonneg _

theorem gains_eq_zero_iff : gains deltas = 0 ↔ ∀ x ∈ deltas, x ≤ 0 := by
  induction deltas with
  | nil => simp [gains]
  | cons x rest ih =>
    rw [gains_cons, add_eq_zero_iff_of_nonneg (le_max_right x 0) (gains_nonneg rest),
      max_eq_right_iff, ih, List.forall_mem_cons]

theorem losses_eq_zero_iff : losses deltas = 0 ↔ ∀ x ∈ deltas, 0 ≤ x := by
  rw [losses_eq_gains_neg, gains_eq_zero_iff, List.forall_mem_map]
  simp only [neg_nonpos]

theorem gains_map_mul {c : K} (pos : 0 < c) (deltas : List K) :
    gains (deltas.map (c * ·)) = c * gains deltas := by
  induction deltas with
  | nil => simp [gains]
  | cons x rest ih =>
    have scaled : max (c * x) 0 = c * max x 0 := by
      rw [← mul_zero c, ← mul_max_of_nonneg _ _ pos.le, mul_zero]
    rw [List.map_cons, gains_cons, gains_cons, ih, scaled, mul_add]

theorem losses_map_mul {c : K} (pos : 0 < c) (deltas : List K) :
    losses (deltas.map (c * ·)) = c * losses deltas := by
  rw [losses_eq_gains_neg, losses_eq_gains_neg, ← gains_map_mul pos, List.map_map, List.map_map]
  simp [Function.comp_def]

theorem movement_pos (lost : losses deltas ≠ 0) : 0 < gains deltas + losses deltas :=
  add_pos_of_nonneg_of_pos (gains_nonneg deltas) (lt_of_le_of_ne (losses_nonneg deltas) lost.symm)

/-! ### Strength of differences -/

/-- The strength is the share of the gains in percent. -/
theorem strengthOf_of_loss (lost : losses deltas ≠ 0) :
    strengthOf deltas = 100 * gains deltas / (gains deltas + losses deltas) := by
  have moved := (movement_pos lost).ne'
  have moved' : losses deltas + gains deltas ≠ 0 := by rwa [add_comm]
  rw [strengthOf_eq, if_neg lost]
  field_simp
  ring

theorem strengthOf_mem (deltas : List K) : 0 ≤ strengthOf deltas ∧ strengthOf deltas ≤ 100 := by
  by_cases lost : losses deltas = 0
  · rw [strengthOf_of_no_loss lost]
    norm_num
  · have moved := movement_pos lost
    have up := gains_nonneg deltas
    have down := losses_nonneg deltas
    rw [strengthOf_of_loss lost]
    constructor
    · positivity
    · rw [div_le_iff₀ moved]
      linarith

theorem strengthOf_eq_hundred_iff : strengthOf deltas = 100 ↔ losses deltas = 0 := by
  refine ⟨?_, strengthOf_of_no_loss⟩
  intro full
  by_contra lost
  rw [strengthOf_of_loss lost, div_eq_iff (movement_pos lost).ne'] at full
  apply lost
  linarith

theorem strengthOf_eq_zero_iff :
    strengthOf deltas = 0 ↔ losses deltas ≠ 0 ∧ gains deltas = 0 := by
  by_cases lost : losses deltas = 0
  · simp [strengthOf_of_no_loss lost, lost]
  · rw [strengthOf_of_loss lost, div_eq_zero_iff]
    simp [lost, (movement_pos lost).ne']

/-- A positive factor on all differences cancels out. -/
theorem strengthOf_map_mul {c : K} (pos : 0 < c) (deltas : List K) :
    strengthOf (deltas.map (c * ·)) = strengthOf deltas := by
  rw [strengthOf_eq, strengthOf_eq, losses_map_mul pos, gains_map_mul pos,
    mul_div_mul_left _ _ pos.ne']
  simp [pos.ne']

/-- Upside down, the share of the gains is that of the losses. -/
theorem strengthOf_map_neg (gained : gains deltas ≠ 0) (lost : losses deltas ≠ 0) :
    strengthOf (deltas.map (-·)) = 100 - strengthOf deltas := by
  have moved := (movement_pos lost).ne'
  have moved' : losses deltas + gains deltas ≠ 0 := by rwa [add_comm]
  have lost' : losses (deltas.map (-·)) ≠ 0 := by rwa [losses_map_neg]
  rw [strengthOf_of_loss lost', strengthOf_of_loss lost, losses_map_neg, ← losses_eq_gains_neg]
  field_simp
  ring

end Exact

/-! ### Strength of prices -/

/-- **The laws of the relative strength.** With enough prices it is a percentage of their last
differences: 100 exactly where none is negative, and zero exactly where some is negative and none is
positive. Neither an amount added to all prices nor a positive factor on them changes it, and where
prices went both ways, turning them upside down turns it into the rest to 100. -/
theorem strength_laws {prices : List ℚ} {period : Int} (positive : 1 ≤ period)
    (enough : period + 1 ≤ prices.length) :
    let deltas := lastItems period.toNat (differences prices)
    (0 ≤ strength prices period ∧ strength prices period ≤ 100) ∧
      (strength prices period = 100 ↔ ∀ x ∈ deltas, 0 ≤ x) ∧
      (strength prices period = 0 ↔ (∃ x ∈ deltas, x < 0) ∧ ∀ x ∈ deltas, x ≤ 0) ∧
      (∀ c : ℚ, strength (prices.map (· + c)) period = strength prices period) ∧
      (∀ c : ℚ, 0 < c → strength (prices.map (c * ·)) period = strength prices period) ∧
      ((∃ x ∈ deltas, 0 < x) → (∃ x ∈ deltas, x < 0) →
        strength (prices.map (-·)) period = 100 - strength prices period) := by
  intro deltas
  have gained_iff : gains deltas ≠ 0 ↔ ∃ x ∈ deltas, 0 < x := by
    rw [ne_eq, gains_eq_zero_iff]
    push Not
    rfl
  have lost_iff : losses deltas ≠ 0 ↔ ∃ x ∈ deltas, x < 0 := by
    rw [ne_eq, losses_eq_zero_iff]
    push Not
    rfl
  -- A map of the prices that maps their differences maps the last of these.
  have mapped : ∀ {f g : ℚ → ℚ}, (∀ x y, f y - f x = g (y - x)) →
      strength (prices.map f) period = strengthOf (deltas.map g) := by
    intro f g acts
    rw [strength_eq positive (by rwa [List.length_map]), differences_map acts, lastItems_map]
  rw [strength_eq positive enough]
  refine ⟨strengthOf_mem deltas, ?_, ?_, ?_, ?_, ?_⟩
  · rw [strengthOf_eq_hundred_iff, losses_eq_zero_iff]
  · rw [strengthOf_eq_zero_iff, lost_iff, gains_eq_zero_iff]
  · intro c
    have acts : ∀ x y : ℚ, (y + c) - (x + c) = id (y - x) := by
      intro x y
      exact add_sub_add_right_eq_sub y x c
    rw [mapped acts, List.map_id]
  · intro c pos
    rw [mapped fun x y => (mul_sub c y x).symm, strengthOf_map_mul pos]
  · intro rises falls
    have acts : ∀ x y : ℚ, -y - -x = -(y - x) := by
      intro x y
      ring
    rw [mapped acts, strengthOf_map_neg (gained_iff.mpr rises) (lost_iff.mpr falls)]

/-- Prices that fall by one, rise by two and stand still at last. -/
def samplePrices : List ℚ := [90, 102, 101, 103, 103]

/-- Two thirds of the last three steps are gains, and upside down one third is. -/
theorem strength_laws_of_sample :
    (1 : Int) ≤ 3 ∧ (3 : Int) + 1 ≤ samplePrices.length ∧
      lastItems 3 (differences samplePrices) = [-1, 2, 0] ∧
      strength samplePrices 3 = 200 / 3 ∧ strength (samplePrices.map (-·)) 3 = 100 / 3 := by
  have positive : (1 : Int) ≤ 3 := by norm_num
  have enough : (3 : Int) + 1 ≤ samplePrices.length := by norm_num [samplePrices]
  have count : Int.toNat 3 = 3 := rfl
  have deltas : lastItems 3 (differences samplePrices) = [-1, 2, 0] := by
    norm_num [lastItems, differences, samplePrices]
  have share : strength samplePrices 3 = 200 / 3 := by
    have up : gains [-1, 2, (0 : ℚ)] = 2 := by norm_num [gains]
    have down : losses [-1, 2, (0 : ℚ)] = 1 := by norm_num [losses]
    have lost : losses [-1, 2, (0 : ℚ)] ≠ 0 := by norm_num [down]
    rw [strength_eq positive enough, count, deltas, strengthOf_of_loss lost, up, down]
    norm_num
  obtain ⟨-, -, -, -, -, mirrored⟩ := strength_laws positive enough
  rw [count, deltas] at mirrored
  refine ⟨positive, enough, deltas, share, ?_⟩
  rw [mirrored ⟨2, by simp, by norm_num⟩ ⟨-1, by simp, by norm_num⟩, share]
  norm_num

end VolatilityDesk.Indicator
