import Mathlib
import VolatilityDesk.Proofs.Number.Rounding
/-!
# Arithmetic of doubles

Sums, differences, products and quotients of doubles with values are near to those of the values.

* `near_add`, `near_sub`, `near_mul`, `near_div` — each operation gives a double near to its exact
  result.
-/

namespace VolatilityDesk.Double

open Float.Model Float.Model.UnpackedFloat

variable {x y : Float} {a b : ℚ}

/-! ### Signs -/

theorem factor_mul (s t : Sign) : factor (s * t) = factor s * factor t := by
  cases s <;> cases t
  · exact (show (1 : ℚ) = -1 * -1 by norm_num)
  · exact (show (-1 : ℚ) = -1 * 1 by norm_num)
  · exact (show (-1 : ℚ) = 1 * -1 by norm_num)
  · exact (show (1 : ℚ) = 1 * 1 by norm_num)

theorem factor_div (s t : Sign) : factor (s / t) = factor s / factor t := by
  cases s <;> cases t
  · exact (show (1 : ℚ) = -1 / -1 by norm_num)
  · exact (show (-1 : ℚ) = -1 / 1 by norm_num)
  · exact (show (-1 : ℚ) = 1 / -1 by norm_num)
  · exact (show (1 : ℚ) = 1 / 1 by norm_num)

theorem value_neg (value : value? x = some a) : value? (-x) = some (-a) := by
  unfold value? at value ⊢
  rw [exact_neg]
  cases stands : exact x with
  | zero s =>
    rw [stands] at value
    cases value
    exact congrArg some neg_zero.symm
  | finite s m e pos =>
    rw [stands] at value
    cases value
    simp only [UnpackedFloat.neg, number?, factor_neg, neg_mul]
  | infinity s => simp [stands, number?] at value
  | notANumber => simp [stands, number?] at value

/-- A double with a value is a zero or has a mantissa and an exponent. -/
theorem zero_or_finite (value : value? x = some a) :
    (∃ s, exact x = .zero s ∧ a = 0) ∨ ∃ s m e, ∃ pos : 0 < m, exact x = .finite s m e pos ∧
      a = factor s * (m * 2 ^ e) := by
  unfold value? at value
  cases stands : exact x with
  | zero s =>
    rw [stands] at value
    exact .inl ⟨s, rfl, (Option.some.inj value).symm⟩
  | finite s m e pos =>
    rw [stands] at value
    exact .inr ⟨s, m, e, pos, rfl, (Option.some.inj value).symm⟩
  | infinity s => simp [stands, number?] at value
  | notANumber => simp [stands, number?] at value

/-! ### Products -/

theorem exact_mul (x y : Float) :
    exact (x * y) = stored (UnpackedFloat.mul .binary64 (exact x) (exact y)) := rfl

/-- A product of mantissas has places to drop, since one of them is full or both exponents are
least. -/
theorem fits_mul {m n : Nat} {e f : Int} (left : Canonical m e) (right : Canonical n f)
    (m_pos : 0 < m) (n_pos : 0 < n) : e + f ≤ storedAt (m * n) (e + f) := by
  unfold storedAt
  by_cases long : 2 ^ 52 ≤ m * n
  · have places : 52 ≤ (m * n).log2 := (Nat.le_log2 (by positivity)).mpr long
    omega
  · have e_least : e = -1074 := left.full.resolve_right fun full =>
      long (full.trans (Nat.le_mul_of_pos_right m n_pos))
    have f_least : f = -1074 := right.full.resolve_right fun full =>
      long (full.trans (Nat.le_mul_of_pos_left n m_pos))
    omega

theorem near_mul (left : value? x = some a) (right : value? y = some b) : Near (a * b) (x * y) := by
  obtain ⟨s, first, rfl⟩ | ⟨s, m, e, m_pos, first, rfl⟩ := zero_or_finite left
  · obtain ⟨t, second, rfl⟩ | ⟨t, n, f, n_pos, second, rfl⟩ := zero_or_finite right
    · refine near_of_value ?_
      rw [value?, exact_mul, first, second, zero_mul]
      simp only [UnpackedFloat.mul, stored_zero, number?]
    · refine near_of_value ?_
      rw [value?, exact_mul, first, second, zero_mul]
      simp only [UnpackedFloat.mul, stored_zero, number?]
  · obtain ⟨t, second, rfl⟩ | ⟨t, n, f, n_pos, second, rfl⟩ := zero_or_finite right
    · refine near_of_value ?_
      rw [value?, exact_mul, first, second, mul_zero]
      simp only [UnpackedFloat.mul, stored_zero, number?]
    · have fits := fits_mul (canonical_of_exact first) (canonical_of_exact second) m_pos n_pos
      have split : factor s * (m * 2 ^ e) * (factor t * (n * 2 ^ f)) =
          factor (s * t) * ((m * n : Nat) * 2 ^ (e + f)) := by
        rw [factor_mul, zpow_add₀ (by norm_num)]
        push_cast
        ring
      have exactly : ((m * n : Nat) : ℚ) * 2 ^ (e + f) / 2 ^ (e + f) = (m * n : Nat) := by
        field_simp
      rw [split]
      refine @near_of_roundWithAccuracy _ _ _ _ .exact _ (by positivity) ?_ fits ?_ ?_
      · rw [exactly]
        exact extends_exact _
      · intro zero
        exact absurd zero (by positivity)
      · rw [exact_mul, first, second]
        rfl

/-! ### Quotients -/

theorem exact_div (x y : Float) :
    exact (x / y) = stored (UnpackedFloat.div .binary64 (exact x) (exact y)) := rfl

/-- The exponent at which a quotient of mantissas is taken. -/
def quotientAt (m : Nat) (e : Int) (n : Nat) (f : Int) : Int :=
  min (e - f) (max ((m.log2 : Int) + e - (n.log2 + f) - 53) (-1074))

theorem divCore_eq {m n : Nat} {e f : Int} : divCore .binary64 m e n f =
    ((m <<< (e - f - quotientAt m e n f).toNat) / n, quotientAt m e n f,
      accuracyOfFraction ((m <<< (e - f - quotientAt m e n f).toNat) % n) n) := by
  have exponent : min (e - f) (Format.binary64.targetExponent
      (totalExponent m e - totalExponent n f)) = quotientAt m e n f := by
    have least : Format.binary64.minExponent = -1074 := rfl
    have places : Format.binary64.mantissaBits = 53 := rfl
    rw [Format.targetExponent, least, places, totalExponent, totalExponent, quotientAt]
    congr 2
    push_cast
    ring
  unfold divCore
  rw [exponent]

/-- A quotient has 53 places or more, unless it is taken below the least exponent. -/
theorem quotient_full {m n : Nat} {e f : Int} (m_pos : 0 < m) (n_pos : 0 < n)
    (above : -1074 < quotientAt m e n f) :
    2 ^ 52 ≤ (m <<< (e - f - quotientAt m e n f).toNat) / n := by
  have places : n.log2 + 53 ≤ m.log2 + (e - f - quotientAt m e n f).toNat := by
    unfold quotientAt at above ⊢
    omega
  rw [Nat.le_div_iff_mul_le n_pos, Nat.shiftLeft_eq]
  generalize (e - f - quotientAt m e n f).toNat = k at places
  calc 2 ^ 52 * n
    _ ≤ 2 ^ 52 * 2 ^ (n.log2 + 1) := Nat.mul_le_mul_left _ Nat.lt_log2_self.le
    _ = 2 ^ (n.log2 + 53) := by rw [← pow_add, Nat.add_comm, Nat.add_assoc]
    _ ≤ 2 ^ (m.log2 + k) := Nat.pow_le_pow_right (by decide) places
    _ = 2 ^ m.log2 * 2 ^ k := pow_add ..
    _ ≤ m * 2 ^ k := Nat.mul_le_mul_right _ (Nat.log2_self_le m_pos.ne')

/-- A quotient is its whole part at an exponent that is low enough, and a rest. -/
theorem quotient_eq {m n : Nat} {e f exponent : Int} (n_pos : 0 < n) (low : exponent ≤ e - f) :
    (m : ℚ) * 2 ^ e / (n * 2 ^ f) / 2 ^ exponent =
      ((m <<< (e - f - exponent).toNat / n : Nat) : ℚ) +
        ((m <<< (e - f - exponent).toNat % n : Nat) : ℚ) / n := by
  have positive : (n : ℚ) ≠ 0 := by positivity
  have scale : (2 : ℚ) ^ e = 2 ^ (e - f - exponent).toNat * 2 ^ f * 2 ^ exponent := by
    rw [← zpow_natCast, ← zpow_add₀ (by norm_num), ← zpow_add₀ (by norm_num)]
    congr 1
    omega
  have whole : ((m <<< (e - f - exponent).toNat : Nat) : ℚ) =
      n * (m <<< (e - f - exponent).toNat / n : Nat) +
        (m <<< (e - f - exponent).toNat % n : Nat) := by
    exact_mod_cast (Nat.div_add_mod _ _).symm
  have shifted :
      ((m <<< (e - f - exponent).toNat : Nat) : ℚ) = m * 2 ^ (e - f - exponent).toNat := by
    rw [Nat.shiftLeft_eq]
    push_cast
    rfl
  rw [scale]
  rw [shifted] at whole
  field_simp
  linarith

theorem near_div (left : value? x = some a) (right : value? y = some b) (nonzero : b ≠ 0) :
    Near (a / b) (x / y) := by
  obtain ⟨t, -, zero⟩ | ⟨t, n, f, n_pos, second, rfl⟩ := zero_or_finite right
  · exact absurd zero nonzero
  obtain ⟨s, first, rfl⟩ | ⟨s, m, e, m_pos, first, rfl⟩ := zero_or_finite left
  · refine near_of_value ?_
    rw [value?, exact_div, first, second, zero_div]
    simp only [UnpackedFloat.div, stored_zero, number?]
  · have split : factor s * (m * 2 ^ e) / (factor t * (n * 2 ^ f)) =
        factor (s / t) * (m * 2 ^ e / (n * 2 ^ f)) := by
      rw [factor_div, mul_div_mul_comm]
    have low : quotientAt m e n f ≤ e - f := min_le_left _ _
    rw [split]
    refine @near_of_roundWithAccuracy _ _ ((m <<< (e - f - quotientAt m e n f).toNat) / n)
      (quotientAt m e n f) (accuracyOfFraction ((m <<< (e - f - quotientAt m e n f).toNat) % n) n) _
      (by positivity) ?_ ?_ ?_ ?_
    · rw [quotient_eq n_pos low]
      exact extends_fraction (Nat.mod_lt _ n_pos)
    · rcases Int.lt_or_le (-1074) (quotientAt m e n f) with above | least
      · have full := quotient_full m_pos n_pos above
        have places := (Nat.le_log2 (by omega)).mpr full
        unfold storedAt
        omega
      · exact least.trans (le_max_right _ _)
    · intro zero
      by_contra above
      have full := quotient_full m_pos n_pos (Int.not_le.mp above)
      omega
    · rw [exact_div, first, second]
      simp only [UnpackedFloat.div, divCore_eq]

/-! ### Sums -/

theorem exact_add (x y : Float) :
    exact (x + y) = stored (UnpackedFloat.add .binary64 (exact x) (exact y)) := rfl

/-- A number that may have too few places is rounded as well. -/
theorem near_of_round {s : Sign} {m : Nat} {e : Int} {z : Float} (pos : 0 < m)
    (result : exact z = stored (UnpackedFloat.round .binary64 s m e)) :
    Near (factor s * (m * 2 ^ e)) z := by
  have shifted : UnpackedFloat.round .binary64 s m e = roundWithAccuracy .binary64 s
      (m <<< (e - storedAt m e).toNat) (e - (e - storedAt m e).toNat) .exact := by
    unfold UnpackedFloat.round decreaseExponent
    rw [targetExponent_eq]
  have log : (m * 2 ^ (e - storedAt m e).toNat).log2 = m.log2 + (e - storedAt m e).toNat := by
    generalize (e - storedAt m e).toNat = k
    rw [Nat.log2_eq_iff (by positivity), pow_add, show m.log2 + k + 1 = m.log2 + 1 + k by omega,
      pow_add]
    exact ⟨Nat.mul_le_mul_right _ (Nat.log2_self_le pos.ne'),
      Nat.mul_lt_mul_of_pos_right Nat.lt_log2_self (by positivity)⟩
  have there : storedAt (m * 2 ^ (e - storedAt m e).toNat) (e - (e - storedAt m e).toNat) =
      storedAt m e := by
    rw [storedAt, log, storedAt]
    congr 1
    push_cast
    ring
  have same : (m : ℚ) * 2 ^ e =
      (m * 2 ^ (e - storedAt m e).toNat : Nat) * 2 ^ (e - (e - storedAt m e).toNat) := by
    push_cast
    rw [mul_assoc, ← zpow_natCast, ← zpow_add₀ (by norm_num)]
    congr 2
    omega
  rw [shifted, Nat.shiftLeft_eq] at result
  rw [same]
  refine @near_of_roundWithAccuracy _ _ _ _ .exact _ (by positivity) ?_ ?_ ?_ result
  · rw [mul_div_cancel_right₀ _ (by positivity)]
    exact extends_exact _
  · rw [there]
    omega
  · intro zero
    exact absurd zero (by positivity)

/-- A signed mantissa is rounded by its magnitude. -/
theorem near_of_normalize {n : Int} {e : Int} {z : Float}
    (result : exact z = stored (UnpackedFloat.normalize .binary64 n e .positive)) :
    Near (n * 2 ^ e) z := by
  unfold UnpackedFloat.normalize at result
  rcases Int.lt_trichotomy n 0 with below | rfl | above
  · rw [compare_lt_iff_lt.mpr below] at result
    have magnitude : (n : ℚ) = -((-n).toNat : Nat) := by
      have whole : ((-n).toNat : Int) = -n := Int.toNat_of_nonneg (by omega)
      rw [← Int.cast_natCast, whole, Int.cast_neg, neg_neg]
    have near := near_of_round (by omega) result
    rwa [factor, neg_mul, one_mul, ← neg_mul, ← magnitude] at near
  · refine near_of_value ?_
    rw [compare_eq_iff_eq.mpr rfl] at result
    rw [value?, result, stored_zero, number?]
    simp
  · rw [compare_gt_iff_gt.mpr above] at result
    have magnitude : (n : ℚ) = (n.toNat : Nat) := by
      have whole : (n.toNat : Int) = n := Int.toNat_of_nonneg (by omega)
      rw [← Int.cast_natCast, whole]
    have near := near_of_round (by omega) result
    rwa [factor, one_mul, ← magnitude] at near

/-- A mantissa at a lower exponent. -/
theorem lowered {m : Nat} {e f : Int} (low : f ≤ e) :
    ((m <<< (e - f).toNat : Nat) : ℚ) * 2 ^ f = m * 2 ^ e := by
  rw [Nat.shiftLeft_eq]
  push_cast
  rw [mul_assoc, ← zpow_natCast, ← zpow_add₀ (by norm_num)]
  congr 2
  omega

theorem near_add (left : value? x = some a) (right : value? y = some b) : Near (a + b) (x + y) := by
  obtain ⟨s, first, rfl⟩ | ⟨s, m, e, m_pos, first, rfl⟩ := zero_or_finite left
  · obtain ⟨t, second, rfl⟩ | ⟨t, n, f, n_pos, second, value⟩ := zero_or_finite right
    · refine near_of_value ?_
      rw [value?, exact_add, first, second, zero_add]
      simp only [UnpackedFloat.add]
      split <;> rw [stored_zero, number?]
    · have same : exact (x + y) = exact y := by
        rw [exact_add, first, second]
        simp only [UnpackedFloat.add]
        rw [← second, stored_exact]
      refine near_of_value ?_
      rw [value?, same, zero_add]
      exact right
  · obtain ⟨t, second, rfl⟩ | ⟨t, n, f, n_pos, second, rfl⟩ := zero_or_finite right
    · have same : exact (x + y) = exact x := by
        rw [exact_add, first, second]
        simp only [UnpackedFloat.add]
        rw [← first, stored_exact]
      refine near_of_value ?_
      rw [value?, same, add_zero]
      exact left
    · have sum : factor s * (m * 2 ^ e) + factor t * (n * 2 ^ f) =
          ((s.apply (m <<< (e - min e f).toNat : Nat) +
            t.apply (n <<< (f - min e f).toNat : Nat) : Int)
            : ℚ) * 2 ^ min e f := by
        rw [Int.cast_add, cast_apply, cast_apply, add_mul, mul_assoc, mul_assoc, Int.cast_natCast,
          Int.cast_natCast, lowered (min_le_left _ _), lowered (min_le_right _ _)]
      rw [sum]
      refine near_of_normalize ?_
      rw [exact_add, first, second]
      rfl

/-- A difference is the sum with the negative. -/
theorem exact_sub (x y : Float) : exact (x - y) = exact (x + -y) := by
  have parts (u v : UnpackedFloat) : UnpackedFloat.sub .binary64 u v =
      UnpackedFloat.add .binary64 u v.neg := by
    have negative (s : Sign) (n : Int) : (-s).apply n = -s.apply n := by
      cases s
      · exact (Int.neg_neg n).symm
      · rfl
    cases u <;> cases v <;>
      simp [UnpackedFloat.sub, UnpackedFloat.add, UnpackedFloat.neg, negative, Int.sub_eq_add_neg]
  rw [exact_add, exact_neg, ← parts]
  rfl

theorem near_sub (left : value? x = some a) (right : value? y = some b) : Near (a - b) (x - y) := by
  have near := near_add left (value_neg right)
  rw [← sub_eq_add_neg] at near
  cases near with
  | value value close below above =>
    refine .value ?_ close below above
    rw [← value, value?, value?, exact_sub]
  | infinity infinite beyond => exact .infinity ((exact_sub x y).trans infinite) beyond

end VolatilityDesk.Double
