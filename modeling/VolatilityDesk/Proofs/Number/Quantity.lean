import Mathlib
import VolatilityDesk.Proofs.Number.Bounds
import VolatilityDesk.Proofs.Number.Extended
import VolatilityDesk.Proofs.Number.Whole
/-!
# Quantities

A quantity is the whole part of a quotient of two positive doubles. The quotient has a whole part
unless it is beyond the largest double, as it is for a divisor that is small enough. A whole part
that was found is not beyond the largest double, so it has a double near to it, and one with a
value.

* `overflows_or_exists_value` — a quotient of positive doubles has a value or overflows.
* `whole_div_eq_error_iff` — it has a whole part unless it overflows.
-/

namespace VolatilityDesk.Double

open Float.Model Float.Model.UnpackedFloat

variable {x y q : Float} {a : ℚ}

/-! ### Whole parts -/

theorem exists_whole (value : value? x = some a) : ∃ n, Number.whole x = .ok n := by
  obtain ⟨s, m, e, stands, -⟩ := ofFloat_of_value value
  simp only [Number.whole, Binary64.floor?, stands]
  exact ⟨_, rfl⟩

theorem whole_of_infinity {s : Sign} (infinite : exact x = .infinity s) :
    Number.whole x = .error .infinite := by
  have number : Number.isNan x = false := by
    rw [← Bool.not_eq_true, isNan_iff, infinite]
    nofun
  have itself : (x == x) = true := by simpa [Number.isNan] using number
  simp only [Number.whole, Binary64.floor?, ofFloat_eq, infinite, binaryOf, itself, if_true]

/-! ### Quotients -/

theorem infinity_or_value_of_pos (positive : 0.0 < y) :
    exact y = .infinity .positive ∨ ∃ b, value? y = some b ∧ 0 < b := by
  rcases not_number_or_infinity_or_value y with nan | ⟨s, infinite⟩ | ⟨b, value⟩
  · have number := (isNan_eq_false_of_lt positive).2
    rw [isNan_iff.mpr nan] at number
    cases number
  · cases s with
    | positive => exact .inl infinite
    | negative =>
      have compared := lt_iff.mp positive
      rw [compare_swap, compare_infinity_value infinite value_zero] at compared
      cases compared
  · exact .inr ⟨b, value, (lt_iff_value value_zero value).mp positive⟩

/-- What is divided by an infinity is nothing. -/
theorem value_div_infinity {s : Sign} (value : value? x = some a)
    (infinite : exact y = .infinity s) :
    value? (x / y) = some 0 := by
  obtain ⟨t, first, -⟩ | ⟨t, m, e, pos, first, -⟩ := zero_or_finite value <;>
    rw [value?, exact_div, first, infinite] <;>
    simp only [UnpackedFloat.div, stored_zero, number?]

theorem isDouble_greatest : IsDouble Binary64.greatest := by
  refine ⟨.positive, 2 ^ 53 - 1, 971, ?_, by decide, by decide, by decide⟩
  rw [factor, one_mul, Binary64.greatest, Binary64.greatestExponent, Nat.cast_mul, Nat.cast_pow,
    ← zpow_natCast]
  rfl

namespace Near

variable {v : ℚ} {z : Float}

/-- What has no sign is rounded to a double with a value, unless it overflows. -/
theorem infinity_or_value (near : Near v z) (nonneg : 0 ≤ v) :
    exact z = .infinity .positive ∨ ∃ w, value? z = some w := by
  cases near with
  | value rounded => exact .inr ⟨_, rounded⟩
  | @infinity s infinite beyond =>
    cases s with
    | positive => exact .inl infinite
    | negative =>
      -- All doubles would be below the negative of the number, and zero is not.
      have below := beyond 0 (isDouble_value value_zero)
      simp only [factor] at below
      linarith

/-- What is not above the largest double does not overflow. -/
theorem ne_infinity (near : Near v z) (le : v ≤ Binary64.greatest) :
    exact z ≠ .infinity .positive :=
  ((RoundsDown.near le near).atMost_double isDouble_greatest le_rfl).ne_infinity

end Near

section Quotient

variable (value : value? x = some a) (pos : 0 < a) (positive : 0.0 < y)

include value pos positive

/-- A quotient of positive doubles has a value, unless it overflows. -/
theorem overflows_or_exists_value :
    exact (x / y) = .infinity .positive ∨ ∃ v, value? (x / y) = some v := by
  rcases infinity_or_value_of_pos positive with infinite | ⟨b, value', b_pos⟩
  · exact .inr ⟨0, value_div_infinity value infinite⟩
  · exact (near_div value value' b_pos.ne').infinity_or_value (div_pos pos b_pos).le

/-- A quotient has no whole part exactly when it overflows. -/
theorem whole_div_eq_error_iff {cause : WholeFault} : Number.whole (x / y) = .error cause ↔
    cause = .infinite ∧ exact (x / y) = .infinity .positive := by
  constructor
  · intro fails
    rcases overflows_or_exists_value value pos positive with overflows | ⟨v, value'⟩
    · rw [whole_of_infinity overflows] at fails
      exact ⟨(Except.error.inj fails).symm, overflows⟩
    · obtain ⟨n, whole⟩ := exists_whole value'
      rw [whole] at fails
      cases fails
  · rintro ⟨rfl, overflows⟩
    exact whole_of_infinity overflows

omit pos in
/-- Only a divisor that is small enough makes a quotient overflow. -/
theorem exists_small_of_overflow (overflows : exact (x / y) = .infinity .positive) :
    ∃ b, value? y = some b ∧ 0 < b ∧ Binary64.greatest * b < a := by
  rcases infinity_or_value_of_pos positive with infinite | ⟨b, value', b_pos⟩
  · exact absurd overflows (exact_ne_infinity (value_div_infinity value infinite) _)
  · refine ⟨b, value', b_pos, ?_⟩
    by_contra large
    have quotient : a / b ≤ Binary64.greatest := (div_le_iff₀ b_pos).mpr (not_lt.mp large)
    exact (near_div value value' b_pos.ne').ne_infinity quotient overflows

end Quotient

/-! ### Whole numbers as doubles -/

/-- A quantity that was found as a whole part has a value as a double. -/
theorem exists_value_of_whole {n : Int} (whole : Number.whole x = .ok n) (pos : 0 < n) :
    ∃ q v, Number.ofInt? n = some q ∧ value? q = some v := by
  obtain ⟨q, converted⟩ := Binary64.exists_ofInt?_of_whole whole pos
  have below : n ≤ (Binary64.greatest : Int) := Binary64.le_greatest_of_whole whole
  have nearest : Binary64.nearest false n.natAbs 1 = q := by
    have converted : Binary64.nearest? (n < 0) n.natAbs 1 = some q := converted
    rw [decide_eq_false (Int.not_lt.mpr pos.le)] at converted
    rw [Binary64.nearest, converted, Option.getD_some]
  have near : Near (factor .positive * (n.natAbs / (1 : Nat))) q :=
    nearest ▸ near_nearest .positive n.natAbs Nat.one_pos
  rw [factor, one_mul, Nat.cast_one, div_one] at near
  have magnitude : (n.natAbs : ℚ) ≤ Binary64.greatest := by
    exact_mod_cast (show n.natAbs ≤ Binary64.greatest by omega)
  rcases near.infinity_or_value (Nat.cast_nonneg _) with overflows | ⟨v, value⟩
  · exact absurd overflows (near.ne_infinity magnitude)
  · exact ⟨q, v, converted, value⟩

end VolatilityDesk.Double
