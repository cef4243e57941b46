import Mathlib
import VolatilityDesk.Proofs.Number.Arithmetic
import VolatilityDesk.Proofs.Number.Places
/-!
# Bounds of computed doubles

A bound of a double gives a bound of what is computed from it, less a small part for the rounding.
Infinities count as beyond all bounds on their side, so a bound survives an overflow. A bound that a
double holds is kept exactly: rounding does not pass it.

* `RoundsUp.atLeast`, `RoundsDown.atMost` — the bound that a rounded result has.
* `AtLeast.round4`, `AtMost.round4` — the bounds of a double that is rounded to four places.
-/

namespace VolatilityDesk.Double

open Float.Model Float.Model.UnpackedFloat

variable {x y z : Float} {a b q w d c : ℚ}

/-! ### Infinities -/

theorem exact_add_infinity {s : Sign} (value : value? x = some a)
    (infinite : exact y = .infinity s) : exact (x + y) = .infinity s := by
  obtain ⟨t, first, -⟩ | ⟨t, m, e, pos, first, -⟩ := zero_or_finite value <;>
    rw [exact_add, first, infinite] <;> simp only [UnpackedFloat.add, stored_infinity]

theorem exact_infinity_add {s : Sign} (infinite : exact x = .infinity s)
    (value : value? y = some b) : exact (x + y) = .infinity s := by
  obtain ⟨t, second, -⟩ | ⟨t, m, e, pos, second, -⟩ := zero_or_finite value <;>
    rw [exact_add, second, infinite] <;> simp only [UnpackedFloat.add, stored_infinity]

theorem exact_sub_infinity {s : Sign} (value : value? x = some a)
    (infinite : exact y = .infinity s) : exact (x - y) = .infinity (-s) := by
  rw [exact_sub]
  refine exact_add_infinity value ?_
  rw [exact_neg, infinite, UnpackedFloat.neg]

theorem exact_infinity_sub {s : Sign} (infinite : exact x = .infinity s)
    (value : value? y = some b) : exact (x - y) = .infinity s := by
  rw [exact_sub]
  exact exact_infinity_add infinite (value_neg value)

/-- A positive double is not a zero, and its sign is positive. -/
theorem finite_of_pos (value : value? x = some a) (pos : 0 < a) :
    ∃ m e, ∃ m_pos : 0 < m, exact x = .finite .positive m e m_pos := by
  obtain ⟨s, -, rfl⟩ | ⟨s, m, e, m_pos, stands, rfl⟩ := zero_or_finite value
  · exact absurd pos (lt_irrefl 0)
  · cases s with
    | positive => exact ⟨m, e, m_pos, stands⟩
    | negative =>
      have magnitude : (0 : ℚ) ≤ m * 2 ^ e := by positivity
      simp only [factor] at pos
      linarith

theorem exact_mul_infinity {s : Sign} (value : value? x = some a) (pos : 0 < a)
    (infinite : exact y = .infinity s) : exact (x * y) = .infinity s := by
  obtain ⟨m, e, m_pos, stands⟩ := finite_of_pos value pos
  rw [exact_mul, stands, infinite]
  cases s <;> exact stored_infinity _

theorem exact_infinity_mul {s : Sign} (infinite : exact x = .infinity s) (value : value? y = some b)
    (pos : 0 < b) : exact (x * y) = .infinity s := by
  obtain ⟨m, e, m_pos, stands⟩ := finite_of_pos value pos
  rw [exact_mul, stands, infinite]
  cases s <;> exact stored_infinity _

theorem exact_infinity_div {s : Sign} (infinite : exact x = .infinity s) (value : value? y = some b)
    (pos : 0 < b) : exact (x / y) = .infinity s := by
  obtain ⟨m, e, m_pos, stands⟩ := finite_of_pos value pos
  rw [exact_div, stands, infinite]
  cases s <;> exact stored_infinity _

/-! ### What is rounded -/

/-- A double is what a number at or above a bound is rounded to, or the positive infinity. -/
inductive RoundsUp (w : ℚ) (z : Float) : Prop where
  | infinite (beyond : exact z = .infinity .positive) : RoundsUp w z
  | near {v : ℚ} (le : w ≤ v) (near : Near v z) : RoundsUp w z

/-- A double is what a number at or below a bound is rounded to, or the negative infinity. -/
inductive RoundsDown (w : ℚ) (z : Float) : Prop where
  | infinite (beyond : exact z = .infinity .negative) : RoundsDown w z
  | near {v : ℚ} (le : v ≤ w) (near : Near v z) : RoundsDown w z

/-- Rounding does not pass a double from above. -/
theorem RoundsUp.atLeast_double (up : RoundsUp w z) (held : IsDouble d) (le : d ≤ w) :
    AtLeast d z := by
  cases up with
  | infinite beyond => exact .inl beyond
  | near bound near =>
    cases near with
    | value value _ below _ => exact .inr ⟨_, value, below d held (le.trans bound)⟩
    | @infinity s infinite beyond =>
      cases s with
      | positive => exact .inl infinite
      | negative =>
        have outside := beyond _ held.neg
        simp only [factor] at outside
        linarith

theorem RoundsDown.atMost_double (down : RoundsDown w z) (held : IsDouble d) (le : w ≤ d) :
    AtMost d z := by
  cases down with
  | infinite beyond => exact .inl beyond
  | near bound near =>
    cases near with
    | value value _ _ above => exact .inr ⟨_, value, above d held (bound.trans le)⟩
    | @infinity s infinite beyond =>
      cases s with
      | negative => exact .inl infinite
      | positive =>
        have outside := beyond _ held
        simp only [factor] at outside
        linarith

theorem AtLeast.ne_infinity (bound : AtLeast q z) : exact z ≠ .infinity .negative := by
  obtain infinite | ⟨v, value, -⟩ := bound
  · rw [infinite]
    nofun
  · exact exact_ne_infinity value _

theorem AtMost.ne_infinity (bound : AtMost q z) : exact z ≠ .infinity .positive := by
  obtain infinite | ⟨v, value, -⟩ := bound
  · rw [infinite]
    nofun
  · exact exact_ne_infinity value _

theorem tiny_le : (2 : ℚ) ^ (-1075 : Int) ≤ 1 / 2 ^ 53 := by
  rw [one_div, ← zpow_natCast, ← zpow_neg]
  exact zpow_le_zpow_right₀ (by norm_num) (by norm_num)

/-- Rounding takes a small part away at most, where it does not lead to the negative infinity. -/
theorem RoundsUp.atLeast (up : RoundsUp w z) (safe : exact z ≠ .infinity .negative)
    (size : |w| ≤ c) : AtLeast (w - (c + 1) / 2 ^ 53) z := by
  cases up with
  | infinite beyond => exact .inl beyond
  | @near v bound near =>
    cases near with
    | value value close =>
      refine .inr ⟨_, value, ?_⟩
      have apart : |v| - |w| ≤ v - w :=
        (abs_sub_abs_le_abs_sub v w).trans_eq (abs_of_nonneg (by linarith))
      linarith [(abs_le.mp close).1, tiny_le]
    | @infinity s infinite beyond =>
      cases s with
      | positive => exact .inl infinite
      | negative => exact absurd infinite safe

theorem RoundsDown.atMost (down : RoundsDown w z) (safe : exact z ≠ .infinity .positive)
    (size : |w| ≤ c) : AtMost (w + (c + 1) / 2 ^ 53) z := by
  cases down with
  | infinite beyond => exact .inl beyond
  | @near v bound near =>
    cases near with
    | value value close =>
      refine .inr ⟨_, value, ?_⟩
      have apart : |v| - |w| ≤ w - v := by
        rw [← abs_neg w, ← abs_neg v]
        exact (abs_sub_abs_le_abs_sub _ _).trans_eq
          (by rw [neg_sub_neg, abs_of_nonneg (by linarith)])
      linarith [(abs_le.mp close).2, tiny_le]
    | @infinity s infinite beyond =>
      cases s with
      | negative => exact .inl infinite
      | positive => exact absurd infinite safe

/-! ### Operations -/

theorem AtLeast.const_add (bound : AtLeast q y) (value : value? x = some a) :
    RoundsUp (a + q) (x + y) := by
  obtain infinite | ⟨v, value', above⟩ := bound
  · exact .infinite (exact_add_infinity value infinite)
  · exact .near (by linarith) (near_add value value')

theorem AtLeast.sub_const (bound : AtLeast q x) (value : value? y = some b) :
    RoundsUp (q - b) (x - y) := by
  obtain infinite | ⟨v, value', above⟩ := bound
  · exact .infinite (exact_infinity_sub infinite value)
  · exact .near (by linarith) (near_sub value' value)

theorem AtLeast.const_sub (bound : AtLeast q y) (value : value? x = some a) :
    RoundsDown (a - q) (x - y) := by
  obtain infinite | ⟨v, value', above⟩ := bound
  · exact .infinite (exact_sub_infinity value infinite)
  · exact .near (by linarith) (near_sub value value')

theorem AtMost.const_sub (bound : AtMost q y) (value : value? x = some a) :
    RoundsUp (a - q) (x - y) := by
  obtain infinite | ⟨v, value', below⟩ := bound
  · exact .infinite (exact_sub_infinity value infinite)
  · exact .near (by linarith) (near_sub value value')

theorem AtLeast.const_mul (bound : AtLeast q y) (value : value? x = some a) (pos : 0 < a) :
    RoundsUp (a * q) (x * y) := by
  obtain infinite | ⟨v, value', above⟩ := bound
  · exact .infinite (exact_mul_infinity value pos infinite)
  · exact .near (mul_le_mul_of_nonneg_left above pos.le) (near_mul value value')

theorem AtMost.const_mul (bound : AtMost q y) (value : value? x = some a) (pos : 0 < a) :
    RoundsDown (a * q) (x * y) := by
  obtain infinite | ⟨v, value', below⟩ := bound
  · exact .infinite (exact_mul_infinity value pos infinite)
  · exact .near (mul_le_mul_of_nonneg_left below pos.le) (near_mul value value')

theorem AtLeast.mul_const (bound : AtLeast q x) (value : value? y = some b) (pos : 0 < b) :
    RoundsUp (q * b) (x * y) := by
  obtain infinite | ⟨v, value', above⟩ := bound
  · exact .infinite (exact_infinity_mul infinite value pos)
  · exact .near (mul_le_mul_of_nonneg_right above pos.le) (near_mul value' value)

theorem AtLeast.div_const (bound : AtLeast q x) (value : value? y = some b) (pos : 0 < b) :
    RoundsUp (q / b) (x / y) := by
  obtain infinite | ⟨v, value', above⟩ := bound
  · exact .infinite (exact_infinity_div infinite value pos)
  · exact .near (div_le_div_of_nonneg_right above pos.le) (near_div value' value pos.ne')

/-! ### Four places -/

/-- A bound with four places is kept when a double is rounded to them; half a place may be missing
to it. -/
theorem AtLeast.round4 {k : Int} (bound : AtLeast q x) (close : k - 1 / 2 < 10000 * q) :
    RoundsUp (k / 10000) (Number.round4 x) := by
  obtain infinite | ⟨v, value, above⟩ := bound
  · rw [round4_of_infinity infinite]
    exact .infinite infinite
  · obtain ⟨n, y, rounded, -, near⟩ := value_round4 value
    have places : (k : ℚ) < n + 1 := by linarith [(abs_le.mp rounded).1]
    have places : (k : ℚ) ≤ n := by exact_mod_cast Int.lt_add_one_iff.mp (by exact_mod_cast places)
    exact .near (by linarith) near

theorem AtLeast.round4_half (bound : AtLeast q x) :
    RoundsUp (q - 1 / 20000) (Number.round4 x) := by
  obtain infinite | ⟨v, value, above⟩ := bound
  · rw [round4_of_infinity infinite]
    exact .infinite infinite
  · obtain ⟨n, y, rounded, -, near⟩ := value_round4 value
    exact .near (by linarith [(abs_le.mp rounded).1]) near

theorem AtMost.round4 {k : Int} (bound : AtMost q x) (close : 10000 * q < k + 1 / 2) :
    RoundsDown (k / 10000) (Number.round4 x) := by
  obtain infinite | ⟨v, value, below⟩ := bound
  · rw [round4_of_infinity infinite]
    exact .infinite infinite
  · obtain ⟨n, y, rounded, -, near⟩ := value_round4 value
    have places : (n : ℚ) < k + 1 := by linarith [(abs_le.mp rounded).2]
    have places : (n : ℚ) ≤ k := by exact_mod_cast Int.lt_add_one_iff.mp (by exact_mod_cast places)
    exact .near (by linarith) near

theorem AtMost.round4_half (bound : AtMost q x) :
    RoundsDown (q + 1 / 20000) (Number.round4 x) := by
  obtain infinite | ⟨v, value, below⟩ := bound
  · rw [round4_of_infinity infinite]
    exact .infinite infinite
  · obtain ⟨n, y, rounded, -, near⟩ := value_round4 value
    exact .near (by linarith [(abs_le.mp rounded).2]) near

/-- Rounding to four places does not lead to the positive infinity. -/
theorem AtMost.round4_ne_infinity (bound : AtMost q x) :
    exact (Number.round4 x) ≠ .infinity .positive := by
  obtain infinite | ⟨v, value, -⟩ := bound
  · rw [round4_of_infinity infinite, infinite]
    nofun
  · obtain ⟨-, y, -, value', -⟩ := value_round4 value
    exact exact_ne_infinity value' _

end VolatilityDesk.Double
