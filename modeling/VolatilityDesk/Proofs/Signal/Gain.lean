import Mathlib
import VolatilityDesk.Proofs.Number.Bounds
import VolatilityDesk.Signal.Classify
/-!
# Gains in doubles

A target is the entry and a share of it, rounded to four places, and a return is the gain from entry
to target in percent, rounded to four places again. The first rounding takes half a place of the
price, which weighs more the lower the price is; the second one takes half a place of a percentage.
Each step of the computation gives its result two bounds: a loose one that needs no room for
rounding, since a double holds it, and so keeps an overflow out, and a tight one.

From a price of a hundred on both roundings together take less than a whole place. So a rate that
has four places itself is not missed there.

* `bought_bounds`, `sold_bounds` — the gain to a target that is not capped.
* `return_bound` — the return on it.
* `not_lt_of_percentage` — a rate with four places is not missed.
-/

namespace VolatilityDesk.Classify

open Double

/-! ### Targets before rounding -/

theorem atLeast_least {q : ℚ} {x y : Float} (bound : AtLeast q y) (room : y ≤ x) :
    AtLeast q (Number.least x y) := by
  unfold Number.least
  split
  · exact bound
  · exact bound.of_float_le room

theorem atMost_greatest {q : ℚ} {x y : Float} (bound : AtMost q y) (room : x ≤ y) :
    AtMost q (Number.greatest x y) := by
  unfold Number.greatest
  split
  · exact bound
  · exact bound.of_float_ge room

section Chain

variable {rate entry : Float} {r e : ℚ}

/-- The share that is asked for, as a part of the entry. -/
theorem share_bounds (value : value? rate = some (100 * r)) (pos : 0 < r) :
    AtLeast 0 (rate / 100.0) ∧ AtLeast (r - (r + 1) / 2 ^ 53) (rate / 100.0) := by
  have up : RoundsUp r (rate / 100.0) := by
    have bound : AtLeast (100 * r) rate := .inr ⟨_, value, le_refl _⟩
    have up := bound.div_const value_hundred (by norm_num)
    rwa [mul_div_cancel_left₀ r (by norm_num)] at up
  have safe : AtLeast 0 (rate / 100.0) := up.atLeast_double (isDouble_value value_zero) pos.le
  exact ⟨safe, up.atLeast safe.ne_infinity (abs_of_pos pos).le⟩

/-- The target of a purchase is not below its entry, and close to the share above it. -/
theorem above_bounds (value : value? rate = some (100 * r)) (pos : 0 < r)
    (value' : value? entry = some e) (pos' : 0 < e) :
    AtLeast e (entry * (1.0 + rate / 100.0)) ∧
      AtLeast (e * (1 + r) - (4 * (e * (1 + r)) + 1) / 2 ^ 53) (entry * (1.0 + rate / 100.0)) := by
  obtain ⟨share_safe, share⟩ := share_bounds value pos
  have factor_safe : AtLeast 1 (1.0 + rate / 100.0) :=
    (share_safe.const_add value_one).atLeast_double (isDouble_value value_one) (by norm_num)
  have factor : AtLeast (1 + r - 3 * (1 + r) / 2 ^ 53) (1.0 + rate / 100.0) := by
    have size : |1 + (r - (r + 1) / 2 ^ 53)| ≤ 1 + r := abs_le.mpr ⟨by linarith, by linarith⟩
    exact ((share.const_add value_one).atLeast factor_safe.ne_infinity size).of_le (by linarith)
  have safe : AtLeast e (entry * (1.0 + rate / 100.0)) :=
    (factor_safe.const_mul value' pos').atLeast_double (isDouble_value value') (by linarith)
  have product : 0 < e * r := by positivity
  have size : |e * (1 + r - 3 * (1 + r) / 2 ^ 53)| ≤ e * (1 + r) :=
    abs_le.mpr ⟨by linarith, by linarith⟩
  exact ⟨safe, ((factor.const_mul value' pos').atLeast safe.ne_infinity size).of_le (by linarith)⟩

/-- The target of a sale is not above its entry, and close to the share below it. -/
theorem below_bounds (value : value? rate = some (100 * r)) (pos : 0 < r)
    (value' : value? entry = some e) (pos' : 0 < e) :
    AtMost e (entry * (1.0 - rate / 100.0)) ∧
      AtMost (e * (1 - r) + (6 * (e * (1 + r)) + 1) / 2 ^ 53) (entry * (1.0 - rate / 100.0)) := by
  obtain ⟨share_safe, share⟩ := share_bounds value pos
  have factor_safe : AtMost 1 (1.0 - rate / 100.0) :=
    (share_safe.const_sub value_one).atMost_double (isDouble_value value_one) (by norm_num)
  have factor : AtMost (1 - r + 4 * (1 + r) / 2 ^ 53) (1.0 - rate / 100.0) := by
    have size : |1 - (r - (r + 1) / 2 ^ 53)| ≤ 2 * (1 + r) := abs_le.mpr ⟨by linarith, by linarith⟩
    exact ((share.const_sub value_one).atMost factor_safe.ne_infinity size).of_le (by linarith)
  have safe : AtMost e (entry * (1.0 - rate / 100.0)) :=
    (factor_safe.const_mul value' pos').atMost_double (isDouble_value value') (by linarith)
  have product : 0 < e * r := by positivity
  have size : |e * (1 - r + 4 * (1 + r) / 2 ^ 53)| ≤ 2 * (e * (1 + r)) :=
    abs_le.mpr ⟨by linarith, by linarith⟩
  exact ⟨safe, ((factor.const_mul value' pos').atMost safe.ne_infinity size).of_le (by linarith)⟩

/-! ### Gains and returns -/

/-- The gain of a purchase, by the bounds of its target before that is rounded. -/
theorem bought_bounds {aim : Float} (value : value? entry = some e) (pos : 0 < e) (rate_pos : 0 < r)
    (safe : AtLeast e aim) (bound : AtLeast (e * (1 + r) - (4 * (e * (1 + r)) + 1) / 2 ^ 53) aim) :
    AtLeast (-3 * e) (Number.round4 aim - entry) ∧
      AtLeast (e * r - (9 * (e * (1 + r)) + 5) / 2 ^ 53 - 1 / 20000)
        (Number.round4 aim - entry) := by
  have product : 0 < e * r := by positivity
  have target_safe : AtLeast 0 (Number.round4 aim) := by
    have up := safe.round4 (k := 0) (by push_cast; linarith)
    exact up.atLeast_double (isDouble_value value_zero) (by norm_num)
  have target : AtLeast (e * (1 + r) - (5 * (e * (1 + r)) + 3) / 2 ^ 53 - 1 / 20000)
      (Number.round4 aim) := by
    have size : |e * (1 + r) - (4 * (e * (1 + r)) + 1) / 2 ^ 53 - 1 / 20000| ≤ e * (1 + r) + 1 :=
      abs_le.mpr ⟨by linarith, by linarith⟩
    exact (bound.round4_half.atLeast target_safe.ne_infinity size).of_le (by linarith)
  have gain_safe : AtLeast (-e) (Number.round4 aim - entry) :=
    (target_safe.sub_const value).atLeast_double (isDouble_value value).neg (by linarith)
  have size : |e * (1 + r) - (5 * (e * (1 + r)) + 3) / 2 ^ 53 - 1 / 20000 - e| ≤ e * (1 + r) + 1 :=
    abs_le.mpr ⟨by linarith, by linarith⟩
  exact ⟨gain_safe.of_le (by linarith),
    ((target.sub_const value).atLeast gain_safe.ne_infinity size).of_le (by linarith)⟩

/-- However small the entry is, its sale does not lose a multiple of it to rounding. -/
theorem sold_safe {aim : Float} (value : value? entry = some e) (pos : 0 < e)
    (safe : AtMost e aim) : AtLeast (-3 * e) (entry - Number.round4 aim) := by
  rcases lt_or_ge e (1 / 20000) with small | large
  · have target : AtMost 0 (Number.round4 aim) := by
      have down := safe.round4 (k := 0) (by push_cast; linarith)
      exact down.atMost_double (isDouble_value value_zero) (by norm_num)
    have gain : AtLeast 0 (entry - Number.round4 aim) :=
      (target.const_sub value).atLeast_double (isDouble_value value_zero) (by linarith)
    exact gain.of_le (by linarith)
  · have size : |e + 1 / 20000| ≤ e + 1 := abs_le.mpr ⟨by linarith, by linarith⟩
    have target := safe.round4_half.atMost safe.round4_ne_infinity size
    have up := target.const_sub value
    obtain ⟨top, held, inside, high⟩ := (isDouble_value value).exists_half_above
    have gain : AtLeast (-top) (entry - Number.round4 aim) :=
      up.atLeast_double held.neg (by linarith [(abs_lt.mp inside).2])
    have size' : |e - (e + 1 / 20000 + (e + 1 + 1) / 2 ^ 53)| ≤ e + 1 :=
      abs_le.mpr ⟨by linarith, by linarith⟩
    exact (up.atLeast gain.ne_infinity size').of_le (by linarith)

/-- The gain of a sale, by the bounds of its target before that is rounded. -/
theorem sold_bounds {aim : Float} (value : value? entry = some e) (pos : 0 < e) (rate_pos : 0 < r)
    (safe : AtMost e aim) (bound : AtMost (e * (1 - r) + (6 * (e * (1 + r)) + 1) / 2 ^ 53) aim) :
    AtLeast (-3 * e) (entry - Number.round4 aim) ∧
      AtLeast (e * r - (9 * (e * (1 + r)) + 5) / 2 ^ 53 - 1 / 20000)
        (entry - Number.round4 aim) := by
  have product : 0 < e * r := by positivity
  have finite := safe.round4_ne_infinity
  have target : AtMost (e * (1 - r) + (8 * (e * (1 + r)) + 3) / 2 ^ 53 + 1 / 20000)
      (Number.round4 aim) := by
    have size : |e * (1 - r) + (6 * (e * (1 + r)) + 1) / 2 ^ 53 + 1 / 20000| ≤
        2 * (e * (1 + r)) + 1 := abs_le.mpr ⟨by linarith, by linarith⟩
    exact (bound.round4_half.atMost finite size).of_le (by linarith)
  have gain_safe : AtLeast (-3 * e) (entry - Number.round4 aim) := sold_safe value pos safe
  have size : |e - (e * (1 - r) + (8 * (e * (1 + r)) + 3) / 2 ^ 53 + 1 / 20000)| ≤
      e * (1 + r) + 1 := abs_le.mpr ⟨by linarith, by linarith⟩
  exact ⟨gain_safe,
    ((target.const_sub value).atLeast gain_safe.ne_infinity size).of_le (by linarith)⟩

/-- The percentage that a gain is of its entry, before it is rounded. -/
theorem percentage_bounds {gain : Float} (value : value? entry = some e) (pos : 0 < e)
    (rate_pos : 0 < r) (safe : AtLeast (-3 * e) gain)
    (bound : AtLeast (e * r - (9 * (e * (1 + r)) + 5) / 2 ^ 53 - 1 / 20000) gain) :
    AtLeast (-2 ^ 9) (gain / entry * 100.0) ∧
      AtLeast (100 * r - (1401 * (1 + r) + 700 * (1 / e)) / 2 ^ 53 - 1 / e / 200)
        (gain / entry * 100.0) := by
  have inverse : 0 < 1 / e := by positivity
  have parts : (e * r - (9 * (e * (1 + r)) + 5) / 2 ^ 53 - 1 / 20000) / e =
      r - (9 * (1 + r) + 5 * (1 / e)) / 2 ^ 53 - 1 / e / 20000 := by
    field_simp
  have part_safe : AtLeast (-2 ^ 2) (gain / entry) := by
    have up := safe.div_const value pos
    rw [mul_div_cancel_right₀ _ pos.ne'] at up
    exact up.atLeast_double (isDouble_two_pow (by decide)).neg (by norm_num)
  have part :
      AtLeast (r - (12 * (1 + r) + 6 * (1 / e)) / 2 ^ 53 - 1 / e / 20000) (gain / entry) := by
    have size : |r - (9 * (1 + r) + 5 * (1 / e)) / 2 ^ 53 - 1 / e / 20000| ≤ 2 * (1 + r) + 1 / e :=
      abs_le.mpr ⟨by linarith, by linarith⟩
    have up := bound.div_const value pos
    rw [parts] at up
    exact (up.atLeast part_safe.ne_infinity size).of_le (by linarith)
  have percent_safe : AtLeast (-2 ^ 9) (gain / entry * 100.0) :=
    (part_safe.mul_const value_hundred (by norm_num)).atLeast_double
      (isDouble_two_pow (by decide)).neg (by norm_num)
  have size : |(r - (12 * (1 + r) + 6 * (1 / e)) / 2 ^ 53 - 1 / e / 20000) * 100| ≤
      200 * (1 + r) + 1 / e := abs_le.mpr ⟨by linarith, by linarith⟩
  have percent := (part.mul_const value_hundred (by norm_num)).atLeast percent_safe.ne_infinity size
  exact ⟨percent_safe, percent.of_le (by linarith)⟩

/-- The return falls short of what was asked for by no more than the rounding of the target and of
the return itself. -/
theorem return_bound {gain : Float} (value : value? entry = some e) (pos : 0 < e) (rate_pos : 0 < r)
    (safe : AtLeast (-3 * e) gain)
    (bound : AtLeast (e * r - (9 * (e * (1 + r)) + 5) / 2 ^ 53 - 1 / 20000) gain) :
    AtLeast (100 * r - 1 / 20000 - 1 / (200 * e) - (1 + 100 * r + 1 / e) / 10 ^ 12)
      (Number.round4 (gain / entry * 100.0)) := by
  obtain ⟨percent_safe, percent⟩ := percentage_bounds value pos rate_pos safe bound
  have inverse : 0 < 1 / e := by positivity
  have rounded_safe : AtLeast (-2 ^ 9) (Number.round4 (gain / entry * 100.0)) :=
    (percent_safe.round4 (k := -5120000) (by norm_num)).atLeast_double
      (isDouble_two_pow (by decide)).neg (by norm_num)
  have size : |100 * r - (1401 * (1 + r) + 700 * (1 / e)) / 2 ^ 53 - 1 / e / 200 - 1 / 20000| ≤
      200 * (1 + r) + 1 / e := abs_le.mpr ⟨by linarith, by linarith⟩
  have half : 1 / (200 * e) = 1 / e / 200 := by ring
  rw [half]
  exact (percent.round4_half.atLeast rounded_safe.ne_infinity size).of_le (by linarith)

/-! ### Entries of a hundred and more -/

section Places

variable {m : Nat}

theorem near_rate (m : Nat) : Near ((m : ℚ) / 10000) (Binary64.nearest false m 10000) := by
  have near : Near (factor .positive * (m / (10000 : Nat))) (Binary64.nearest false m 10000) :=
    near_nearest .positive m (by decide)
  rw [factor, one_mul] at near
  exact_mod_cast near

/-- A rate with four places, as a double. -/
theorem exists_rate (small : m ≤ 10000000) : ∃ v, value? (Binary64.nearest false m 10000) = some v ∧
    |v - m / 10000| ≤ 1001 / 2 ^ 53 := by
  have m_le : (m : ℚ) ≤ 10000000 := by exact_mod_cast small
  have size : |(m : ℚ) / 10000| ≤ 1000 := by
    rw [abs_of_nonneg (by positivity)]
    linarith
  cases near_rate m with
  | value found close => exact ⟨_, found, by linarith [tiny_le]⟩
  | @infinity s infinite beyond =>
    have outside := beyond _ (isDouble_two_pow (n := 10) (by decide))
    have inside := le_abs_self (factor s * ((m : ℚ) / 10000))
    rw [abs_mul, abs_factor, one_mul] at inside
    linarith

/-- At entries that are well above a hundred, the rounding of the target is too small a part of them
to matter. -/
theorem percentage_of_large {gain : Float} (value : value? entry = some e)
    (large : 100 + 1 / 250000 ≤ e) (rate_pos : 0 < r) (small : m ≤ 10000000)
    (close : |100 * r - m / 10000| ≤ 1001 / 2 ^ 53) (safe : AtLeast (-3 * e) gain)
    (bound : AtLeast (e * r - (9 * (e * (1 + r)) + 5) / 2 ^ 53 - 1 / 20000) gain) :
    ∃ q : ℚ, (m : ℚ) - 1 / 2 < 10000 * q ∧ AtLeast q (gain / entry * 100.0) := by
  have m_le : (m : ℚ) ≤ 10000000 := by exact_mod_cast small
  obtain ⟨-, percent⟩ := percentage_bounds value (by linarith) rate_pos safe bound
  refine ⟨_, ?_, percent⟩
  have inverse : 1 / e ≤ 250000 / 25000001 :=
    (one_div_le_one_div_of_le (by norm_num) large).trans_eq (by norm_num)
  linarith [(abs_le.mp close).1, (abs_le.mp close).2]

/-- Closer to a hundred, a gain that is hardly less than the rate makes up the rate in percent. -/
theorem percentage_of_exact {gain : Float} (value : value? entry = some e) (ge : 100 ≤ e)
    (lt : e < 100 + 1 / 250000) (m_pos : 0 < m) (small : m ≤ 10000000)
    (bound : AtLeast ((m : ℚ) / 10000 - 1 / 250000 - 2300 / 2 ^ 53) gain) :
    ∃ q : ℚ, (m : ℚ) - 1 / 2 < 10000 * q ∧ AtLeast q (gain / entry * 100.0) := by
  have m_le : (m : ℚ) ≤ 10000000 := by exact_mod_cast small
  have m_ge : (1 : ℚ) ≤ m := by exact_mod_cast m_pos
  have pos : 0 < e := by linarith
  have gain_pos : 0 < (m : ℚ) / 10000 - 1 / 250000 - 2300 / 2 ^ 53 := by linarith
  obtain ⟨g, named⟩ : ∃ g, (m : ℚ) / 10000 - 1 / 250000 - 2300 / 2 ^ 53 = g := ⟨_, rfl⟩
  rw [named] at bound gain_pos
  have part_ge : g * (1 - 1 / 25000000) / 100 ≤ g / e := by
    rw [le_div_iff₀ pos]
    have product : g * e ≤ g * (100 + 1 / 250000) := mul_le_mul_of_nonneg_left lt.le gain_pos.le
    linarith
  have part_le : g / e ≤ 10 := by
    rw [div_le_iff₀ pos]
    linarith
  have part_pos : 0 < g / e := by positivity
  have up := bound.div_const value pos
  have part_safe := up.atLeast_double (isDouble_value value_zero) part_pos.le
  have part := up.atLeast part_safe.ne_infinity (abs_le.mpr ⟨by linarith, part_le⟩)
  have percent_safe := (part_safe.mul_const value_hundred (by norm_num)).atLeast_double
    (isDouble_value value_zero) (by norm_num)
  have size : |(g / e - (10 + 1) / 2 ^ 53) * 100| ≤ 1001 := abs_le.mpr ⟨by linarith, by linarith⟩
  refine ⟨_, ?_, (part.mul_const value_hundred (by norm_num)).atLeast percent_safe.ne_infinity size⟩
  linarith

/-- Closer to a hundred, the target of a purchase is rounded to no less than a hundred and the
rate. -/
theorem bought_exactly {aim : Float} (value : value? entry = some e) (ge : 100 ≤ e)
    (lt : e < 100 + 1 / 250000) (m_pos : 0 < m) (small : m ≤ 10000000)
    (close : |100 * r - m / 10000| ≤ 1001 / 2 ^ 53)
    (bound : AtLeast (e * (1 + r) - (4 * (e * (1 + r)) + 1) / 2 ^ 53) aim) :
    AtLeast ((m : ℚ) / 10000 - 1 / 250000 - 2300 / 2 ^ 53) (Number.round4 aim - entry) := by
  have m_le : (m : ℚ) ≤ 10000000 := by exact_mod_cast small
  have m_ge : (1 : ℚ) ≤ m := by exact_mod_cast m_pos
  obtain ⟨close_below, close_above⟩ := abs_le.mp close
  have rate_pos : 0 < r := by linarith
  have product_ge : 100 * r ≤ e * r := mul_le_mul_of_nonneg_right ge rate_pos.le
  have product_le : e * r ≤ 101 * r := mul_le_mul_of_nonneg_right (by linarith) rate_pos.le
  have up := bound.round4 (k := 1000000 + m) (by push_cast; linarith)
  push_cast at up
  have target_safe := up.atLeast_double (isDouble_value value_zero) (by positivity)
  have target := up.atLeast target_safe.ne_infinity (c := 1100)
    (abs_le.mpr ⟨by linarith, by linarith⟩)
  have up := target.sub_const value
  have gain_safe := up.atLeast_double (isDouble_value value_zero) (by linarith)
  have gain := up.atLeast gain_safe.ne_infinity (c := 1001) (abs_le.mpr ⟨by linarith, by linarith⟩)
  exact gain.of_le (by linarith)

/-- Closer to a hundred, the target of a sale is rounded to no more than a hundred less the
rate. -/
theorem sold_exactly {aim : Float} (value : value? entry = some e) (ge : 100 ≤ e)
    (lt : e < 100 + 1 / 250000) (m_pos : 0 < m) (small : m ≤ 10000000)
    (close : |100 * r - m / 10000| ≤ 1001 / 2 ^ 53)
    (bound : AtMost (e * (1 - r) + (6 * (e * (1 + r)) + 1) / 2 ^ 53) aim) :
    AtLeast ((m : ℚ) / 10000 - 1 / 250000 - 2300 / 2 ^ 53) (entry - Number.round4 aim) := by
  have m_le : (m : ℚ) ≤ 10000000 := by exact_mod_cast small
  have m_ge : (1 : ℚ) ≤ m := by exact_mod_cast m_pos
  obtain ⟨close_below, close_above⟩ := abs_le.mp close
  have rate_pos : 0 < r := by linarith
  have product_ge : 100 * r ≤ e * r := mul_le_mul_of_nonneg_right ge rate_pos.le
  have product_le : e * r ≤ 101 * r := mul_le_mul_of_nonneg_right (by linarith) rate_pos.le
  have down := bound.round4 (k := 1000000 - m) (by push_cast; linarith)
  push_cast at down
  have target := down.atMost bound.round4_ne_infinity (c := 1000)
    (abs_le.mpr ⟨by linarith, by linarith⟩)
  have up := target.const_sub value
  have gain_safe := up.atLeast_double (isDouble_value value_zero) (by linarith)
  have gain := up.atLeast gain_safe.ne_infinity (c := 1001) (abs_le.mpr ⟨by linarith, by linarith⟩)
  exact gain.of_le (by linarith)

/-- A percentage that is above the last half place before a rate is rounded to the rate or above. -/
theorem not_lt_of_percentage {percent : Float} {q : ℚ} (m_pos : 0 < m) (small : m ≤ 10000000)
    (above : (m : ℚ) - 1 / 2 < 10000 * q) (bound : AtLeast q percent) :
    ¬ Number.round4 percent < Binary64.nearest false m 10000 := by
  obtain ⟨rate, value, close⟩ := exists_rate small
  have m_le : (m : ℚ) ≤ 10000000 := by exact_mod_cast small
  have m_ge : (1 : ℚ) ≤ m := by exact_mod_cast m_pos
  obtain infinite | ⟨v, value', le⟩ := bound
  · rw [round4_of_infinity infinite]
    exact AtLeast.not_lt (.inl infinite) value
  obtain ⟨s, k, signed, rounded, result⟩ := round4_eq value'
  obtain rfl : s = .positive := by
    cases s with
    | positive => rfl
    | negative =>
      simp only [factor] at signed
      linarith
  rw [factor, one_mul] at rounded
  have places : (m : ℚ) < k + 1 := by linarith [(abs_le.mp rounded).1]
  have places : m ≤ k := Nat.lt_succ_iff.mp (by exact_mod_cast places)
  rw [result]
  rcases Nat.lt_or_eq_of_le places with more | rfl
  · have more : (m : ℚ) + 1 ≤ k := by exact_mod_cast more
    have up : RoundsUp ((m + 1) / 10000) (Binary64.nearest false k 10000) :=
      .near (by linarith) (near_rate k)
    have safe := up.atLeast_double (isDouble_value value_zero) (by positivity)
    have size : |((m : ℚ) + 1) / 10000| ≤ 1001 := abs_le.mpr ⟨by linarith, by linarith⟩
    have reached : AtLeast rate (Binary64.nearest false k 10000) :=
      (up.atLeast safe.ne_infinity size).of_le (by linarith [(abs_le.mp close).2])
    exact reached.not_lt value
  · exact fun below => lt_irrefl _ ((lt_iff_value value value).mp below)

end Places

end Chain

end VolatilityDesk.Classify
