import VolatilityDesk.Decimal.Shortest
import VolatilityDesk.Proofs.Number.Places
/-!
# Shortest decimals are positive

The decimal that is found for a positive double is positive, so its digits open with one that is not
zero. Where a grid meets the interval of the double, that is because the interval holds no zero. The
grid of eighteen digits, which is taken if none does, is fine enough: the number of places before
the point is estimated from the binary length, and for exponents in the range of doubles the
estimate is not off by more than two.

* `digits_pos` — the decimal of a positive double is positive.
-/

namespace VolatilityDesk.Shortest

/-! ### Grids that meet the interval -/

section Interval

variable {i : Interval} {count : Nat} {decimal : Int}

/-- An interval above zero holds positive numbers only. -/
theorem Interval.pos_of_holds (low : 0 < i.low) (holds : i.holds count decimal = true) :
    0 < count := by
  by_contra zero
  obtain rfl : count = 0 := by omega
  have above : 0 < (common i.low i.exponent 0 decimal).1 := by
    simp only [common, Nat.pow_eq]
    positivity
  have nothing : (common i.low i.exponent 0 decimal).2 = 0 := by simp [common]
  unfold Interval.holds at holds
  dsimp only at holds
  split at holds
  · have bounds := (of_decide_eq_true holds).1
    omega
  · have bounds := (of_decide_eq_true holds).1
    omega

theorem Interval.pos_of_onGrid? (low : 0 < i.low) (found : i.onGrid? decimal = some count) :
    0 < count := by
  unfold Interval.onGrid? at found
  dsimp only at found
  split at found
  · rename_i below above
    cases found
    have pos := Interval.pos_of_holds low below
    split <;> omega
  · rename_i below above
    cases found
    exact Interval.pos_of_holds low below
  · cases found
    omega
  · cases found

theorem digits_stripZeros_pos {bound digits : Nat} {exponent : Int} (pos : 0 < digits) :
    0 < (stripZeros bound digits exponent).digits := by
  induction bound generalizing digits exponent with
  | zero => exact pos
  | succ bound ih =>
    unfold stripZeros
    split
    · rename_i round
      exact ih (by omega)
    · exact pos

/-- The digits are positive when they are on the grid that ends the search. -/
theorem digits_search_pos {magnitude : Int} {more places : Nat} (low : 0 < i.low)
    (last : 0 < i.below (magnitude - (more + places : Nat))) :
    0 < (search i magnitude more places).digits := by
  induction more generalizing places with
  | zero => simpa [search] using last
  | succ more ih =>
    unfold search
    dsimp only
    split
    · rename_i count found
      exact digits_stripZeros_pos (Interval.pos_of_onGrid? low found)
    · have same : more + (places + 1) = more + 1 + places := by omega
      apply ih
      rwa [same]

end Interval

/-! ### The finest grid -/

/-- A common denominator keeps the order. -/
theorem common_le_iff {units count : Nat} {binary decimal : Int} :
    (common units binary count decimal).2 ≤ (common units binary count decimal).1 ↔
      (count * 10 ^ decimal : ℚ) ≤ units * 2 ^ binary := by
  have two : (2 : ℚ) ^ binary * 2 ^ (-binary).toNat = 2 ^ binary.toNat :=
    Double.two_zpow_mul binary
  have ten : (10 : ℚ) ^ decimal * 10 ^ (-decimal).toNat = 10 ^ decimal.toNat := by
    rw [← zpow_natCast, ← zpow_natCast, ← zpow_add₀ (by norm_num)]
    congr 1
    omega
  have scale : (0 : ℚ) < 2 ^ (-binary).toNat * 10 ^ (-decimal).toNat := by positivity
  rw [← mul_le_mul_iff_left₀ scale, ← @Nat.cast_le ℚ]
  simp only [common, Nat.pow_eq, Nat.cast_mul, Nat.cast_pow, Nat.cast_ofNat]
  rw [← two, ← ten]
  constructor <;> intro le <;> linarith

/-- `30103 / 100000` is close to the logarithm of two, closer than sixteen places for all powers of
two in the range of doubles. -/
theorem ten_zpow_le_two_zpow {g k : Int} (low : -1074 ≤ k) (high : k ≤ 1023)
    (guess : 100000 * g ≤ 30103 * k) : (10 : ℚ) ^ (g - 16) ≤ 2 ^ k := by
  rcases lt_or_ge k 0 with negative | nonneg
  · obtain ⟨a, rfl⟩ : ∃ a : Nat, k = -a := ⟨(-k).toNat, by omega⟩
    obtain ⟨n, places⟩ : ∃ n : Nat, g - 16 = -n := ⟨(16 - g).toNat, by omega⟩
    have power : (2 : ℚ) ^ a ≤ 10 ^ n := by
      rw [← pow_le_pow_iff_left₀ (by positivity) (by positivity) (by norm_num : 4 ≠ 0)]
      calc ((2 : ℚ) ^ a) ^ 4
        _ = 2 ^ (a * 4) := (pow_mul 2 a 4).symm
        _ ≤ 2 ^ (13 * n) := pow_le_pow_right₀ (by norm_num) (by omega)
        _ = (2 ^ 13) ^ n := pow_mul 2 13 n
        _ ≤ (10 ^ 4) ^ n := by gcongr; norm_num
        _ = (10 ^ n) ^ 4 := pow_right_comm 10 4 n
    rw [places, zpow_neg, zpow_neg, zpow_natCast, zpow_natCast]
    exact inv_anti₀ (by positivity) power
  · obtain ⟨a, rfl⟩ : ∃ a : Nat, k = a := ⟨k.toNat, by omega⟩
    rcases le_or_gt (g - 16) 0 with small | large
    · calc (10 : ℚ) ^ (g - 16)
        _ ≤ 1 := zpow_le_one_of_nonpos₀ (by norm_num) small
        _ ≤ 2 ^ (a : Int) := one_le_zpow₀ (by norm_num) nonneg
    · obtain ⟨n, places⟩ : ∃ n : Nat, g - 16 = n := ⟨(g - 16).toNat, by omega⟩
      rw [places, zpow_natCast, zpow_natCast,
        ← pow_le_pow_iff_left₀ (by positivity) (by positivity) (by norm_num : 3 ≠ 0)]
      calc ((10 : ℚ) ^ n) ^ 3
        _ = (10 ^ 3) ^ n := pow_right_comm 10 n 3
        _ ≤ (2 ^ 10) ^ n := by gcongr; norm_num
        _ = 2 ^ (10 * n) := (pow_mul 2 10 n).symm
        _ ≤ 2 ^ (a * 3) := pow_le_pow_right₀ (by norm_num) (by omega)
        _ = (2 ^ a) ^ 3 := pow_mul 2 a 3

/-- The magnitude is at most one above the guess from the binary length. -/
theorem magnitude_le (mantissa : Nat) (exponent : Int) : ∃ g : Int,
    100000 * g ≤ 30103 * (mantissa.log2 + exponent) ∧ magnitude mantissa exponent ≤ g + 2 := by
  refine ⟨Int.fdiv (((Nat.log2 mantissa : Int) + exponent) * 30103) 100000, ?_, ?_⟩
  · rw [Int.fdiv_eq_ediv_of_nonneg _ (by decide)]
    omega
  · unfold magnitude
    dsimp only
    split
    · omega
    · split <;> omega

/-- The digits of a positive double are positive. -/
theorem digits_pos {mantissa : Nat} {exponent : Int} (pos : 0 < mantissa)
    (range : Double.Canonical mantissa exponent) : 0 < (digits mantissa exponent).digits := by
  obtain ⟨g, guess, near⟩ := magnitude_le mantissa exponent
  have length : mantissa.log2 < 53 := (Nat.log2_lt pos.ne').mpr range.short
  have binary : (2 : ℚ) ^ ((mantissa.log2 : Int) + exponent) ≤ mantissa * 2 ^ exponent := by
    rw [zpow_add₀ (by norm_num), zpow_natCast]
    have leading : (2 : ℚ) ^ mantissa.log2 ≤ mantissa := by
      exact_mod_cast Nat.log2_self_le pos.ne'
    gcongr
  have reached : ((1 : Nat) * 10 ^ (magnitude mantissa exponent - (17 + 1 : Nat)) : ℚ) ≤
      (4 * mantissa : Nat) * 2 ^ (exponent - 2) := by
    calc ((1 : Nat) * 10 ^ (magnitude mantissa exponent - (17 + 1 : Nat)) : ℚ)
      _ = 10 ^ (magnitude mantissa exponent - 18) := by norm_num
      _ ≤ 10 ^ (g - 16) := zpow_le_zpow_right₀ (by norm_num) (by omega)
      _ ≤ 2 ^ ((mantissa.log2 : Int) + exponent) :=
        ten_zpow_le_two_zpow (by have := range.low; omega) (by have := range.high; omega) guess
      _ ≤ mantissa * 2 ^ exponent := binary
      _ = (4 * mantissa : Nat) * 2 ^ (exponent - 2) := by
        rw [zpow_sub₀ (by norm_num)]
        push_cast
        ring
  apply digits_search_pos
  · unfold interval
    dsimp only
    split <;> omega
  · unfold Interval.below interval
    refine Nat.div_pos (common_le_iff.mpr reached) ?_
    simp only [Nat.pow_eq]
    positivity

end VolatilityDesk.Shortest
