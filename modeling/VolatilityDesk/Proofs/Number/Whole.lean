import Mathlib
import VolatilityDesk.Number
/-!
# Whole parts of doubles

Every whole number up to the largest double has a double near to it, and the whole part of a double
is never larger. So a quantity that was found as a whole part can be multiplied with prices,
whatever the price and the capital were that it was found from.

* `exists_ofInt?_of_whole` — there is a double near to every whole part.
-/

namespace VolatilityDesk

/-- Rounding a quotient does not pass a whole number that the quotient does not pass. -/
theorem roundDiv_le {num den bound : Nat} (pos : 0 < den) (le : num ≤ bound * den) :
    roundDiv num den ≤ bound := by
  have split := Nat.div_add_mod num den
  have quotient : num / den ≤ bound := Nat.div_le_of_le_mul (by rwa [Nat.mul_comm])
  unfold roundDiv
  dsimp only
  split
  · -- Something is left over, so the quotient is strictly below the bound.
    rename_i up
    by_contra above
    obtain rfl : bound = num / den := by omega
    rw [Nat.mul_comm] at le
    omega
  · exact quotient

namespace Binary64

/-- The exponent of the largest double. -/
def greatestExponent : Nat := 971

/-- The largest double. -/
def greatest : Nat := (2 ^ 53 - 1) * 2 ^ greatestExponent

theorem hidden_eq : hidden = 2 ^ 52 := rfl

/-! ### Whole numbers near to a double -/

/-- The mantissa of a whole number has 53 binary places. -/
theorem exponentOf_one {n : Nat} (pos : 0 < n) : exponentOf n 1 = (Nat.log2 n : Int) - 52 := by
  have least := Nat.log2_self_le (Nat.ne_of_gt pos)
  have one : ((Nat.log2 1 : Nat) : Int) = 0 := by decide
  have long : ¬ n * 2 ^ (-((Nat.log2 n : Int) - 52)).toNat <
      1 * 2 ^ ((Nat.log2 n : Int) - 52).toNat * hidden := by
    have shift : 2 ^ ((Nat.log2 n : Int) - 52).toNat * hidden =
        2 ^ Nat.log2 n * 2 ^ (-((Nat.log2 n : Int) - 52)).toNat := by
      rw [hidden_eq, ← Nat.pow_add, ← Nat.pow_add]
      congr 1
      omega
    rw [Nat.one_mul, shift]
    exact Nat.not_lt.mpr (Nat.mul_le_mul_right _ least)
  unfold exponentOf
  simp only [one, leastExponent, Nat.pow_eq, Int.sub_zero, if_neg long]
  omega

theorem log2_le_of_le_greatest {n : Nat} (pos : 0 < n) (le : n ≤ greatest) :
    Nat.log2 n ≤ 1023 := by
  have below : greatest < 2 ^ 53 * 2 ^ greatestExponent :=
    Nat.mul_lt_mul_of_pos_right (by decide) (Nat.two_pow_pos greatestExponent)
  rw [← pow_add] at below
  have short := (Nat.log2_lt (Nat.ne_of_gt pos)).mpr (Nat.lt_of_le_of_lt le below)
  rw [greatestExponent] at short
  omega

/-- A mantissa has 53 binary places; at the greatest exponent it does not round up to the next power
of two. -/
theorem mantissa_le {n : Nat} (le : n ≤ greatest) :
    roundDiv (n * 2 ^ (-((Nat.log2 n : Int) - 52)).toNat)
        (1 * 2 ^ ((Nat.log2 n : Int) - 52).toNat) ≤
      if Nat.log2 n = 1023 then 2 ^ 53 - 1 else 2 ^ 53 := by
  have above : n < 2 ^ (Nat.log2 n + 1) := Nat.lt_log2_self
  generalize Nat.log2 n = places at above ⊢
  refine roundDiv_le (by simp) ?_
  split
  · rename_i longest
    have shift : (-((places : Int) - 52)).toNat = 0 := by omega
    have exponent : ((places : Int) - 52).toNat = greatestExponent := by
      rw [greatestExponent]
      omega
    rwa [shift, exponent, Nat.pow_zero, Nat.mul_one, Nat.one_mul]
  · calc n * 2 ^ (-((places : Int) - 52)).toNat
      _ ≤ 2 ^ (places + 1) * 2 ^ (-((places : Int) - 52)).toNat :=
        Nat.mul_le_mul_right _ (Nat.le_of_lt above)
      _ = 2 ^ 53 * (1 * 2 ^ ((places : Int) - 52).toNat) := by
        rw [Nat.one_mul, ← Nat.pow_add, ← Nat.pow_add]
        congr 1
        omega

/-- A whole number up to the largest double has a double near to it. -/
theorem exists_nearestBits? {n : Nat} (pos : 0 < n) (le : n ≤ greatest) :
    ∃ bits, nearestBits? n 1 = some bits := by
  have exponent := exponentOf_one pos
  have longest := log2_le_of_le_greatest pos le
  have mantissa := mantissa_le le
  have start : ((Nat.log2 n : Int) - 52 - leastExponent).toNat = Nat.log2 n + 1022 := by
    rw [leastExponent]
    omega
  unfold nearestBits?
  rw [if_neg (Nat.ne_of_gt pos)]
  simp only [exponent, Nat.pow_eq, start]
  refine ⟨_, if_pos ?_⟩
  rw [hidden_eq]
  split at mantissa <;> omega

/-! ### Whole parts -/

theorem bounds_of_ofBits {bits mantissa : Nat} {negative : Bool} {exponent : Int}
    (value : ofBits bits = .finite negative mantissa exponent) :
    mantissa ≤ 2 ^ 53 - 1 ∧ exponent.toNat ≤ greatestExponent := by
  have field : bits % hidden < hidden := Nat.mod_lt _ (by decide)
  have biased : bits / hidden % 2048 < 2048 := Nat.mod_lt _ (by decide)
  rw [hidden_eq] at field
  unfold ofBits at value
  dsimp only at value
  generalize bits / hidden % 2048 = stored at value biased
  split at value
  · split at value <;> cases value
  · split at value
    · cases value
      exact ⟨Nat.le_of_lt_succ (Nat.lt_of_lt_of_le field (by decide)), by decide⟩
    · cases value
      rw [hidden_eq, greatestExponent]
      omega

/-- The whole part of a double is not above the largest double. -/
theorem le_greatest_of_floor? {x : Float} {n : Int} (floor : floor? x = some n) :
    n ≤ (greatest : Int) := by
  unfold floor? at floor
  split at floor
  · rename_i negative mantissa exponent value
    obtain ⟨mantissaLe, exponentLe⟩ := bounds_of_ofBits value
    have magnitude : mantissa * 2 ^ exponent.toNat ≤ greatest :=
      Nat.mul_le_mul mantissaLe (Nat.pow_le_pow_right (by decide) exponentLe)
    have den : (0 : Int) < (2 ^ (-exponent).toNat : Nat) :=
      Int.natCast_pos.mpr (Nat.two_pow_pos _)
    have num : (0 : Int) ≤ (mantissa * 2 ^ exponent.toNat : Nat) := Int.natCast_nonneg _
    obtain rfl := Option.some.inj floor
    simp only [Nat.pow_eq, Int.fdiv_eq_ediv_of_nonneg _ (Int.le_of_lt den)]
    cases negative with
    | true =>
      refine Int.ediv_le_of_le_mul den (Int.le_trans (Int.neg_nonpos_of_nonneg num) ?_)
      exact Int.mul_nonneg (Int.natCast_nonneg _) (Int.le_of_lt den)
    | false => exact Int.le_trans (Int.ediv_le_self _ num) (Int.ofNat_le.mpr magnitude)
  · cases floor

theorem le_greatest_of_whole {x : Float} {n : Int} (whole : Number.whole x = .ok n) :
    n ≤ (greatest : Int) := by
  simp only [Number.whole] at whole
  split at whole
  · rename_i m floor
    obtain rfl : m = n := Except.ok.inj whole
    exact le_greatest_of_floor? floor
  · cases whole

/-- A quantity found as a whole part can be multiplied with prices. -/
theorem exists_ofInt?_of_whole {x : Float} {n : Int} (whole : Number.whole x = .ok n)
    (pos : 0 < n) : ∃ q : Float, Number.ofInt? n = some q := by
  have le := le_greatest_of_whole whole
  obtain ⟨bits, near⟩ := exists_nearestBits? (n := n.natAbs) (by omega) (by omega)
  exact ⟨_, Option.map_eq_some_iff.mpr ⟨bits, near, rfl⟩⟩

end Binary64

end VolatilityDesk
