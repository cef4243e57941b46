import Mathlib
import VolatilityDesk.Proofs.Number.Value
/-!
# Rounding of doubles

The result of an operation is the exact result rounded: no double lies between the two, and they
differ by half a unit in the last place of the result at most. Beyond the largest double the result
is an infinity.

* `near_of_roundWithAccuracy` — a rounded result is near to the exact one.
* `grid_roundedAt` — it is on the grid of doubles, on the side that is nearer.
-/

namespace VolatilityDesk.Double

open Float.Model Float.Model.UnpackedFloat

/-! ### Nearest doubles -/

/-- A double is what a number is rounded to. -/
inductive Near (v : ℚ) (z : Float) : Prop where
  | value {x : ℚ} (value : value? z = some x) (close : |x - v| ≤ |v| / 2 ^ 53 + 2 ^ (-1075 : Int))
      (below : ∀ y, IsDouble y → y ≤ v → y ≤ x) (above : ∀ y, IsDouble y → v ≤ y → x ≤ y) :
      Near v z
  | infinity {s : Sign} (infinite : exact z = .infinity s)
      (beyond : ∀ y, IsDouble y → y < factor s * v) : Near v z

/-- A number that a double holds is rounded to it. -/
theorem near_of_value {v : ℚ} {z : Float} (value : value? z = some v) : Near v z :=
  .value value (by rw [sub_self, abs_zero]; positivity) (fun _ _ le => le) (fun _ _ le => le)

/-- A mantissa and an exponent that a number of no sign is rounded to. -/
structure Grid (v : ℚ) (m : Nat) (e : Int) : Prop where
  nonneg : 0 ≤ v
  near : |(m : ℚ) - v / 2 ^ e| ≤ 1 / 2
  least : -1074 ≤ e
  full : e = -1074 ∨ 2 ^ 52 * 2 ^ e ≤ v
  short : v ≤ 2 ^ 53 * 2 ^ e

namespace Grid

variable {v : ℚ} {m : Nat} {e : Int}

/-- At a greater exponent there are only points of the grid. -/
theorem exists_multiple {n : Nat} {f : Int} (le : e ≤ f) :
    ∃ k : Nat, (n : ℚ) * 2 ^ f = k * 2 ^ e := by
  refine ⟨n * 2 ^ (f - e).toNat, ?_⟩
  have split : (2 : ℚ) ^ f = 2 ^ (f - e).toNat * 2 ^ e := by
    rw [← zpow_natCast, ← zpow_add₀ (by norm_num)]
    congr 1
    omega
  rw [split]
  push_cast
  ring

/-- What is below the first full mantissa lies at a lesser exponent. -/
theorem lt_full {n : Nat} {f : Int} (short : n < 2 ^ 53) (lt : f < e) :
    (n : ℚ) * 2 ^ f < 2 ^ 52 * 2 ^ e := by
  have scaled := scaled_lt_of_exponent_lt short (Nat.le_refl (2 ^ 52)) lt
  push_cast at scaled
  exact scaled

/-- Of two numbers on the grid, the rounded one does not pass the other. -/
theorem le_of_le (grid : Grid v m e) {n : Nat} {f : Int} (short : n < 2 ^ 53) (low : -1074 ≤ f)
    (le : v ≤ n * 2 ^ f) : (m : ℚ) * 2 ^ e ≤ n * 2 ^ f := by
  have positive : (0 : ℚ) < 2 ^ e := by positivity
  rcases Int.lt_or_le f e with lt | ge
  · have full := grid.full.resolve_left (by omega)
    exact absurd (full.trans le) (not_le.mpr (lt_full short lt))
  · obtain ⟨k, multiple⟩ := exists_multiple (n := n) ge
    rw [multiple] at le ⊢
    have whole : (m : ℚ) < k + 1 := by
      have below : v / 2 ^ e ≤ k := (div_le_iff₀ positive).mpr le
      linarith [(abs_le.mp grid.near).2]
    have whole : m ≤ k := Nat.lt_succ_iff.mp (by exact_mod_cast whole)
    gcongr

theorem le_of_ge (grid : Grid v m e) {n : Nat} {f : Int} (short : n < 2 ^ 53) (low : -1074 ≤ f)
    (ge : n * 2 ^ f ≤ v) : n * 2 ^ f ≤ (m : ℚ) * 2 ^ e := by
  have positive : (0 : ℚ) < 2 ^ e := by positivity
  have up (k : Nat) (below : (k : ℚ) * 2 ^ e ≤ v) : (k : ℚ) * 2 ^ e ≤ m * 2 ^ e := by
    have whole : (k : ℚ) < m + 1 := by
      have above : (k : ℚ) ≤ v / 2 ^ e := (le_div_iff₀ positive).mpr below
      linarith [(abs_le.mp grid.near).1]
    have whole : k ≤ m := Nat.lt_succ_iff.mp (by exact_mod_cast whole)
    gcongr
  rcases Int.lt_or_le f e with lt | le
  · have full := up (2 ^ 52) (by exact_mod_cast grid.full.resolve_left (by omega))
    push_cast at full
    exact (lt_full short lt).le.trans full
  · obtain ⟨k, multiple⟩ := exists_multiple (n := n) le
    rw [multiple] at ge ⊢
    exact up k ge

/-- The mantissa has 53 binary places, or is the next power of two. -/
theorem mantissa_le (grid : Grid v m e) : m ≤ 2 ^ 53 := by
  have positive : (0 : ℚ) < 2 ^ e := by positivity
  have below : v / 2 ^ e ≤ 2 ^ 53 := (div_le_iff₀ positive).mpr grid.short
  have whole : (m : ℚ) < 2 ^ 53 + 1 := by linarith [(abs_le.mp grid.near).2]
  exact Nat.lt_succ_iff.mp (by exact_mod_cast whole)

theorem mantissa_full (grid : Grid v m e) : e = -1074 ∨ 2 ^ 52 ≤ m := by
  have positive : (0 : ℚ) < 2 ^ e := by positivity
  refine grid.full.imp_right fun full => ?_
  have above : 2 ^ 52 ≤ v / 2 ^ e := (le_div_iff₀ positive).mpr full
  have whole : (2 : ℚ) ^ 52 < m + 1 := by linarith [(abs_le.mp grid.near).1]
  exact Nat.lt_succ_iff.mp (by exact_mod_cast whole)

/-- Half a unit in the last place is a small part of the number, or half the least double. -/
theorem close (grid : Grid v m e) : |(m : ℚ) * 2 ^ e - v| ≤ v / 2 ^ 53 + 2 ^ (-1075 : Int) := by
  have positive : (0 : ℚ) < 2 ^ e := by positivity
  have scaled : (m : ℚ) * 2 ^ e - v = (m - v / 2 ^ e) * 2 ^ e := by field_simp
  have unit : |(m : ℚ) * 2 ^ e - v| ≤ 2 ^ e / 2 := by
    rw [scaled, abs_mul, abs_of_pos positive]
    linarith [mul_le_mul_of_nonneg_right grid.near positive.le]
  have nonneg := grid.nonneg
  rcases grid.full with rfl | full
  · have least : (2 : ℚ) ^ (-1074 : Int) / 2 = 2 ^ (-1075 : Int) := by
      rw [show (-1075 : Int) = -1074 - 1 from rfl, zpow_sub_one₀ (by norm_num), div_eq_mul_inv]
    have part : 0 ≤ v / 2 ^ 53 := by positivity
    linarith
  · have part : (2 : ℚ) ^ e / 2 ≤ v / 2 ^ 53 := by
      rw [le_div_iff₀ (by positivity)]
      linarith
    have tiny : (0 : ℚ) ≤ 2 ^ (-1075 : Int) := by positivity
    linarith

theorem le_double (grid : Grid v m e) {y : ℚ} (held : IsDouble y) (le : v ≤ y) :
    (m : ℚ) * 2 ^ e ≤ y := by
  obtain ⟨s, n, f, rfl, short, low, -⟩ := held
  have nonneg := grid.nonneg
  have magnitude : (0 : ℚ) ≤ n * 2 ^ f := by positivity
  cases s with
  | positive =>
    rw [factor, one_mul] at le ⊢
    exact grid.le_of_le short low le
  | negative =>
    simp only [factor, neg_mul, one_mul] at le ⊢
    linarith [grid.le_of_le short low (by linarith)]

theorem double_le (grid : Grid v m e) {y : ℚ} (held : IsDouble y) (le : y ≤ v) :
    y ≤ (m : ℚ) * 2 ^ e := by
  obtain ⟨s, n, f, rfl, short, low, -⟩ := held
  have magnitude : (0 : ℚ) ≤ n * 2 ^ f := by positivity
  have rounded : (0 : ℚ) ≤ m * 2 ^ e := by positivity
  cases s with
  | positive =>
    rw [factor, one_mul] at le ⊢
    exact grid.le_of_ge short low le
  | negative =>
    simp only [factor, neg_mul, one_mul]
    linarith

/-- What stands for the mantissa and the exponent is near to the number that was rounded. -/
theorem near_double (grid : Grid v m e) {s : Sign} {z : Float}
    (small : (m : ℚ) * 2 ^ e < 2 ^ 1024 → value? z = some (factor s * (m * 2 ^ e)))
    (large : 2 ^ 1024 ≤ (m : ℚ) * 2 ^ e → exact z = .infinity s) : Near (factor s * v) z := by
  rcases lt_or_ge ((m : ℚ) * 2 ^ e) (2 ^ 1024) with inside | outside
  · refine .value (small inside) ?_ ?_ ?_
    · rw [← mul_sub, abs_mul, abs_mul, abs_factor, one_mul, one_mul, abs_of_nonneg grid.nonneg]
      exact grid.close
    · intro y held le
      cases s with
      | positive =>
        simp only [factor, one_mul] at le ⊢
        exact grid.double_le held le
      | negative =>
        simp only [factor, neg_mul, one_mul] at le ⊢
        linarith [grid.le_double held.neg (by linarith)]
    · intro y held le
      cases s with
      | positive =>
        simp only [factor, one_mul] at le ⊢
        exact grid.le_double held le
      | negative =>
        simp only [factor, neg_mul, one_mul] at le ⊢
        linarith [grid.double_le held.neg (by linarith)]
  · refine .infinity (large outside) ?_
    intro y held
    rw [← mul_assoc, factor_mul_factor, one_mul]
    by_contra above
    have passed := grid.le_double held (not_lt.mp above)
    exact absurd held.abs_lt (not_lt.mpr (outside.trans (passed.trans (le_abs_self y))))

end Grid

/-! ### Storing -/

/-- What is read back of a value that was stored. -/
def stored (u : UnpackedFloat) : UnpackedFloat :=
  UnpackedFloat.unpack .binary64 (UnpackedFloat.pack .binary64 u)

theorem stored_ofFields {s : Sign} {b : BitVec 11} {f : BitVec 52}
    (number : ofFields s b f ≠ .notANumber) : stored (ofFields s b f) = ofFields s b f := by
  rw [stored, pack_ofFields number, unpack_packComponents]

theorem stored_exact (x : Float) : stored (exact x) = exact x := by
  have fields : exact x = _ := unpack_eq_ofFields x.toModel.toBits.toBitVec
  by_cases nan : exact x = .notANumber
  · rw [nan]
    rfl
  · rw [fields] at nan ⊢
    exact stored_ofFields nan

theorem stored_zero (s : Sign) : stored (.zero s) = .zero s := by cases s <;> rfl

theorem stored_infinity (s : Sign) : stored (.infinity s) = .infinity s := by cases s <;> rfl

/-- A mantissa and an exponent in range are kept. -/
theorem stored_canonical {s : Sign} {m : Nat} {e : Int} {pos : 0 < m} (canonical : Canonical m e) :
    stored (.finite s m e pos) = .finite s m e pos := by
  obtain ⟨short, low, high, full⟩ := canonical
  obtain ⟨b, f, fields⟩ : ∃ b f, ofFields s b f = .finite s m e pos := by
    by_cases long : 2 ^ 52 ≤ m
    · have biased : (BitVec.ofNat 11 (e + 1075).toNat).toNat = (e + 1075).toNat := by
        rw [BitVec.toNat_ofNat, Nat.mod_eq_of_lt (by omega)]
      have fraction : (BitVec.ofNat 52 (m - 2 ^ 52)).toNat = m - 2 ^ 52 := by
        rw [BitVec.toNat_ofNat, Nat.mod_eq_of_lt (by omega)]
      refine ⟨BitVec.ofNat 11 (e + 1075).toNat, BitVec.ofNat 52 (m - 2 ^ 52), ?_⟩
      unfold ofFields
      rw [if_neg, if_neg]
      · simp only [fraction, biased, UnpackedFloat.finite.injEq, true_and]
        omega
      · intro zero
        have number := congrArg BitVec.toNat zero
        rw [biased] at number
        simp at number
        omega
      · intro ones
        have number := congrArg BitVec.toNat ones
        rw [biased] at number
        simp at number
        omega
    · obtain rfl : e = -1074 := full.resolve_right long
      have fraction : (BitVec.ofNat 52 m).toNat = m := by
        rw [BitVec.toNat_ofNat, Nat.mod_eq_of_lt (by omega)]
      refine ⟨0#11, BitVec.ofNat 52 m, ?_⟩
      unfold ofFields
      rw [if_neg (by decide), if_pos rfl, dif_neg]
      · simp only [fraction]
      · intro zero
        have number := congrArg BitVec.toNat zero
        rw [fraction] at number
        simp at number
        omega
  rw [← fields]
  exact stored_ofFields (by rw [fields]; nofun)

/-- An exponent out of range makes an infinity. -/
theorem stored_of_exponent_ge {s : Sign} {m : Nat} {e : Int} {pos : 0 < m} (large : 972 ≤ e) :
    stored (.finite s m e pos) = .infinity s := by
  have biased : 2 ^ Format.binary64.exponentBits ≤ (e + Format.binary64.exponentBias
      + Format.binary64.mantissaBitsWithoutImplicit).toNat + 1 := by
    change 2 ^ 11 ≤ (e + (1023 : Nat) + (52 : Nat)).toNat + 1
    omega
  rw [← stored_infinity]
  unfold stored UnpackedFloat.pack
  simp only [if_pos biased]

/-- The value of a mantissa that was rounded to 53 binary places, perhaps up to the next power of
two. -/
def rounded (s : Sign) (m : Nat) (e : Int) : UnpackedFloat :=
  if zero : m = 0 then .zero s
  else if m = 2 ^ 53 then .finite s (2 ^ 52) (e + 1) (by decide)
  else .finite s m e (Nat.pos_of_ne_zero zero)

section Rounded

variable {s : Sign} {m : Nat} {e : Int}

theorem two_pow_mul_lt_iff (k : Nat) : (2 : ℚ) ^ k * 2 ^ e < 2 ^ 1024 ↔ k + e < 1024 := by
  rw [← zpow_natCast, ← zpow_natCast 2 1024, ← zpow_add₀ (by norm_num),
    zpow_lt_zpow_iff_right₀ (by norm_num)]
  rfl

theorem number_stored_rounded (short : m ≤ 2 ^ 53) (low : -1074 ≤ e)
    (full : e = -1074 ∨ 2 ^ 52 ≤ m) (small : (m : ℚ) * 2 ^ e < 2 ^ 1024) :
    number? (stored (rounded s m e)) = some (factor s * (m * 2 ^ e)) := by
  unfold rounded
  split
  case isTrue zero => simp [zero, stored_zero, number?]
  case isFalse =>
    split
    case isTrue carried =>
      subst m
      have inside := (two_pow_mul_lt_iff (e := e) 53).mp (by exact_mod_cast small)
      have canonical : Canonical (2 ^ 52) (e + 1) :=
        ⟨by decide, by omega, by omega, .inr (by omega)⟩
      rw [stored_canonical canonical, number?, zpow_add_one₀ (by norm_num)]
      push_cast
      ring_nf
    case isFalse whole =>
      have inside : e ≤ 971 := by
        rcases full with rfl | full
        · decide
        · have full : (2 : ℚ) ^ 52 ≤ m := by exact_mod_cast full
          have below : (2 : ℚ) ^ 52 * 2 ^ e < 2 ^ 1024 :=
            (mul_le_mul_of_nonneg_right full (by positivity)).trans_lt small
          have inside := (two_pow_mul_lt_iff (e := e) 52).mp below
          omega
      rw [stored_canonical ⟨by omega, low, inside, full⟩, number?]

theorem stored_rounded_of_large (short : m ≤ 2 ^ 53) (full : e = -1074 ∨ 2 ^ 52 ≤ m)
    (large : 2 ^ 1024 ≤ (m : ℚ) * 2 ^ e) : stored (rounded s m e) = .infinity s := by
  have m_le : (m : ℚ) ≤ 2 ^ 53 := by exact_mod_cast short
  have outside : 971 ≤ e := by
    by_contra inside
    have below := (two_pow_mul_lt_iff (e := e) 53).mpr (by omega)
    exact absurd large
      (not_le.mpr ((mul_le_mul_of_nonneg_right m_le (by positivity)).trans_lt below))
  have full : 2 ^ 52 ≤ m := full.resolve_left (by omega)
  unfold rounded
  rw [dif_neg (by omega)]
  split
  case isTrue carried => exact stored_of_exponent_ge (by omega)
  case isFalse whole =>
    have beyond : e ≠ 971 := by
      rintro rfl
      have m_lt : (m : ℚ) < 2 ^ 53 := by exact_mod_cast Nat.lt_of_le_of_ne short whole
      have top : (2 : ℚ) ^ 53 * 2 ^ (971 : Int) = 2 ^ 1024 := by
        rw [show (971 : Int) = ((971 : Nat) : Int) from rfl, zpow_natCast, ← pow_add]
      have below : (m : ℚ) * 2 ^ (971 : Int) < 2 ^ 53 * 2 ^ (971 : Int) := by gcongr
      exact absurd large (not_le.mpr (below.trans_eq top))
    exact stored_of_exponent_ge (by omega)

end Rounded

/-- A mantissa on the grid is stored as a double near to the number. -/
theorem Grid.near_rounded {v : ℚ} {s : Sign} {m : Nat} {e : Int} {z : Float} (grid : Grid v m e)
    (stands : exact z = stored (rounded s m e)) : Near (factor s * v) z := by
  refine grid.near_double ?_ ?_
  · intro small
    rw [value?, stands, number_stored_rounded grid.mantissa_le grid.least grid.mantissa_full small]
  · intro large
    rw [stands, stored_rounded_of_large grid.mantissa_le grid.mantissa_full large]

/-! ### Mantissas with a rest -/

/-- Where the rest of a number lies, by the two bits that are kept of it. -/
def RestIn : Bool → Bool → ℚ → Prop
  | false, false, rest => rest = 0
  | false, true, rest => 0 < rest ∧ rest < 1 / 2
  | true, false, rest => rest = 1 / 2
  | true, true, rest => 1 / 2 < rest ∧ rest < 1

/-- A mantissa extended by two bits stands for a number. -/
def Extends (m : ExtendedMantissa) (y : ℚ) : Prop :=
  RestIn m.roundBit m.stickyBit (y - m.mantissa)

namespace Extends

variable {m : ExtendedMantissa} {y : ℚ}

theorem shiftRightOne (stands : Extends m y) : Extends m.shiftRightOne (y / 2) := by
  obtain ⟨n, half, more⟩ := m
  have halves : (n : ℚ) = 2 * (n / 2 : Nat) + (n % 2 : Nat) := by
    exact_mod_cast (Nat.div_add_mod n 2).symm
  -- The last place becomes the half, and what was kept of the rest becomes the rest below it.
  rcases Nat.mod_two_eq_zero_or_one n with even | odd
  · rw [even] at halves
    cases half <;> cases more <;>
      simp [Extends, RestIn, ExtendedMantissa.shiftRightOne, even] at stands halves ⊢ <;>
      first | linarith | constructor <;> linarith
  · rw [odd] at halves
    cases half <;> cases more <;>
      simp [Extends, RestIn, ExtendedMantissa.shiftRightOne, odd] at stands halves ⊢ <;>
      first | linarith | constructor <;> linarith

theorem shiftRight (stands : Extends m y) (n : Nat) : Extends (m >>> n) (y / 2 ^ n) := by
  change Extends (n.repeat ExtendedMantissa.shiftRightOne m) (y / 2 ^ n)
  induction n with
  | zero => simpa [Nat.repeat] using stands
  | succ n ih =>
    rw [pow_succ, ← div_div]
    exact ih.shiftRightOne

/-- Rounding the mantissa rounds the number. -/
theorem near (stands : Extends m y) : |(m.roundedMantissa : ℚ) - y| ≤ 1 / 2 := by
  obtain ⟨n, half, more⟩ := m
  rw [abs_le]
  cases half <;> cases more <;>
    simp only [Extends, RestIn, ExtendedMantissa.roundedMantissa, ExtendedMantissa.accuracy,
      Accuracy.roundToNearestEven] at stands ⊢
  · constructor <;> linarith
  · constructor <;> linarith
  · -- A tie goes to the even neighbour, on either side.
    rcases Nat.mod_two_eq_zero_or_one n with even | odd
    · rw [even]
      push_cast
      constructor <;> linarith
    · rw [odd]
      push_cast
      constructor <;> linarith
  · push_cast
    constructor <;> linarith

end Extends

theorem Extends.bounds {m : ExtendedMantissa} {y : ℚ} (stands : Extends m y) :
    (m.mantissa : ℚ) ≤ y ∧ y < m.mantissa + 1 := by
  obtain ⟨n, half, more⟩ := m
  cases half <;> cases more <;> simp only [Extends, RestIn] at stands ⊢ <;>
    constructor <;> linarith

theorem extends_exact (m : Nat) : Extends (.ofMantissaAndAccuracy m .exact) m := by
  simp [Extends, RestIn, ExtendedMantissa.ofMantissaAndAccuracy]

theorem extends_fraction {m rest den : Nat} (lt : rest < den) :
    Extends (.ofMantissaAndAccuracy m (accuracyOfFraction rest den)) (m + rest / den) := by
  have den_pos : (0 : ℚ) < den := by exact_mod_cast Nat.zero_lt_of_lt lt
  have rest_lt : (rest : ℚ) < den := by exact_mod_cast lt
  unfold accuracyOfFraction
  split
  case isTrue none_left => simp [none_left, Extends, RestIn, ExtendedMantissa.ofMantissaAndAccuracy]
  case isFalse some_left =>
    have rest_pos : (0 : ℚ) < rest := by exact_mod_cast Nat.pos_of_ne_zero some_left
    rcases lt_trichotomy (2 * rest) den with below | half | above
    · have below' : 2 * (rest : ℚ) < den := by exact_mod_cast below
      rw [compare_lt_iff_lt.mpr below]
      simp only [Extends, RestIn, ExtendedMantissa.ofMantissaAndAccuracy, add_sub_cancel_left]
      exact ⟨by positivity, by rw [div_lt_iff₀ den_pos]; linarith⟩
    · have half' : 2 * (rest : ℚ) = den := by exact_mod_cast half
      rw [compare_eq_iff_eq.mpr half]
      simp only [Extends, RestIn, ExtendedMantissa.ofMantissaAndAccuracy, add_sub_cancel_left]
      rw [div_eq_iff den_pos.ne']
      linarith
    · have above' : den < 2 * (rest : ℚ) := by exact_mod_cast above
      rw [compare_gt_iff_gt.mpr above]
      simp only [Extends, RestIn, ExtendedMantissa.ofMantissaAndAccuracy, add_sub_cancel_left]
      exact ⟨by rw [lt_div_iff₀ den_pos]; linarith, by rwa [div_lt_one den_pos]⟩

/-! ### Rounding with a rest -/

/-- The exponent at which a mantissa and an exponent are stored. -/
def storedAt (m : Nat) (e : Int) : Int := max ((m.log2 : Int) + e - 52) (-1074)

theorem targetExponent_eq (m : Nat) (e : Int) :
    Format.binary64.targetExponent (totalExponent m e) = storedAt m e := by
  have least : Format.binary64.minExponent = -1074 := rfl
  have places : Format.binary64.mantissaBits = 53 := rfl
  rw [Format.targetExponent, least, places, totalExponent, storedAt]
  congr 1
  push_cast
  ring

/-- The mantissa that is left when places are dropped and the rest is rounded. -/
def roundedAt (m : Nat) (e : Int) (accuracy : Accuracy) : Nat :=
  ((ExtendedMantissa.ofMantissaAndAccuracy m accuracy) >>> (storedAt m e - e).toNat).roundedMantissa

/-- Rounding may carry into a further place, so the exponent is chosen once more. -/
def settled (s : Sign) (m : Nat) (e : Int) : UnpackedFloat :=
  let places := (storedAt m e - e).toNat
  let mantissa := ((ExtendedMantissa.ofMantissaAndAccuracy m .exact) >>> places).mantissa
  if zero : mantissa = 0 then .zero s
  else .finite s mantissa (e + places) (Nat.pos_of_ne_zero zero)

theorem settled_eq_rounded {s : Sign} {m : Nat} {e : Int} (short : m ≤ 2 ^ 53) (low : -1074 ≤ e) :
    settled s m e = rounded s m e := by
  unfold settled rounded
  rcases Nat.lt_or_eq_of_le short with inside | rfl
  · have small : m.log2 ≤ 52 := by
      by_cases zero : m = 0
      · simp [zero]
      · exact Nat.lt_succ_iff.mp ((Nat.log2_lt zero).mpr inside)
    have none_dropped : (storedAt m e - e).toNat = 0 := by
      unfold storedAt
      omega
    have kept : ((ExtendedMantissa.ofMantissaAndAccuracy m .exact) >>> 0).mantissa = m := rfl
    simp only [none_dropped, kept, if_neg (Nat.ne_of_lt inside), Nat.cast_zero, add_zero]
  · have one_dropped : (storedAt (2 ^ 53) e - e).toNat = 1 := by
      have places : (2 ^ 53 : Nat).log2 = 53 := by decide
      unfold storedAt
      omega
    have halved :
        ((ExtendedMantissa.ofMantissaAndAccuracy (2 ^ 53) .exact) >>> 1).mantissa = 2 ^ 52 :=
      by decide
    simp only [one_dropped, halved, Nat.cast_one]
    rfl

theorem roundWithAccuracy_eq {s : Sign} {m : Nat} {e : Int} {accuracy : Accuracy}
    (fits : e ≤ storedAt m e) (short : roundedAt m e accuracy ≤ 2 ^ 53) :
    roundWithAccuracy .binary64 s m e accuracy =
      rounded s (roundedAt m e accuracy) (storedAt m e) := by
  have there : e + ((storedAt m e - e).toNat : Int) = storedAt m e := by omega
  have low : -1074 ≤ storedAt m e := le_max_right _ _
  rw [← settled_eq_rounded short low]
  unfold roundWithAccuracy shiftToTargetExponent shiftToExponent
  simp only [targetExponent_eq, there]
  rfl

/-- Dropping places and rounding the rest puts a number on the grid. -/
theorem grid_roundedAt {v : ℚ} {m : Nat} {e : Int} {accuracy : Accuracy} (nonneg : 0 ≤ v)
    (stands : Extends (.ofMantissaAndAccuracy m accuracy) (v / 2 ^ e)) (fits : e ≤ storedAt m e)
    (nothing : m = 0 → e ≤ -1074) : Grid v (roundedAt m e accuracy) (storedAt m e) := by
  have positive : (0 : ℚ) < 2 ^ e := by positivity
  have mantissa : (ExtendedMantissa.ofMantissaAndAccuracy m accuracy).mantissa = m := by
    cases accuracy with
    | exact => rfl
    | inexact order => cases order <;> rfl
  have bounds := stands.bounds
  rw [mantissa, le_div_iff₀ positive, div_lt_iff₀ positive] at bounds
  have there : (2 : ℚ) ^ storedAt m e = 2 ^ e * 2 ^ (storedAt m e - e).toNat := by
    rw [← zpow_natCast, ← zpow_add₀ (by norm_num)]
    congr 1
    omega
  refine ⟨nonneg, ?_, le_max_right _ _, ?_, ?_⟩
  · rw [there, ← div_div]
    exact (stands.shiftRight _).near
  · by_cases zero : m = 0
    · left
      have early := nothing zero
      subst zero
      unfold storedAt
      simp only [Nat.log2_zero, Nat.cast_zero]
      omega
    by_cases least : storedAt m e = -1074
    · exact .inl least
    · right
      have exponent : (52 : Nat) + storedAt m e = m.log2 + e := by
        unfold storedAt at least ⊢
        omega
      have first : (2 : ℚ) ^ m.log2 ≤ m := by exact_mod_cast Nat.log2_self_le zero
      calc (2 : ℚ) ^ 52 * 2 ^ storedAt m e
        _ = 2 ^ m.log2 * 2 ^ e := by
          rw [← zpow_natCast, ← zpow_add₀ (by norm_num), exponent, zpow_add₀ (by norm_num),
            zpow_natCast]
        _ ≤ m * 2 ^ e := by gcongr
        _ ≤ v := bounds.1
  · have above : (m : ℚ) + 1 ≤ 2 ^ (m.log2 + 1) := by exact_mod_cast Nat.lt_log2_self
    have exponent : ((m.log2 + 1 : Nat) : Int) + e ≤ (53 : Nat) + storedAt m e := by
      unfold storedAt
      push_cast
      omega
    calc v
      _ ≤ (m + 1) * 2 ^ e := bounds.2.le
      _ ≤ 2 ^ (m.log2 + 1) * 2 ^ e := by gcongr
      _ = 2 ^ (((m.log2 + 1 : Nat) : Int) + e) := by rw [zpow_add₀ (by norm_num), zpow_natCast]
      _ ≤ 2 ^ ((53 : Nat) + storedAt m e) := zpow_le_zpow_right₀ (by norm_num) exponent
      _ = 2 ^ 53 * 2 ^ storedAt m e := by rw [zpow_add₀ (by norm_num), zpow_natCast]

theorem near_of_roundWithAccuracy {v : ℚ} {s : Sign} {m : Nat} {e : Int} {accuracy : Accuracy}
    {z : Float} (nonneg : 0 ≤ v) (stands : Extends (.ofMantissaAndAccuracy m accuracy) (v / 2 ^ e))
    (fits : e ≤ storedAt m e) (nothing : m = 0 → e ≤ -1074)
    (result : exact z = stored (roundWithAccuracy .binary64 s m e accuracy)) :
    Near (factor s * v) z := by
  have grid := grid_roundedAt nonneg stands fits nothing
  exact grid.near_rounded (by rw [result, roundWithAccuracy_eq fits grid.mantissa_le])

end VolatilityDesk.Double
