import Mathlib
import VolatilityDesk.Proofs.Number.Rounding
/-!
# Decimal places of doubles

The double that is nearest to a fraction is what the fraction is rounded to. Rounding a double to
decimal places takes the nearest number of these places, and then the nearest double.

* `near_nearest` — the double nearest to a fraction is near to it.
* `value_round4` — the value of a double that is rounded to four places.
-/

namespace VolatilityDesk

open Float.Model Float.Model.UnpackedFloat

/-- Rounding a quotient changes it by a half at most. -/
theorem abs_roundDiv_sub_le {num den : Nat} (pos : 0 < den) :
    |(roundDiv num den : ℚ) - num / den| ≤ 1 / 2 := by
  have den_pos : (0 : ℚ) < den := by exact_mod_cast pos
  have split : (num : ℚ) = den * (num / den : Nat) + (num % den : Nat) := by
    exact_mod_cast (Nat.div_add_mod num den).symm
  have rest_le : ((num % den : Nat) : ℚ) ≤ den := by exact_mod_cast (Nat.mod_lt num pos).le
  have scaled (k : Nat) : (k : ℚ) - num / den = (k * den - num) / den := by field_simp
  rw [scaled, abs_div, abs_of_pos den_pos, div_le_iff₀ den_pos, abs_le]
  unfold roundDiv
  dsimp only
  split
  · rename_i up
    have half : (den : ℚ) ≤ 2 * (num % den : Nat) := by
      have half : den ≤ 2 * (num % den) := by omega
      exact_mod_cast half
    push_cast
    constructor <;> linarith
  · rename_i down
    have half : 2 * ((num % den : Nat) : ℚ) ≤ den := by
      have half : 2 * (num % den) ≤ den := by omega
      exact_mod_cast half
    have rest_nonneg : (0 : ℚ) ≤ (num % den : Nat) := by positivity
    constructor <;> linarith

namespace Double

/-! ### Bits -/

/-- The sign is negative. -/
def isNegative : Sign → Bool
  | .negative => true
  | .positive => false

/-- An unpacked double as an exact number. -/
def binaryOf : UnpackedFloat → Binary64
  | .notANumber => .nan
  | .infinity s => .infinite (isNegative s)
  | .zero s => .finite (isNegative s) 0 (-1074)
  | .finite s m e _ => .finite (isNegative s) m e

theorem toNat_unpackExponent (b : BitVec Format.binary64.numBits) :
    (unpackExponent b).toNat = b.toNat / 2 ^ 52 % 2 ^ 11 := by
  unfold unpackExponent
  rw [BitVec.toNat_cast, BitVec.extractLsb_toNat, Nat.shiftRight_eq_div_pow]
  rfl

theorem toNat_unpackMantissa (b : BitVec Format.binary64.numBits) :
    (unpackMantissa b).toNat = b.toNat % 2 ^ 52 := by
  unfold unpackMantissa
  rw [BitVec.toNat_cast, BitVec.extractLsb_toNat, Nat.shiftRight_zero]
  rfl

theorem isNegative_unpackSign (b : BitVec Format.binary64.numBits) :
    isNegative (Sign.ofBitVec (unpackSign b)) = (b.toNat / 2 ^ 63 % 2 == 1) := by
  have bit : (unpackSign b).toNat = b.toNat / 2 ^ 63 % 2 := by
    unfold unpackSign
    rw [BitVec.toNat_cast, BitVec.extractLsb_toNat, Nat.shiftRight_eq_div_pow]
    simp
  rw [← bit]
  generalize unpackSign b = sign
  revert sign
  decide

/-- Both readings of the fields of a double agree. -/
theorem ofBits_eq_of_fields {bits : Nat} {s : Sign} {e : BitVec 11} {m : BitVec 52}
    (sign : isNegative s = (bits / 2 ^ 63 % 2 == 1)) (exponent : e.toNat = bits / 2 ^ 52 % 2 ^ 11)
    (mantissa : m.toNat = bits % 2 ^ 52) : Binary64.ofBits bits = binaryOf (ofFields s e m) := by
  have full : e = -1#11 ↔ bits / 2 ^ 52 % 2 ^ 11 = 2047 := by
    rw [← exponent]
    exact ⟨fun same => by rw [same]; rfl, fun same => BitVec.eq_of_toNat_eq same⟩
  have low : e = 0#11 ↔ bits / 2 ^ 52 % 2 ^ 11 = 0 := by
    rw [← exponent]
    exact ⟨fun same => by rw [same]; rfl, fun same => BitVec.eq_of_toNat_eq same⟩
  have empty : m = 0#52 ↔ bits % 2 ^ 52 = 0 := by
    rw [← mantissa]
    exact ⟨fun same => by rw [same]; rfl, fun same => BitVec.eq_of_toNat_eq same⟩
  have signBit : Binary64.signBit = 2 ^ 63 := rfl
  have hidden : Binary64.hidden = 2 ^ 52 := rfl
  have width : 2048 = 2 ^ 11 := rfl
  unfold Binary64.ofBits ofFields
  simp only [signBit, hidden, width, ← sign, full, low, empty]
  split
  · split <;> rfl
  · split
    · split
      · rename_i zero
        rw [zero]
        rfl
      · rw [binaryOf, mantissa]
        rfl
    · rw [binaryOf, mantissa, exponent]

theorem ofFloat_eq (x : Float) : Binary64.ofFloat x = binaryOf (exact x) := by
  have fields : exact x = _ := unpack_eq_ofFields x.toModel.toBits.toBitVec
  rw [fields]
  exact ofBits_eq_of_fields (isNegative_unpackSign _) (toNat_unpackExponent _)
    (toNat_unpackMantissa _)

theorem exact_ofBits (bits : UInt64) :
    exact (Float.ofBits bits) = stored (UnpackedFloat.unpack .binary64 bits.toBitVec) := rfl

/-- The bits that hold a rounded mantissa at its exponent. -/
def bitsOf (m : Nat) (e : Int) : Nat := (e + 1074).toNat * 2 ^ 52 + m

section Fields

variable {s : Sign} {m : Nat} {e : Int}

/-- A mantissa that was rounded up to the next power of two carries into the exponent. -/
theorem ofFields_eq_rounded {b : BitVec 11} {f : BitVec 52} (short : m ≤ 2 ^ 53) (low : -1074 ≤ e)
    (full : e = -1074 ∨ 2 ^ 52 ≤ m) (inside : bitsOf m e < 2047 * 2 ^ 52)
    (exponent : b.toNat = bitsOf m e / 2 ^ 52) (fraction : f.toNat = bitsOf m e % 2 ^ 52) :
    ofFields s b f = rounded s m e := by
  unfold bitsOf at inside exponent fraction
  have notFull : b ≠ -1#11 := by
    rintro rfl
    have top : (-1#11).toNat = 2047 := rfl
    omega
  unfold ofFields rounded
  rw [if_neg notFull]
  by_cases zero : m = 0
  · have least : e = -1074 := full.resolve_right (by omega)
    have nothing : b = 0#11 := BitVec.eq_of_toNat_eq (by rw [exponent, least, zero]; rfl)
    have empty : f = 0#52 := BitVec.eq_of_toNat_eq (by rw [fraction, least, zero]; rfl)
    rw [if_pos nothing, dif_pos empty, dif_pos zero]
  rw [dif_neg zero]
  rcases Nat.lt_or_ge m (2 ^ 52) with below | above
  · obtain rfl : e = -1074 := full.resolve_right (by omega)
    have nothing : b = 0#11 := by
      refine BitVec.eq_of_toNat_eq ?_
      rw [exponent, BitVec.toNat_ofNat]
      omega
    have filled : f ≠ 0#52 := by
      rintro rfl
      rw [BitVec.toNat_ofNat] at fraction
      omega
    rw [if_pos nothing, dif_neg filled, if_neg (by omega)]
    simp only [UnpackedFloat.finite.injEq, true_and, and_true]
    omega
  · have biased : b ≠ 0#11 := by
      rintro rfl
      rw [BitVec.toNat_ofNat] at exponent
      omega
    rw [if_neg biased]
    split
    · simp only [UnpackedFloat.finite.injEq, true_and]
      omega
    · simp only [UnpackedFloat.finite.injEq, true_and]
      omega

/-- Bits in range hold the rounded mantissa. -/
theorem exact_ofBits_bitsOf (short : m ≤ 2 ^ 53) (low : -1074 ≤ e) (full : e = -1074 ∨ 2 ^ 52 ≤ m)
    (inside : bitsOf m e < 2047 * 2 ^ 52) :
    exact (Float.ofBits (UInt64.ofNat (if isNegative s then 2 ^ 63 + bitsOf m e else bitsOf m e))) =
      stored (rounded s m e) := by
  obtain ⟨n, word⟩ : ∃ n, (if isNegative s then 2 ^ 63 + bitsOf m e else bitsOf m e) = n := ⟨_, rfl⟩
  have bounds : n < 2 ^ 64 ∧ n / 2 ^ 52 % 2 ^ 11 = bitsOf m e / 2 ^ 52 ∧
      n % 2 ^ 52 = bitsOf m e % 2 ^ 52 ∧ (n / 2 ^ 63 % 2 == 1) = isNegative s := by
    cases s <;> simp only [isNegative, if_true, if_false, Bool.false_eq_true] at word ⊢ <;>
      refine ⟨by omega, by omega, by omega, ?_⟩ <;> simp <;> omega
  obtain ⟨wide, exponent, fraction, sign⟩ := bounds
  obtain ⟨b, stored_bits⟩ : ∃ b : BitVec Format.binary64.numBits, (UInt64.ofNat n).toBitVec = b :=
    ⟨_, rfl⟩
  have toNat : b.toNat = n := by
    rw [← stored_bits]
    exact (UInt64.toNat_toBitVec _).trans (UInt64.toNat_ofNat_of_lt' wide)
  have same : Sign.ofBitVec (unpackSign b) = s := by
    have negative := isNegative_unpackSign b
    rw [toNat, sign] at negative
    revert negative
    generalize Sign.ofBitVec (unpackSign b) = t
    cases s <;> cases t <;> simp [isNegative]
  rw [word, exact_ofBits, stored_bits, unpack_eq_ofFields, same]
  congr 1
  refine ofFields_eq_rounded short low full inside ?_ ?_
  · rw [toNat_unpackExponent, toNat, exponent]
  · rw [toNat_unpackMantissa, toNat, fraction]

/-- Bits out of range belong to a number that is stored as an infinity. -/
theorem stored_rounded_of_bits (short : m ≤ 2 ^ 53) (low : -1074 ≤ e)
    (full : e = -1074 ∨ 2 ^ 52 ≤ m) (outside : 2047 * 2 ^ 52 ≤ bitsOf m e) :
    stored (rounded s m e) = .infinity s := by
  unfold bitsOf at outside
  unfold rounded
  rw [dif_neg (by omega)]
  split
  · exact stored_of_exponent_ge (by omega)
  · exact stored_of_exponent_ge (by omega)

end Fields

/-! ### Fractions -/

theorem exact_infinity (s : Sign) : exact (Binary64.infinity (isNegative s)) = .infinity s := by
  cases s <;> rfl

section Fractions

variable {num den : Nat}

/-- A power of two as a quotient of two whole ones. -/
theorem two_zpow_mul (e : Int) : (2 : ℚ) ^ e * 2 ^ (-e).toNat = 2 ^ e.toNat := by
  rw [← zpow_natCast, ← zpow_natCast, ← zpow_add₀ (by norm_num)]
  congr 1
  omega

/-- The exponent of a fraction, before it is bounded from below. -/
theorem exponentOf_spec (num_pos : 0 < num) (den_pos : 0 < den) :
    ∃ e : Int, Binary64.exponentOf num den = max e (-1074) ∧
      2 ^ 52 * 2 ^ e ≤ (num / den : ℚ) ∧ (num / den : ℚ) < 2 ^ 53 * 2 ^ e := by
  have den_pos' : (0 : ℚ) < den := by exact_mod_cast den_pos
  obtain ⟨guess, guessed⟩ : ∃ guess : Int, (num.log2 : Int) - den.log2 - 52 = guess := ⟨_, rfl⟩
  have scale : (2 : ℚ) ^ num.log2 = 2 ^ 52 * 2 ^ guess * 2 ^ den.log2 := by
    rw [← zpow_natCast, ← zpow_natCast, ← zpow_natCast 2 den.log2, ← zpow_add₀ (by norm_num),
      ← zpow_add₀ (by norm_num)]
    congr 1
    push_cast
    omega
  have num_ge : (2 : ℚ) ^ num.log2 ≤ num := by exact_mod_cast Nat.log2_self_le num_pos.ne'
  have num_lt : (num : ℚ) < 2 * 2 ^ num.log2 := by
    rw [← pow_succ']
    exact_mod_cast Nat.lt_log2_self
  have den_ge : (2 : ℚ) ^ den.log2 ≤ den := by exact_mod_cast Nat.log2_self_le den_pos.ne'
  have den_lt : (den : ℚ) < 2 * 2 ^ den.log2 := by
    rw [← pow_succ']
    exact_mod_cast Nat.lt_log2_self
  have power : (0 : ℚ) < 2 ^ guess := by positivity
  have short_iff : num * 2 ^ (-guess).toNat < den * 2 ^ guess.toNat * Binary64.hidden ↔
      (num / den : ℚ) < 2 ^ 52 * 2 ^ guess := by
    have positive : (0 : ℚ) < 2 ^ (-guess).toNat := by positivity
    have hidden : (Binary64.hidden : ℚ) = 2 ^ 52 := by norm_num [Binary64.hidden]
    rw [div_lt_iff₀ den_pos', ← mul_lt_mul_iff_left₀ positive, ← @Nat.cast_lt ℚ]
    push_cast
    rw [hidden, ← two_zpow_mul guess]
    constructor <;> intro below <;> linarith
  refine ⟨if (num / den : ℚ) < 2 ^ 52 * 2 ^ guess then guess - 1 else guess, ?_, ?_⟩
  · unfold Binary64.exponentOf
    simp only [guessed, Nat.pow_eq, short_iff]
    rfl
  · split
    · rename_i short
      rw [zpow_sub_one₀ (by norm_num)]
      refine ⟨?_, by linarith⟩
      rw [le_div_iff₀ den_pos']
      have bound := mul_le_mul_of_nonneg_left den_lt.le power.le
      linarith
    · rename_i long
      refine ⟨not_lt.mp long, ?_⟩
      rw [div_lt_iff₀ den_pos']
      have bound := mul_le_mul_of_nonneg_left den_ge power.le
      linarith

theorem grid_nearest (num_pos : 0 < num) (den_pos : 0 < den) :
    Grid (num / den) (roundDiv (num * 2 ^ (-Binary64.exponentOf num den).toNat)
      (den * 2 ^ (Binary64.exponentOf num den).toNat)) (Binary64.exponentOf num den) := by
  obtain ⟨e, bounded, full, short⟩ := exponentOf_spec num_pos den_pos
  have den_pos' : (0 : ℚ) < den := by exact_mod_cast den_pos
  have scaled : ((num * 2 ^ (-Binary64.exponentOf num den).toNat : Nat) : ℚ) /
      (den * 2 ^ (Binary64.exponentOf num den).toNat : Nat) =
        num / den / 2 ^ Binary64.exponentOf num den := by
    have positive : (0 : ℚ) < 2 ^ (-Binary64.exponentOf num den).toNat := by positivity
    push_cast
    rw [← two_zpow_mul (Binary64.exponentOf num den)]
    field_simp
  refine ⟨by positivity, ?_, ?_, ?_, ?_⟩
  · rw [← scaled]
    exact abs_roundDiv_sub_le (by positivity)
  · rw [bounded]
    exact le_max_right _ _
  · rw [bounded]
    rcases le_total e (-1074) with least | above
    · exact .inl (max_eq_right least)
    · rw [max_eq_left above]
      exact .inr full
  · rw [bounded]
    refine short.le.trans ?_
    gcongr
    · norm_num
    · exact le_max_left _ _

/-- The mantissa and the exponent of a fraction are stored as the nearest double, where they are in
range; otherwise an infinity is. -/
theorem exact_nearest (s : Sign) {m : Nat} {e : Int} (short : m ≤ 2 ^ 53) (low : -1074 ≤ e)
    (full : e = -1074 ∨ 2 ^ 52 ≤ m) (bits : Binary64.nearestBits? num den =
      if bitsOf m e < 2047 * 2 ^ 52 then some (bitsOf m e) else none) :
    exact (Binary64.nearest (isNegative s) num den) = stored (rounded s m e) := by
  unfold Binary64.nearest Binary64.nearest?
  by_cases inside : bitsOf m e < 2047 * 2 ^ 52
  · have signBit : Binary64.signBit = 2 ^ 63 := rfl
    rw [bits, if_pos inside, Option.map_some, Option.getD_some, signBit]
    exact exact_ofBits_bitsOf short low full inside
  · rw [bits, if_neg inside, stored_rounded_of_bits short low full (Nat.not_lt.mp inside)]
    exact exact_infinity s

/-- The nearest double to a fraction is near to it. -/
theorem near_nearest (s : Sign) (num : Nat) (den_pos : 0 < den) :
    Near (factor s * (num / den)) (Binary64.nearest (isNegative s) num den) := by
  rcases Nat.eq_zero_or_pos num with rfl | num_pos
  · refine near_of_value ?_
    have empty : bitsOf 0 (-1074) = 0 := by decide
    have nothing :
        exact (Binary64.nearest (isNegative s) 0 den) = stored (rounded s 0 (-1074)) := by
      refine exact_nearest s (by decide) (by decide) (.inl rfl) ?_
      rw [empty, if_pos (by decide), Binary64.nearestBits?, if_pos rfl]
    rw [value?, nothing, rounded, dif_pos rfl, stored_zero, number?]
    simp
  · have grid := grid_nearest num_pos den_pos
    refine grid.near_rounded (exact_nearest s grid.mantissa_le grid.least grid.mantissa_full ?_)
    unfold Binary64.nearestBits?
    rw [if_neg num_pos.ne']
    rfl

end Fractions

/-! ### Rounding to four places -/

theorem ofFloat_of_value {x : Float} {v : ℚ} (value : value? x = some v) :
    ∃ (s : Sign) (m : Nat) (e : Int), Binary64.ofFloat x = .finite (isNegative s) m e ∧
      v = factor s * (m * 2 ^ e) := by
  unfold value? at value
  rw [ofFloat_eq]
  cases stands : exact x with
  | zero s =>
    rw [stands] at value
    exact ⟨s, 0, -1074, rfl, by simpa [number?] using (Option.some.inj value).symm⟩
  | finite s m e pos =>
    rw [stands] at value
    exact ⟨s, m, e, rfl, (Option.some.inj value).symm⟩
  | infinity s => simp [stands, number?] at value
  | notANumber => simp [stands, number?] at value

/-- Rounding to four places gives the nearest double of the nearest number of ten-thousandths. -/
theorem round4_eq {x : Float} {v : ℚ} (value : value? x = some v) :
    ∃ (s : Sign) (k : Nat), 0 ≤ factor s * v ∧ |factor s * k - 10000 * v| ≤ 1 / 2 ∧
      Number.round4 x = Binary64.nearest (isNegative s) k 10000 := by
  obtain ⟨s, m, e, stands, rfl⟩ := ofFloat_of_value value
  refine ⟨s, roundDiv (m * 2 ^ e.toNat * 10000) (2 ^ (-e).toNat), ?_, ?_, ?_⟩
  · rw [← mul_assoc, factor_mul_factor, one_mul]
    positivity
  · have scaled : ((m * 2 ^ e.toNat * 10000 : Nat) : ℚ) / (2 ^ (-e).toNat : Nat) =
        10000 * (m * 2 ^ e) := by
      push_cast
      rw [← two_zpow_mul e]
      field_simp
    rw [mul_left_comm, ← mul_sub, abs_mul, abs_factor, one_mul, ← scaled]
    exact abs_roundDiv_sub_le (by positivity)
  · change Binary64.roundTo 4 x = _
    unfold Binary64.roundTo
    rw [stands]
    rfl

theorem round4_of_infinity {x : Float} {s : Sign} (infinite : exact x = .infinity s) :
    Number.round4 x = x := by
  change Binary64.roundTo 4 x = _
  unfold Binary64.roundTo
  rw [ofFloat_eq, infinite]
  rfl

/-- A double that is large is a whole number. -/
theorem exists_int_of_large {v : ℚ} (held : IsDouble v) (large : 2 ^ 53 ≤ |v|) :
    ∃ n : Int, v = n := by
  obtain ⟨s, m, e, rfl, short, -, -⟩ := held
  have m_lt : (m : ℚ) < 2 ^ 53 := by exact_mod_cast short
  rw [abs_mul, abs_factor, one_mul, abs_of_nonneg (by positivity)] at large
  have nonneg : 0 ≤ e := by
    by_contra negative
    have part : (2 : ℚ) ^ e ≤ 1 := zpow_le_one_of_nonpos₀ (by norm_num) (by omega)
    have small : (m : ℚ) * 2 ^ e ≤ m * 1 := by gcongr
    linarith
  obtain ⟨n, rfl⟩ := Int.eq_ofNat_of_zero_le nonneg
  refine ⟨s.apply (m * 2 ^ n : Nat), ?_⟩
  rw [cast_apply]
  push_cast
  rw [zpow_natCast]

/-- Rounding a double to four places does not pass the largest double, since doubles that large are
whole numbers. -/
theorem exists_double_ge {v : ℚ} {k : Int} (held : IsDouble v)
    (close : |(k : ℚ) - 10000 * v| ≤ 1 / 2) :
    ∃ y, IsDouble y ∧ |(k : ℚ) / 10000| ≤ y := by
  rcases lt_or_ge |v| (2 ^ 53) with small | large
  · refine ⟨2 ^ 1023, isDouble_two_pow (by decide), ?_⟩
    have power : (2 : ℚ) ^ 54 ≤ 2 ^ 1023 := pow_le_pow_right₀ (by norm_num) (by norm_num)
    have bounds := abs_lt.mp small
    have distance := abs_le.mp close
    refine le_trans ?_ power
    rw [abs_le]
    constructor <;> linarith
  · obtain ⟨n, rfl⟩ := exists_int_of_large held large
    have exactly : k = 10000 * n := by
      have apart : |((k - 10000 * n : Int) : ℚ)| < 1 := by
        push_cast
        linarith
      have nothing : k - 10000 * n = 0 := Int.abs_lt_one_iff.mp (by exact_mod_cast apart)
      omega
    have same : ((k : ℚ) / 10000) = n := by
      rw [exactly]
      push_cast
      ring
    rw [same]
    rcases abs_choice (n : ℚ) with sign | sign
    · exact ⟨n, held, sign.le⟩
    · exact ⟨-n, held.neg, sign.le⟩

/-- A double with a value has one when it is rounded to four places. -/
theorem value_round4 {x : Float} {v : ℚ} (value : value? x = some v) :
    ∃ (k : Int) (y : ℚ), |(k : ℚ) - 10000 * v| ≤ 1 / 2 ∧ value? (Number.round4 x) = some y ∧
      Near (k / 10000) (Number.round4 x) := by
  obtain ⟨s, k, -, close, result⟩ := round4_eq value
  have places : factor s * (k / (10000 : Nat)) = ((s.apply k : Int) : ℚ) / 10000 := by
    rw [cast_apply]
    push_cast
    ring
  have near : Near (((s.apply k : Int) : ℚ) / 10000) (Number.round4 x) := by
    rw [result, ← places]
    exact near_nearest s k (by decide)
  have close : |((s.apply k : Int) : ℚ) - 10000 * v| ≤ 1 / 2 := by
    rw [cast_apply]
    exact_mod_cast close
  obtain ⟨y, held, above⟩ := exists_double_ge (isDouble_value value) close
  cases near with
  | value found close' below above' => exact ⟨_, _, close, found, .value found close' below above'⟩
  | @infinity t infinite beyond =>
    have outside := beyond y held
    have inside := le_abs_self (factor t * (((s.apply k : Int) : ℚ) / 10000))
    rw [abs_mul, abs_factor, one_mul] at inside
    exact absurd (outside.trans_le inside) (not_lt.mpr above)

end Double

end VolatilityDesk
