import Mathlib
import VolatilityDesk.Number
/-!
# The order of doubles

Comparisons of doubles are comparisons of their exact values, where a value that is not a number
compares with nothing and the two zeros are equal. What is proved here is what the trading rules
rest on: of two numbers one is below the other or they are equal, never both, a sign turns the order
around zero, and no quantity makes anything of the difference of a price and itself.

* `compare_swap` — the order seen from the other side.
* `isNothing_sub_self`, `IsNothing.not_lt` — the difference of a price and itself exceeds no limit.
-/

namespace VolatilityDesk.Double

open Float.Model Float.Model.UnpackedFloat

/-! ### Comparison -/

/-- The exact value behind the bits of a double. -/
def exact (x : Float) : UnpackedFloat := x.toModel.unpack

theorem lt_iff {x y : Float} : x < y ↔ (exact x).compare (exact y) = some .lt := by
  change decide (((exact x).compare (exact y) == some .lt) = true) = true ↔ _
  simp

theorem le_iff {x y : Float} :
    x ≤ y ↔ ∃ order, (exact x).compare (exact y) = some order ∧ order.isLE = true := by
  change decide (((exact x).compare (exact y)).any (·.isLE) = true) = true ↔ _
  simp [Option.any_eq_true]

theorem beq_iff {x y : Float} : (x == y) = true ↔ (exact x).compare (exact y) = some .eq := by
  change ((exact x).compare (exact y) == some .eq) = true ↔ _
  simp

/-- Exchanging the two sides of a comparison turns its outcome around. -/
theorem compare_swap (a b : UnpackedFloat) : b.compare a = (a.compare b).map Ordering.swap := by
  have sign (s t : Sign) : compare t s = (compare s t).swap := by cases s <;> cases t <;> rfl
  cases a with
  | notANumber => cases b <;> rfl
  | infinity s => cases b with
    | infinity t => simp [UnpackedFloat.compare, sign s t]
    | _ => cases s <;> rfl
  | zero s => cases b with
    | infinity t => cases t <;> rfl
    | finite t => cases t <;> rfl
    | _ => rfl
  | finite s m e => cases b with
    | infinity t => cases t <;> rfl
    | finite t n f =>
      cases s <;> cases t <;>
        simp [UnpackedFloat.compare, Ordering.swap_then, Int.compare_swap, Nat.compare_swap]
    | _ => cases s <;> rfl

/-! ### Trichotomy -/

/-- Only what is not a number compares with nothing. -/
theorem compare_eq_none_iff (a b : UnpackedFloat) :
    a.compare b = none ↔ a = .notANumber ∨ b = .notANumber := by
  fun_cases UnpackedFloat.compare a b <;> simp_all

theorem isNan_iff {x : Float} : Number.isNan x = true ↔ exact x = .notANumber := by
  have self (u : UnpackedFloat) : u.compare u = some .eq ↔ ¬ u = .notANumber := by
    cases u with
    | notANumber => simp [UnpackedFloat.compare]
    | infinity s => cases s <;> simp [UnpackedFloat.compare] <;> rfl
    | zero s => simp [UnpackedFloat.compare]
    | finite s m e => cases s <;> simp [UnpackedFloat.compare]
  have equal : (x == x) = true ↔ ¬ exact x = .notANumber := beq_iff.trans (self (exact x))
  change (!(x == x)) = true ↔ _
  rw [Bool.not_eq_true', ← Bool.not_eq_true, equal, Classical.not_not]

/-- What is not a number is below nothing, and nothing is below it. -/
theorem isNan_eq_false_of_lt {x y : Float} (below : x < y) :
    Number.isNan x = false ∧ Number.isNan y = false := by
  rw [lt_iff] at below
  rw [← Bool.not_eq_true, ← Bool.not_eq_true, isNan_iff, isNan_iff, ← not_or,
    ← compare_eq_none_iff, below]
  nofun

/-- What is at or below a bound is not above it. -/
theorem not_lt_of_le {x y : Float} (below : x ≤ y) : ¬ y < x := by
  obtain ⟨order, compared, isLE⟩ := le_iff.mp below
  rw [lt_iff, compare_swap, compared]
  cases order <;> simp_all

/-- A number that is not at or below another one is above it. -/
theorem lt_of_not_le {x y : Float} (left : Number.isNan x = false)
    (right : Number.isNan y = false) (above : ¬ x ≤ y) : y < x := by
  cases compared : (exact x).compare (exact y) with
  | none =>
    rcases (compare_eq_none_iff _ _).mp compared with nan | nan
    · simp [isNan_iff.mpr nan] at left
    · simp [isNan_iff.mpr nan] at right
  | some order => cases order with
    | gt => simp [lt_iff, compare_swap (exact x), compared]
    | _ => exact absurd (le_iff.mpr ⟨_, compared, rfl⟩) above

/-! ### Signs -/

/-- The value that the sign, exponent and mantissa fields of a double stand for. -/
def ofFields (s : Sign) (e : BitVec 11) (m : BitVec 52) : UnpackedFloat :=
  if e = -1#11 then
    if m = 0#52 then .infinity s else .notANumber
  else if e = 0#11 then
    if nonzero : m = 0#52 then .zero s
    else .finite s m.toNat (-1074)
      (by simpa [BitVec.toNat_pos, BitVec.pos_iff_ne_zero] using nonzero)
  else .finite s (2 ^ 52 + m.toNat) (e.toNat - 1075) (by omega)

theorem neg_ofFields (s : Sign) (e : BitVec 11) (m : BitVec 52) :
    (ofFields s e m).neg = ofFields (-s) e m := by
  unfold ofFields
  split <;> split <;> try rfl
  split <;> rfl

theorem toNat_hidden_append (m : BitVec 52) : (1#1 ++ m).toNat = 2 ^ 52 + m.toNat := by
  rw [BitVec.toNat_append, ← Nat.shiftLeft_add_eq_or_of_lt m.isLt]
  rfl

theorem unpack_eq_ofFields (b : BitVec Format.binary64.numBits) :
    UnpackedFloat.unpack .binary64 b =
      ofFields (Sign.ofBitVec (unpackSign b)) (unpackExponent b) (unpackMantissa b) := by
  have bias : ((Format.binary64.exponentBias : Nat) : Int) = 1023 := rfl
  unfold UnpackedFloat.unpack ofFields
  by_cases low : unpackExponent b = 0#11
  · simp [low, bias]
  · simp [low, bias, toNat_hidden_append]

theorem unpackSign_packComponents (s : Sign) (e : BitVec 11) (m : BitVec 52) :
    Sign.ofBitVec (unpackSign (packComponents .binary64 s e m)) = s := by
  have bit : unpackSign (packComponents .binary64 s e m) = s.toBitVec := by
    have mantissa := m.isLt
    have exponent := e.isLt
    have sign := s.toBitVec.isLt
    apply BitVec.eq_of_toNat_eq
    unfold unpackSign packComponents
    rw [BitVec.toNat_cast, BitVec.extractLsb_toNat, BitVec.toNat_append, BitVec.toNat_append,
      ← Nat.shiftLeft_add_eq_or_of_lt mantissa, ← Nat.shiftLeft_add_eq_or_of_lt exponent]
    simp [Nat.shiftLeft_eq, Nat.shiftRight_eq_div_pow]
    omega
  rw [bit]
  cases s <;> rfl

/-- Reading the fields of a double gives the value that they stand for. -/
theorem unpack_packComponents (s : Sign) (e : BitVec 11) (m : BitVec 52) :
    UnpackedFloat.unpack .binary64 (packComponents .binary64 s e m) = ofFields s e m := by
  rw [unpack_eq_ofFields, unpackSign_packComponents, unpackExponent_packComponents,
    unpackMantissa_packComponents]

/-- A value that fields stand for is stored in these fields. -/
theorem pack_ofFields {s : Sign} {e : BitVec 11} {m : BitVec 52}
    (number : ofFields s e m ≠ .notANumber) :
    UnpackedFloat.pack .binary64 (ofFields s e m) = packComponents .binary64 s e m := by
  have mantissaLt : m.toNat < 2 ^ 52 := m.isLt
  have exponentLt : e.toNat < 2 ^ 11 := e.isLt
  unfold ofFields at number ⊢
  by_cases full : e = -1#11
  · by_cases empty : m = 0#52
    · simp [full, empty, UnpackedFloat.pack, packedInfinity]
    · simp [full, empty] at number
  have notFull : e.toNat ≠ 2047 := fun same => full (BitVec.eq_of_toNat_eq same)
  by_cases low : e = 0#11
  · by_cases empty : m = 0#52
    · simp [low, empty, UnpackedFloat.pack, packedZero]
    · -- A subnormal mantissa has no bit in front of its 52.
      have positive : m.toNat ≠ 0 := fun same => empty (BitVec.eq_of_toNat_eq same)
      have short : m.toNat.log2 ≠ 52 := Nat.ne_of_lt ((Nat.log2_lt positive).mpr mantissaLt)
      simp [low, empty, UnpackedFloat.pack, Format.mantissaBits, Format.exponentBias, short]
  · have log : (2 ^ 52 + m.toNat).log2 = 52 := by
      rw [Nat.log2_eq_iff (by omega)]
      omega
    have width : 52 + 1 = Format.binary64.mantissaBits := rfl
    have biased : ((e.toNat : Int) - 1075 + Format.binary64.exponentBias
        + Format.binary64.mantissaBitsWithoutImplicit).toNat = e.toNat := by
      change ((e.toNat : Int) - 1075 + (1023 : Nat) + (52 : Nat)).toNat = e.toNat
      omega
    have visible : BitVec.ofNat 52 (2 ^ 52 + m.toNat) = m := by
      apply BitVec.eq_of_toNat_eq
      rw [BitVec.toNat_ofNat, Nat.add_mod_left, Nat.mod_eq_of_lt mantissaLt]
    rw [if_neg full, if_neg low]
    unfold UnpackedFloat.pack
    simp only [biased, log]
    rw [if_neg (by omega), if_pos width, visible, BitVec.ofNat_toNat, BitVec.setWidth_eq]

/-- Negation keeps the exact value but for its sign. -/
theorem exact_neg (x : Float) : exact (-x) = (exact x).neg := by
  have fields : exact x = _ := unpack_eq_ofFields x.toModel.toBits.toBitVec
  have repacked : exact (-x) =
      UnpackedFloat.unpack .binary64 (UnpackedFloat.pack .binary64 (exact x).neg) := rfl
  by_cases nan : (exact x).neg = .notANumber
  · rw [repacked, nan]
    rfl
  · rw [fields, neg_ofFields] at nan
    rw [repacked, fields, neg_ofFields, pack_ofFields nan, unpack_packComponents]

/-- The negative of a positive number is not at or above zero. -/
theorem not_zero_le_neg {x : Float} (positive : 0.0 < x) : ¬ 0.0 ≤ -x := by
  have zero : exact 0.0 = .zero .positive := rfl
  rw [lt_iff, zero] at positive
  have above : UnpackedFloat.compare (.zero .positive) (exact x).neg = some .gt := by
    cases value : exact x with
    | infinity s => cases s <;> simp_all [UnpackedFloat.compare, UnpackedFloat.neg]
    | finite s m e => cases s <;> simp_all [UnpackedFloat.compare, UnpackedFloat.neg]
    | _ => simp [value, UnpackedFloat.compare] at positive
  rw [le_iff, exact_neg, zero, above]
  simp

/-! ### Nothing -/

/-- A value is zero or not a number. -/
def IsNothing (u : UnpackedFloat) : Prop := u = .notANumber ∨ ∃ s, u = .zero s

/-- Storing nothing keeps it nothing. -/
theorem IsNothing.stored {u : UnpackedFloat} (nothing : IsNothing u) :
    IsNothing (UnpackedFloat.unpack .binary64 (UnpackedFloat.pack .binary64 u)) := by
  rcases nothing with rfl | ⟨s, rfl⟩
  · exact .inl rfl
  · exact .inr ⟨s, by cases s <;> rfl⟩

/-- Every number less itself is nothing; so is an infinity less itself. -/
theorem isNothing_sub_self (x : Float) : IsNothing (exact (x - x)) := by
  have difference : IsNothing (UnpackedFloat.sub .binary64 (exact x) (exact x)) := by
    cases exact x with
    | notANumber => exact .inl rfl
    | infinity s => cases s <;> exact .inl rfl
    | zero s => cases s <;> exact .inr ⟨_, rfl⟩
    | finite s m e =>
      right
      simp [UnpackedFloat.sub, UnpackedFloat.normalize]
  exact difference.stored

theorem IsNothing.mul {x : Float} (nothing : IsNothing (exact x)) (y : Float) :
    IsNothing (exact (x * y)) := by
  have product : IsNothing (UnpackedFloat.mul .binary64 (exact x) (exact y)) := by
    rcases nothing with nan | ⟨s, zero⟩
    · rw [nan]
      cases exact y <;> exact .inl rfl
    · rw [zero]
      cases exact y with
      | notANumber => exact .inl rfl
      | infinity t => exact .inl rfl
      | zero t => exact .inr ⟨_, rfl⟩
      | finite t m e => exact .inr ⟨_, rfl⟩
  exact product.stored

theorem IsNothing.neg {x : Float} (nothing : IsNothing (exact x)) : IsNothing (exact (-x)) := by
  rw [exact_neg]
  rcases nothing with nan | ⟨s, zero⟩
  · exact .inl (by rw [nan]; rfl)
  · exact .inr ⟨-s, by rw [zero]; rfl⟩

/-- Nothing is not above a limit that is not negative. -/
theorem IsNothing.not_lt {x limit : Float} (nothing : IsNothing (exact x)) (nonneg : 0.0 ≤ limit) :
    ¬ limit < x := by
  obtain ⟨order, compared, atMost⟩ := le_iff.mp nonneg
  rw [lt_iff]
  rcases nothing with nan | ⟨s, zero⟩
  · rw [nan, (compare_eq_none_iff _ _).mpr (.inr rfl)]
    nofun
  · -- The two zeros compare alike with everything.
    have sides : (exact x).compare (exact limit) = some order := by
      rw [zero, ← compared, show exact 0.0 = .zero .positive from rfl]
      cases exact limit with
      | infinity t => cases t <;> rfl
      | finite t m e => cases t <;> rfl
      | _ => rfl
    rw [compare_swap (exact x), sides]
    cases order <;> simp_all

end VolatilityDesk.Double
