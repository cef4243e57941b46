import Mathlib
import VolatilityDesk.Proofs.Number.Order
/-!
# Values of doubles

A double that is neither an infinity nor without a value stands for a rational number: a mantissa of
at most 53 binary places times a power of two, with a sign. Of two such doubles the one is below the
other when its value is.

* `compare_eq_cmp` — doubles with values compare as their values do.
* `isDouble_value` — the form of a rational number that is a value.
-/

namespace VolatilityDesk.Double

open Float.Model Float.Model.UnpackedFloat

/-! ### Values -/

/-- The factor of a sign. -/
def factor : Sign → ℚ
  | .positive => 1
  | .negative => -1

/-- The number that an unpacked double stands for, if it stands for one. -/
def number? : UnpackedFloat → Option ℚ
  | .zero _ => some 0
  | .finite s m e _ => some (factor s * (m * 2 ^ e))
  | _ => none

/-- The value of a double. -/
def value? (x : Float) : Option ℚ := number? (exact x)

theorem value_zero : value? 0.0 = some 0 := rfl

theorem value_one : value? 1.0 = some 1 := by
  have stands : exact 1.0 = .finite .positive (2 ^ 52) (-52) (by decide) := rfl
  rw [value?, stands, number?, factor]
  norm_num

theorem value_hundred : value? 100.0 = some 100 := by
  have stands : exact 100.0 = .finite .positive 7036874417766400 (-46) (by decide) := rfl
  rw [value?, stands, number?, factor]
  norm_num

theorem abs_factor (s : Sign) : |factor s| = 1 := by
  cases s <;> simp [factor]

theorem factor_mul_factor (s : Sign) : factor s * factor s = 1 := by
  cases s <;> simp [factor]

theorem factor_neg (s : Sign) : factor (-s) = -factor s := by
  cases s
  · exact (neg_neg 1).symm
  · rfl

theorem cast_apply (s : Sign) (n : Int) : ((s.apply n : Int) : ℚ) = factor s * n := by
  cases s <;> simp [Sign.apply, factor]

/-! ### Mantissa and exponent -/

/-- The mantissa and the exponent of a double: the mantissa has 53 binary places, fewer only at the
least exponent. -/
structure Canonical (m : Nat) (e : Int) : Prop where
  short : m < 2 ^ 53
  low : -1074 ≤ e
  high : e ≤ 971
  full : e = -1074 ∨ 2 ^ 52 ≤ m

theorem canonical_of_ofFields {s t : Sign} {b : BitVec 11} {f : BitVec 52} {m : Nat} {e : Int}
    {pos : 0 < m} (stands : ofFields s b f = .finite t m e pos) : Canonical m e := by
  have fraction : f.toNat < 2 ^ 52 := f.isLt
  have biased : b.toNat < 2 ^ 11 := b.isLt
  unfold ofFields at stands
  split at stands
  · split at stands <;> cases stands
  rename_i notFull
  have notFull : b.toNat ≠ 2047 := fun same => notFull (BitVec.eq_of_toNat_eq same)
  split at stands
  · split at stands
    · cases stands
    · cases stands
      exact ⟨by omega, by omega, by omega, .inl rfl⟩
  · rename_i notLow
    have notLow : b.toNat ≠ 0 := fun same => notLow (BitVec.eq_of_toNat_eq same)
    cases stands
    exact ⟨by omega, by omega, by omega, .inr (by omega)⟩

theorem canonical_of_exact {x : Float} {s : Sign} {m : Nat} {e : Int} {pos : 0 < m}
    (stands : exact x = .finite s m e pos) : Canonical m e :=
  canonical_of_ofFields ((unpack_eq_ofFields x.toModel.toBits.toBitVec).symm.trans stands)

/-- A number that a double can hold: a mantissa of at most 53 binary places at an exponent in
range. -/
def IsDouble (y : ℚ) : Prop :=
  ∃ (s : Sign) (m : Nat) (e : Int), y = factor s * (m * 2 ^ e) ∧ m < 2 ^ 53 ∧ -1074 ≤ e ∧ e ≤ 971

theorem IsDouble.neg {y : ℚ} (held : IsDouble y) : IsDouble (-y) := by
  obtain ⟨s, m, e, rfl, short, low, high⟩ := held
  exact ⟨-s, m, e, by rw [factor_neg, neg_mul], short, low, high⟩

theorem isDouble_value {x : Float} {v : ℚ} (value : value? x = some v) : IsDouble v := by
  unfold value? at value
  cases stands : exact x with
  | zero s =>
    rw [stands] at value
    cases value
    exact ⟨.positive, 0, 0, by simp, by decide, by decide, by decide⟩
  | finite s m e pos =>
    rw [stands] at value
    cases value
    obtain ⟨short, low, high, -⟩ := canonical_of_exact stands
    exact ⟨s, m, e, rfl, short, low, high⟩
  | infinity s => simp [stands, number?] at value
  | notANumber => simp [stands, number?] at value

theorem isDouble_two_pow {n : Nat} (small : n ≤ 1023) : IsDouble (2 ^ n) := by
  refine ⟨.positive, 2 ^ 52, (n : Int) - 52, ?_, by norm_num, by omega, by omega⟩
  rw [factor, one_mul, Nat.cast_pow, ← zpow_natCast, Nat.cast_ofNat, ← zpow_natCast,
    ← zpow_add₀ (by norm_num)]
  congr 1
  push_cast
  omega

/-- No number that a double can hold reaches two to the power of 1024. -/
theorem IsDouble.abs_lt {y : ℚ} (held : IsDouble y) : |y| < 2 ^ 1024 := by
  obtain ⟨s, m, e, rfl, short, -, high⟩ := held
  have m_lt : (m : ℚ) < 2 ^ 53 := by exact_mod_cast short
  have positive : (0 : ℚ) ≤ m * 2 ^ e := by positivity
  rw [abs_mul, abs_factor, one_mul, abs_of_nonneg positive]
  calc (m : ℚ) * 2 ^ e
    _ < 2 ^ 53 * 2 ^ e := by gcongr
    _ ≤ 2 ^ 53 * 2 ^ (971 : Int) := by
      gcongr
      norm_num
    _ = 2 ^ 1024 := by rw [show (971 : Int) = ((971 : Nat) : Int) from rfl, zpow_natCast, ← pow_add]

theorem IsDouble.exists_half_above {y : ℚ} (held : IsDouble y) :
    ∃ top, IsDouble top ∧ |y| < 2 * top ∧ 1024 ≤ top := by
  refine ⟨2 ^ 1023, isDouble_two_pow (by decide), ?_, ?_⟩
  · rw [← pow_succ']
    exact held.abs_lt
  · have power : (2 : ℚ) ^ 10 ≤ 2 ^ 1023 := pow_le_pow_right₀ (by norm_num) (by norm_num)
    norm_num at power ⊢
    exact power

/-! ### Order -/

/-- A full mantissa at a greater exponent is above every mantissa at a lesser one. -/
theorem scaled_lt_of_exponent_lt {m n : Nat} {e f : Int} (short : m < 2 ^ 53) (full : 2 ^ 52 ≤ n)
    (exponents : e < f) : (m : ℚ) * 2 ^ e < n * 2 ^ f := by
  have m_lt : (m : ℚ) < 2 ^ 53 := by exact_mod_cast short
  have n_ge : (2 : ℚ) ^ 52 ≤ n := by exact_mod_cast full
  calc (m : ℚ) * 2 ^ e
    _ < 2 ^ 53 * 2 ^ e := by gcongr
    _ = 2 ^ 52 * 2 ^ (e + 1) := by
      rw [zpow_add₀ (by norm_num)]
      ring
    _ ≤ n * 2 ^ f := by
      gcongr
      · norm_num
      · omega

/-- Mantissas are compared only at one exponent. -/
theorem compare_canonical {m n : Nat} {e f : Int} (left : Canonical m e) (right : Canonical n f) :
    (compare e f).then (compare m n) = cmp ((m : ℚ) * 2 ^ e) (n * 2 ^ f) := by
  rcases lt_trichotomy e f with below | rfl | above
  · have full : 2 ^ 52 ≤ n := right.full.resolve_left (by have := left.low; omega)
    have values := scaled_lt_of_exponent_lt left.short full below
    rw [compare_lt_iff_lt.mpr below, cmp_eq_lt_iff _ _ |>.mpr values]
    rfl
  · have positive : (0 : ℚ) < 2 ^ e := by positivity
    rw [compare_eq_iff_eq.mpr rfl, Ordering.eq_then]
    rcases lt_trichotomy m n with below | rfl | above
    · rw [compare_lt_iff_lt.mpr below, eq_comm, cmp_eq_lt_iff]
      gcongr
    · rw [compare_eq_iff_eq.mpr rfl, cmp_self_eq_eq]
    · rw [compare_gt_iff_gt.mpr above, eq_comm, cmp_eq_gt_iff]
      gcongr
  · have full : 2 ^ 52 ≤ m := left.full.resolve_left (by have := right.low; omega)
    have values := scaled_lt_of_exponent_lt right.short full above
    rw [compare_gt_iff_gt.mpr above, cmp_eq_gt_iff _ _ |>.mpr values]
    rfl

theorem cmp_neg (a b : ℚ) : cmp (-a) (-b) = (cmp a b).swap := by
  rcases lt_trichotomy a b with below | rfl | above
  · rw [(cmp_eq_lt_iff _ _).mpr below, (cmp_eq_gt_iff _ _).mpr (neg_lt_neg below)]
    rfl
  · simp
  · rw [(cmp_eq_gt_iff _ _).mpr above, (cmp_eq_lt_iff _ _).mpr (neg_lt_neg above)]
    rfl

/-- Doubles with values compare as these do. -/
theorem compare_eq_cmp {x y : Float} {a b : ℚ} (left : value? x = some a)
    (right : value? y = some b) : (exact x).compare (exact y) = some (cmp a b) := by
  have positive (m : Nat) (e : Int) (pos : 0 < m) : (0 : ℚ) < m * 2 ^ e := by positivity
  unfold value? at left right
  cases first : exact x with
  | infinity s => simp [first, number?] at left
  | notANumber => simp [first, number?] at left
  | zero s =>
    rw [first] at left
    cases left
    cases second : exact y with
    | infinity s => simp [second, number?] at right
    | notANumber => simp [second, number?] at right
    | zero t =>
      rw [second] at right
      cases right
      simp [UnpackedFloat.compare]
    | finite t n f pos =>
      rw [second] at right
      cases right
      have above := positive n f pos
      cases t
      · rw [(cmp_eq_gt_iff _ _).mpr (by simpa [factor] using above)]
        rfl
      · rw [(cmp_eq_lt_iff _ _).mpr (by simpa [factor] using above)]
        rfl
  | finite s m e pos =>
    rw [first] at left
    cases left
    have above := positive m e pos
    cases second : exact y with
    | infinity s => simp [second, number?] at right
    | notANumber => simp [second, number?] at right
    | zero t =>
      rw [second] at right
      cases right
      cases s
      · rw [(cmp_eq_lt_iff _ _).mpr (by simpa [factor] using above)]
        rfl
      · rw [(cmp_eq_gt_iff _ _).mpr (by simpa [factor] using above)]
        rfl
    | finite t n f pos' =>
      rw [second] at right
      cases right
      have above' := positive n f pos'
      have magnitudes := compare_canonical (canonical_of_exact first) (canonical_of_exact second)
      cases s <;> cases t
      · simp only [factor, neg_mul, one_mul, cmp_neg, ← magnitudes]
        rfl
      · rw [(cmp_eq_lt_iff _ _).mpr (by simp only [factor]; linarith)]
        rfl
      · rw [(cmp_eq_gt_iff _ _).mpr (by simp only [factor]; linarith)]
        rfl
      · simp only [factor, one_mul, ← magnitudes]
        rfl

variable {x y : Float} {a b : ℚ}

theorem lt_iff_value (left : value? x = some a) (right : value? y = some b) : x < y ↔ a < b := by
  rw [lt_iff, compare_eq_cmp left right, Option.some.injEq, cmp_eq_lt_iff]

theorem le_iff_value (left : value? x = some a) (right : value? y = some b) : x ≤ y ↔ a ≤ b := by
  rw [le_iff, compare_eq_cmp left right]
  simp only [Option.some.injEq, exists_eq_left']
  rcases lt_trichotomy a b with below | rfl | above
  · simp [(cmp_eq_lt_iff _ _).mpr below, below.le]
  · simp
  · simp [(cmp_eq_gt_iff _ _).mpr above, above]

/-! ### Bounds -/

/-- A double is at or above a number; the positive infinity is above all. -/
def AtLeast (q : ℚ) (x : Float) : Prop :=
  exact x = .infinity .positive ∨ ∃ v, value? x = some v ∧ q ≤ v

/-- A double is at or below a number; the negative infinity is below all. -/
def AtMost (q : ℚ) (x : Float) : Prop :=
  exact x = .infinity .negative ∨ ∃ v, value? x = some v ∧ v ≤ q

theorem AtLeast.of_le {p q : ℚ} (bound : AtLeast q x) (le : p ≤ q) : AtLeast p x :=
  bound.imp_right fun ⟨v, value, above⟩ => ⟨v, value, le.trans above⟩

theorem AtMost.of_le {p q : ℚ} (bound : AtMost p x) (le : p ≤ q) : AtMost q x :=
  bound.imp_right fun ⟨v, value, below⟩ => ⟨v, value, below.trans le⟩

theorem not_number_or_infinity_or_value (x : Float) :
    exact x = .notANumber ∨ (∃ s, exact x = .infinity s) ∨ ∃ v, value? x = some v := by
  unfold value?
  cases stands : exact x with
  | notANumber => exact .inl rfl
  | infinity s => exact .inr (.inl ⟨s, rfl⟩)
  | zero s => exact .inr (.inr ⟨_, rfl⟩)
  | finite s m e pos => exact .inr (.inr ⟨_, rfl⟩)

theorem exact_ne_infinity {v : ℚ} (value : value? x = some v) (s : Sign) :
    exact x ≠ .infinity s := by
  intro infinite
  rw [value?, infinite] at value
  cases value

/-- Nothing but itself is at or above the positive infinity. -/
theorem eq_infinity_of_le (infinite : exact x = .infinity .positive) (le : x ≤ y) :
    exact y = .infinity .positive := by
  obtain ⟨order, compared, isLE⟩ := le_iff.mp le
  rw [infinite] at compared
  cases stands : exact y with
  | infinity s =>
    cases s with
    | positive => rfl
    | negative =>
      rw [stands] at compared
      cases compared
      cases isLE
  | notANumber => simp [stands, UnpackedFloat.compare] at compared
  | zero s =>
    rw [stands] at compared
    cases compared
    cases isLE
  | finite s m e pos =>
    rw [stands] at compared
    cases compared
    cases isLE

/-- Nothing but itself is at or below the negative infinity. -/
theorem eq_infinity_of_ge (infinite : exact x = .infinity .negative) (le : y ≤ x) :
    exact y = .infinity .negative := by
  obtain ⟨order, compared, isLE⟩ := le_iff.mp le
  rw [infinite] at compared
  cases stands : exact y with
  | infinity s =>
    cases s with
    | negative => rfl
    | positive =>
      rw [stands] at compared
      cases compared
      cases isLE
  | notANumber => simp [stands, UnpackedFloat.compare] at compared
  | zero s =>
    rw [stands] at compared
    cases compared
    cases isLE
  | finite s m e pos =>
    rw [stands] at compared
    cases s <;> cases compared <;> cases isLE

theorem AtLeast.of_float_le {q : ℚ} (bound : AtLeast q x) (le : x ≤ y) : AtLeast q y := by
  obtain infinite | ⟨v, value, above⟩ := bound
  · exact .inl (eq_infinity_of_le infinite le)
  · rcases not_number_or_infinity_or_value y with nan | ⟨s, infinite⟩ | ⟨w, value'⟩
    · obtain ⟨order, compared, -⟩ := le_iff.mp le
      rw [(compare_eq_none_iff _ _).mpr (.inr nan)] at compared
      cases compared
    · cases s with
      | positive => exact .inl infinite
      | negative => exact absurd (eq_infinity_of_ge infinite le) (exact_ne_infinity value _)
    · exact .inr ⟨w, value', above.trans ((le_iff_value value value').mp le)⟩

theorem AtMost.of_float_ge {q : ℚ} (bound : AtMost q x) (le : y ≤ x) : AtMost q y := by
  obtain infinite | ⟨v, value, below⟩ := bound
  · exact .inl (eq_infinity_of_ge infinite le)
  · rcases not_number_or_infinity_or_value y with nan | ⟨s, infinite⟩ | ⟨w, value'⟩
    · obtain ⟨order, compared, -⟩ := le_iff.mp le
      rw [(compare_eq_none_iff _ _).mpr (.inl nan)] at compared
      cases compared
    · cases s with
      | negative => exact .inl infinite
      | positive => exact absurd (eq_infinity_of_le infinite le) (exact_ne_infinity value _)
    · exact .inr ⟨w, value', ((le_iff_value value' value).mp le).trans below⟩

/-- A double is not below the value of another one that bounds it. -/
theorem AtLeast.not_lt {q : ℚ} (bound : AtLeast q x) (value : value? y = some q) : ¬ x < y := by
  intro below
  obtain infinite | ⟨v, value', above⟩ := bound
  · obtain ⟨order, compared, isLE⟩ : ∃ order, (exact x).compare (exact y) = some order ∧
        order.isLE = true := ⟨_, lt_iff.mp below, rfl⟩
    exact exact_ne_infinity value _ (eq_infinity_of_le infinite (le_iff.mpr ⟨_, compared, isLE⟩))
  · exact above.not_gt ((lt_iff_value value' value).mp below)

end VolatilityDesk.Double
