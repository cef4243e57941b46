import VolatilityDesk.Proofs.Number.Value
/-!
# The order of numbers and infinities

The doubles that are numbers or infinities stand on one line: the rational numbers with an infinity
at either end. A comparison of doubles is one of their points on the line, and holds of nothing that
has none. So comparisons can be chained, whichever doubles they are between.

* `lt_iff_points`, `le_iff_points` — comparisons of doubles are those of their points.
* `lt_of_le_of_lt`, `lt_of_lt_of_le` — comparisons can be chained, also beside infinities.
-/

namespace VolatilityDesk.Double

open Float.Model Float.Model.UnpackedFloat

/-- The rational numbers between two infinities. -/
abbrev Extended : Type := WithBot (WithTop ℚ)

/-- Where a double stands among numbers and infinities; what is not a number stands nowhere. -/
def extended? (x : Float) : Option Extended :=
  match exact x with
  | .notANumber => none
  | .infinity .negative => some ⊥
  | .infinity .positive => some ⊤
  | u => (number? u).map fun v => ((v : WithTop ℚ) : Extended)

variable {x y z : Float} {a b : ℚ}

theorem extended?_of_value (value : value? x = some a) :
    extended? x = some ((a : WithTop ℚ) : Extended) := by
  unfold value? at value
  unfold extended?
  cases stands : exact x with
  | notANumber => simp [stands, number?] at value
  | infinity s => simp [stands, number?] at value
  | zero s =>
    rw [stands] at value
    simp [value]
  | finite s m e pos =>
    rw [stands] at value
    simp [value]

theorem extended?_of_infinity {s : Sign} (infinite : exact x = .infinity s) :
    extended? x = some (match s with | .negative => ⊥ | .positive => ⊤) := by
  simp only [extended?, infinite]
  cases s <;> rfl

/-- An infinity is beyond all numbers. -/
theorem compare_infinity_value {s : Sign} (infinite : exact x = .infinity s)
    (value : value? y = some b) :
    (exact x).compare (exact y) = some (match s with | .negative => .lt | .positive => .gt) := by
  unfold value? at value
  cases stands : exact y with
  | notANumber => simp [stands, number?] at value
  | infinity t => simp [stands, number?] at value
  | zero t => cases s <;> simp only [infinite] <;> rfl
  | finite t m e pos => cases s <;> simp only [infinite] <;> rfl

/-- Doubles compare as their points on the line do. -/
theorem compare_eq_cmp_extended {p q : Extended} (left : extended? x = some p)
    (right : extended? y = some q) : (exact x).compare (exact y) = some (cmp p q) := by
  have bottom (v : ℚ) : cmp (⊥ : Extended) ((v : WithTop ℚ) : Extended) = .lt :=
    (cmp_eq_lt_iff _ _).mpr (WithBot.bot_lt_coe _)
  have top (v : ℚ) : cmp (⊤ : Extended) ((v : WithTop ℚ) : Extended) = .gt :=
    (cmp_eq_gt_iff _ _).mpr (WithBot.coe_lt_coe.mpr (WithTop.coe_lt_top v))
  rcases not_number_or_infinity_or_value x with nan | ⟨s, infinite⟩ | ⟨v, value⟩
  · simp [extended?, nan] at left
  · rw [extended?_of_infinity infinite] at left
    cases left
    rcases not_number_or_infinity_or_value y with nan | ⟨t, infinite'⟩ | ⟨w, value'⟩
    · simp [extended?, nan] at right
    · rw [extended?_of_infinity infinite'] at right
      cases right
      cases s <;> cases t <;> simp only [infinite, infinite'] <;> rfl
    · rw [extended?_of_value value'] at right
      cases right
      rw [compare_infinity_value infinite value']
      cases s
      · rw [bottom]
      · rw [top]
  · rw [extended?_of_value value] at left
    cases left
    rcases not_number_or_infinity_or_value y with nan | ⟨t, infinite'⟩ | ⟨w, value'⟩
    · simp [extended?, nan] at right
    · rw [extended?_of_infinity infinite'] at right
      cases right
      rw [compare_swap (exact y), compare_infinity_value infinite' value, ← cmp_swap]
      cases t
      · rw [bottom]
        rfl
      · rw [top]
        rfl
    · rw [extended?_of_value value'] at right
      cases right
      rw [compare_eq_cmp value value']
      congr 1
      rcases lt_trichotomy v w with below | rfl | above
      · rw [(cmp_eq_lt_iff _ _).mpr below, eq_comm, cmp_eq_lt_iff]
        exact_mod_cast below
      · rw [cmp_self_eq_eq, cmp_self_eq_eq]
      · rw [(cmp_eq_gt_iff _ _).mpr above, eq_comm, cmp_eq_gt_iff]
        exact_mod_cast above

/-- What is a number or an infinity has a point on the line. -/
theorem exists_extended? (number : Number.isNan x = false) : ∃ p, extended? x = some p := by
  rcases not_number_or_infinity_or_value x with nan | ⟨s, infinite⟩ | ⟨v, value⟩
  · rw [isNan_iff.mpr nan] at number
    cases number
  · exact ⟨_, extended?_of_infinity infinite⟩
  · exact ⟨_, extended?_of_value value⟩

/-- What compares with something has a point on the line. -/
theorem exists_extended?_of_compare {order : Ordering}
    (compared : (exact x).compare (exact y) = some order) :
    ∃ p q, extended? x = some p ∧ extended? y = some q ∧ cmp p q = order := by
  have numbers : ¬ (exact x = .notANumber ∨ exact y = .notANumber) := by
    rw [← compare_eq_none_iff, compared]
    nofun
  rw [← isNan_iff, ← isNan_iff, not_or, Bool.not_eq_true, Bool.not_eq_true] at numbers
  obtain ⟨p, left⟩ := exists_extended? numbers.1
  obtain ⟨q, right⟩ := exists_extended? numbers.2
  rw [compare_eq_cmp_extended left right] at compared
  exact ⟨p, q, left, right, Option.some.inj compared⟩

theorem lt_iff_extended : x < y ↔ ∃ p q, extended? x = some p ∧ extended? y = some q ∧ p < q := by
  rw [lt_iff]
  constructor
  · intro compared
    obtain ⟨p, q, left, right, below⟩ := exists_extended?_of_compare compared
    exact ⟨p, q, left, right, (cmp_eq_lt_iff _ _).mp below⟩
  · rintro ⟨p, q, left, right, below⟩
    rw [compare_eq_cmp_extended left right, (cmp_eq_lt_iff _ _).mpr below]

theorem le_iff_extended : x ≤ y ↔ ∃ p q, extended? x = some p ∧ extended? y = some q ∧ p ≤ q := by
  rw [le_iff]
  constructor
  · rintro ⟨order, compared, isLE⟩
    obtain ⟨p, q, left, right, rfl⟩ := exists_extended?_of_compare compared
    refine ⟨p, q, left, right, ?_⟩
    by_contra above
    rw [(cmp_eq_gt_iff _ _).mpr (not_le.mp above)] at isLE
    cases isLE
  · rintro ⟨p, q, left, right, below⟩
    refine ⟨_, compare_eq_cmp_extended left right, ?_⟩
    rcases below.lt_or_eq with lt | rfl
    · rw [(cmp_eq_lt_iff _ _).mpr lt]
      rfl
    · rw [cmp_self_eq_eq]
      rfl

section Points

variable {p q : Extended}

theorem lt_iff_points (left : extended? x = some p) (right : extended? y = some q) :
    x < y ↔ p < q := by
  simp [lt_iff_extended, left, right]

theorem le_iff_points (left : extended? x = some p) (right : extended? y = some q) :
    x ≤ y ↔ p ≤ q := by
  simp [le_iff_extended, left, right]

theorem beq_iff_points (left : extended? x = some p) (right : extended? y = some q) :
    (x == y) = true ↔ p = q := by
  rw [beq_iff, compare_eq_cmp_extended left right, Option.some_inj]
  exact cmp_eq_eq_iff p q

end Points

theorem lt_of_le_of_lt (first : x ≤ y) (second : y < z) : x < z := by
  obtain ⟨p, q, left, middle, le⟩ := le_iff_extended.mp first
  obtain ⟨q', r, middle', right, lt⟩ := lt_iff_extended.mp second
  obtain rfl := Option.some.inj (middle.symm.trans middle')
  exact lt_iff_extended.mpr ⟨p, r, left, right, le.trans_lt lt⟩

theorem lt_of_lt_of_le (first : x < y) (second : y ≤ z) : x < z := by
  obtain ⟨p, q, left, middle, lt⟩ := lt_iff_extended.mp first
  obtain ⟨q', r, middle', right, le⟩ := le_iff_extended.mp second
  obtain rfl := Option.some.inj (middle.symm.trans middle')
  exact lt_iff_extended.mpr ⟨p, r, left, right, lt.trans_le le⟩

end VolatilityDesk.Double
