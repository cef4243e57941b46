import VolatilityDesk.Proofs.Number.Order
import VolatilityDesk.Proofs.Time.Clock
import VolatilityDesk.Settings.Field
/-!
# Taking single settings

A value that is given for a setting is taken, refused with complaints, or ends the reading of all
settings. There are three kinds of settings (`Made`): those read by a coercion and a check, the
clock times, and the list of instruments. Only a clock time can end the reading.

* `made_of_mem` — every setting is of one of the three kinds.
* `Made.set_eq_clock_iff` — which values end the reading.
-/

namespace VolatilityDesk.Field

variable {n : Int} {x : Float} {value : Json} {s s' : Settings} {fault : ClockFault} {f : Field}

/-! ### Checks -/

theorem countPositive_eq_none_iff : countPositive n = none ↔ 0 < n := by
  simp [countPositive]

theorem intervalAllowed_eq_none_iff : intervalAllowed n = none ↔ 0 ≤ n := by
  simp [intervalAllowed]

theorem confidenceInRange_eq_none_iff : confidenceInRange x = none ↔ 0.0 < x ∧ x ≤ 1.0 := by
  simp [confidenceInRange]

theorem strengthInRange_eq_none_iff : strengthInRange x = none ↔ 0.0 < x ∧ x < 100.0 := by
  simp [strengthInRange]

/-- A number that must be positive is refused when it is zero or below. So what is not a number,
which is neither, passes. -/
theorem positive_eq_none_iff : positive x = none ↔ 0.0 < x ∨ Number.isNan x = true := by
  have zero : Number.isNan (0.0 : Float) = false := by decide +kernel
  have passes : positive x = none ↔ ¬ x ≤ 0.0 := by simp [positive]
  rw [passes]
  constructor
  · intro above
    cases nan : Number.isNan x with
    | true => exact .inr rfl
    | false => exact .inl (Double.lt_of_not_le nan zero above)
  · rintro (above | nan) below
    · exact Double.not_lt_of_le below above
    · rw [Double.le_iff, (Double.compare_eq_none_iff _ _).mpr (.inl (Double.isNan_iff.mp nan))]
        at below
      obtain ⟨order, compared, -⟩ := below
      cases compared

/-! ### Kinds of settings -/

/-- The settings that hold clock times. -/
def clockNames : List String := ["trading_start", "trading_end"]

/-- The setting is of one of the three kinds, and named as a clock time if it is one. -/
inductive Made : Field → Prop where
  | watchlist : Made watchlist
  | plain {β : Type} {name : String} {read : Json → Except ComplaintKind β}
      {check : β → Option Rejection} {put : Settings → β → Settings}
      (other : name ∉ clockNames) : Made (make name read check put)
  | clock {name : String} {put : Settings → String → Settings} (named : name ∈ clockNames) :
      Made (clockText name put)

theorem made_of_mem (member : f ∈ all) : Made f := by
  revert f
  simp only [all, List.forall_mem_cons]
  exact ⟨.watchlist, .plain (by decide), .plain (by decide), .plain (by decide),
    .plain (by decide), .plain (by decide), .plain (by decide), .plain (by decide),
    .plain (by decide), .plain (by decide), .plain (by decide), .plain (by decide),
    .plain (by decide), .plain (by decide), .plain (by decide), .plain (by decide),
    .plain (by decide), .clock (by decide), .clock (by decide), .plain (by decide),
    .plain (by decide), .plain (by decide), .plain (by decide), .plain (by decide),
    .plain (by decide), .plain (by decide), .plain (by decide), .plain (by decide),
    .plain (by decide), .plain (by decide), List.forall_mem_nil _⟩

/-! ### What is taken -/

theorem watchlist_set_eq_ok_iff : watchlist.set value s = .ok s' ↔
    ∃ names, Coerce.texts value = .ok names ∧
      { s with watchlist := normalizeNames names } = s' := by
  unfold watchlist
  dsimp only
  split
  · rename_i refused
    simp [refused]
  · rename_i taken
    simp [taken]

section Plain

variable {β : Type} {name : String} {read : Json → Except ComplaintKind β}
  {check : β → Option Rejection} {put : Settings → β → Settings}

theorem make_set_eq_ok_iff : (make name read check put).set value s = .ok s' ↔
    ∃ x, read value = .ok x ∧ check x = none ∧ put s x = s' := by
  unfold make
  dsimp only
  cases taken : read value with
  | error kind => simp [complain]
  | ok x => cases passed : check x with
    | some reason => simp [complain, passed]
    | none => simp [passed]

end Plain

theorem clockText_set_eq_ok_iff {name : String} {put : Settings → String → Settings} :
    (clockText name put).set value s = .ok s' ↔
      ∃ text c, Coerce.text value = .ok text ∧ Clock.parse text = .ok c ∧ put s text = s' := by
  unfold clockText
  dsimp only
  cases taken : Coerce.text value with
  | error kind => simp [complain]
  | ok text => cases read : Clock.parse text with
    | error fault => cases fault <;> simp [complain, read]
    | ok c => simp [read]

/-! ### What is refused -/

/-- A list with an item that is no text is refused with a complaint about the item. -/
theorem items_ne_no_complaints (place : Nat) (values : List Json) :
    Coerce.items place values ≠ .error [] := by
  induction values generalizing place with
  | nil => nofun
  | cons item rest ih =>
    intro refused
    unfold Coerce.items at refused
    split at refused
    · cases refused
    · rename_i complaints _ later
      cases refused
      exact ih _ later
    · cases refused
    · cases refused

/-- Nothing is refused without a complaint. -/
theorem Made.set_ne_no_complaints (made : Made f) (value : Json) (s : Settings) :
    f.set value s ≠ .error (.complaints []) := by
  intro refused
  cases made with
  | watchlist =>
    unfold Field.watchlist at refused
    dsimp only at refused
    split at refused
    · rename_i found read
      cases refused
      cases value with
      | list values => exact items_ne_no_complaints 0 values read
      | _ => cases read
    · cases refused
  | @plain _ _ read check put other =>
    unfold make at refused
    dsimp only at refused
    split at refused
    · cases refused
    · split at refused <;> cases refused
  | clock named =>
    unfold clockText at refused
    dsimp only at refused
    split at refused
    · cases refused
    · split at refused <;> cases refused

/-- The fault with which a clock time ends the reading: a number in it is too large. -/
def overflow? : Json → Option ClockFault
  | .text text =>
    match Clock.parse text with
    | .ok _ => none
    | .error (.malformed _) => none
    | .error fault => some fault
  | _ => none

theorem overflow?_eq_some_iff : overflow? value = some fault ↔
    ∃ text, value = .text text ∧ Clock.Overflows text fault := by
  cases value with
  | text text =>
    simp only [overflow?, Json.text.injEq, exists_eq_left']
    constructor
    · intro found
      split at found
      · cases found
      · cases found
      · rename_i fault' formed failed
        cases found
        exact Clock.overflows_of_parse failed (formed text)
    · intro overflows
      rw [Clock.parse_of_overflows overflows]
      cases fault with
      | malformed other => exact absurd rfl (overflows.ne_malformed other)
      | beyondLong => rfl
      | beyondWord negative => rfl
  | _ => simp [overflow?]

theorem clockText_set_eq_clock_iff {name : String} {put : Settings → String → Settings} :
    (clockText name put).set value s = .error (.clock fault) ↔ overflow? value = some fault := by
  cases value with
  | text text =>
    unfold clockText overflow?
    dsimp only [Coerce.text]
    cases Clock.parse text with
    | ok c => simp
    | error fault => cases fault <;> simp [complain]
  | _ => simp [clockText, overflow?, Coerce.text, complain]

/-- Only the settings that hold clock times end the reading, by a number that is too large. -/
theorem Made.set_eq_clock_iff (made : Made f) : f.set value s = .error (.clock fault) ↔
    f.name ∈ clockNames ∧ overflow? value = some fault := by
  cases made with
  | watchlist =>
    have other : Field.watchlist.name ∉ clockNames := by decide
    simp only [other, false_and, iff_false]
    unfold Field.watchlist
    dsimp only
    split <;> simp
  | @plain _ name read check put other =>
    have other : (make name read check put).name ∉ clockNames := other
    simp only [other, false_and, iff_false]
    unfold make
    dsimp only
    split
    · simp [complain]
    · split <;> simp [complain]
  | @clock name put named =>
    have named : (clockText name put).name ∈ clockNames := named
    simp only [named, true_and]
    exact clockText_set_eq_clock_iff

end VolatilityDesk.Field
