import Mathlib.Data.String.Basic
import VolatilityDesk.Proofs.Text.Padded
/-!
# Texts in order

Texts are compared character by character. So the first part in which two texts differ decides, if
the parts before it have one length, and numbers of one width stand in the order of their values.

* `append_lt_append_of_lt`, `append_lt_append_iff` — the first part that differs decides.
* `padded_append_lt` — numbers of one width stand in order.
-/

namespace VolatilityDesk

namespace Text

section Lists

variable {l l' a b : List Char}

/-- What stands behind two different lists of one length does not count. -/
theorem list_append_lt (same : l.length = l'.length) (less : l < l') : l ++ a < l' ++ b := by
  induction l generalizing l' with
  | nil =>
    obtain rfl : l' = [] := List.eq_nil_of_length_eq_zero same.symm
    exact absurd less (List.lt_irrefl [])
  | cons c l ih =>
    cases l' with
    | nil => cases same
    | cons c' l' =>
      rcases List.cons_lt_cons_iff.mp less with first | ⟨rfl, later⟩
      · exact List.cons_lt_cons_iff.mpr (.inl first)
      · exact List.cons_lt_cons_iff.mpr (.inr ⟨rfl, ih (Nat.succ.inj same) later⟩)

theorem digit_bounds {c : Char} (digit : c.isDigit = true) :
    '0'.toNat ≤ c.toNat ∧ c.toNat < '0'.toNat + 10 := by
  simp only [Char.isDigit, Bool.and_eq_true, decide_eq_true_eq] at digit
  exact ⟨digit.1, Nat.lt_succ_of_le digit.2⟩

/-- Behind a smaller start the digits of a number do not count. -/
theorem ofDigitChars_lt_of_start (same : l.length = l'.length) (digits : ∀ c ∈ l, c.isDigit = true)
    {m n : Nat} (less : m < n) : Nat.ofDigitChars 10 l m < Nat.ofDigitChars 10 l' n := by
  induction l generalizing l' m n with
  | nil =>
    obtain rfl : l' = [] := List.eq_nil_of_length_eq_zero same.symm
    exact less
  | cons c l ih =>
    cases l' with
    | nil => cases same
    | cons c' l' =>
      have bounds := digit_bounds (digits c (.head _))
      rw [Nat.ofDigitChars_cons, Nat.ofDigitChars_cons]
      exact ih (Nat.succ.inj same) (fun d inside => digits d (.tail _ inside)) (by omega)

/-- Of two numbers with as many digits the one with the smaller text is smaller. -/
theorem ofDigitChars_lt (same : l.length = l'.length) (digits : ∀ c ∈ l, c.isDigit = true)
    (less : l < l') (start : Nat) :
    Nat.ofDigitChars 10 l start < Nat.ofDigitChars 10 l' start := by
  induction l generalizing l' start with
  | nil =>
    obtain rfl : l' = [] := List.eq_nil_of_length_eq_zero same.symm
    exact absurd less (List.lt_irrefl [])
  | cons c l ih =>
    cases l' with
    | nil => cases same
    | cons c' l' =>
      have rest : ∀ d ∈ l, d.isDigit = true := fun d inside => digits d (.tail _ inside)
      rw [Nat.ofDigitChars_cons, Nat.ofDigitChars_cons]
      rcases List.cons_lt_cons_iff.mp less with first | ⟨rfl, later⟩
      · have smaller : c.toNat < c'.toNat := first
        have bounds := digit_bounds (digits c (.head _))
        exact ofDigitChars_lt_of_start (Nat.succ.inj same) rest (by omega)
      · exact ih (Nat.succ.inj same) rest later _

end Lists

variable {s t a b : String}

theorem append_lt_append_of_lt (same : s.toList.length = t.toList.length) (less : s < t) :
    s ++ a < t ++ b := by
  rw [String.lt_iff_toList_lt] at less ⊢
  rw [String.toList_append, String.toList_append]
  exact list_append_lt same less

theorem append_lt_append_right (less : a < b) : s ++ a < s ++ b := by
  rw [String.lt_iff_toList_lt] at less ⊢
  rw [String.toList_append, String.toList_append]
  exact List.append_left_lt less

/-- What two texts begin with in common does not count. -/
theorem append_lt_append_iff : s ++ a < s ++ b ↔ a < b := by
  refine ⟨fun less => ?_, append_lt_append_right⟩
  by_contra later
  rcases lt_or_eq_of_le (not_lt.mp later) with greater | rfl
  · exact lt_asymm less (append_lt_append_right greater)
  · exact lt_irrefl _ less

/-- Numbers of one width stand in the order of their values. -/
theorem padded_lt_padded {width : Nat} {m n : Int} (wide : 0 < width)
    (left : 0 ≤ m ∧ m < 10 ^ width) (right : 0 ≤ n ∧ n < 10 ^ width) (less : m < n) :
    Date.padded width m < Date.padded width n := by
  have long := Date.length_padded_eq wide right left
  obtain ⟨m, rfl⟩ := Int.eq_ofNat_of_zero_le left.1
  obtain ⟨n, rfl⟩ := Int.eq_ofNat_of_zero_le right.1
  by_contra later
  rcases lt_or_eq_of_le (not_lt.mp later) with greater | same
  · have smaller := ofDigitChars_lt long (fun c inside => Date.isDigit_of_mem_padded inside)
      (String.lt_iff_toList_lt.mp greater) 0
    rw [Date.ofDigitChars_padded, Date.ofDigitChars_padded] at smaller
    omega
  · have equal := Date.padded_inj (by omega) (by omega) same
    omega

/-- Texts that begin with numbers of one width stand in the order of the numbers, and then of what
is behind them. -/
theorem padded_append_lt {width : Nat} {m n : Int} (wide : 0 < width)
    (left : 0 ≤ m ∧ m < 10 ^ width) (right : 0 ≤ n ∧ n < 10 ^ width)
    (less : m < n ∨ m = n ∧ a < b) : Date.padded width m ++ a < Date.padded width n ++ b := by
  rcases less with smaller | ⟨rfl, later⟩
  · exact append_lt_append_of_lt (Date.length_padded_eq wide left right)
      (padded_lt_padded wide left right smaller)
  · exact append_lt_append_right later

end Text

end VolatilityDesk
