import Mathlib.Algebra.Ring.Int.Defs
import Mathlib.Algebra.Ring.Nat
import VolatilityDesk.Time.Calendar
/-!
# Padded numbers

A number written with zeros in front is read back by the value of its digits, so two numbers with
one text are the same. A text that ends in a mark and such a number is cut at its last mark, and one
that ends in a number of a known width is cut in front of it.

* `append_padded_inj` — a number of known width can be cut off the end.
* `append_hyphen_inj` — so can what stands behind the last hyphen.
-/

namespace VolatilityDesk.Date

theorem toList_padded (width n : Nat) :
    (padded width n).toList =
      List.replicate (width - (Nat.repr n).length) '0' ++ Nat.toDigits 10 n := by
  have digits : toString (n : Int) = Nat.repr n := rfl
  simp [padded, digits, Nat.toList_repr]

/-- The digits of a padded number have its value. -/
theorem ofDigitChars_padded (width n : Nat) :
    Nat.ofDigitChars 10 (padded width n).toList 0 = n := by
  rw [toList_padded, Nat.ofDigitChars_append, Nat.ofDigitChars_replicate_zero, Nat.mul_zero,
    Nat.ofDigitChars_ten_toDigits]

theorem isDigit_of_mem_padded {width n : Nat} {c : Char} (member : c ∈ (padded width n).toList) :
    c.isDigit = true := by
  rw [toList_padded] at member
  rcases List.mem_append.mp member with zero | digit
  · rw [List.eq_of_mem_replicate zero]
    rfl
  · exact Nat.isDigit_of_mem_toDigits (by decide) (by decide) digit

theorem toString_eq_padded (n : Int) : toString n = padded 0 n := by
  simp [padded]

theorem padded_inj {width : Nat} {m n : Int} (left : 0 ≤ m) (right : 0 ≤ n)
    (same : padded width m = padded width n) : m = n := by
  obtain ⟨m, rfl⟩ := Int.eq_ofNat_of_zero_le left
  obtain ⟨n, rfl⟩ := Int.eq_ofNat_of_zero_le right
  have value := ofDigitChars_padded width m
  rw [same, ofDigitChars_padded] at value
  rw [value]

/-- A number that fits into the width is padded to it. -/
theorem length_padded {width n : Nat} (wide : 0 < width) (short : n < 10 ^ width) :
    (padded width n).toList.length = width := by
  have digits := (Nat.length_toDigits_le_iff (by decide) wide).mpr short
  have length : (Nat.repr n).length = (Nat.toDigits 10 n).length := by
    rw [← Nat.toList_repr, String.length_toList]
  rw [toList_padded, List.length_append, List.length_replicate, length]
  omega

/-- Numbers that fit into one width are written with as many characters. -/
theorem length_padded_eq {width : Nat} {m n : Int} (wide : 0 < width)
    (left : 0 ≤ m ∧ m < 10 ^ width) (right : 0 ≤ n ∧ n < 10 ^ width) :
    (padded width m).toList.length = (padded width n).toList.length := by
  obtain ⟨m, rfl⟩ := Int.eq_ofNat_of_zero_le left.1
  obtain ⟨n, rfl⟩ := Int.eq_ofNat_of_zero_le right.1
  have fits : m < 10 ^ width := by exact_mod_cast left.2
  have fits' : n < 10 ^ width := by exact_mod_cast right.2
  exact (length_padded wide fits).trans (length_padded wide fits').symm

/-- A text and a number behind it that was padded to its width can be told apart again. -/
theorem append_padded_inj {s t : String} {width : Nat} {m n : Int} (wide : 0 < width)
    (left : 0 ≤ m ∧ m < 10 ^ width) (right : 0 ≤ n ∧ n < 10 ^ width)
    (same : s ++ padded width m = t ++ padded width n) : s = t ∧ m = n := by
  have lists := congrArg String.toList same
  rw [String.toList_append, String.toList_append] at lists
  obtain ⟨texts, digits⟩ := List.append_inj' lists (length_padded_eq wide left right)
  exact ⟨String.toList_injective texts, padded_inj left.1 right.1 (String.toList_injective digits)⟩

end VolatilityDesk.Date

namespace VolatilityDesk.Text

/-- Two texts that agree around a mark agree before and behind it, when the mark is the last one
in both. -/
theorem append_cons_inj {mark : Char} {xs ys d e : List Char} (last : mark ∉ d)
    (last' : mark ∉ e) (same : xs ++ mark :: d = ys ++ mark :: e) : xs = ys ∧ d = e := by
  rcases List.append_eq_append_iff.mp same with ⟨middle, rfl, rest⟩ | ⟨middle, rfl, rest⟩
  · cases middle with
    | nil => simpa using rest
    | cons c middle =>
      obtain ⟨-, rfl⟩ := List.cons.inj rest
      exact absurd (by simp) last
  · cases middle with
    | nil => simpa using rest.symm
    | cons c middle =>
      obtain ⟨-, rfl⟩ := List.cons.inj rest
      exact absurd (by simp) last'

/-- Texts joined by a hyphen can be told apart again, when there is none in the second one. -/
theorem append_hyphen_inj {s t a b : String} (last : '-' ∉ a.toList) (last' : '-' ∉ b.toList)
    (same : s ++ "-" ++ a = t ++ "-" ++ b) : s = t ∧ a = b := by
  have lists := congrArg String.toList same
  simp only [String.toList_append, List.append_assoc] at lists
  obtain ⟨fronts, ends⟩ := append_cons_inj last last' lists
  exact ⟨String.toList_injective fronts, String.toList_injective ends⟩

theorem hyphen_notMem_padded (width n : Nat) : '-' ∉ (Date.padded width n).toList := by
  intro member
  have digit := Date.isDigit_of_mem_padded member
  revert digit
  decide

/-- A name and a number joined by a hyphen can be told apart again. -/
theorem numbered_inj {width m n : Nat} {s t : String}
    (same : s ++ "-" ++ Date.padded width m = t ++ "-" ++ Date.padded width n) :
    s = t ∧ m = n := by
  obtain ⟨names, numbers⟩ :=
    append_hyphen_inj (hyphen_notMem_padded width m) (hyphen_notMem_padded width n) same
  exact ⟨names, Int.ofNat_inj.mp (Date.padded_inj (by omega) (by omega) numbers)⟩

end VolatilityDesk.Text
