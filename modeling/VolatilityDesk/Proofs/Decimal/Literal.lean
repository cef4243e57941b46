import VolatilityDesk.Proofs.Decimal.Shortest
import VolatilityDesk.Proofs.Json.Numeral
/-!
# The text of a double is a number

A double with a value is written as a number of the interchange grammar: a minus or none, a whole
part without leading zeros, and perhaps a fraction and a power of ten. The words for the other
doubles are not needed, so reports and interchange text write it alike.

* `isNumeral_text` — the text of a double with a value is a number of the grammar.
* `text_upper` — it is the same in reports and in interchange text.
-/

namespace VolatilityDesk

open Json

/-! ### Digits of a count -/

theorem head?_toDigits {n : Nat} (pos : 0 < n) : (Nat.toDigits 10 n).head? ≠ some '0' := by
  induction n using Nat.strong_induction_on with
  | _ n ih =>
    rw [Nat.toDigits_eq_if (by decide)]
    split
    · rename_i small
      simpa using pos.ne'
    · rename_i large
      rw [List.head?_append_of_ne_nil _ Nat.toDigits_ne_nil]
      exact ih (n / 10) (by omega) (by omega)

theorem toList_toString (n : Nat) : (toString n).toList = Nat.toDigits 10 n := Nat.toList_repr

theorem isDigits_toString (n : Nat) : IsDigits (toString n).toList := by
  rw [toList_toString]
  exact ⟨Nat.toDigits_ne_nil, fun c => Nat.isDigit_of_mem_toDigits (by decide) (by decide)⟩

theorem isLeading_toString {n : Nat} (pos : 0 < n) : IsLeading (toString n).toList := by
  refine ⟨isDigits_toString n, ?_⟩
  rw [toList_toString]
  exact head?_toDigits pos

/-! ### Decimals -/

namespace DecimalDigits

variable {d : DecimalDigits}

/-- Exponents are written with two digits at least. -/
theorem isDigits_exponent (n : Nat) :
    IsDigits (if (toString n).length < 2 then "0" ++ toString n else toString n).toList := by
  have digits := isDigits_toString n
  split
  · rw [String.toList_append]
    refine ⟨by simp, fun c inside => ?_⟩
    rcases List.mem_cons.mp inside with rfl | inside
    · rfl
    · exact digits.digit c inside
  · exact digits

theorem isDigit_of_mem_zeros {n : Nat} {c : Char} (inside : c ∈ (zeros n).toList) :
    c.isDigit = true := by
  rw [zeros, String.toList_ofList] at inside
  rw [List.eq_of_mem_replicate inside]
  rfl

theorem isMagnitude_scientific (pos : 0 < d.digits) : IsMagnitude d.scientific.toList := by
  have whole := (isLeading_toString pos).take one_pos
  obtain ⟨sign, signs, mark⟩ : ∃ sign, (sign = '+' ∨ sign = '-') ∧
      (if d.leading < 0 then "e-" else "e+").toList = ['e', sign] := by
    split
    · exact ⟨'-', .inr rfl, rfl⟩
    · exact ⟨'+', .inl rfl, rfl⟩
  have power : IsPower ('e' :: sign :: _) :=
    .inr ⟨sign, _, signs, isDigits_exponent d.leading.natAbs, rfl⟩
  unfold scientific
  dsimp only
  rw [String.toList_append, String.toList_append, mark]
  cases tail : (toString d.digits).toList.drop 1 with
  | nil => exact ⟨_, [], _, .inr whole, .inl rfl, power, by simp⟩
  | cons second others =>
    have behind : IsDigits (second :: others) := by
      rw [← tail]
      apply (isDigits_toString d.digits).drop
      by_contra short
      rw [List.drop_eq_nil_of_le (not_lt.mp short)] at tail
      cases tail
    exact ⟨_, _, _, .inr whole, .inr ⟨_, behind, rfl⟩, power, by simp⟩

theorem isMagnitude_positional (pos : 0 < d.digits) : IsMagnitude d.positional.toList := by
  have digits := isDigits_toString d.digits
  have leading := isLeading_toString pos
  have length : (toString d.digits).toList.length = (toString d.digits).length :=
    String.length_toList
  unfold positional
  dsimp only
  split
  · have whole := leading.append fun c => isDigit_of_mem_zeros (n := d.exponent.toNat)
    have fraction : IsDigits ['0'] := ⟨by simp, by simp⟩
    exact ⟨_, _, [], .inr whole, .inr ⟨_, fraction, rfl⟩, .inl rfl, by simp⟩
  · split
    · rename_i negative inner
      have whole := leading.take (Nat.sub_pos_of_lt inner)
      have fraction :=
        digits.drop (n := (toString d.digits).length - (-d.exponent).toNat) (by omega)
      exact ⟨_, _, [], .inr whole, .inr ⟨_, fraction, rfl⟩, .inl rfl, by simp⟩
    · have fraction : IsDigits ((zeros ((-d.exponent).toNat - (toString d.digits).length)).toList ++
          (toString d.digits).toList) := by
        refine ⟨by simp, fun c inside => ?_⟩
        exact (List.mem_append.mp inside).elim isDigit_of_mem_zeros (digits.digit c)
      exact ⟨['0'], _, [], .inl rfl, .inr ⟨_, fraction, rfl⟩, .inl rfl, by simp⟩

theorem isMagnitude_text (pos : 0 < d.digits) : IsMagnitude d.text.toList := by
  unfold text
  split
  · exact isMagnitude_scientific pos
  · exact isMagnitude_positional pos

end DecimalDigits

/-! ### Doubles -/

theorem Double.exists_canonical {x : Float} {v : ℚ} (value : value? x = some v) :
    ∃ negative m e, Binary64.ofFloat x = .finite negative m e ∧ Canonical m e := by
  unfold value? at value
  rw [ofFloat_eq]
  cases stands : exact x with
  | zero s => exact ⟨_, 0, -1074, rfl, by decide, by decide, by decide, .inl rfl⟩
  | finite s m e pos => exact ⟨_, m, e, rfl, canonical_of_exact stands⟩
  | infinity s => simp [stands, number?] at value
  | notANumber => simp [stands, number?] at value

namespace Shortest

theorem isNumeral_text {x : Float} {v : ℚ} (value : Double.value? x = some v)
    (words : NumberWords) : IsNumeral (text words x).toList := by
  obtain ⟨negative, m, e, stands, range⟩ := Double.exists_canonical value
  have magnitude : IsMagnitude (if m = 0 then "0.0" else (digits m e).text).toList := by
    split
    · exact ⟨['0'], ['.', '0'], [], .inl rfl, .inr ⟨['0'], ⟨by simp, by simp⟩, rfl⟩, .inl rfl, rfl⟩
    · rename_i positive
      exact DecimalDigits.isMagnitude_text (digits_pos (Nat.pos_of_ne_zero positive) range)
  unfold text
  rw [stands]
  cases negative with
  | false => exact .positive magnitude
  | true =>
    dsimp only
    rw [if_pos rfl, String.toList_append]
    exact .negative magnitude

theorem text_upper {x : Float} {v : ℚ} (value : Double.value? x = some v) :
    text .upper x = text .lower x := by
  obtain ⟨s, m, e, stands, -⟩ := Double.ofFloat_of_value value
  unfold text
  rw [stands]

end Shortest

end VolatilityDesk
