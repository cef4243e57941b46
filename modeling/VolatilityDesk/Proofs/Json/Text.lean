import Mathlib.Tactic.SplitIfs
import VolatilityDesk.Json.Reader
import VolatilityDesk.Json.Writer
/-!
# Texts between quotes

Whatever characters a text has, it is read back from between its quotes. Each character is written
so that one step of the reader takes it: as it stands, behind a backslash, by its code in four
hexadecimal digits, or by the two halves of its pair.

* `text?_textLiteral` — every text is read back from between its quotes.
-/

namespace VolatilityDesk.Json

open Text

/-! ### Hexadecimal digits -/

theorem hexDigits_succ {width : Nat} (some : 0 < width) (n : Nat) :
    hexDigits (width + 1) n = hexDigits width (n / 16) ++ [(n % 16).digitChar] := by
  unfold hexDigits
  dsimp only
  rw [Nat.toDigits_eq_if (by decide)]
  split
  · rename_i small
    obtain ⟨w, rfl⟩ := Nat.exists_eq_add_of_lt some
    rw [Nat.div_eq_of_lt small, Nat.mod_eq_of_lt small]
    simp [List.replicate_succ', Nat.add_comm]
  · rw [List.length_append, List.length_singleton, Nat.add_sub_add_right, List.append_assoc]

theorem hexDigits_one {n : Nat} (small : n < 16) : hexDigits 1 n = [n.digitChar] := by
  unfold hexDigits
  rw [Nat.toDigits_of_lt_base small]
  rfl

theorem hexValue?_digitChar : ∀ d < 16, hexValue? (Nat.digitChar d) = some d := by decide

/-- Four hexadecimal digits are read back as the number they were written for. -/
theorem unit?_hexDigits {n : Nat} (small : n < 0x10000) (rest : List Char) :
    unit? (hexDigits 4 n ++ rest) = some (n, rest) := by
  have parts : hexDigits 4 n = [(n / 16 / 16 / 16).digitChar, (n / 16 / 16 % 16).digitChar,
      (n / 16 % 16).digitChar, (n % 16).digitChar] := by
    rw [hexDigits_succ (by decide), hexDigits_succ (by decide), hexDigits_succ (by decide),
      hexDigits_one (by omega)]
    rfl
  have leading : n / 16 / 16 / 16 < 16 := by omega
  have digit (k : Nat) : hexValue? (k % 16).digitChar = some (k % 16) :=
    hexValue?_digitChar _ (Nat.mod_lt k (by decide))
  have value :
      ((n / 16 / 16 / 16 * 16 + n / 16 / 16 % 16) * 16 + n / 16 % 16) * 16 + n % 16 = n := by
    omega
  rw [parts]
  simp only [List.cons_append, List.nil_append, unit?, hexValue?_digitChar _ leading, digit,
    Option.bind_eq_bind, Option.bind_some, value]

/-! ### Single characters -/

/-- The ways to write a character. -/
inductive Escaped (c : Char) : List Char → Prop where
  | plain (other : c ≠ '"') (other' : c ≠ '\\') (visible : ¬ c.toNat < 0x20) : Escaped c [c]
  | letter {d : Char} (other : d ≠ 'u') (means : escaped? d = some c) : Escaped c ['\\', d]
  | unit (basic : c.toNat < 0x10000) : Escaped c (unitText c.toNat)
  | pair {first second : Nat} (high : isHighHalf first = true) (low : isLowHalf second = true)
    (stands : 0x10000 + (first - 0xD800) * 0x400 + (second - 0xDC00) = c.toNat) :
    Escaped c (unitText first ++ unitText second)

/-- No character has the code of a half. -/
theorem toNat_outside_halves (c : Char) :
    c.toNat < 0xD800 ∨ 0xE000 ≤ c.toNat ∧ c.toNat < 0x110000 := by
  rcases c.valid with low | ⟨high, bounded⟩
  · exact .inl low
  · exact .inr ⟨high, bounded⟩

/-- A character beyond the basic plane is the sum of two halves of ten bits. -/
theorem pair_of_beyond {c : Char} (beyond : 0x10000 ≤ c.toNat) :
    Escaped c (unitText (0xD800 + (c.toNat - 0x10000) / 0x400) ++
      unitText (0xDC00 + (c.toNat - 0x10000) % 0x400)) := by
  have outside := toNat_outside_halves c
  apply Escaped.pair
  · simp only [isHighHalf, Bool.and_eq_true, decide_eq_true_eq]
    omega
  · simp only [isLowHalf, Bool.and_eq_true, decide_eq_true_eq]
    omega
  · omega

theorem escaped_escape (c : Char) : Escaped c (escape c) := by
  unfold escape
  split_ifs with mark feed carriage tab form back visible basic
  · rcases mark with rfl | rfl
    · exact .letter (by simp) rfl
    · exact .letter (by simp) rfl
  · exact feed ▸ .letter (by simp) rfl
  · exact carriage ▸ .letter (by simp) rfl
  · exact tab ▸ .letter (by simp) rfl
  · exact form ▸ .letter (by simp) rfl
  · exact back ▸ .letter (by simp) rfl
  · rw [not_or] at mark
    exact .plain mark.1 mark.2 (Nat.not_lt.mpr visible.1)
  · exact .unit basic
  · exact pair_of_beyond (Nat.not_lt.mp basic)

theorem Escaped.ne_nil {c : Char} {text : List Char} (escaped : Escaped c text) : text ≠ [] := by
  cases escaped <;> exact List.cons_ne_nil _ _

theorem escapedUnit?_of_basic {c : Char} (basic : c.toNat < 0x10000) (rest : List Char) :
    escapedUnit? (hexDigits 4 c.toNat ++ rest) = some (c, rest) := by
  have outside := toNat_outside_halves c
  have high : isHighHalf c.toNat = false := by
    simp only [isHighHalf, Bool.and_eq_false_iff, decide_eq_false_iff_not]
    omega
  have low : isLowHalf c.toNat = false := by
    simp only [isLowHalf, Bool.and_eq_false_iff, decide_eq_false_iff_not]
    omega
  unfold escapedUnit?
  rw [unit?_hexDigits basic]
  simp [high, low, Char.ofNat_toNat]

theorem escapedUnit?_of_pair {first second : Nat} (high : isHighHalf first = true)
    (low : isLowHalf second = true) (rest : List Char) :
    escapedUnit? (hexDigits 4 first ++ (unitText second ++ rest)) =
      some (Char.ofNat (0x10000 + (first - 0xD800) * 0x400 + (second - 0xDC00)), rest) := by
  have small : first < 0x10000 := by
    simp only [isHighHalf, Bool.and_eq_true, decide_eq_true_eq] at high
    omega
  have small' : second < 0x10000 := by
    simp only [isLowHalf, Bool.and_eq_true, decide_eq_true_eq] at low
    omega
  unfold escapedUnit?
  rw [unit?_hexDigits small]
  simp only [Option.bind_eq_bind, Option.bind_some, high, if_true, unitText, List.cons_append,
    unit?_hexDigits small', low]

/-- The reader takes every character in one step. -/
theorem Escaped.textBody? {c : Char} {text : List Char} (escaped : Escaped c text) (fuel : Nat)
    (read rest : List Char) :
    Json.textBody? (fuel + 1) read (text ++ rest) = Json.textBody? fuel (c :: read) rest := by
  cases escaped with
  | plain other other' visible =>
    rw [List.singleton_append, Json.textBody?.eq_def]
    dsimp only
    split
    · rename_i quote
      exact absurd (List.cons.inj quote).1 other
    · rename_i slash
      exact absurd (List.cons.inj slash).1 other'
    · rename_i slash
      exact absurd (List.cons.inj slash).1 other'
    · rename_i same
      obtain ⟨rfl, rfl⟩ := List.cons.inj same
      exact if_neg visible
    · rename_i empty
      cases empty
  | letter other means => simp [Json.textBody?, means]
  | unit basic =>
    simp only [unitText, List.cons_append, Json.textBody?, escapedUnit?_of_basic basic]
  | @pair first second high low stands =>
    have units := escapedUnit?_of_pair high low rest
    rw [stands, Char.ofNat_toNat] at units
    rw [List.append_assoc, unitText, List.cons_append, List.cons_append]
    simp only [Json.textBody?, units]

/-! ### Whole texts -/

theorem textBody?_flatMap {s : List Char} {fuel : Nat} {read rest : List Char}
    (enough : s.length < fuel) : textBody? fuel read (s.flatMap escape ++ '"' :: rest) =
      some (String.ofList (read.reverse ++ s), rest) := by
  induction s generalizing fuel read with
  | nil =>
    obtain ⟨fuel, rfl⟩ := Nat.exists_eq_add_of_lt enough
    simp [textBody?]
  | cons c s ih =>
    cases fuel with
    | zero => cases enough
    | succ fuel =>
      rw [List.flatMap_cons, List.append_assoc, (escaped_escape c).textBody?,
        ih (Nat.lt_of_succ_lt_succ enough)]
      simp

theorem length_le_flatMap_escape (s : List Char) : s.length ≤ (s.flatMap escape).length := by
  induction s with
  | nil => exact Nat.le_refl 0
  | cons c s ih =>
    have filled := List.length_pos_iff.mpr (escaped_escape c).ne_nil
    rw [List.flatMap_cons, List.length_append, List.length_cons]
    omega

/-- A text is read back from between its quotes. -/
theorem text?_textLiteral (s : String) (rest : List Char) :
    text? ((textLiteral s).toList ++ rest) = some (s, rest) := by
  have length := length_le_flatMap_escape s.toList
  have opened : (textLiteral s).toList ++ rest =
      '"' :: (s.toList.flatMap escape ++ '"' :: rest) := by
    simp [textLiteral]
  rw [opened, text?, textBody?_flatMap (by rw [List.length_append]; omega)]
  simp

end VolatilityDesk.Json
