import VolatilityDesk.Json.Reader
/-!
# Numbers in interchange text

The grammar of a number: a minus or none, a whole part without leading zeros, and perhaps a fraction
and a power of ten. The reader takes such a number off the front as its whole text, whatever stands
behind it, as long as that does not continue the number.

* `scalar?_append` — a number is read off the front as its whole text.
-/

namespace VolatilityDesk.Json

/-- The text is empty or opens with a character that does not have the property. -/
def StopsAt (p : Char → Bool) (rest : List Char) : Prop := ∀ c ∈ rest.head?, p c = false

theorem StopsAt.imp {p q : Char → Bool} {rest : List Char} (stops : StopsAt p rest)
    (weaker : ∀ c, p c = false → q c = false) : StopsAt q rest :=
  fun c opens => weaker c (stops c opens)

theorem stopsAt_nil (p : Char → Bool) : StopsAt p [] := fun _ opens => nomatch opens

theorem stopsAt_cons {p : Char → Bool} {c : Char} {rest : List Char} (other : p c = false) :
    StopsAt p (c :: rest) := by
  intro d opens
  cases opens
  exact other

theorem takeWhile_of_stopsAt {p : Char → Bool} {rest : List Char} (stops : StopsAt p rest) :
    rest.takeWhile p = [] := by
  cases rest with
  | nil => rfl
  | cons c rest => simp [stops c rfl]

theorem dropWhile_of_stopsAt {p : Char → Bool} {rest : List Char} (stops : StopsAt p rest) :
    rest.dropWhile p = rest := by
  cases rest with
  | nil => rfl
  | cons c rest => simp [stops c rfl]

/-! ### The grammar -/

/-- Digits, at least one. -/
structure IsDigits (text : List Char) : Prop where
  filled : text ≠ []
  digit : ∀ c ∈ text, c.isDigit = true

/-- Digits of which the first is not zero. -/
structure IsLeading (text : List Char) : Prop extends IsDigits text where
  leading : text.head? ≠ some '0'

section Digits

variable {text : List Char} {n : Nat}

theorem IsDigits.drop (digits : IsDigits text) (short : n < text.length) :
    IsDigits (text.drop n) where
  filled := by simpa using short
  digit := fun c inside => digits.digit c (List.mem_of_mem_drop inside)

theorem IsLeading.take (digits : IsLeading text) (pos : 0 < n) : IsLeading (text.take n) where
  filled := by simpa using ⟨Nat.ne_of_gt pos, digits.filled⟩
  digit := fun c inside => digits.digit c (List.mem_of_mem_take inside)
  leading := by simpa [List.head?_take, Nat.ne_of_gt pos] using digits.leading

theorem IsLeading.append {others : List Char} (digits : IsLeading text)
    (more : ∀ c ∈ others, c.isDigit = true) : IsLeading (text ++ others) where
  filled := by simp [digits.filled]
  digit := fun c inside => (List.mem_append.mp inside).elim (digits.digit c) (more c)
  leading := by
    obtain ⟨c, rest, rfl⟩ := List.exists_cons_of_ne_nil digits.filled
    exact digits.leading

end Digits

/-- Zero alone, or digits without a leading zero. -/
def IsWhole (text : List Char) : Prop := text = ['0'] ∨ IsLeading text

/-- Nothing, or a point and digits. -/
def IsFraction (text : List Char) : Prop :=
  text = [] ∨ ∃ digits, IsDigits digits ∧ text = '.' :: digits

/-- Nothing, or a power of ten with its sign. -/
def IsPower (text : List Char) : Prop :=
  text = [] ∨ ∃ sign digits, (sign = '+' ∨ sign = '-') ∧ IsDigits digits ∧
    text = 'e' :: sign :: digits

/-- The text of a number that is not negative. -/
def IsMagnitude (text : List Char) : Prop :=
  ∃ whole fraction power, IsWhole whole ∧ IsFraction fraction ∧ IsPower power ∧
    text = whole ++ fraction ++ power

/-- The text of a number. -/
inductive IsNumeral : List Char → Prop where
  | positive {text : List Char} (magnitude : IsMagnitude text) : IsNumeral text
  | negative {text : List Char} (magnitude : IsMagnitude text) : IsNumeral ('-' :: text)

/-- A character that can stand behind the first digit of a number. -/
def continuesNumber (c : Char) : Bool := c.isDigit || c == '.' || c == 'e' || c == 'E'

theorem StopsAt.digits {rest : List Char} (stops : StopsAt continuesNumber rest) :
    StopsAt Char.isDigit rest :=
  stops.imp fun c other => by simp_all [continuesNumber]

theorem StopsAt.point {rest : List Char} (stops : StopsAt continuesNumber rest) :
    StopsAt (· == '.') rest :=
  stops.imp fun c other => by simp_all [continuesNumber]

theorem ne_of_isDigit {c d : Char} (digit : c.isDigit = true) (other : d.isDigit = false) :
    c ≠ d := by
  rintro rfl
  rw [digit] at other
  cases other

/-! ### Reading -/

section Reading

variable {text rest : List Char}

theorem digits?_append (digits : IsDigits text) (stops : StopsAt Char.isDigit rest) :
    digits? (text ++ rest) = some (text, rest) := by
  unfold digits?
  rw [List.takeWhile_append_of_pos digits.digit, List.dropWhile_append_of_pos digits.digit,
    takeWhile_of_stopsAt stops, dropWhile_of_stopsAt stops, List.append_nil]
  simp [digits.filled]

theorem isDigits_of_isWhole (whole : IsWhole text) : IsDigits text := by
  rcases whole with rfl | digits
  · exact ⟨by simp, by simp⟩
  · exact digits.toIsDigits

theorem wholePart?_append (whole : IsWhole text) (stops : StopsAt Char.isDigit rest) :
    wholePart? (text ++ rest) = some (text, rest) := by
  rcases whole with rfl | ⟨digits, leading⟩
  · rfl
  · rw [← digits?_append digits stops]
    cases text with
    | nil => exact absurd rfl digits.filled
    | cons c text =>
      unfold wholePart?
      split
      · rename_i zero
        cases zero
        exact absurd rfl leading
      · rfl

theorem fractionPart_append (fraction : IsFraction text) (stops : StopsAt Char.isDigit rest)
    (pointless : StopsAt (· == '.') rest) : fractionPart (text ++ rest) = (text, rest) := by
  rcases fraction with rfl | ⟨digits, isDigits, rfl⟩
  · unfold fractionPart
    split
    · rename_i point
      rw [List.nil_append] at point
      exact absurd (pointless '.' (by simp [point])) (by decide)
    · rfl
  · rw [List.cons_append, fractionPart, digits?_append isDigits stops]

theorem powerPart_append (power : IsPower text) (stops : StopsAt continuesNumber rest) :
    powerPart (text ++ rest) = (text, rest) := by
  rcases power with rfl | ⟨sign, digits, signs, isDigits, rfl⟩
  · cases rest with
    | nil => rfl
    | cons c rest =>
      have other : ¬ (c = 'e' ∨ c = 'E') := by
        rintro (rfl | rfl)
        · exact absurd (stops 'e' rfl) (by decide)
        · exact absurd (stops 'E' rfl) (by decide)
      simp [powerPart, other]
  · have digits := digits?_append isDigits stops.digits
    rcases signs with rfl | rfl <;> simp [powerPart, digits]

theorem stopsAt_append_of_isFraction {p : Char → Bool} (fraction : IsFraction text)
    (point : p '.' = false) (stops : StopsAt p rest) : StopsAt p (text ++ rest) := by
  rcases fraction with rfl | ⟨digits, -, rfl⟩
  · exact stops
  · exact stopsAt_cons point

theorem stopsAt_append_of_isPower {p : Char → Bool} (power : IsPower text) (mark : p 'e' = false)
    (stops : StopsAt p rest) : StopsAt p (text ++ rest) := by
  rcases power with rfl | ⟨sign, digits, -, -, rfl⟩
  · exact stops
  · exact stopsAt_cons mark

/-- Each part of a number stops where the next one opens. -/
theorem parts_append {whole fraction power : List Char} (isWhole : IsWhole whole)
    (isFraction : IsFraction fraction) (isPower : IsPower power)
    (stops : StopsAt continuesNumber rest) :
    wholePart? (whole ++ (fraction ++ (power ++ rest))) =
        some (whole, fraction ++ (power ++ rest)) ∧
      fractionPart (fraction ++ (power ++ rest)) = (fraction, power ++ rest) ∧
      powerPart (power ++ rest) = (power, rest) := by
  have noDigit : StopsAt Char.isDigit (power ++ rest) :=
    stopsAt_append_of_isPower isPower (by decide) stops.digits
  have noPoint : StopsAt (· == '.') (power ++ rest) :=
    stopsAt_append_of_isPower isPower (by decide) stops.point
  refine ⟨?_, fractionPart_append isFraction noDigit noPoint, powerPart_append isPower stops⟩
  exact wholePart?_append isWhole (stopsAt_append_of_isFraction isFraction (by decide) noDigit)

theorem IsMagnitude.opening (magnitude : IsMagnitude text) :
    ∃ c others, c.isDigit = true ∧ text = c :: others := by
  obtain ⟨whole, fraction, power, isWhole, -, -, rfl⟩ := magnitude
  have digits := isDigits_of_isWhole isWhole
  obtain ⟨c, others, rfl⟩ := List.exists_cons_of_ne_nil digits.filled
  exact ⟨c, others ++ fraction ++ power, digits.digit c (.head _), rfl⟩

/-- A number opens with a digit, or with a minus and a digit. -/
theorem IsNumeral.opening (numeral : IsNumeral text) : ∃ c others, c.isDigit = true ∧
    (text = c :: others ∨ text = '-' :: c :: others) := by
  cases numeral with
  | positive magnitude =>
    obtain ⟨c, others, digit, same⟩ := magnitude.opening
    exact ⟨c, others, digit, .inl same⟩
  | negative magnitude =>
    obtain ⟨c, others, digit, rfl⟩ := magnitude.opening
    exact ⟨c, others, digit, .inr rfl⟩

/-- A number is read off the front of a text. -/
theorem numberText?_append (numeral : IsNumeral text) (stops : StopsAt continuesNumber rest) :
    numberText? (text ++ rest) = some (String.ofList text, rest) := by
  cases numeral with
  | positive magnitude =>
    obtain ⟨c, others, digit, opening⟩ := magnitude.opening
    have unsigned : ∀ more, text ++ rest ≠ '-' :: more := by
      rintro more minus
      rw [opening] at minus
      exact ne_of_isDigit digit (by decide) (List.cons.inj minus).1
    obtain ⟨whole, fraction, power, isWhole, isFraction, isPower, rfl⟩ := magnitude
    obtain ⟨whole?, fraction?, power?⟩ := parts_append isWhole isFraction isPower stops
    rw [numberText?.eq_def]
    split
    rename_i parts
    split at parts
    · rename_i minus
      exact absurd minus (unsigned _)
    · cases parts
      simp only [List.append_assoc, whole?, fraction?, power?, List.nil_append]
  | negative magnitude =>
    obtain ⟨whole, fraction, power, isWhole, isFraction, isPower, rfl⟩ := magnitude
    obtain ⟨whole?, fraction?, power?⟩ := parts_append isWhole isFraction isPower stops
    simp only [List.cons_append, numberText?, List.append_assoc, whole?, fraction?, power?,
      List.nil_append]

/-- No word of the grammar opens like a number. -/
theorem findSome?_words {c : Char} {rest : List Char} (digit : c.isDigit = true)
    (opening : text = c :: rest ∨ text = '-' :: c :: rest) :
    (words.findSome? fun (word, value) =>
      (word? word.toList text).map fun rest => (value, rest)) = none := by
  have other (d : Char) (no : d.isDigit = false) : d ≠ c := (ne_of_isDigit digit no).symm
  rcases opening with rfl | rfl <;> simp [words, word?, other]

theorem scalar?_append (numeral : IsNumeral text) (stops : StopsAt continuesNumber rest) :
    scalar? (text ++ rest) = some (.number (String.ofList text), rest) := by
  obtain ⟨c, others, digit, opening⟩ := numeral.opening
  have opening : text ++ rest = c :: (others ++ rest) ∨
      text ++ rest = '-' :: c :: (others ++ rest) := by
    rcases opening with rfl | rfl
    · exact .inl rfl
    · exact .inr rfl
  unfold scalar?
  rw [findSome?_words digit opening, numberText?_append numeral stops]
  rfl

end Reading

end VolatilityDesk.Json
