import VolatilityDesk.Proofs.Fallible
import VolatilityDesk.Time.Clock
/-!
# Reading clock times

A text is read as a clock time in three steps: two whole numbers on either side of the only colon
(`Reads`), each of which must fit into the machine's word, and then be an hour or a minute. A text
that fails the first step or the last one is malformed. One that fails in between is told so in
other words, of the first number that does not fit (`Overflows`).

* `parse_cases` — how the reading of a text can end.
* `settled_iff` — when it is not told so in other words.
-/

namespace VolatilityDesk.Clock

open Fallible

/-- The text holds two whole numbers, divided by its only colon. -/
def Reads (text : String) (hour minute : Int) : Prop :=
  ∃ before behind, Text.segments ':' (Text.trimWhile Text.isSpace text.toList) = [before, behind] ∧
    Decimal.intOfText? (String.ofList before) = some hour ∧
    Decimal.intOfText? (String.ofList behind) = some minute

/-- The number does not fit into the machine's word, nor perhaps into its long word. -/
inductive Beyond (n : Int) : ClockFault → Prop where
  | long (large : Word.holds64 n = false) : Beyond n .beyondLong
  | word (large : Word.holds32 n = false) (short : Word.holds64 n = true) :
      Beyond n (.beyondWord (n < 0))

/-- The text holds two whole numbers, the first of which does not fit into the machine's word, or
else the second. -/
def Overflows (text : String) (fault : ClockFault) : Prop :=
  ∃ hour minute, Reads text hour minute ∧
    (Beyond hour fault ∨ Word.holds32 hour = true ∧ Beyond minute fault)

variable {text : String} {hour minute n : Int} {fault : ClockFault} {c : Clock}

/-! ### Words -/

theorem word_eq_ok_iff {m : Int} : word n = .ok m ↔ Word.holds32 n = true ∧ n = m := by
  unfold word
  by_cases short : Word.holds32 n = true
  · simp [short, Word.holds64_of_holds32 short]
  · by_cases long : Word.holds64 n = true
    · simp [short, long]
    · simp [short, long]

theorem word_eq_error_iff : word n = .error fault ↔ Beyond n fault := by
  unfold word
  by_cases long : Word.holds64 n = true
  · by_cases short : Word.holds32 n = true
    · simp only [long, short, Bool.not_true, Bool.false_eq_true, if_false, reduceCtorEq, false_iff]
      rintro (large | ⟨large, -⟩)
      · rw [long] at large
        cases large
      · rw [short] at large
        cases large
    · rw [Bool.not_eq_true] at short
      simp only [long, short, Bool.not_true, Bool.not_false, Bool.false_eq_true, if_false, if_true,
        Except.error.injEq]
      constructor
      · rintro rfl
        exact .word short long
      · rintro (large | -)
        · rw [long] at large
          cases large
        · rfl
  · rw [Bool.not_eq_true] at long
    simp only [long, Bool.not_false, if_true, Except.error.injEq]
    constructor
    · rintro rfl
      exact .long long
    · rintro (- | ⟨-, short⟩)
      · rfl
      · rw [long] at short
        cases short

theorem Beyond.ne_malformed (beyond : Beyond n fault) (text : String) :
    fault ≠ .malformed text := by
  cases beyond <;> nofun

/-! ### Texts -/

theorem parse_of_not_reads (unread : ¬ ∃ hour minute, Reads text hour minute) :
    parse text = .error (.malformed text) := by
  unfold parse
  split
  · rename_i before behind parts
    split
    · rename_i hour minute first second
      exact absurd ⟨hour, minute, before, behind, parts, first, second⟩ unread
    · rfl
  · rfl

theorem parse_of_overflows (overflows : Overflows text fault) : parse text = .error fault := by
  obtain ⟨hour, minute, ⟨before, behind, parts, first, second⟩, beyond⟩ := overflows
  unfold parse
  rw [parts]
  dsimp only
  rw [first, second]
  dsimp only
  rcases beyond with beyond | ⟨short, beyond⟩
  · rw [word_eq_error_iff.mpr beyond]
    rfl
  · rw [word_eq_ok_iff.mpr ⟨short, rfl⟩, word_eq_error_iff.mpr beyond]
    rfl

/-- Two numbers that fit are an hour and a minute, or the text is malformed after all. -/
theorem parse_of_reads (reads : Reads text hour minute) (first : Word.holds32 hour = true)
    (second : Word.holds32 minute = true) :
    (∃ c, parse text = .ok c ∧ Reads text c.hour c.minute) ∨
      parse text = .error (.malformed text) := by
  obtain ⟨before, behind, parts, left, right⟩ := reads
  unfold parse
  rw [parts]
  dsimp only
  rw [left, right]
  dsimp only
  rw [word_eq_ok_iff.mpr ⟨first, rfl⟩, word_eq_ok_iff.mpr ⟨second, rfl⟩]
  dsimp only [bind, Except.bind]
  split
  · split
    · rename_i nonneg
      refine .inl ⟨_, rfl, before, behind, parts, ?_, ?_⟩
      · rw [left, Int.toNat_of_nonneg nonneg.1]
      · rw [right, Int.toNat_of_nonneg nonneg.2]
    · exact .inr rfl
  · exact .inr rfl

/-- A text is a clock time, malformed, or holds a number that is too large. -/
theorem parse_cases (text : String) :
    (∃ c, parse text = .ok c ∧ Reads text c.hour c.minute) ∨
      parse text = .error (.malformed text) ∨
      ∃ fault, parse text = .error fault ∧ Overflows text fault := by
  by_cases read : ∃ hour minute, Reads text hour minute
  · obtain ⟨hour, minute, reads⟩ := read
    cases first : word hour with
    | error fault =>
      have overflows : Overflows text fault :=
        ⟨hour, minute, reads, .inl (word_eq_error_iff.mp first)⟩
      exact .inr (.inr ⟨fault, parse_of_overflows overflows, overflows⟩)
    | ok hour' =>
      obtain ⟨short, -⟩ := word_eq_ok_iff.mp first
      cases second : word minute with
      | error fault =>
        have overflows : Overflows text fault :=
          ⟨hour, minute, reads, .inr ⟨short, word_eq_error_iff.mp second⟩⟩
        exact .inr (.inr ⟨fault, parse_of_overflows overflows, overflows⟩)
      | ok minute' =>
        obtain ⟨also_short, -⟩ := word_eq_ok_iff.mp second
        rcases parse_of_reads reads short also_short with given | malformed
        · exact .inl given
        · exact .inr (.inl malformed)
  · exact .inr (.inl (parse_of_not_reads read))

theorem Overflows.ne_malformed (overflows : Overflows text fault) (other : String) :
    fault ≠ .malformed other := by
  obtain ⟨hour, minute, -, beyond | ⟨-, beyond⟩⟩ := overflows
  · exact beyond.ne_malformed other
  · exact beyond.ne_malformed other

theorem overflows_of_parse (failed : parse text = .error fault)
    (formed : fault ≠ .malformed text) : Overflows text fault := by
  rcases parse_cases text with ⟨c, given, -⟩ | malformed | ⟨fault', failed', overflows⟩
  · rw [given] at failed
    cases failed
  · rw [malformed] at failed
    exact absurd (Except.error.inj failed).symm formed
  · rw [failed'] at failed
    cases failed
    exact overflows

/-- A text is read or malformed exactly if no number in it is too large. -/
theorem settled_iff : ((∃ c, parse text = .ok c) ∨ parse text = .error (.malformed text)) ↔
    ¬ ∃ fault, Overflows text fault := by
  constructor
  · rintro settled ⟨fault, overflows⟩
    rw [parse_of_overflows overflows] at settled
    rcases settled with ⟨c, given⟩ | malformed
    · cases given
    · exact overflows.ne_malformed text (Except.error.inj malformed)
  · intro none
    rcases parse_cases text with ⟨c, given, -⟩ | malformed | ⟨fault, -, overflows⟩
    · exact .inl ⟨c, given⟩
    · exact .inr malformed
    · exact absurd ⟨fault, overflows⟩ none

theorem isBefore_iff {d : Clock} : c.isBefore d = true ↔ c.micros < d.micros := by
  simp [isBefore]

end VolatilityDesk.Clock
