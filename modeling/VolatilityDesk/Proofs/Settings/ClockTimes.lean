import VolatilityDesk.Proofs.Settings.Bounds
/-!
# Clock times that end the reading

Settings whose sources can be read are accepted, or refused with complaints, unless a number in a
clock time is too large for the machine's word: that ends the reading, whatever else is given
(`Ends`). The two clock times are read in their order, so the opening time decides if both hold such
a number.

* `settled_unless_overflowing` — settings are accepted or refused unless a clock time ends the
  reading.
* `not_every_text_settled` — a text that ends it.
-/

namespace VolatilityDesk.Settings

open Fallible

variable {given : List (String × Json)} {unknown : List String} {fault : ClockFault}

/-- The first source of the setting gives a text with a number that is too large. -/
def Exceeds (given : List (String × Json)) (name : String) (fault : ClockFault) : Prop :=
  ∃ text, given.lookup name = some (.text text) ∧ Clock.Overflows text fault

/-- The opening time ends the reading, or else the closing time does. -/
def Ends (given : List (String × Json)) (fault : ClockFault) : Prop :=
  Exceeds given "trading_start" fault ∨
    (¬ ∃ other, Exceeds given "trading_start" other) ∧ Exceeds given "trading_end" fault

theorem exceeds_iff {name : String} :
    Exceeds given name fault ↔ (given.lookup name).bind Field.overflow? = some fault := by
  simp only [Option.bind_eq_some_iff, Field.overflow?_eq_some_iff]
  constructor
  · rintro ⟨text, found, overflows⟩
    exact ⟨_, found, text, rfl, overflows⟩
  · rintro ⟨_, found, text, rfl, overflows⟩
    exact ⟨text, found, overflows⟩

theorem ends_iff : Ends given fault ↔ ending? given = some fault := by
  unfold Ends ending? Field.clockNames
  simp only [exceeds_iff, List.findSome?_cons, List.findSome?_nil]
  cases (given.lookup "trading_start").bind Field.overflow? with
  | some first => simp
  | none =>
    cases (given.lookup "trading_end").bind Field.overflow? with
    | some second => simp
    | none => simp

/-! ### The two outcomes -/

theorem build_of_ending (ending : ending? given = some fault) :
    build given unknown = .error (.clock fault) := by
  have ended := fault?_draft given ⟨defaults, []⟩
  rw [ending] at ended
  unfold build
  rw [fault?_eq_some_iff.mp ended]
  rfl

/-- Without such a clock time the settings are drafted, and what remains are complaints. In a draft
without complaints both clock times can be read, so judging it cannot fail either. -/
theorem build_of_no_ending (steady : ending? given = none) :
    (∃ s, build given unknown = .ok s) ∨
      ∃ found, build given unknown = .error (.invalid found) := by
  have drafts := fault?_draft given ⟨defaults, []⟩
  rw [steady] at drafts
  unfold build
  cases drafted : Field.all.foldlM (applyField given) ⟨defaults, []⟩ with
  | error fault =>
    rw [drafted] at drafts
    cases drafts
  | ok draft =>
    dsimp only [bind, Except.bind]
    split
    · rename_i clean
      rw [List.isEmpty_iff, List.append_eq_nil_iff] at clean
      obtain ⟨-, takes⟩ := takes_of_draft (fun f => Field.made_of_mem) drafted clean.1
      obtain ⟨verdict, judged⟩ := takes.bounded.exists_judged
      rw [judged]
      cases verdict with
      | none => exact .inl ⟨_, rfl⟩
      | some reason => exact .inr ⟨_, rfl⟩
    · exact .inr ⟨_, rfl⟩

/-- **Settings are settled unless a clock time overflows.** A text is read as a clock time or
refused as malformed unless it holds a number that is too large, and settings are accepted or
refused with complaints unless a clock time among them holds one. Then the number's own fault ends
the reading. -/
theorem settled_unless_overflowing {keywords : List (String × Json)} {around : Surroundings}
    (sources : gathered keywords around = .ok (given, unknown)) :
    (∀ text, ((∃ c, Clock.parse text = .ok c) ∨ Clock.parse text = .error (.malformed text)) ↔
      ¬ ∃ fault, Clock.Overflows text fault) ∧
    (∀ text fault, Clock.Overflows text fault → Clock.parse text = .error fault) ∧
    (((∃ s, load keywords around = .ok s) ∨
        ∃ found, load keywords around = .error (.invalid found)) ↔ ¬ ∃ fault, Ends given fault) ∧
    ∀ fault, Ends given fault → load keywords around = .error (.clock fault) := by
  have loaded : load keywords around = build given unknown := by
    rw [load_eq, sources]
    rfl
  rw [loaded]
  refine ⟨fun text => ?_, fun text fault => Clock.parse_of_overflows, ?_, ?_⟩
  · exact Clock.settled_iff
  · constructor
    · rintro settled ⟨fault, ends⟩
      rw [build_of_ending (ends_iff.mp ends)] at settled
      rcases settled with ⟨s, accepted⟩ | ⟨found, refused⟩
      · cases accepted
      · cases refused
    · intro steady
      cases ending : ending? given with
      | none => exact build_of_no_ending ending
      | some fault => exact absurd ⟨fault, ends_iff.mpr ending⟩ steady
  · exact fun fault ends => build_of_ending (ends_iff.mp ends)

/-- Settings with a closing time whose hour is too large for the machine's word: the sources are
read, and the closing time ends the reading. -/
theorem settled_unless_late_hour :
    let keywords := [("trading_start", Json.text "9:30"), ("trading_end", .text "3000000000:00")]
    gathered keywords ⟨[], none⟩ = .ok (keywords, []) ∧
      load keywords ⟨[], none⟩ = .error (.clock (.beyondWord false)) := by
  intro keywords
  have sources : gathered keywords ⟨[], none⟩ = .ok (keywords, []) := by rfl
  have late : Clock.Overflows "3000000000:00" (.beyondWord false) := by
    refine ⟨3000000000, 0, ?_, .inl (.word (by decide) (by decide))⟩
    exact ⟨"3000000000".toList, "00".toList, by decide +kernel, by decide +kernel,
      by decide +kernel⟩
  refine ⟨sources, (settled_unless_overflowing sources).2.2.2 _ (.inr ⟨?_, _, rfl, late⟩)⟩
  rintro ⟨fault, early⟩
  have short : (keywords.lookup "trading_start").bind Field.overflow? = none := by
    decide +kernel
  rw [exceeds_iff, short] at early
  cases early

/-- A text that is neither a clock time nor malformed, and settings that are neither accepted nor
refused with complaints when it is their opening time. -/
theorem not_every_text_settled : ∃ text,
    ¬ ((∃ c, Clock.parse text = .ok c) ∨ Clock.parse text = .error (.malformed text)) ∧
      ¬ ((∃ s, load [("trading_start", .text text)] ⟨[], none⟩ = .ok s) ∨
        ∃ found, load [("trading_start", .text text)] ⟨[], none⟩ = .error (.invalid found)) := by
  have parsed : Clock.parse "99999999999999999999:00" = .error .beyondLong :=
    fault?_eq_some_iff.mp (by decide +kernel)
  have loaded : load [("trading_start", .text "99999999999999999999:00")] ⟨[], none⟩ =
      .error (.clock .beyondLong) := by rfl
  refine ⟨"99999999999999999999:00", ?_, ?_⟩
  · rw [parsed]
    rintro (⟨c, given⟩ | malformed)
    · cases given
    · cases malformed
  · rw [loaded]
    rintro (⟨s, accepted⟩ | ⟨found, refused⟩)
    · cases accepted
    · cases refused

end VolatilityDesk.Settings
