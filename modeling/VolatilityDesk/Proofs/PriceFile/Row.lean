import VolatilityDesk.Market.PriceFile
import VolatilityDesk.Proofs.Fallible
/-!
# One record of a price file

A record gives a sample when each of its four columns holds a text of the right form. A column
holds a text when the record reaches as far as its last heading of that name.

* `readRow_eq_ok_iff` — the records that give a sample.
* `readRow_eq_noNumber_iff` — the records that lack a number.
-/

namespace VolatilityDesk

open Fallible

/-! ### Cells -/

namespace Row

/-- A record has a text under a heading. -/
def HasText (row : Row) (heading : String) : Prop := ∃ cell, row.cell heading = .text cell

/-- The number under a heading. -/
def HasNumber (row : Row) (heading : String) (x : Float) : Prop :=
  ∃ cell, row.cell heading = .text cell ∧ Decimal.floatOfText? cell = some x

/-- The time of a record; without an offset it is universal. -/
def HasTime (row : Row) (time : Timestamp) : Prop :=
  ∃ cell written, row.cell "timestamp" = .text cell ∧
    Iso.read (String.ofList (PriceFile.spellOffset (Text.trimWhile Text.isSpace cell.toList))) =
      .ok written ∧ time = written.assumeUniversal

/-- The instrument of a record: its name without blanks around it, in upper case. -/
def Names (row : Row) (instrument : String) : Prop :=
  ∃ cell, row.cell "instrument" = .text cell ∧ instrument = Text.upperCase (Text.strip cell)

theorem Names.unique {row : Row} {instrument instrument' : String} (names : row.Names instrument)
    (names' : row.Names instrument') : instrument = instrument' := by
  obtain ⟨cell, found, rfl⟩ := names
  obtain ⟨cell', found', rfl⟩ := names'
  rw [found] at found'
  cases found'
  rfl

/-- A record gives a sample of an instrument. -/
structure Gives (row : Row) (instrument : String) (sample : Sample) : Prop where
  names : row.Names instrument
  time : row.HasTime sample.time
  price : row.HasNumber "price" sample.price
  volume : row.HasNumber "volume" sample.volume

/-- A record with a name and a time ends before its price, or behind its price before its volume. -/
structure LacksNumber (row : Row) : Prop where
  named : row.HasText "instrument"
  timed : ∃ time, row.HasTime time
  short : ¬ row.HasText "price" ∨ ((∃ x, row.HasNumber "price" x) ∧ ¬ row.HasText "volume")

/-! ### Cells under the headings -/

theorem lookup_entry (name key : Option String) (value : Cell) (rest : Row) :
    List.lookup key ((name, value) :: rest) =
      if key = name then some value else rest.lookup key := by
  rw [List.lookup_cons]
  by_cases here : key = name
  · simp [here]
  · have passed : (key == name) = false := by simpa using here
    simp [here, passed]

/-- Putting another cell under a heading changes what is found there and nothing else. -/
theorem lookup_replace (row : Row) (heading key : Option String) (cell : Cell) :
    (row.map fun entry => if entry.1 == heading then (heading, cell) else entry).lookup key =
      if key = heading then (row.lookup key).map fun _ => cell else row.lookup key := by
  induction row with
  | nil => simp
  | cons entry rest ih =>
    obtain ⟨name, value⟩ := entry
    rw [List.map_cons, lookup_entry]
    by_cases here : name = heading
    · have replaced : ((name, value).1 == heading) = true := by simpa using here
      rw [if_pos replaced, lookup_entry, ih]
      by_cases found : key = heading <;> simp [here, found]
    · have kept : ¬ ((name, value).1 == heading) = true := by simpa using here
      rw [if_neg kept, lookup_entry, ih]
      by_cases found : key = name
      · simp [found, here]
      · simp only [found, if_false]

theorem lookup_put (row : Row) (heading key : Option String) (cell : Cell) :
    (row.put heading cell).lookup key = if key = heading then some cell else row.lookup key := by
  unfold put
  split
  case isTrue present =>
    rw [lookup_replace]
    split
    · subst key
      obtain ⟨entry, member, under⟩ := List.any_eq_true.mp present
      have found : (row.lookup heading).isSome = true := by
        rw [List.lookup_isSome_iff]
        exact ⟨entry, member, by simpa using (eq_of_beq under).symm⟩
      obtain ⟨value, found⟩ := Option.isSome_iff_exists.mp found
      rw [found, Option.map_some]
    · rfl
  case isFalse absent =>
    have nothing : row.lookup heading = none := by
      rw [List.lookup_eq_none_iff]
      intro entry member
      simp only [bne_iff_ne]
      rintro rfl
      exact absent (List.any_eq_true.mpr ⟨entry, member, by simp⟩)
    rw [List.lookup_append, lookup_entry]
    by_cases found : key = heading <;> simp [found, nothing]

theorem hasText_iff {row : Row} {heading : String} :
    row.HasText heading ↔ ∃ cell, row.lookup (some heading) = some (.text cell) := by
  unfold HasText cell
  cases row.lookup (some heading) <;> simp

theorem hasText_put_text {row : Row} {heading key cell : String} :
    (row.put (some heading) (.text cell)).HasText key ↔ key = heading ∨ row.HasText key := by
  simp only [hasText_iff, lookup_put, Option.some.injEq]
  by_cases here : key = heading <;> simp [here]

theorem hasText_put_missing {row : Row} {heading key : String} :
    (row.put (some heading) .missing).HasText key ↔ key ≠ heading ∧ row.HasText key := by
  simp only [hasText_iff, lookup_put, Option.some.injEq]
  by_cases here : key = heading <;> simp [here]

theorem hasText_put_none {row : Row} {key : String} {cell : Cell} :
    (row.put none cell).HasText key ↔ row.HasText key := by
  simp [hasText_iff, lookup_put]

theorem hasText_texts {row : Row} {key : String} (pairs : List (String × String)) :
    (pairs.foldl (fun row (h, c) => row.put (some h) (.text c)) row).HasText key ↔
      key ∈ pairs.map (·.1) ∨ row.HasText key := by
  induction pairs generalizing row with
  | nil => simp
  | cons pair rest ih =>
    rw [List.foldl_cons, ih, hasText_put_text, List.map_cons, List.mem_cons]
    tauto

theorem hasText_missing {row : Row} {key : String} (headings : List String) :
    (headings.foldl (fun row h => row.put (some h) .missing) row).HasText key ↔
      key ∉ headings ∧ row.HasText key := by
  induction headings generalizing row with
  | nil => simp
  | cons heading rest ih =>
    rw [List.foldl_cons, ih, hasText_put_missing, List.mem_cons]
    tauto

/-- Cells hold a text under a heading when they reach as far as its last place. -/
theorem hasText_ofCells_iff {headings cells : List String} {heading : String} :
    (ofCells headings cells).HasText heading ↔
      heading ∈ headings.take cells.length ∧ heading ∉ headings.drop cells.length := by
  have under : (headings.zip cells).map (·.1) = headings.take cells.length := by
    rw [List.zip_eq_zip_take_min, List.map_fst_zip (by simp)]
    grind
  have nothing : ¬ HasText [] heading := by simp [hasText_iff]
  unfold ofCells
  split
  case isTrue surplus =>
    rw [hasText_put_none, hasText_texts, under, List.drop_of_length_le (Nat.le_of_lt surplus)]
    simp [nothing]
  case isFalse =>
    rw [hasText_missing, hasText_texts, under]
    simp [nothing, and_comm]

end Row

namespace PriceFile

variable {file : String} {number : Nat} {row : Row}

theorem readTime_eq_ok_iff {cell : String} {time : Timestamp} :
    readTime cell = .ok time ↔ ∃ written, Iso.read (String.ofList
      (spellOffset (Text.trimWhile Text.isSpace cell.toList))) = .ok written ∧
        time = written.assumeUniversal := by
  unfold readTime
  rw [bind_eq_ok_iff]
  simp only [pure_eq_ok_iff, eq_comm (b := time)]

theorem readNumber_eq_ok_iff {heading : String} {x : Float} :
    readNumber (row.cell heading) = .ok x ↔ row.HasNumber heading x := by
  unfold readNumber Row.HasNumber
  cases row.cell heading with
  | text cell => cases read : Decimal.floatOfText? cell <;> simp [read]
  | missing => simp
  | surplus values => simp

theorem readNumber_eq_missing_iff {heading : String} :
    readNumber (row.cell heading) = .error .missing ↔ ¬ row.HasText heading := by
  unfold readNumber Row.HasText
  cases row.cell heading with
  | text cell => cases read : Decimal.floatOfText? cell <;> simp [read]
  | missing => simp
  | surplus values => simp

/-! ### Reading one record -/

/-- The instrument of a record. -/
def readName (file : String) (number : Nat) (row : Row) : Except PriceFileFault String :=
  match row.cell "instrument" with
  | .text s => .ok (Text.upperCase (Text.strip s))
  | _ => .error (.badRow file number row .noText)

/-- The time of a record. -/
def readWhen (file : String) (number : Nat) (row : Row) : Except PriceFileFault Timestamp :=
  match row.cell "timestamp" with
  | .text s =>
    match readTime s with
    | .ok t => .ok t
    | .error fault => .error (.badRow file number row (.time fault))
  | _ => .error (.badRow file number row .noText)

/-- The number of a record under a heading. -/
def readValue (file : String) (number : Nat) (row : Row) (heading : String) :
    Except PriceFileFault Float :=
  match readNumber (row.cell heading) with
  | .ok x => .ok x
  | .error .missing => .error .noNumber
  | .error (.malformed text) => .error (.badRow file number row (.number text))

/-- A record is read cell by cell: instrument, time, price, volume. -/
theorem readRow_eq : readRow file number row = do
    let instrument ← readName file number row
    let time ← readWhen file number row
    let price ← readValue file number row "price"
    let volume ← readValue file number row "volume"
    return (instrument, ⟨time, price, volume⟩) := by
  unfold readRow readName readWhen
  cases row.cell "instrument" with
  | text s =>
    cases row.cell "timestamp" with
    | text t =>
      dsimp only
      cases readTime t <;> rfl
    | _ => rfl
  | _ => rfl

theorem readName_eq_ok_iff {instrument : String} :
    readName file number row = .ok instrument ↔ row.Names instrument := by
  unfold readName Row.Names
  cases row.cell "instrument" <;> simp [eq_comm]

theorem readWhen_eq_ok_iff {time : Timestamp} :
    readWhen file number row = .ok time ↔ row.HasTime time := by
  unfold readWhen Row.HasTime
  cases row.cell "timestamp" with
  | text cell =>
    have reading := @readTime_eq_ok_iff cell time
    cases read : readTime cell <;> simp_all
  | _ => simp

theorem readValue_eq_ok_iff {heading : String} {x : Float} :
    readValue file number row heading = .ok x ↔ row.HasNumber heading x := by
  rw [← readNumber_eq_ok_iff]
  unfold readValue
  cases readNumber (row.cell heading) with
  | ok y => simp
  | error fault => cases fault <;> simp

theorem readName_ne_noNumber : readName file number row ≠ .error .noNumber := by
  unfold readName
  cases row.cell "instrument" <;> simp

theorem readWhen_ne_noNumber : readWhen file number row ≠ .error .noNumber := by
  unfold readWhen
  cases row.cell "timestamp" with
  | text cell => cases read : readTime cell <;> simp [read]
  | _ => simp

theorem readValue_eq_noNumber_iff {heading : String} :
    readValue file number row heading = .error .noNumber ↔ ¬ row.HasText heading := by
  rw [← readNumber_eq_missing_iff]
  unfold readValue
  cases readNumber (row.cell heading) with
  | ok y => simp
  | error fault => cases fault <;> simp

theorem noNumber_or_badRow_of_readValue {heading : String} {fault : PriceFileFault}
    (failed : readValue file number row heading = .error fault) :
    fault = .noNumber ∨ ∃ reason, fault = .badRow file number row reason := by
  unfold readValue at failed
  split at failed
  · cases failed
  · exact .inl (Except.error.inj failed).symm
  · exact .inr ⟨_, (Except.error.inj failed).symm⟩

/-- A record is read exactly when it gives a sample, whatever the file and its place there. -/
theorem readRow_eq_ok_iff {instrument : String} {sample : Sample} :
    readRow file number row = .ok (instrument, sample) ↔ row.Gives instrument sample := by
  simp only [readRow_eq, bind_eq_ok_iff, pure_eq_ok_iff, readName_eq_ok_iff, readWhen_eq_ok_iff,
    readValue_eq_ok_iff]
  constructor
  · rintro ⟨name, named, time, timed, price, priced, volume, sized, parts⟩
    cases parts
    exact ⟨named, timed, priced, sized⟩
  · rintro ⟨named, timed, priced, sized⟩
    exact ⟨_, named, _, timed, _, priced, _, sized, rfl⟩

/-- A record that cannot be read is reported with its number, unless a number is missing. -/
theorem noNumber_or_badRow {fault : PriceFileFault}
    (failed : readRow file number row = .error fault) :
    fault = .noNumber ∨ ∃ reason, fault = .badRow file number row reason := by
  rw [readRow_eq] at failed
  rcases bind_eq_error_iff.mp failed with unnamed | ⟨instrument, -, failed⟩
  · unfold readName at unnamed
    split at unnamed
    · cases unnamed
    · exact .inr ⟨_, (Except.error.inj unnamed).symm⟩
  rcases bind_eq_error_iff.mp failed with untimed | ⟨time, -, failed⟩
  · unfold readWhen at untimed
    split at untimed
    · split at untimed
      · cases untimed
      · exact .inr ⟨_, (Except.error.inj untimed).symm⟩
    · exact .inr ⟨_, (Except.error.inj untimed).symm⟩
  rcases bind_eq_error_iff.mp failed with unpriced | ⟨price, -, failed⟩
  · exact noNumber_or_badRow_of_readValue unpriced
  rcases bind_eq_error_iff.mp failed with unsized | ⟨volume, -, failed⟩
  · exact noNumber_or_badRow_of_readValue unsized
  · cases failed

/-- The number is missing exactly when everything before it can be read and its column is behind
the end of the record. -/
theorem readRow_eq_noNumber_iff :
    readRow file number row = .error .noNumber ↔ row.LacksNumber := by
  have named : row.HasText "instrument" ↔ ∃ instrument, row.Names instrument := by
    simp [Row.HasText, Row.Names]
  simp only [readRow_eq, bind_eq_error_iff, readName_eq_ok_iff, readWhen_eq_ok_iff,
    readValue_eq_ok_iff, readName_ne_noNumber, readWhen_ne_noNumber, readValue_eq_noNumber_iff,
    pure_ne_error, false_or, and_false, exists_false, or_false]
  constructor
  · rintro ⟨instrument, names, time, timed, short⟩
    exact ⟨named.mpr ⟨instrument, names⟩, ⟨time, timed⟩, by simpa using short⟩
  · rintro ⟨names, ⟨time, timed⟩, short⟩
    obtain ⟨instrument, names⟩ := named.mp names
    exact ⟨instrument, names, time, timed, by simpa using short⟩

end PriceFile

end VolatilityDesk
