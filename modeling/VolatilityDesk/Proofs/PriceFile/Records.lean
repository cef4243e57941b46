import VolatilityDesk.Proofs.PriceFile.Row
/-!
# Records of a price file

Reading goes through the records below the headings in their order, passes over blank ones and
stops at the first that gives no sample. So the samples of a file are those of its records, one for
each that is not blank, and a fault belongs to one record with only good ones before it.

* `read_eq_ok_iff` — the files that are read, and what they give.
* `readEntries_eq_error_iff` — the entry that ends the reading of another file.
-/

namespace VolatilityDesk

open Fallible

namespace PriceFile

variable {file : String} {number : Nat}

/-! ### Reading the records below the headings -/

/-- The records that are not blank. -/
def filled (records : List (List String)) : List (List String) := records.filter (· ≠ [])

/-- Cells under the headings give a sample of an instrument. -/
def Given (headings cells : List String) (entry : String × Sample) : Prop :=
  (Row.ofCells headings cells).Gives entry.1 entry.2

/-- A record does not stop the reading: it is blank or gives a sample. -/
def Passes (headings cells : List String) : Prop :=
  cells = [] ∨ ∃ entry, Given headings cells entry

variable {headings : List String} {entries : List Csv.Entry} {samples : List (String × Sample)}

@[simp] theorem filled_nil : filled [] = [] := rfl

@[simp] theorem filled_blank (records : List (List String)) :
    filled ([] :: records) = filled records := rfl

theorem filled_cons {cells : List String} (filled_cells : cells ≠ [])
    (records : List (List String)) : filled (cells :: records) = cells :: filled records := by
  simp [filled, filled_cells]

theorem readRows_filled {cells : List String} (present : cells ≠ []) (rest : List Csv.Entry) :
    readRows file headings number (.ok cells :: rest) = do
      let sample ← readRow file number (Row.ofCells headings cells)
      return sample :: (← readRows file headings (number + 1) rest) := by
  cases cells with
  | nil => exact absurd rfl present
  | cons cell cells => rfl

/-- Reading succeeds exactly when every record that is not blank gives a sample, and gives these in
their order. -/
theorem readRows_eq_ok_iff :
    readRows file headings number entries = .ok samples ↔
      ∃ records, entries = records.map .ok ∧
        List.Forall₂ (Given headings) (filled records) samples := by
  induction entries generalizing number samples with
  | nil => simp [readRows, eq_comm]
  | cons entry rest ih =>
    match entry with
    | .error fault =>
      simp only [readRows, reduceCtorEq, false_iff, not_exists, not_and]
      intro records listed
      obtain ⟨_, _, _, same, _⟩ := List.map_eq_cons_iff.mp listed.symm
      cases same
    | .ok [] =>
      rw [readRows, ih]
      constructor
      · rintro ⟨records, rfl, each⟩
        exact ⟨[] :: records, rfl, each⟩
      · rintro ⟨records, listed, each⟩
        obtain ⟨cells, records, rfl, blank, rfl⟩ := List.map_eq_cons_iff.mp listed.symm
        obtain rfl := Except.ok.inj blank
        exact ⟨records, rfl, each⟩
    | .ok (cell :: cells) =>
      simp only [readRows, bind_eq_ok_iff, pure_eq_ok_iff, Prod.exists, readRow_eq_ok_iff, ih]
      constructor
      · rintro ⟨instrument, sample, given, later, ⟨records, rfl, each⟩, rfl⟩
        refine ⟨(cell :: cells) :: records, rfl, ?_⟩
        rw [filled_cons (List.cons_ne_nil _ _)]
        exact .cons given each
      · rintro ⟨records, listed, each⟩
        obtain ⟨first, records, rfl, same, rfl⟩ := List.map_eq_cons_iff.mp listed.symm
        obtain rfl := Except.ok.inj same
        rw [filled_cons (List.cons_ne_nil _ _), List.forall₂_cons_left_iff] at each
        obtain ⟨⟨instrument, sample⟩, later, given, each, rfl⟩ := each
        exact ⟨instrument, sample, given, later, ⟨records, rfl, each⟩, rfl⟩

/-- What stops the reading at an entry: a fault of the reader, or a record that gives no sample. -/
inductive Stops (file : String) (headings : List String) (number : Nat) :
    Csv.Entry → PriceFileFault → Prop where
  | format (fault : Csv.Fault) : Stops file headings number (.error fault) (.format fault)
  | row {cells : List String} {fault : PriceFileFault} (filled : cells ≠ [])
      (failed : readRow file number (Row.ofCells headings cells) = .error fault) :
      Stops file headings number (.ok cells) fault

/-- Reading fails exactly at the first entry that stops it. The number that it is known by counts
the records before it that are not blank. -/
theorem readRows_eq_error_iff {fault : PriceFileFault} :
    readRows file headings number entries = .error fault ↔
      ∃ earlier entry later, entries = earlier.map .ok ++ entry :: later ∧
        (∀ cells ∈ earlier, Passes headings cells) ∧
        Stops file headings (number + (filled earlier).length) entry fault := by
  constructor
  · intro failed
    fun_induction readRows file headings number entries with
    | case1 => cases failed
    | case2 number reason rest =>
      cases failed
      exact ⟨[], _, rest, rfl, by simp, .format reason⟩
    | case3 number rest ih =>
      obtain ⟨earlier, entry, later, rfl, passed, stops⟩ := ih failed
      exact ⟨[] :: earlier, entry, later, rfl, by simpa [Passes] using passed, stops⟩
    | case4 number cells rest present ih =>
      rcases bind_eq_error_iff.mp failed with failed | ⟨⟨instrument, sample⟩, given, failed⟩
      · exact ⟨[], _, rest, rfl, by simp, .row present failed⟩
      · obtain failed | ⟨_, -, done⟩ := bind_eq_error_iff.mp failed
        case inr => exact absurd done pure_ne_error
        obtain ⟨earlier, entry, later, rfl, passed, stops⟩ := ih failed
        refine ⟨cells :: earlier, entry, later, rfl, ?_, ?_⟩
        · rintro other (_ | ⟨_, member⟩)
          · exact .inr ⟨(instrument, sample), readRow_eq_ok_iff.mp given⟩
          · exact passed other member
        · rwa [filled_cons present, List.length_cons, Nat.add_comm _ 1, ← Nat.add_assoc]
  · rintro ⟨earlier, entry, later, rfl, passed, stops⟩
    induction earlier generalizing number with
    | nil =>
      cases stops with
      | format reason => rfl
      | row present failed =>
        exact (readRows_filled present _).trans (bind_eq_error_iff.mpr (.inl failed))
    | cons cells earlier ih =>
      have rest := fun other member => passed other (.tail _ member)
      by_cases present : cells = []
      · subst present
        exact ih rest stops
      · obtain ⟨⟨instrument, sample⟩, given⟩ := (passed cells (.head _)).resolve_left present
        rw [filled_cons present, List.length_cons, Nat.add_comm _ 1, ← Nat.add_assoc] at stops
        refine (readRows_filled present _).trans ?_
        refine bind_eq_error_iff.mpr (.inr ⟨(instrument, sample), readRow_eq_ok_iff.mpr given, ?_⟩)
        exact bind_eq_error_iff.mpr (.inl (ih rest stops))

/-! ### Reading a file -/

/-- All columns that a price file needs are among the headings. -/
def Complete (headings : List String) : Prop := ∀ column ∈ columns, column ∈ headings

theorem missing_isEmpty_iff :
    (columns.filter (!headings.contains ·)).isEmpty = true ↔ Complete headings := by
  simp [Complete, List.filter_eq_nil_iff]

theorem readEntries_headings (entries : List Csv.Entry) :
    readEntries file (.ok headings :: entries) =
      if (columns.filter (!headings.contains ·)).isEmpty then readRows file headings 2 entries
      else .error (.missingColumns file (columns.filter (!headings.contains ·))) := rfl

/-- The records of a file are read when they stand below complete headings and all that are not
blank give a sample. -/
theorem readEntries_eq_ok_iff :
    readEntries file entries = .ok samples ↔
      ∃ headings records, entries = .ok headings :: records.map .ok ∧ Complete headings ∧
        List.Forall₂ (Given headings) (filled records) samples := by
  match entries with
  | [] =>
    have missing : readEntries file [] = .error (.missingColumns file columns) := rfl
    simp [missing]
  | .error fault :: rest =>
    have failed : readEntries file (.error fault :: rest) = .error (.format fault) := rfl
    simp [failed]
  | .ok headings :: rest =>
    rw [readEntries_headings]
    constructor
    · intro read
      split at read
      · rename_i none_missing
        obtain ⟨records, rfl, each⟩ := readRows_eq_ok_iff.mp read
        exact ⟨headings, records, rfl, missing_isEmpty_iff.mp none_missing, each⟩
      · cases read
    · rintro ⟨headings, records, listed, complete, each⟩
      cases listed
      rw [if_pos (missing_isEmpty_iff.mpr complete)]
      exact readRows_eq_ok_iff.mpr ⟨records, rfl, each⟩

/-- Apart from columns that are missing, reading fails at the headings or at a record below complete
headings. -/
theorem readEntries_eq_error_iff {fault : PriceFileFault}
    (present : ∀ names, fault ≠ .missingColumns file names) :
    readEntries file entries = .error fault ↔
      (∃ reason rest, entries = .error reason :: rest ∧ fault = .format reason) ∨
      ∃ headings earlier entry later,
        entries = .ok headings :: (earlier.map .ok ++ entry :: later) ∧ Complete headings ∧
          (∀ cells ∈ earlier, Passes headings cells) ∧
          Stops file headings (2 + (filled earlier).length) entry fault := by
  match entries with
  | [] =>
    have missing : readEntries file [] = .error (.missingColumns file columns) := rfl
    simp [missing, (present columns).symm]
  | .error reason :: rest =>
    have failed : readEntries file (.error reason :: rest) = .error (.format reason) := rfl
    rw [failed]
    constructor
    · intro same
      exact .inl ⟨reason, rest, rfl, (Except.error.inj same).symm⟩
    · rintro (⟨_, _, listed, rfl⟩ | ⟨_, _, _, _, listed, -⟩)
      · cases listed
        rfl
      · cases listed
  | .ok headings :: rest =>
    rw [readEntries_headings]
    constructor
    · intro failed
      split at failed
      · rename_i none_missing
        obtain ⟨earlier, entry, later, rfl, passed, stops⟩ := readRows_eq_error_iff.mp failed
        have complete := missing_isEmpty_iff.mp none_missing
        exact .inr ⟨headings, earlier, entry, later, rfl, complete, passed, stops⟩
      · exact absurd (Except.error.inj failed).symm (present _)
    · rintro (⟨_, _, listed, _⟩ | ⟨_, earlier, entry, later, listed, complete, passed, stops⟩)
      · cases listed
      · cases listed
        rw [if_pos (missing_isEmpty_iff.mpr complete)]
        exact readRows_eq_error_iff.mpr ⟨earlier, entry, later, rfl, passed, stops⟩

/-- The bytes of a file are a text of headings and the records below them. -/
structure Holds (bytes : List Nat) (headings : List String) (records : List (List String)) :
    Prop where
  text : (Text.Utf8.decode bytes).fault = none
  entries : Csv.entries (Text.Utf8.decode bytes).text = .ok headings :: records.map .ok

theorem Holds.unique {bytes : List Nat} {headings headings' : List String}
    {records records' : List (List String)} (holds : Holds bytes headings records)
    (holds' : Holds bytes headings' records') : headings = headings' ∧ records = records' := by
  obtain ⟨same, rest⟩ := List.cons.inj (holds.entries.symm.trans holds'.entries)
  exact ⟨Except.ok.inj same, List.map_injective_iff.mpr (fun _ _ => Except.ok.inj) rest⟩

/-- The bytes of a text. -/
def bytesOf (text : String) : List Nat := text.toUTF8.data.toList.map UInt8.toNat

theorem read_eq_of_text {bytes : List Nat} (text : (Text.Utf8.decode bytes).fault = none) :
    read file bytes = do
      return gather (← readEntries file (Csv.entries (Text.Utf8.decode bytes).text)) := by
  unfold read
  simp only [text]

theorem read_eq_of_fault {bytes : List Nat} {reason : Text.Utf8Fault}
    (stopped : (Text.Utf8.decode bytes).fault = some reason) :
    read file bytes = (do
      if (Csv.completeEntries (Text.Utf8.decode bytes).text).isEmpty then
        .error (.encoding reason)
      else
        let _ ← readEntries file (Csv.completeEntries (Text.Utf8.decode bytes).text)
        .error (.encoding reason)) := by
  unfold read
  simp only [stopped]
  cases (Csv.completeEntries (Text.Utf8.decode bytes).text).isEmpty <;> rfl

/-- A file is read exactly when it is a text whose records all give a sample below complete
headings. -/
theorem read_eq_ok_iff {bytes : List Nat} {snapshot : Snapshot Float} :
    read file bytes = .ok snapshot ↔
      ∃ headings records samples, Holds bytes headings records ∧ Complete headings ∧
        List.Forall₂ (Given headings) (filled records) samples ∧ snapshot = gather samples := by
  cases fault : (Text.Utf8.decode bytes).fault with
  | none =>
    rw [read_eq_of_text fault, bind_eq_ok_iff]
    simp only [pure_eq_ok_iff, readEntries_eq_ok_iff]
    constructor
    · rintro ⟨samples, ⟨headings, records, listed, complete, each⟩, rfl⟩
      exact ⟨headings, records, samples, ⟨fault, listed⟩, complete, each, rfl⟩
    · rintro ⟨headings, records, samples, holds, complete, each, rfl⟩
      exact ⟨samples, ⟨headings, records, holds.entries, complete, each⟩, rfl⟩
  | some reason =>
    rw [read_eq_of_fault fault]
    constructor
    · intro read
      split at read
      · cases read
      · obtain ⟨_, -, impossible⟩ := bind_eq_ok_iff.mp read
        cases impossible
    · rintro ⟨_, _, _, holds, -⟩
      rw [holds.text] at fault
      cases fault

end PriceFile

end VolatilityDesk
