import VolatilityDesk.Command.Run
import VolatilityDesk.Proofs.Command.Work
import VolatilityDesk.Proofs.PriceFile.Records
/-!
# Price files that are refused

A file that is not read is a bad file, which a command refuses with a message, but for two cases:
a record ends before its price or its volume, or a cell is longer than the reader of records takes.
Then the command itself fails. Either case is known from the records that reading comes to.

* `PriceFile.breaks_iff` — the files that are not reported as bad.
* `Command.read_or_refused_or_breaks` — how a command ends on each price file.
* `Command.not_every_fault_bad` — a file that breaks a command.
-/

namespace VolatilityDesk

open Fallible

namespace PriceFile

variable {file : String} {bytes : List Nat} {fault : PriceFileFault}

/-- The entries that are read of a file. -/
def entriesOf (bytes : List Nat) : List Csv.Entry :=
  let decoded := Text.Utf8.decode bytes
  if decoded.fault.isNone then Csv.entries decoded.text else Csv.completeEntries decoded.text

/-- Reading comes to an entry: the headings are complete and no record before it stops the
reading. -/
def Reaches (bytes : List Nat) (headings : List String) (entry : Csv.Entry) : Prop :=
  ∃ (earlier : List (List String)) (later : List Csv.Entry),
    entriesOf bytes = .ok headings :: (earlier.map .ok ++ entry :: later) ∧
    Complete headings ∧ ∀ cells ∈ earlier, Passes headings cells

/-- What a file can hold that is not reported as bad. -/
inductive Breaks (bytes : List Nat) : PriceFileFault → Prop where
  | heading {reason : Csv.Fault} {rest : List Csv.Entry}
      (first : entriesOf bytes = .error reason :: rest) : Breaks bytes (.format reason)
  | cell {headings : List String} {reason : Csv.Fault}
      (reaches : Reaches bytes headings (.error reason)) : Breaks bytes (.format reason)
  | number {headings cells : List String} (reaches : Reaches bytes headings (.ok cells))
      (lacks : (Row.ofCells headings cells).LacksNumber) : Breaks bytes .noNumber

theorem readEntries_nil : readEntries file [] = .error (.missingColumns file columns) := rfl

/-- Whether the bytes are a text or not, a fault that is not reported as bad is one of the entries
read. -/
theorem read_eq_error_iff (unreported : fault.isBadFile = false) :
    read file bytes = .error fault ↔ readEntries file (entriesOf bytes) = .error fault := by
  cases stopped : (Text.Utf8.decode bytes).fault with
  | none =>
    rw [read_eq_of_text stopped, bind_eq_error_iff]
    simp [entriesOf, stopped]
  | some reason =>
    have other : PriceFileFault.encoding reason ≠ fault := by
      rintro rfl
      cases unreported
    rw [read_eq_of_fault stopped]
    simp only [entriesOf, stopped, Option.isNone_some, Bool.false_eq_true, if_false]
    split
    case isTrue none_complete =>
      rw [List.isEmpty_iff.mp none_complete, readEntries_nil]
      constructor
      · intro same
        exact absurd (Except.error.inj same) other
      · intro same
        cases Except.error.inj same
        cases unreported
    case isFalse => simp [bind_eq_error_iff, other]

theorem lacksNumber_ne_nil {headings : List String} {cells : List String}
    (lacks : (Row.ofCells headings cells).LacksNumber) : cells ≠ [] := by
  rintro rfl
  have named := lacks.named
  rw [Row.hasText_ofCells_iff] at named
  simp at named

theorem readEntries_eq_error_iff_breaks (unreported : fault.isBadFile = false) :
    readEntries file (entriesOf bytes) = .error fault ↔ Breaks bytes fault := by
  have present : ∀ names, fault ≠ .missingColumns file names := by
    rintro names rfl
    cases unreported
  rw [readEntries_eq_error_iff present]
  constructor
  · rintro (⟨reason, rest, first, rfl⟩ |
      ⟨headings, earlier, entry, later, listed, complete, passed, stops⟩)
    · exact .heading first
    · have reaches : Reaches bytes headings entry := ⟨earlier, later, listed, complete, passed⟩
      cases stops with
      | format reason => exact .cell reaches
      | row filled failed =>
        rcases noNumber_or_badRow failed with rfl | ⟨reason, rfl⟩
        · exact .number reaches (readRow_eq_noNumber_iff.mp failed)
        · cases unreported
  · intro breaks
    cases breaks with
    | heading first => exact .inl ⟨_, _, first, rfl⟩
    | cell reaches =>
      obtain ⟨earlier, later, listed, complete, passed⟩ := reaches
      exact .inr ⟨_, earlier, _, later, listed, complete, passed, .format _⟩
    | number reaches lacks =>
      obtain ⟨earlier, later, listed, complete, passed⟩ := reaches
      refine .inr ⟨_, earlier, _, later, listed, complete, passed, ?_⟩
      exact .row (lacksNumber_ne_nil lacks) (readRow_eq_noNumber_iff.mpr lacks)

/-- The faults that are not reported as bad. -/
theorem breaks_iff (unreported : fault.isBadFile = false) :
    read file bytes = .error fault ↔ Breaks bytes fault :=
  (read_eq_error_iff unreported).trans (readEntries_eq_error_iff_breaks unreported)

theorem isBadFile_of_breaks (breaks : Breaks bytes fault) : fault.isBadFile = false := by
  cases breaks <;> rfl

end PriceFile

/-! ### Commands -/

namespace Command

variable {w : Workplace} {path name : String} {bytes : List Nat} {command : Command}

/-- Commands that read the price file at a path. -/
inductive ReadsPrices (path : String) : Command → Prop where
  | scan (output : String) (minReturn : Option Float) :
      ReadsPrices path (.scan path output minReturn)
  | indicators : ReadsPrices path (.indicators path)
  | replay (journal notify : Bool) : ReadsPrices path (.replay path journal notify)

/-- A command does nothing before its price file is read but to look up the settings. -/
theorem run_of_unread {s : Settings} {fault : PriceFileFault} (reads : ReadsPrices path command)
    (loads : w.settings = .ok s) (found : w.files.find? path = some (name, bytes))
    (failed : PriceFile.read name bytes = .error fault) :
    (run command).run w = (.error (Work.unread fault w).1, (Work.unread fault w).2) := by
  have ended : (Work.prices path).run w =
      (.error (Work.unread fault w).1, (Work.unread fault w).2) := by
    apply Work.run_prices_of_error
    rw [found]
    exact failed
  cases reads with
  | scan output minReturn =>
    rw [run, runScan, Work.run_bind_ok (Work.run_settings loads)]
    exact Work.run_bind_error ended
  | indicators =>
    rw [run, runIndicators, Work.run_bind_ok (Work.run_settings loads)]
    exact Work.run_bind_error ended
  | replay journal notify =>
    rw [run, runReplay]
    exact Work.run_bind_error ended

/-- **What becomes of a price file.** It is read, or it is a bad file, or it breaks the command. A
bad file is refused with a message and the exit code one if the terminal takes the message; a
terminal that finds its markup wrong, which quotes what the file holds, breaks the command.
Otherwise a file breaks the command exactly when reading comes to a record that lacks a number or to
a cell that is too long. -/
theorem read_or_refused_or_breaks {s : Settings} (reads : ReadsPrices path command)
    (loads : w.settings = .ok s) (found : w.files.find? path = some (name, bytes)) :
    (∃ snapshot, PriceFile.read name bytes = .ok snapshot) ∨
    (∃ fault, PriceFile.read name bytes = .error fault ∧ fault.isBadFile = true ∧
      (∀ other, ¬ PriceFile.Breaks bytes other) ∧
      exitCode ((run command).run w).1 = 1 ∧
      let message : Printed := .line s!"[red]{fault.message}[/red]"
      (w.terminal.fault? message = none → (run command).run w =
        (.error .refused, { w with printed := w.printed ++ [message] })) ∧
      ∀ refusal, w.terminal.fault? message = some refusal →
        (run command).run w = (.error (.fault (.console refusal)), w)) ∨
    ∃ fault, PriceFile.read name bytes = .error fault ∧ fault.isBadFile = false ∧
      PriceFile.Breaks bytes fault ∧ (run command).run w = (.error (.fault (.file fault)), w) := by
  cases outcome : PriceFile.read name bytes with
  | ok snapshot => exact .inl ⟨snapshot, rfl⟩
  | error fault =>
    have ended := run_of_unread reads loads found outcome
    refine .inr ?_
    cases bad : fault.isBadFile with
    | true =>
      have none_breaks (other : PriceFileFault) : ¬ PriceFile.Breaks bytes other := by
        intro breaks
        have unreported := PriceFile.isBadFile_of_breaks breaks
        rw [(PriceFile.breaks_iff unreported).mpr breaks] at outcome
        cases outcome
        rw [unreported] at bad
        cases bad
      rw [Work.unread, if_pos bad] at ended
      refine .inl ⟨fault, rfl, bad, none_breaks, ?_, ?_, ?_⟩
      · rw [ended]
        cases w.terminal.fault? (Work.report fault) with
        | none => rfl
        | some refusal => rfl
      · intro taken
        rw [ended, Work.report, taken]
      · intro refusal refused
        rw [ended, Work.report, refused]
    | false =>
      rw [Work.unread, if_neg (by simp [bad])] at ended
      exact .inr ⟨fault, rfl, bad, (PriceFile.breaks_iff bad).mp outcome, ended⟩

/-- A file with a record that ends before its price. -/
def shortFile : List Nat :=
  PriceFile.bytesOf "timestamp,instrument,price,volume\n2025-07-15T14:00:00Z,AAPL\n"

/-- A workplace with one price file. -/
def deskWith (bytes : List Nat) : Workplace where
  around := { environment := [] }
  files := [("prices.csv", bytes)]
  clock := ⟨0, some 0⟩

theorem read_shortFile : PriceFile.read "prices.csv" shortFile = .error .noNumber :=
  fault?_eq_some_iff.mp (by decide +kernel)

theorem scan_broken_by_shortFile : PriceFile.Breaks shortFile .noNumber ∧
    (run (.scan "prices.csv" "table" none)).run (deskWith shortFile) =
      (.error (.fault (.file .noNumber)), deskWith shortFile) := by
  have loads : (deskWith shortFile).settings.isOk = true := by decide +kernel
  obtain ⟨s, loads⟩ := isOk_iff.mp loads
  have found : (deskWith shortFile).files.find? "prices.csv" = some ("prices.csv", shortFile) := by
    decide +kernel
  have reads : ReadsPrices "prices.csv" (.scan "prices.csv" "table" none) := .scan "table" none
  rcases read_or_refused_or_breaks reads loads found with
    ⟨_, read⟩ | ⟨fault, failed, bad, -⟩ | ⟨fault, failed, -, breaks, ended⟩
  · cases read_shortFile.symm.trans read
  · cases read_shortFile.symm.trans failed
    cases bad
  · cases read_shortFile.symm.trans failed
    exact ⟨breaks, ended⟩

/-- Not every file that cannot be read is reported as bad. -/
theorem not_every_fault_bad : ¬ ∀ (file : String) (bytes : List Nat) (fault : PriceFileFault),
    PriceFile.read file bytes = .error fault → fault.isBadFile = true := by
  intro reported
  cases reported _ _ _ read_shortFile

end Command

end VolatilityDesk
