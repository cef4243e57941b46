import VolatilityDesk.Proofs.Csv.Lines
import VolatilityDesk.Proofs.PriceFile.Records
/-!
# The number of a bad record

A record that gives no sample is reported with a number that counts the headings and the records
before it, but not the blank lines. Where every line is a record of its own, the number is the
record's place in the file less the blank lines before it.

* `reported_number_of_first_bad` — which record is reported, and by which number.
* `number_not_of_line` — the number is not that of the line.
-/

namespace VolatilityDesk

open Fallible

namespace PriceFile

variable {file : String} {bytes : List Nat}

/-- Lines are blank or hold a record that is not. -/
theorem blank_add_filled {lines : List Csv.Line} {records : List (List String)}
    (listed : lines.map Csv.Line.entry = records.map .ok) :
    (lines.filter Csv.Line.isBlank).length + (filled records).length = lines.length := by
  induction lines generalizing records with
  | nil =>
    obtain rfl := List.map_eq_nil_iff.mp listed.symm
    rfl
  | cons line lines ih =>
    obtain ⟨cells, records, rfl, first, rest⟩ := List.map_eq_cons_iff.mp listed.symm
    have others := ih rest.symm
    cases blank : line.isBlank with
    | true =>
      rw [Csv.Line.entry_eq_blank_iff.mpr blank] at first
      cases first
      rw [filled_blank, List.filter_cons_of_pos blank, List.length_cons, List.length_cons]
      omega
    | false =>
      have present : cells ≠ [] := by
        rintro rfl
        rw [Csv.Line.entry_eq_blank_iff.mp first.symm] at blank
        cases blank
      rw [filled_cons present, List.filter_cons_of_neg (by simp [blank]), List.length_cons,
        List.length_cons]
      omega

/-- A line that does not stop the reading below the headings. -/
def LinePasses (headings : List String) (line : Csv.Line) : Prop :=
  ∃ cells, line.entry = .ok cells ∧ Passes headings cells

/-- **Reports name the first bad record.** Its number falls short of the number of its line by the
blank lines before it. -/
theorem reported_number_of_first_bad {name : String} {number : Nat} {row : Row} {reason : RowFault}
    (text : (Text.Utf8.decode bytes).fault = none)
    (closed : ∀ line ∈ Csv.lines (Text.Utf8.decode bytes).text, line.Closed)
    (failed : read file bytes = .error (.badRow name number row reason)) :
    ∃ headings cells head earlier line later,
      Csv.lines (Text.Utf8.decode bytes).text = head :: (earlier ++ line :: later) ∧
      head.entry = .ok headings ∧ Complete headings ∧
      (∀ other ∈ earlier, LinePasses headings other) ∧
      line.entry = .ok cells ∧ row = Row.ofCells headings cells ∧ ¬ Passes headings cells ∧
      (PriceFileFault.badRow name number row reason).message =
        s!"{file}:{number}: bad row " ++ row.text ++ ": " ++ reason.message ∧
      number + (earlier.filter Csv.Line.isBlank).length = (head :: earlier).length + 1 := by
  rw [read_eq_of_text text, bind_eq_error_iff] at failed
  obtain failed | ⟨_, -, impossible⟩ := failed
  case inr => exact absurd impossible pure_ne_error
  rw [readEntries_eq_error_iff (by simp)] at failed
  obtain ⟨_, _, -, other⟩ | ⟨headings, records, entry, rest, listed, complete, passed, stops⟩ :=
    failed
  case inl => cases other
  obtain ⟨unread, lines⟩ := Csv.entries_prefix closed
  rw [listed, List.cons_append, List.append_assoc, List.cons_append] at lines
  obtain ⟨head, below, split, first, below_eq⟩ := List.map_eq_cons_iff.mp lines.symm
  obtain ⟨earlier, onward, rfl, earlier_eq, onward_eq⟩ := List.map_eq_append_iff.mp below_eq
  obtain ⟨line, later, rfl, line_eq, -⟩ := List.map_eq_cons_iff.mp onward_eq
  cases stops with
  | @row cells _ present unread_row =>
    obtain none_there | ⟨_, same⟩ := noNumber_or_badRow unread_row
    case inl => cases none_there
    obtain ⟨rfl, rfl, rfl, rfl⟩ := PriceFileFault.badRow.inj same
    refine ⟨headings, cells, head, earlier, line, later, split, first, complete, ?_, line_eq, rfl,
      ?_, rfl, ?_⟩
    · intro other member
      have among : other.entry ∈ records.map .ok := earlier_eq ▸ List.mem_map_of_mem member
      obtain ⟨held, inside, same⟩ := List.mem_map.mp among
      exact ⟨held, same.symm, passed held inside⟩
    · rintro (blank | ⟨entry, given⟩)
      · exact present blank
      · rw [readRow_eq_ok_iff.mpr given] at unread_row
        cases unread_row
    · have counted := blank_add_filled earlier_eq
      rw [List.length_cons]
      omega

/-- A file with a bad record on its third line, behind a blank one. -/
def blankLineFile : List Nat :=
  bytesOf "timestamp,instrument,price,volume\n\n2025-07-15T14:01:00Z,AAPL,abc,1000\n"

/-- The bad record under its headings. -/
def badRow : Row :=
  Row.ofCells ["timestamp", "instrument", "price", "volume"]
    ["2025-07-15T14:01:00Z", "AAPL", "abc", "1000"]

theorem text_blankLineFile : (Text.Utf8.decode blankLineFile).fault = none := by decide +kernel

theorem closed_blankLineFile :
    ∀ line ∈ Csv.lines (Text.Utf8.decode blankLineFile).text, line.Closed := by decide +kernel

theorem read_blankLineFile :
    read "prices.csv" blankLineFile = .error (.badRow "prices.csv" 2 badRow (.number "abc")) :=
  fault?_eq_some_iff.mp (by decide +kernel)

theorem second_number_for_third_line : ∃ head earlier line later,
    Csv.lines (Text.Utf8.decode blankLineFile).text = head :: (earlier ++ line :: later) ∧
      2 + (earlier.filter Csv.Line.isBlank).length = (head :: earlier).length + 1 := by
  obtain ⟨_, _, head, earlier, line, later, split, -, -, -, -, -, -, -, counted⟩ :=
    reported_number_of_first_bad text_blankLineFile closed_blankLineFile read_blankLineFile
  exact ⟨head, earlier, line, later, split, counted⟩

/-- A record need not stand on the line with its number. -/
theorem number_not_of_line : ¬ ∀ (bytes : List Nat) (number : Nat) (row : Row) (reason : RowFault),
    (Text.Utf8.decode bytes).fault = none →
    (∀ line ∈ Csv.lines (Text.Utf8.decode bytes).text, line.Closed) →
    read "prices.csv" bytes = .error (.badRow "prices.csv" number row reason) →
    ∃ headings cells line, (Csv.lines (Text.Utf8.decode bytes).text)[number - 1]? = some line ∧
      line.entry = .ok cells ∧ cells ≠ [] ∧ row = Row.ofCells headings cells := by
  intro placed
  obtain ⟨_, cells, line, there, entry, present, -⟩ :=
    placed _ _ _ _ text_blankLineFile closed_blankLineFile read_blankLineFile
  have blank : ((Csv.lines (Text.Utf8.decode blankLineFile).text)[2 - 1]?.map Csv.Line.isBlank) =
      some true := by decide +kernel
  rw [there, Option.map_some, Option.some.injEq, ← Csv.Line.entry_eq_blank_iff, entry] at blank
  exact present (Except.ok.inj blank)

end PriceFile

end VolatilityDesk
