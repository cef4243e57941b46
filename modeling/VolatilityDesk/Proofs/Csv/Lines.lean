import VolatilityDesk.Csv.Reader
import VolatilityDesk.Proofs.Fallible
/-!
# Lines and records

A line that leaves no cell open is a record of its own, and the record has no cells only if the
line is blank. Where this holds of all lines of a text, its records are its lines one by one, up to
a fault.

* `entries_prefix` — the entries of closed lines are those of the lines, one by one.
* `entry_eq_blank_iff` — which lines give a record without cells.
-/

namespace VolatilityDesk.Csv

open Fallible

/-! ### Lines of a text -/

/-- Only the last line of a text can be without an end. -/
theorem ending_ne_nil {held text : List Char} {before after : List Line} {line next : Line}
    (split : linesFrom held text = before ++ line :: next :: after) : line.ending ≠ [] := by
  fun_induction linesFrom held text generalizing before with
  | case1 held empty => simp at split
  | case2 held filled =>
    have length := congrArg List.length split
    simp at length
    omega
  | case3 held rest ih =>
    cases before with
    | nil =>
      obtain ⟨rfl, -⟩ := List.cons.inj split
      simp
    | cons first before => exact ih (List.cons.inj split).2
  | case4 held c rest pair ends ih =>
    cases before with
    | nil =>
      obtain ⟨rfl, -⟩ := List.cons.inj split
      simp
    | cons first before => exact ih (List.cons.inj split).2
  | case5 held c rest pair inside ih => exact ih split

/-! ### One line -/

namespace Draft

theorem state_of_add {d d' : Draft} {c : Char} {state : State} (read : d.add c state = .ok d') :
    d'.state = state := by
  unfold add at read
  split at read
  · cases read
  · cases read
    rfl

theorem state_ne_startRecord {d d' : Draft} {c : Char} (read : d.read c = .ok d') :
    d'.state ≠ .startRecord := by
  have added {state : State} (other : state ≠ .startRecord) (read : d.add c state = .ok d') :
      d'.state ≠ .startRecord := by
    rwa [state_of_add read]
  -- Every branch moves to a state of its own, and none of them is the start of a record.
  unfold Draft.read at read
  split at read <;> (repeat' split at read) <;>
    first
    | exact added (by decide) read
    | (cases read; simp_all [finishCell])

theorem state_ne_startRecord_of_foldlM {d d' : Draft} {text : List Char} (filled : text ≠ [])
    (read : text.foldlM Draft.read d = .ok d') : d'.state ≠ .startRecord := by
  induction text generalizing d with
  | nil => exact absurd rfl filled
  | cons c rest ih =>
    rw [List.foldlM_cons] at read
    obtain ⟨next, first, read⟩ := bind_eq_ok_iff.mp read
    cases rest with
    | nil =>
      obtain rfl := pure_eq_ok_iff.mp read
      exact state_ne_startRecord first
    | cons => exact ih (List.cons_ne_nil _ _) read

theorem record_eq_nil_iff {d : Draft} : d.record = [] ↔ d.state = .startRecord := by
  unfold record
  cases d.state <;> simp [finishCell]

end Draft

namespace Line

/-- The text of the line stops inside quotes. -/
def stopsInQuotes (line : Line) : Bool :=
  match line.text.foldlM Draft.read {} with
  | .ok draft => draft.state = .inQuotes
  | .error _ => false

/-- The line leaves no cell open: its end does not stand inside quotes. -/
def Closed (line : Line) : Prop := line.stopsInQuotes = true → line.ending = []

instance : DecidablePred Closed := fun line =>
  inferInstanceAs (Decidable (line.stopsInQuotes = true → line.ending = []))

/-- The line as a record of its own. -/
def entry (line : Line) : Entry := Draft.record <$> line.text.foldlM Draft.read {}

/-- Nothing stands on the line. -/
def isBlank (line : Line) : Bool := line.text.isEmpty

theorem entry_eq_blank_iff {line : Line} : line.entry = .ok [] ↔ line.isBlank = true := by
  unfold entry isBlank
  rw [map_eq_ok_iff]
  constructor
  · rintro ⟨draft, read, blank⟩
    by_contra filled
    have filled : line.text ≠ [] := by simpa using filled
    exact Draft.state_ne_startRecord_of_foldlM filled read (Draft.record_eq_nil_iff.mp blank)
  · intro blank
    rw [List.isEmpty_iff.mp blank]
    exact ⟨{}, rfl, rfl⟩

end Line

/-! ### Records of a text -/

theorem entriesFrom_prefix {lines : List Line} (closed : ∀ line ∈ lines, line.Closed)
    (ends : ∀ before line next after, lines = before ++ line :: next :: after → line.ending ≠ []) :
    entriesFrom true {} lines <+: lines.map Line.entry := by
  induction lines with
  | nil => simp [entriesFrom]
  | cons line rest ih =>
    have later := ih (fun other member => closed other (.tail _ member))
      (fun before other next after split =>
        ends (line :: before) other next after (by rw [split]; rfl))
    cases read : line.text.foldlM Draft.read {} with
    | error fault =>
      have failed : readLine {} line = .error fault := by rw [readLine, read]; rfl
      have entry : line.entry = .error fault := by rw [Line.entry, read]; rfl
      rw [entriesFrom, failed, List.map_cons, entry]
      exact ⟨rest.map Line.entry, rfl⟩
    | ok draft =>
      have entry : line.entry = .ok draft.record := by rw [Line.entry, read]; rfl
      rw [List.map_cons, entry]
      by_cases quoted : draft.state = .inQuotes
      · -- A cell that is open at the end of its line is open at the end of the text.
        have unended : line.ending = [] :=
          closed line (.head _) (by simp [Line.stopsInQuotes, read, quoted])
        have last : rest = [] := by
          cases rest with
          | nil => rfl
          | cons next after => exact absurd unended (ends [] line next after rfl)
        have done : readLine {} line = .ok (.goesOn draft) := by
          rw [readLine, read]
          simp [quoted, unended, bind, Except.bind, pure, Except.pure]
        rw [entriesFrom, done, last]
        simp [entriesFrom, quoted]
      · have done : readLine {} line = .ok (.record draft.record) := by
          rw [readLine, read]
          simp [quoted, bind, Except.bind, pure, Except.pure]
        rw [entriesFrom, done]
        exact (List.prefix_cons_inj _).mpr later

/-- The records of a text whose lines leave no cell open. -/
theorem entries_prefix {text : List Char} (closed : ∀ line ∈ lines text, line.Closed) :
    entries text <+: (lines text).map Line.entry :=
  entriesFrom_prefix closed fun _ _ _ _ => ending_ne_nil

end VolatilityDesk.Csv
