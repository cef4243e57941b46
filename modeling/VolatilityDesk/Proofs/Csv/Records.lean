import VolatilityDesk.Csv.Reader
import VolatilityDesk.Csv.Writer
import VolatilityDesk.Proofs.Fallible
/-!
# Records that are read back

Records are read back from the text that was written for them, whatever characters their cells
hold, as long as the reader takes cells of their length. The reader is generalized to a limit of
any size, or none; the files of this library are read under the limit of `cellLimit`.

The text is cut into lines before it is read, also inside of quotes. `Stands` says what the entries
of a text are from a draft on, wherever in its line the draft was reached, so that the text can be
followed character by character.

* `entriesWithin_text` — records are read back from their text.
* `entriesWithin_cellLimit` — the limit of files is one of the limits treated here.
-/

namespace VolatilityDesk.Csv

open Fallible

/-! ### Limits -/

/-- The record with another character in its last cell, which may not pass a limit. -/
def Draft.addWithin (limit : Option Nat) (d : Draft) (c : Char) (state : State) :
    Except Fault Draft :=
  if ∃ most ∈ limit, most ≤ d.length then .error .cellTooLong
  else .ok { d with state := state, cell := c :: d.cell, length := d.length + 1 }

/-- Reads one character that ends no record, under a limit. -/
def Draft.readWithin (limit : Option Nat) (d : Draft) (c : Char) : Except Fault Draft :=
  match d.state with
  | .startRecord | .startCell =>
    if c = '"' then .ok { d with state := .inQuotes }
    else if c = ',' then .ok (d.finishCell .startCell)
    else d.addWithin limit c .inCell
  | .inCell => if c = ',' then .ok (d.finishCell .startCell) else d.addWithin limit c .inCell
  | .inQuotes =>
    if c = '"' then .ok { d with state := .afterQuote } else d.addWithin limit c .inQuotes
  | .afterQuote =>
    if c = '"' then d.addWithin limit c .inQuotes
    else if c = ',' then .ok (d.finishCell .startCell)
    else d.addWithin limit c .inCell

/-- Reads the characters of a line, then its end, under a limit. -/
def readLineWithin (limit : Option Nat) (d : Draft) (line : Line) : Except Fault LineEnd := do
  let d ← line.text.foldlM (Draft.readWithin limit) d
  if d.state = .inQuotes then
    return .goesOn (← line.ending.foldlM (Draft.readWithin limit) d)
  else return .record d.record

/-- The records of the lines from a draft on, under a limit. -/
def entriesFromWithin (limit : Option Nat) (d : Draft) : List Line → List Entry
  | [] => if d.state = .inQuotes then [.ok d.record] else []
  | line :: rest =>
    match readLineWithin limit d line with
    | .error fault => [.error fault]
    | .ok (.record cells) => .ok cells :: entriesFromWithin limit {} rest
    | .ok (.goesOn d) => entriesFromWithin limit d rest

/-- The records of a file under a limit for the length of its cells, or under none. -/
def entriesWithin (limit : Option Nat) (text : List Char) : List Entry :=
  entriesFromWithin limit {} (lines text)

theorem readWithin_cellLimit : Draft.readWithin (some cellLimit) = Draft.read := by
  have add : Draft.addWithin (some cellLimit) = Draft.add := by
    funext d c state
    simp [Draft.addWithin, Draft.add]
  funext d c
  cases state : d.state <;> simp only [Draft.readWithin, Draft.read, state, add]

/-- The limit of files is one of these limits. -/
theorem entriesWithin_cellLimit : entriesWithin (some cellLimit) = entries := by
  have line : readLineWithin (some cellLimit) = readLine := by
    funext d line
    unfold readLineWithin readLine
    rw [readWithin_cellLimit]
  have tail (lines : List Line) : ∀ d, entriesFromWithin (some cellLimit) d lines =
      entriesFrom true d lines := by
    induction lines with
    | nil => intro d; simp [entriesFromWithin, entriesFrom]
    | cons first rest ih =>
      intro d
      rcases read : readLine d first with fault | (cells | next) <;>
        simp only [entriesFromWithin, entriesFrom, line, read, ih]
  funext text
  exact tail _ _

/-- The cell is not longer than the limit, if there is one. -/
def Fits (limit : Option Nat) (cell : String) : Prop := ∀ most ∈ limit, cell.length ≤ most

variable {limit : Option Nat}

/-! ### Following a text -/

/-- The character is part of a line end. -/
def EndsLine (c : Char) : Prop := c = '\r' ∨ c = '\n'

theorem not_endsLine_of_plain {c : Char} (plain : needsQuotes c = false) : ¬ EndsLine c := by
  rintro (rfl | rfl)
  · cases plain
  · cases plain

theorem not_endsLine_quote : ¬ EndsLine '"' := by simp [EndsLine]

theorem not_endsLine_comma : ¬ EndsLine ',' := by simp [EndsLine]

/-- The entries of a text from a draft on, wherever in a line the draft was reached. -/
def Stands (limit : Option Nat) (d : Draft) (text : List Char) (es : List Entry) : Prop :=
  ∀ (start : Draft) (held : List Char),
    held.reverse.foldlM (Draft.readWithin limit) start = .ok d →
      entriesFromWithin limit start (linesFrom held text) = es

section Stands

variable {d d' : Draft} {c : Char} {rest : List Char} {es : List Entry}

theorem entriesFromWithin_of_goesOn {start : Draft} {line : Line} {lines : List Line}
    (read : line.text.foldlM (Draft.readWithin limit) start = .ok d) (inside : d.state = .inQuotes)
    (ends : line.ending.foldlM (Draft.readWithin limit) d = .ok d') :
    entriesFromWithin limit start (line :: lines) = entriesFromWithin limit d' lines := by
  have done : readLineWithin limit start line = .ok (.goesOn d') := by
    unfold readLineWithin
    rw [read]
    simp [bind, Except.bind, pure, Except.pure, inside, ends]
  rw [entriesFromWithin, done]

theorem foldlM_reverse_cons {start : Draft} {held : List Char}
    (reached : held.reverse.foldlM (Draft.readWithin limit) start = .ok d)
    (read : d.readWithin limit c = .ok d') :
    (c :: held).reverse.foldlM (Draft.readWithin limit) start = .ok d' := by
  rw [List.reverse_cons, List.foldlM_append, reached]
  simp [bind, Except.bind, read, pure, Except.pure]

/-- A character that is no part of a line end is read. -/
theorem Stands.cons (later : Stands limit d' rest es) (read : d.readWithin limit c = .ok d')
    (inside : ¬ EndsLine c) : Stands limit d (c :: rest) es := by
  intro start held reached
  have feed : ¬ (c = '\r' ∨ c = '\n') := inside
  rw [← later start (c :: held) (foldlM_reverse_cons reached read), linesFrom]
  · rw [if_neg feed]
  · intro more same
    exact absurd (.inl same) inside

theorem linesFrom_of_single {held : List Char} (ends : EndsLine c)
    (single : ∀ more, c :: rest ≠ '\r' :: '\n' :: more) :
    linesFrom held (c :: rest) = ⟨held.reverse, [c]⟩ :: linesFrom [] rest := by
  have feed : c = '\r' ∨ c = '\n' := ends
  rw [linesFrom, if_pos feed]
  intro more first second
  exact single more (by rw [first, second])

/-- Inside quotes every character is read, also the two of a line end one after the other. -/
theorem Stands.cons_of_inQuotes (later : Stands limit d' rest es)
    (read : d.readWithin limit c = .ok d') (inside : d.state = .inQuotes)
    (inside' : d'.state = .inQuotes) : Stands limit d (c :: rest) es := by
  by_cases ends : EndsLine c
  · intro start held reached
    rw [← later d' [] rfl]
    by_cases pair : ∃ more, c :: rest = '\r' :: '\n' :: more
    · obtain ⟨more, same⟩ := pair
      obtain ⟨rfl, rfl⟩ := List.cons.inj same
      have same : readLineWithin limit start ⟨held.reverse, ['\r', '\n']⟩ =
          readLineWithin limit d' ⟨[], ['\n']⟩ := by
        unfold readLineWithin
        rw [reached]
        simp [bind, Except.bind, pure, Except.pure, inside, inside', read]
      rw [linesFrom, linesFrom_of_single (.inr rfl) (by simp), entriesFromWithin,
        entriesFromWithin, same]
      rfl
    · have feed : [c].foldlM (Draft.readWithin limit) d = .ok d' := by simp [read]
      rw [linesFrom_of_single ends fun more same => pair ⟨more, same⟩,
        entriesFromWithin_of_goesOn reached inside feed]
  · exact later.cons read ends

/-- A line end outside quotes completes the record. -/
theorem stands_lineEnd (outside : d.state ≠ .inQuotes) :
    Stands limit d ('\r' :: '\n' :: rest) (.ok d.record :: entriesWithin limit rest) := by
  intro start held reached
  have done : readLineWithin limit start ⟨held.reverse, ['\r', '\n']⟩ = .ok (.record d.record) := by
    unfold readLineWithin
    rw [reached]
    simp [bind, Except.bind, pure, Except.pure, outside]
  rw [linesFrom, entriesFromWithin, done]
  rfl

end Stands

/-! ### Cells -/

namespace Draft

/-- The record with further characters in its last cell. -/
def push (d : Draft) (text : List Char) (state : State) : Draft :=
  { d with state := state, cell := text.reverse ++ d.cell, length := d.length + text.length }

theorem push_push (d : Draft) (first second : List Char) (state state' : State) :
    (d.push first state).push second state' = d.push (first ++ second) state' := by
  simp [push, Nat.add_assoc]

/-- Further characters can be added to the cell in hand. -/
def Room (limit : Option Nat) (d : Draft) (count : Nat) : Prop :=
  ∀ most ∈ limit, d.length + count ≤ most

theorem Room.push {d : Draft} {c : Char} {count : Nat} {state : State}
    (room : d.Room limit (count + 1)) : (d.push [c] state).Room limit count := by
  intro most bound
  have enough := room most bound
  simp only [Draft.push, List.length_singleton]
  omega

theorem addWithin_eq {d : Draft} {count : Nat} (c : Char) (state : State)
    (room : d.Room limit (count + 1)) : d.addWithin limit c state = .ok (d.push [c] state) := by
  unfold addWithin
  rw [if_neg]
  · rfl
  · rintro ⟨most, bound, full⟩
    have enough := room most bound
    omega

/-- The next character is the first one of a cell. -/
structure AtStart (d : Draft) : Prop where
  state : d.state = .startRecord ∨ d.state = .startCell
  cell : d.cell = []
  length : d.length = 0

theorem atStart_finishCell (d : Draft) : (d.finishCell .startCell).AtStart := ⟨.inr rfl, rfl, rfl⟩

/-- From the start of a cell on the second draft has taken a whole text into it. -/
structure Takes (d d' : Draft) (text : String) : Prop where
  cells : d'.cells = d.cells
  cell : d'.cell = text.toList.reverse
  outside : d'.state ≠ .inQuotes
  shown : d'.state = .startRecord → d.state = .startRecord ∧ text = ""

theorem AtStart.takes_push {d : Draft} {text : String} {state : State} (start : d.AtStart)
    (outside : state ≠ .inQuotes) (shown : state ≠ .startRecord) :
    d.Takes (d.push text.toList state) text where
  cells := rfl
  cell := by simp [push, start.cell]
  outside := outside
  shown := fun same => absurd same shown

theorem Takes.cells_finishCell {d d' : Draft} {text : String} {state : State}
    (takes : Takes d d' text) : (d'.finishCell state).cells = text :: d.cells := by
  simp [finishCell, takes.cell, takes.cells]

section Steps

variable {d : Draft} {c : Char} {count : Nat}

theorem read_opening (start : d.AtStart) :
    d.readWithin limit '"' = .ok (d.push [] .inQuotes) := by
  unfold readWithin
  rcases start.state with state | state <;> rw [state] <;> rfl

theorem read_first (start : d.AtStart) (plain : needsQuotes c = false)
    (room : d.Room limit (count + 1)) : d.readWithin limit c = .ok (d.push [c] .inCell) := by
  simp only [needsQuotes, Bool.or_eq_false_iff, beq_eq_false_iff_ne] at plain
  unfold readWithin
  rcases start.state with state | state <;> rw [state] <;> simp [plain, addWithin_eq c .inCell room]

theorem read_next (inside : d.state = .inCell) (plain : needsQuotes c = false)
    (room : d.Room limit (count + 1)) : d.readWithin limit c = .ok (d.push [c] .inCell) := by
  simp only [needsQuotes, Bool.or_eq_false_iff, beq_eq_false_iff_ne] at plain
  unfold readWithin
  rw [inside]
  simp [plain, addWithin_eq c .inCell room]

theorem read_quoted (inside : d.state = .inQuotes) (other : c ≠ '"')
    (room : d.Room limit (count + 1)) : d.readWithin limit c = .ok (d.push [c] .inQuotes) := by
  unfold readWithin
  rw [inside]
  simp [other, addWithin_eq c .inQuotes room]

theorem read_closing (inside : d.state = .inQuotes) :
    d.readWithin limit '"' = .ok (d.push [] .afterQuote) := by
  unfold readWithin
  rw [inside]
  rfl

/-- Two quotes inside of quotes are one. -/
theorem read_second (behind : d.state = .afterQuote) (room : d.Room limit (count + 1)) :
    d.readWithin limit '"' = .ok (d.push ['"'] .inQuotes) := by
  unfold readWithin
  rw [behind]
  simp [addWithin_eq '"' .inQuotes room]

theorem read_comma (outside : d.state ≠ .inQuotes) :
    d.readWithin limit ',' = .ok (d.finishCell .startCell) := by
  unfold readWithin
  split <;> simp_all

end Steps

end Draft

section Cells

open Draft

variable {d : Draft} {rest : List Char} {es : List Entry}

/-- The rest of a cell in quotes, every quote in it twice, and the quote that closes it. -/
theorem stands_quoted (text : List Char) (inside : d.state = .inQuotes)
    (room : d.Room limit text.length) (later : Stands limit (d.push text .afterQuote) rest es) :
    Stands limit d (text.flatMap doubled ++ '"' :: rest) es := by
  induction text generalizing d with
  | nil => exact later.cons (read_closing inside) not_endsLine_quote
  | cons c text ih =>
    rw [List.length_cons] at room
    have next : Stands limit (d.push [c] .inQuotes) (text.flatMap doubled ++ '"' :: rest) es := by
      apply ih rfl (Room.push room)
      rw [push_push]
      exact later
    rw [List.flatMap_cons, List.append_assoc]
    by_cases quote : c = '"'
    · subst quote
      have second : Stands limit (d.push [] .afterQuote)
          ('"' :: (text.flatMap doubled ++ '"' :: rest)) es :=
        next.cons (read_second rfl room) not_endsLine_quote
      exact second.cons (read_closing inside) not_endsLine_quote
    · have single : doubled c = [c] := if_neg quote
      rw [single]
      exact next.cons_of_inQuotes (read_quoted inside quote room) inside rfl

/-- The rest of a cell without quotes. -/
theorem stands_plain (text : List Char) (plain : ∀ c ∈ text, needsQuotes c = false)
    (inside : d.state = .inCell) (room : d.Room limit text.length)
    (later : Stands limit (d.push text .inCell) rest es) : Stands limit d (text ++ rest) es := by
  induction text generalizing d with
  | nil =>
    have same : d.push [] .inCell = d := by
      rw [← inside]
      rfl
    rwa [same] at later
  | cons c text ih =>
    rw [List.length_cons] at room
    have unmarked := plain c (.head _)
    have next : Stands limit (d.push [c] .inCell) (text ++ rest) es := by
      apply ih (fun x member => plain x (.tail _ member)) rfl (Room.push room)
      rw [push_push]
      exact later
    exact next.cons (read_next inside unmarked room) (not_endsLine_of_plain unmarked)

/-- A cell is read as it was written. -/
theorem stands_cellText {cell : String} (start : d.AtStart) (fits : Fits limit cell)
    (later : ∀ d', Takes d d' cell → Stands limit d' rest es) :
    Stands limit d ((cellText cell).toList ++ rest) es := by
  have room : d.Room limit cell.toList.length := by
    intro most bound
    rw [start.length, Nat.zero_add, String.length_toList]
    exact fits most bound
  unfold cellText
  split
  · rw [String.toList_ofList, List.cons_append, List.cons_append, List.append_assoc]
    have taken : Takes d (d.push cell.toList .afterQuote) cell :=
      start.takes_push (by simp) (by simp)
    have inside : Stands limit (d.push [] .inQuotes)
        (cell.toList.flatMap doubled ++ '"' :: rest) es := by
      apply stands_quoted cell.toList
      · rfl
      · exact room
      · exact later _ taken
    exact inside.cons (read_opening start) not_endsLine_quote
  · rename_i unmarked
    have plain : ∀ c ∈ cell.toList, needsQuotes c = false := by simpa using unmarked
    cases parts : cell.toList with
    | nil =>
      have empty : cell = "" := String.toList_injective parts
      refine later d ⟨rfl, ?_, ?_, fun first => ⟨first, empty⟩⟩
      · rw [start.cell, parts]
        rfl
      · rcases start.state with state | state <;> simp [state]
    | cons c text =>
      rw [parts] at plain room
      have first := plain c (.head _)
      have others : ∀ x ∈ text, needsQuotes x = false := fun x member => plain x (.tail _ member)
      have taken : Takes d (d.push (c :: text) .inCell) cell := by
        rw [← parts]
        exact start.takes_push (by simp) (by simp)
      have next : Stands limit (d.push [c] .inCell) (text ++ rest) es := by
        apply stands_plain text others rfl (Room.push room)
        rw [push_push]
        exact later _ taken
      exact next.cons (read_first start first room) (not_endsLine_of_plain first)

/-- The cells of a record with commas between them, and the line end. -/
theorem stands_cells {cells : List String} (start : d.AtStart) (filled : cells ≠ [])
    (shown : d.state = .startRecord → cells ≠ [""]) (fits : ∀ cell ∈ cells, Fits limit cell) :
    Stands limit d ((",".intercalate (cells.map cellText)).toList ++ '\r' :: '\n' :: rest)
      (.ok (d.cells.reverse ++ cells) :: entriesWithin limit rest) := by
  induction cells generalizing d with
  | nil => exact absurd rfl filled
  | cons cell others ih =>
    have fits' := fits cell (.head _)
    cases others with
    | nil =>
      rw [List.map_singleton, String.intercalate_singleton]
      refine stands_cellText start fits' fun d' takes => ?_
      have record : d'.record = d.cells.reverse ++ [cell] := by
        have whole : (d'.finishCell .startRecord).cells = cell :: d.cells := takes.cells_finishCell
        rw [← List.reverse_cons, ← whole]
        unfold Draft.record
        split
        · rename_i first
          obtain ⟨first, rfl⟩ := takes.shown first
          exact absurd rfl (shown first)
        · rfl
      rw [← record]
      exact stands_lineEnd takes.outside
    | cons second others =>
      rw [List.map_cons, List.map_cons, String.intercalate_cons_cons, ← List.map_cons,
        String.toList_append, String.toList_append, List.append_assoc, List.append_assoc]
      refine stands_cellText start fits' fun d' takes => ?_
      have next := ih (d'.atStart_finishCell) (List.cons_ne_nil _ _)
        (by simp [finishCell]) fun x member => fits x (.tail _ member)
      rw [takes.cells_finishCell, List.reverse_cons, List.append_assoc] at next
      exact next.cons (read_comma takes.outside) not_endsLine_comma

end Cells

/-! ### Records -/

/-- A record is read back, and the reader is at the start of the next one. -/
theorem entriesWithin_recordText {cells : List String} (filled : cells ≠ [])
    (fits : ∀ cell ∈ cells, Fits limit cell) (rest : List Char) :
    entriesWithin limit ((recordText cells).toList ++ rest) =
      .ok cells :: entriesWithin limit rest := by
  have start : ({} : Draft).AtStart := ⟨.inl rfl, rfl, rfl⟩
  have stands : Stands limit {} ((recordText cells).toList ++ rest)
      (.ok cells :: entriesWithin limit rest) := by
    unfold recordText
    rw [String.toList_append, List.append_assoc]
    split
    · rename_i blank
      subst blank
      have closed : Stands limit (Draft.push {} [] .afterQuote) ('\r' :: '\n' :: rest)
          (.ok [""] :: entriesWithin limit rest) := stands_lineEnd (by simp [Draft.push])
      have opened : Stands limit (Draft.push {} [] .inQuotes) ('"' :: '\r' :: '\n' :: rest)
          (.ok [""] :: entriesWithin limit rest) :=
        closed.cons (Draft.read_closing rfl) not_endsLine_quote
      exact opened.cons (Draft.read_opening start) not_endsLine_quote
    · rename_i shown
      exact stands_cells start filled (fun _ => shown) fits
  exact stands {} [] rfl

/-- **What is written is read back.** -/
theorem entriesWithin_text {records : List (List String)} (filled : ∀ cells ∈ records, cells ≠ [])
    (fits : ∀ cells ∈ records, ∀ cell ∈ cells, Fits limit cell) :
    entriesWithin limit (text records).toList = records.map .ok := by
  unfold text
  induction records with
  | nil => rfl
  | cons cells records ih =>
    rw [List.map_cons, String.join_cons, String.toList_append,
      entriesWithin_recordText (filled cells (.head _)) (fits cells (.head _)),
      ih (fun x member => filled x (.tail _ member)) (fun x member => fits x (.tail _ member)),
      List.map_cons]

end VolatilityDesk.Csv
