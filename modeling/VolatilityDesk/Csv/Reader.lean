/-!
# Reading comma-separated records

A file is read line by line. Inside a quoted cell a comma or a line end is part of the cell and
two quotes stand for one; characters behind a closing quote are added to the cell. A record ends
at the end of a line outside quotes. A line that is empty is the record without cells.
-/

namespace VolatilityDesk.Csv

/-- Where the reader stands within a record. -/
inductive State where
  | startRecord
  | startCell
  | inCell
  | inQuotes
  | afterQuote
  deriving DecidableEq, Repr

/-- A record being read: its finished cells and the characters of the cell in hand, both in
reverse, and the number of those characters. -/
structure Draft where
  state : State := .startRecord
  cells : List String := []
  cell : List Char := []
  length : Nat := 0

/-- No cell may hold more characters than this. -/
def cellLimit : Nat := 131072

/-- A cell grew beyond the limit. -/
inductive Fault where
  | cellTooLong
  deriving DecidableEq, Repr

/-- What is said about the fault. -/
def Fault.message : Fault → String
  | .cellTooLong => s!"field larger than field limit ({cellLimit})"

namespace Draft

/-- The record with its last cell complete. -/
def finishCell (d : Draft) (state : State) : Draft :=
  { state := state, cells := String.ofList d.cell.reverse :: d.cells }

/-- The record with another character in its last cell. -/
def add (d : Draft) (c : Char) (state : State) : Except Fault Draft :=
  if cellLimit ≤ d.length then .error .cellTooLong
  else .ok { d with state := state, cell := c :: d.cell, length := d.length + 1 }

/-- Reads one character that ends no record. -/
def read (d : Draft) (c : Char) : Except Fault Draft :=
  match d.state with
  | .startRecord | .startCell =>
    if c = '"' then .ok { d with state := .inQuotes }
    else if c = ',' then .ok (d.finishCell .startCell)
    else d.add c .inCell
  | .inCell => if c = ',' then .ok (d.finishCell .startCell) else d.add c .inCell
  | .inQuotes => if c = '"' then .ok { d with state := .afterQuote } else d.add c .inQuotes
  | .afterQuote =>
    if c = '"' then d.add c .inQuotes
    else if c = ',' then .ok (d.finishCell .startCell)
    else d.add c .inCell

/-- The cells of a record that ends here. -/
def record (d : Draft) : List String :=
  match d.state with
  | .startRecord => []
  | _ => (d.finishCell .startRecord).cells.reverse

end Draft

/-- What one line leaves behind: a finished record, or a record that goes on in the next line. -/
inductive LineEnd where
  | record (cells : List String)
  | goesOn (draft : Draft)

/-- A line with its end, which is empty in the last line of a file. -/
structure Line where
  text : List Char
  ending : List Char

/-- Reads the characters of a line, then its end. -/
def readLine (d : Draft) (line : Line) : Except Fault LineEnd := do
  let d ← line.text.foldlM Draft.read d
  if d.state = .inQuotes then
    return .goesOn (← line.ending.foldlM Draft.read d)
  else return .record d.record

/-- The lines of a text: each ends with a line feed, a carriage return or both. The characters of
the line in hand are kept in reverse. -/
def linesFrom (line : List Char) : List Char → List Line
  | [] => if line.isEmpty then [] else [⟨line.reverse, []⟩]
  | '\r' :: '\n' :: rest => ⟨line.reverse, ['\r', '\n']⟩ :: linesFrom [] rest
  | c :: rest =>
    if c = '\r' ∨ c = '\n' then ⟨line.reverse, [c]⟩ :: linesFrom [] rest
    else linesFrom (c :: line) rest

/-- The lines of a text, each with its end. -/
def lines (text : List Char) : List Line := linesFrom [] text

/-- One step of reading: a record, or the fault that ends the reading. -/
abbrev Entry := Except Fault (List String)

/-- The records of the lines from a draft on. A record that is still open in its quotes after the
last line ends there if the file does; `closed` says that it does. -/
def entriesFrom (closed : Bool) (d : Draft) : List Line → List Entry
  | [] => if closed ∧ d.state = .inQuotes then [.ok d.record] else []
  | line :: rest =>
    match readLine d line with
    | .error fault => [.error fault]
    | .ok (.record cells) => .ok cells :: entriesFrom closed {} rest
    | .ok (.goesOn d) => entriesFrom closed d rest

/-- The records of a file, blank ones included. -/
def entries (text : List Char) : List Entry := entriesFrom true {} (lines text)

/-- The records whose lines are complete, when the rest of the file cannot be read. A carriage
return at the very end may be half of a line end, so its line is not complete. -/
def completeEntries (text : List Char) : List Entry :=
  let complete := (lines text).reverse.dropWhile fun line =>
    line.ending.isEmpty
  let complete := match complete with
    | last :: rest => if text.getLast? = some '\r' then rest else last :: rest
    | [] => []
  entriesFrom false {} complete.reverse

end VolatilityDesk.Csv
