import VolatilityDesk.Csv.Reader
import VolatilityDesk.Decimal.Reader
import VolatilityDesk.Market.Series
import VolatilityDesk.Text.LetterCase
import VolatilityDesk.Text.Utf8
import VolatilityDesk.Time.Iso
/-!
# Price files

A price file lists samples as comma-separated records under the headings `timestamp`,
`instrument`, `price` and `volume`, in any order and with other columns beside them. Reading it
gives one series per instrument: names in upper case and in order, samples by their instants, equal
ones as they stand in the file. The first record that cannot be read is reported with its number.
-/

namespace VolatilityDesk

/-- What stands in a column of a record. -/
inductive Cell where
  | text (value : String)
  /-- The record ends before the column. -/
  | missing
  /-- The cells of a record beyond the last heading. -/
  | surplus (values : List String)
  deriving DecidableEq, Repr

/-- A record under its headings; cells beyond the last heading have none. -/
abbrev Row := List (Option String × Cell)

namespace Row

/-- Puts a cell under a heading; a heading that occurs again keeps its place. -/
def put (row : Row) (heading : Option String) (cell : Cell) : Row :=
  if row.any (·.1 == heading) then
    row.map fun entry => if entry.1 == heading then (heading, cell) else entry
  else row ++ [(heading, cell)]

/-- The cells of a record under the headings. -/
def ofCells (headings cells : List String) : Row :=
  let under := (headings.zip cells).foldl (fun row (h, c) => put row (some h) (.text c)) []
  if headings.length < cells.length then
    put under none (.surplus (cells.drop headings.length))
  else (headings.drop cells.length).foldl (fun row h => put row (some h) .missing) under

/-- The cell under a heading. -/
def cell (row : Row) (heading : String) : Cell := (row.lookup (some heading)).getD .missing

/-- A cell as a message shows it. -/
def cellText : Cell → String
  | .text value => Text.quoted value
  | .missing => "None"
  | .surplus values => "[" ++ ", ".intercalate (values.map Text.quoted) ++ "]"

/-- The record as it is shown in messages. -/
def text (row : Row) : String :=
  let entry (h : Option String) (c : Cell) : String :=
    ((h.map Text.quoted).getD "None") ++ ": " ++ cellText c
  "\x7b" ++ ", ".intercalate (row.map fun (h, c) => entry h c) ++ "\x7d"

end Row

/-- Why a record gives no sample. -/
inductive RowFault where
  /-- There is no cell for the instrument or the time. -/
  | noText
  | time (fault : TimeFault)
  | number (text : String)
  deriving DecidableEq, Repr

/-- What is said about the fault. -/
def RowFault.message : RowFault → String
  | noText => "'NoneType' object has no attribute 'strip'"
  | time fault => fault.message
  | number text => "could not convert string to float: " ++ Text.quoted text

/-- Why a price file cannot be read. -/
inductive PriceFileFault where
  | encoding (fault : Text.Utf8Fault)
  | format (fault : Csv.Fault)
  | missingColumns (file : String) (names : List String)
  /-- The record with a number, counted from two because of the headings. -/
  | badRow (file : String) (number : Nat) (row : Row) (fault : RowFault)
  /-- There is no cell for the price or the volume. -/
  | noNumber
  deriving DecidableEq, Repr

/-- What is said about the fault. -/
def PriceFileFault.message : PriceFileFault → String
  | encoding fault => fault.message
  | format fault => fault.message
  | missingColumns file names => file ++ ": missing column(s) " ++ ", ".intercalate names
  | badRow file number row fault =>
    s!"{file}:{number}: bad row " ++ row.text ++ ": " ++ fault.message
  | noNumber => "float() argument must be a string or a real number, not 'NoneType'"

/-- The file is at fault, and not the program that reads it. -/
def PriceFileFault.isBadFile : PriceFileFault → Bool
  | encoding _ | missingColumns _ _ | badRow _ _ _ _ => true
  | format _ | noNumber => false

/-- A price and a volume at a time. -/
structure Sample where
  time : Timestamp
  price : Float
  volume : Float

namespace PriceFile

/-- The headings that a price file needs, in order. -/
def columns : List String := ["instrument", "price", "timestamp", "volume"]

/-- Replaces the letter Z by the offset that it stands for. -/
def spellOffset (s : List Char) : List Char :=
  s.flatMap fun c => if c = 'Z' then "+00:00".toList else [c]

/-- Reads a time; one without an offset is universal. -/
def readTime (cell : String) : Except TimeFault Timestamp := do
  let text := String.ofList (spellOffset (Text.trimWhile Text.isSpace cell.toList))
  return (← Iso.read text).assumeUniversal

/-- Why a cell gives no number. -/
inductive NumberFault where
  | missing
  | malformed (text : String)

/-- The number in a cell. -/
def readNumber : Cell → Except NumberFault Float
  | .text s =>
    match Decimal.floatOfText? s with
    | some x => .ok x
    | none => .error (.malformed s)
  | _ => .error .missing

/-- The sample of a record and its instrument. The cells are read in a fixed order: instrument,
time, price, volume. -/
def readRow (file : String) (number : Nat) (row : Row) :
    Except PriceFileFault (String × Sample) := do
  let bad {α : Type} (fault : RowFault) : Except PriceFileFault α :=
    .error (.badRow file number row fault)
  let value (heading : String) : Except PriceFileFault Float :=
    match readNumber (row.cell heading) with
    | .ok x => .ok x
    | .error .missing => .error .noNumber
    | .error (.malformed text) => bad (.number text)
  let instrument ← match row.cell "instrument" with
    | .text s => .ok (Text.upperCase (Text.strip s))
    | _ => bad .noText
  let time ← match row.cell "timestamp" with
    | .text s => match readTime s with
      | .ok t => .ok t
      | .error fault => bad (.time fault)
    | _ => bad .noText
  let price ← value "price"
  let volume ← value "volume"
  return (instrument, ⟨time, price, volume⟩)

/-- The samples of the records below the headings, numbered from two. Blank records are passed
over and not counted. -/
def readRows (file : String) (headings : List String) :
    Nat → List Csv.Entry → Except PriceFileFault (List (String × Sample))
  | _, [] => .ok []
  | _, .error fault :: _ => .error (.format fault)
  | number, .ok [] :: rest => readRows file headings number rest
  | number, .ok cells :: rest => do
    let sample ← readRow file number (Row.ofCells headings cells)
    return sample :: (← readRows file headings (number + 1) rest)

/-- The samples of all records with the instruments that they belong to. -/
def readEntries (file : String) (entries : List Csv.Entry) :
    Except PriceFileFault (List (String × Sample)) := do
  let headings ← match entries with
    | .ok headings :: _ => .ok headings
    | .error fault :: _ => .error (.format fault)
    | [] => .ok []
  let missing := columns.filter (!headings.contains ·)
  if missing.isEmpty then readRows file headings 2 (entries.drop 1)
  else throw (.missingColumns file missing)

/-- The samples of one instrument by their instants, equal ones in the order of the list. -/
def samplesOf (instrument : String) (samples : List (String × Sample)) : List Sample :=
  (samples.filterMap fun (name, sample) =>
      if name = instrument then some sample else none).mergeSort
    fun a b => decide (a.time.instant ≤ b.time.instant)

/-- A series of samples. -/
def seriesOf (instrument : String) (samples : List Sample) : Series Float where
  instrument := instrument
  prices := samples.map (·.price)
  volumes := samples.map (·.volume)
  timestamps := samples.map (·.time)
  volumes_length := by simp
  timestamps_length := by simp

/-- One series per instrument, in the order of their names. -/
def gather (samples : List (String × Sample)) : Snapshot Float :=
  let names := (distinct (samples.map (·.1))).mergeSort fun a b => decide (a ≤ b)
  names.map fun name => (name, seriesOf name (samplesOf name samples))

/-- Reads a price file from its bytes. Where they encode no text, the records that are complete
before are read first. -/
def read (file : String) (bytes : List Nat) : Except PriceFileFault (Snapshot Float) := do
  let decoded := Text.Utf8.decode bytes
  match decoded.fault with
  | none => return gather (← readEntries file (Csv.entries decoded.text))
  | some fault =>
    let entries := Csv.completeEntries decoded.text
    if !entries.isEmpty then
      let _ ← readEntries file entries
    throw (.encoding fault)

end PriceFile

end VolatilityDesk
