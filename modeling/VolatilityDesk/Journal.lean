import VolatilityDesk.Json.Writer
import VolatilityDesk.Signal.Export
import VolatilityDesk.Trading.Report
import VolatilityDesk.Word
/-!
# The journal

The journal keeps every signal and every position for good. A signal that is recorded again is left
as it is; a position that is recorded again gets its closing replaced and nothing else. Rows are
numbered; every attempt to record takes the next number, also one that changes no row or an older
one, and only an attempt that fails gives its number back. A double without a value is stored as
nothing, and a negative zero as zero.

From the rows the journal answers which positions were closed last, and how well they did.
-/

namespace VolatilityDesk

/-- A recorded signal. -/
structure SignalRow where
  id : Nat
  signalId : String
  instrument : String
  direction : String
  entry : Float
  target : Float
  stop : Float
  expectedReturn : Float
  confidence : Float
  timeframe : String
  indicators : String
  createdAt : String

/-- A recorded position. -/
structure PositionRow where
  id : Nat
  positionId : String
  signalId : String
  instrument : String
  direction : String
  quantity : Int
  entry : Float
  exit : Option Float
  realized : Option Float
  closeReason : Option String
  closeDetail : String
  openedAt : String
  closedAt : Option String

/-- Why something cannot be recorded or asked. -/
inductive JournalFault where
  /-- A whole number of more than 64 bits. -/
  | numberTooLarge
  /-- A position without an entry price. -/
  | noEntry
  /-- A signal with a number missing was not recorded, so it has no row. -/
  | noRow
  deriving DecidableEq, Repr

/-- What is said about the fault. -/
def JournalFault.message : JournalFault → String
  | numberTooLarge => "Python int too large to convert to SQLite INTEGER"
  | noEntry => "NOT NULL constraint failed: positions.entry_price"
  | noRow => "'NoneType' object is not subscriptable"

/-- The recorded signals and positions, and the numbers used so far. -/
structure Journal where
  signals : List SignalRow := []
  positions : List PositionRow := []
  lastSignal : Nat := 0
  lastPosition : Nat := 0

/-- How the closed positions of an instrument did. -/
structure InstrumentSummary where
  instrument : String
  closed : Nat
  wins : Nat
  total : Option Float

/-- How all closed positions did. -/
structure Performance where
  signals : Nat
  closed : Nat
  wins : Nat
  winRate : Option Float
  total : Float
  averageReturn : Option Float
  byInstrument : List InstrumentSummary

namespace Journal

/-! ### Recording -/

/-- A double as it is stored. -/
def stored (x : Float) : Option Float :=
  if Number.isNan x then none else some (if x == 0.0 then 0.0 else x)

/-- The row of a signal, unless one of its numbers is missing. -/
def signalRow? (id : Nat) (s : Signal Float) : Option SignalRow := do
  return {
    id := id
    signalId := s.id
    instrument := s.instrument
    direction := s.direction.text
    entry := ← stored s.entry
    target := ← stored s.target
    stop := ← stored s.stop
    expectedReturn := ← stored s.expectedReturn
    confidence := ← stored s.confidence
    timeframe := s.timeframe
    indicators := s.indicators.record.line
    createdAt := s.createdAt.text }

/-- The row of a signal. -/
def signal? (j : Journal) (signalId : String) : Option SignalRow :=
  j.signals.find? (·.signalId == signalId)

/-- Records a signal, unless it is there already; answers with the number of its row. -/
def recordSignal (j : Journal) (s : Signal Float) : Except JournalFault Nat × Journal :=
  let id := j.lastSignal + 1
  let j := { j with lastSignal := id }
  match j.signal? s.id, signalRow? id s with
  | some row, _ => (.ok row.id, j)
  | none, some row => (.ok id, { j with signals := j.signals ++ [row] })
  | none, none => (.error .noRow, j)

/-- The row of a position. -/
def positionRow (id : Nat) (p : Position Float) (entry : Float) : PositionRow where
  id := id
  positionId := p.id
  signalId := p.signalId
  instrument := p.instrument
  direction := p.direction.text
  quantity := p.quantity
  entry := entry
  exit := p.exit.bind stored
  realized := p.realized.bind stored
  closeReason := p.closeReason.map CloseReason.text
  closeDetail := p.closeRemark.text
  openedAt := p.openedAt.text
  closedAt := p.closedAt.map Timestamp.text

/-- A row with the closing of another. -/
def PositionRow.withClosing (row closing : PositionRow) : PositionRow :=
  { row with
    exit := closing.exit
    realized := closing.realized
    closeReason := closing.closeReason
    closeDetail := closing.closeDetail
    closedAt := closing.closedAt }

/-- The row of a position. -/
def position? (j : Journal) (positionId : String) : Option PositionRow :=
  j.positions.find? (·.positionId == positionId)

/-- Records a position, or replaces the closing of its row; answers with the number of the row. -/
def recordPosition (j : Journal) (p : Position Float) : Except JournalFault Nat × Journal :=
  if Word.holds64 p.quantity then
    match stored p.entry with
    | none => (.error .noEntry, j)
    | some entry =>
      let id := j.lastPosition + 1
      let row := positionRow id p entry
      match j.position? p.id with
      | some old =>
        (.ok old.id, { j with
          lastPosition := id
          positions := j.positions.map fun r =>
            if r.positionId == p.id then PositionRow.withClosing r row else r })
      | none => (.ok id, { j with lastPosition := id, positions := j.positions ++ [row] })
  else (.error .numberTooLarge, j)

/-- Records one after the other; those before a fault stay recorded. -/
def recordEach {β : Type} (record : Journal → β → Except JournalFault Nat × Journal) :
    Journal → List β → Except JournalFault (List Nat) × Journal
  | j, [] => (.ok [], j)
  | j, x :: rest =>
    match record j x with
    | (.error fault, j) => (.error fault, j)
    | (.ok id, j) =>
      match recordEach record j rest with
      | (.error fault, j) => (.error fault, j)
      | (.ok ids, j) => (.ok (id :: ids), j)

/-- Records signals in their order, up to the first that fails. -/
def recordSignals (j : Journal) (signals : List (Signal Float)) :
    Except JournalFault (List Nat) × Journal :=
  recordEach recordSignal j signals

/-- Records positions in their order, up to the first that fails. -/
def recordPositions (j : Journal) (positions : List (Position Float)) :
    Except JournalFault (List Nat) × Journal :=
  recordEach recordPosition j positions

/-! ### Asking -/

/-- The closed positions in the order of their rows. -/
def closedRows (j : Journal) : List PositionRow := j.positions.filter (·.closedAt.isSome)

/-- The first row was closed later by the text of its time, or has the higher number. -/
def closedLater (a b : PositionRow) : Bool :=
  if a.closedAt.getD "" = b.closedAt.getD "" then decide (b.id ≤ a.id)
  else decide (b.closedAt.getD "" ≤ a.closedAt.getD "")

/-- The last closed positions, of one instrument or of all, at most as many as a limit says. A
negative limit is none. -/
def lastClosed (j : Journal) (instrument : String) (limit : Int) :
    Except JournalFault (List PositionRow) :=
  if Word.holds64 limit then
    let rows := j.closedRows.filter fun r => instrument.isEmpty || r.instrument == instrument
    let sorted := rows.mergeSort closedLater
    .ok (if limit < 0 then sorted else sorted.take limit.toNat)
  else .error .numberTooLarge

/-- A number, unless it has no value. -/
def valued (x : Float) : Option Float := if Number.isNan x then none else some x

/-- The sum of numbers, none without a number. The numbers are added one by one in their order, as
SQLite did before version 3.43; later versions carry the rounding errors along. -/
def total? (numbers : List Float) : Option Float :=
  if numbers.isEmpty then none else valued (numbers.foldl (· + ·) 0.0)

/-- The mean of numbers, which are added in the same way, none without a number. -/
def mean? (numbers : List Float) : Option Float :=
  if numbers.isEmpty then none
  else valued (numbers.foldl (· + ·) 0.0 / Number.ofCount numbers.length)

/-- A row's result in percent of its cost, none without a result or a cost. -/
def returnOf (r : PositionRow) : Option Float := do
  let realized ← r.realized
  let cost := r.entry * (← Number.ofInt? r.quantity)
  if cost == 0.0 then none else valued (realized * 100.0 / cost)

/-- The number of rows with a gain. -/
def countWins (rows : List PositionRow) : Nat :=
  rows.countP fun r => match r.realized with
    | some x => decide ((0.0 : Float) < x)
    | none => false

/-- How the closed positions of each instrument did, in the order of the instruments. -/
def byInstrument (rows : List PositionRow) : List InstrumentSummary :=
  let names := (distinct (rows.map (·.instrument))).mergeSort fun a b => decide (a ≤ b)
  names.map fun name =>
    let own := rows.filter (·.instrument == name)
    { instrument := name
      closed := own.length
      wins := countWins own
      total := total? (own.filterMap (·.realized)) }

/-- How all closed positions did. -/
def performance (j : Journal) : Performance :=
  let rows := j.closedRows
  let wins := countWins rows
  { signals := j.signals.length
    closed := rows.length
    wins := wins
    winRate :=
      if rows.isEmpty then none else some (Number.ofCount wins / Number.ofCount rows.length)
    total := (total? (rows.filterMap (·.realized))).getD 0.0
    averageReturn := mean? (rows.filterMap returnOf)
    byInstrument := byInstrument rows }

end Journal

end VolatilityDesk
