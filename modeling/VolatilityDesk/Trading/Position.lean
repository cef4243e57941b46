import VolatilityDesk.Signal
/-!
# Positions

A position is a whole quantity of one instrument, bought or sold short at an entry price. While it
is open it has a profit or loss at every price; when it is closed the price, the time, the reason
and the realized result are recorded on it.
-/

namespace VolatilityDesk

/-- Whether a position is still held. -/
inductive PositionStatus where
  | open
  | closed
  deriving DecidableEq, Repr

/-- Why a position was closed. -/
inductive CloseReason where
  /-- A signal in the other direction. -/
  | signal
  | stopLoss
  /-- The session was about to end. -/
  | sessionEnd
  deriving DecidableEq, Repr

namespace PositionStatus

/-- The word for a status. -/
def text : PositionStatus → String
  | .open => "OPEN"
  | closed => "CLOSED"

/-- The status with a word. -/
def ofText? : String → Option PositionStatus
  | "OPEN" => some .open
  | "CLOSED" => some closed
  | _ => none

theorem ofText?_text (s : PositionStatus) : ofText? s.text = some s := by cases s <;> rfl

end PositionStatus

namespace CloseReason

/-- The word for a reason. -/
def text : CloseReason → String
  | signal => "signal"
  | stopLoss => "stop-loss"
  | sessionEnd => "eod-flatten"

/-- The reason with a word. -/
def ofText? : String → Option CloseReason
  | "signal" => some signal
  | "stop-loss" => some stopLoss
  | "eod-flatten" => some sessionEnd
  | _ => none

theorem ofText?_text (r : CloseReason) : ofText? r.text = some r := by cases r <;> rfl

end CloseReason

/-- What is remarked on the closing of a position. -/
inductive CloseRemark (α : Type) where
  | note (text : String)
  | opposing (direction : Direction) (signalId : String)
  | lossExceeded (loss limit : α)
  | sessionEnd

/-- Capital committed to one instrument. -/
structure Position (α : Type) where
  id : String
  instrument : String
  direction : Direction
  quantity : Int
  entry : α
  openedAt : Timestamp
  status : PositionStatus := .open
  /-- The signal that the position was opened on. -/
  signalId : String := ""
  target : Option α := none
  stop : Option α := none
  closedAt : Option Timestamp := none
  exit : Option α := none
  /-- The profit or loss at the exit price, to four places. -/
  realized : Option α := none
  closeReason : Option CloseReason := none
  closeRemark : CloseRemark α := .note ""

/-- Why a trading operation fails. -/
inductive TradingFault where
  /-- A quantity is too large to be multiplied with a price. -/
  | quantityTooLarge
  /-- The capital divided by the price has no whole part. -/
  | noQuantity (fault : WholeFault)
  | time (fault : TimeFault)
  /-- A signal names an instrument without a price. -/
  | noPrice (instrument : String)
  deriving DecidableEq, Repr

/-- What is said about the fault. -/
def TradingFault.message : TradingFault → String
  | quantityTooLarge => "int too large to convert to float"
  | noQuantity .nan => "cannot convert float NaN to integer"
  | noQuantity .infinite => "cannot convert float infinity to integer"
  | time fault => fault.message
  | noPrice instrument => instrument

namespace Position

variable {α : Type} [Number α]

/-- The position is still held. -/
def isOpen (p : Position α) : Bool := p.status = .open

/-- The quantity as a number to multiply prices with. -/
def units (p : Position α) : Except TradingFault α :=
  match Number.ofInt? p.quantity with
  | some q => .ok q
  | none => .error .quantityTooLarge

/-- The capital that the position was opened with. -/
def costBasis (p : Position α) : Except TradingFault α := do
  return p.entry * (← p.units)

/-- The gain of one unit at a price. -/
def unitGain (p : Position α) (price : α) : α :=
  match p.direction with
  | .buy => price - p.entry
  | .sell => p.entry - price

/-- The profit or loss if the position were closed at a price. -/
def pnlAt (p : Position α) (price : α) : Except TradingFault α := do
  return p.unitGain price * (← p.units)

/-- The realized result in percent of the cost, none while there is no result or no cost. -/
def returnPercent (p : Position α) : Except TradingFault (Option α) :=
  match p.realized with
  | none => .ok none
  | some pnl => do
    let cost ← p.costBasis
    return if cost == 0.0 then none else some (pnl / cost * 100.0)

/-- The position as it is after closing it at a price. -/
def close (p : Position α) (price : α) (reason : CloseReason) (now : Timestamp)
    (remark : CloseRemark α) : Except TradingFault (Position α) := do
  let pnl ← p.pnlAt price
  return { p with
    status := .closed
    exit := some price
    closedAt := some now
    realized := some (Number.round4 pnl)
    closeReason := some reason
    closeRemark := remark }

end Position

end VolatilityDesk
