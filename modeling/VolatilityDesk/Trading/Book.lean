import VolatilityDesk.Trading.Position
/-!
# The book

The book holds at most one open position per instrument, in the order of their opening, and all
closed ones, in the order of their closing. A signal opens a position when there is none and closes
one of the other direction; a scan closes the positions that have lost too much; flattening closes
all that have a price. Whatever cannot be done is a result with its cause.
-/

namespace VolatilityDesk

/-- What came of a signal. -/
inductive TradeOutcome (α : Type) where
  | opened (position : Position α)
  /-- The position was closed on a signal in the other direction. -/
  | closed (position : Position α)
  | alreadyOpen (position : Position α)
  /-- There is nothing to sell, and selling short is not allowed. -/
  | noPosition
  | insufficientCapital (price capital : α)
  | invalidPrice (price : α)
  /-- The day's loss limit was reached. -/
  | halted (day : Date) (limit : α)

/-- What came of a signal on an instrument. -/
structure TradeResult (α : Type) where
  instrument : String
  outcome : TradeOutcome α

namespace TradeResult

variable {α : Type}

/-- The position that was opened. -/
def opened? (r : TradeResult α) : Option (Position α) :=
  match r.outcome with
  | .opened p => some p
  | _ => none

/-- The position that was closed. -/
def closed? (r : TradeResult α) : Option (Position α) :=
  match r.outcome with
  | .closed p => some p
  | _ => none

/-- The position that the result is about. -/
def position? (r : TradeResult α) : Option (Position α) :=
  match r.outcome with
  | .opened p | .closed p | .alreadyOpen p => some p
  | _ => none

/-- Something was opened or closed. -/
def acted (r : TradeResult α) : Bool := r.opened?.isSome || r.closed?.isSome

end TradeResult

/-- Live prices of instruments. -/
abbrev Prices (α : Type) := List (String × α)

/-- Open and closed positions. -/
structure Book (α : Type) where
  /-- The capital committed per position. -/
  capital : α
  allowShort : Bool
  /-- The open positions in the order of their opening, one per instrument. -/
  active : List (Position α) := []
  /-- The closed positions in the order of their closing. -/
  closed : List (Position α) := []
  /-- The number of positions opened so far, on this book and before it. -/
  serial : Nat := 0

namespace Book

variable {α : Type} [Number α]

/-- The open position of an instrument. -/
def position? (b : Book α) (instrument : String) : Option (Position α) :=
  b.active.find? (·.instrument == instrument)

/-- The identifier of a position by its serial number. -/
def positionId (instrument : String) (serial : Nat) : String :=
  instrument ++ "-" ++ Date.padded 12 serial

/-- A price that can be traded at. -/
def isValidPrice (price : α) : Bool := !(decide (price ≤ 0.0) || Number.isNan price)

/-- The open positions of all other instruments. -/
def others (b : Book α) (instrument : String) : List (Position α) :=
  b.active.filter (·.instrument != instrument)

/-- Closes the position of an instrument on a signal. -/
def closeOn (b : Book α) (p : Position α) (s : Signal α) (price : α) (now : Timestamp) :
    Except TradingFault (Book α × TradeResult α) := do
  let closed ← p.close price .signal now (.opposing s.direction s.id)
  return ({ b with active := b.others p.instrument, closed := b.closed ++ [closed] },
    ⟨p.instrument, .closed closed⟩)

/-- The position that a signal opens as the next one of the book. -/
def newPosition (b : Book α) (s : Signal α) (quantity : Int) (price : α) (now : Timestamp) :
    Position α where
  id := positionId s.instrument (b.serial + 1)
  instrument := s.instrument
  direction := s.direction
  quantity := quantity
  entry := price
  openedAt := now
  signalId := s.id
  target := some s.target
  stop := some s.stop

/-- Opens a position with as many units as the capital buys. -/
def openOn (b : Book α) (s : Signal α) (price : α) (now : Timestamp) :
    Except TradingFault (Book α × TradeResult α) :=
  match Number.whole (b.capital / price) with
  | .error fault => .error (.noQuantity fault)
  | .ok quantity =>
    if quantity ≤ 0 then .ok (b, ⟨s.instrument, .insufficientCapital price b.capital⟩)
    else
      let p := b.newPosition s quantity price now
      .ok ({ b with active := b.active ++ [p], serial := b.serial + 1 },
        ⟨s.instrument, .opened p⟩)

/-- Applies a signal to the position of its instrument at a live price. -/
def act (b : Book α) (s : Signal α) (price : α) (now : Timestamp) :
    Except TradingFault (Book α × TradeResult α) :=
  if isValidPrice price then
    match b.position? s.instrument with
    | some p =>
      if s.direction = p.direction then .ok (b, ⟨s.instrument, .alreadyOpen p⟩)
      else b.closeOn p s price now
    | none =>
      if s.direction = .sell ∧ !b.allowShort then .ok (b, ⟨s.instrument, .noPosition⟩)
      else b.openOn s price now
  else .ok (b, ⟨s.instrument, .invalidPrice price⟩)

/-- Sorts open positions into those that stay and those that a rule closes. -/
def sweep (rule : Position α → Except TradingFault (Option (Position α))) :
    List (Position α) → Except TradingFault (List (Position α) × List (Position α))
  | [] => .ok ([], [])
  | p :: rest => do
    let closed ← rule p
    let (kept, gone) ← sweep rule rest
    return match closed with
      | some q => (kept, q :: gone)
      | none => (p :: kept, gone)

/-- Closes open positions by a rule and answers with those closed. -/
def closeBy (b : Book α) (rule : Position α → Except TradingFault (Option (Position α))) :
    Except TradingFault (Book α × List (Position α)) := do
  let (kept, gone) ← sweep rule b.active
  return ({ b with active := kept, closed := b.closed ++ gone }, gone)

/-- Closes a position that has a price at which it loses more than the limit. -/
def stopRule (prices : Prices α) (limit : α) (now : Timestamp) (p : Position α) :
    Except TradingFault (Option (Position α)) :=
  match prices.lookup p.instrument with
  | none => .ok none
  | some price => do
    let loss := -(← p.pnlAt price)
    if limit < loss then return some (← p.close price .stopLoss now (.lossExceeded loss limit))
    else return none

/-- Closes a position that has a price. -/
def flattenRule (prices : Prices α) (now : Timestamp) (p : Position α) :
    Except TradingFault (Option (Position α)) :=
  match prices.lookup p.instrument with
  | none => .ok none
  | some price => return some (← p.close price .sessionEnd now .sessionEnd)

/-- Closes the positions that have lost more than a limit. -/
def scanStops (b : Book α) (prices : Prices α) (limit : α) (now : Timestamp) :
    Except TradingFault (Book α × List (Position α)) :=
  b.closeBy (stopRule prices limit now)

/-- Closes all positions that have a price. -/
def flatten (b : Book α) (prices : Prices α) (now : Timestamp) :
    Except TradingFault (Book α × List (Position α)) :=
  b.closeBy (flattenRule prices now)

/-- The profit or loss of the open positions that have a price, added up in their order. -/
def unrealized (b : Book α) (prices : Prices α) : Except TradingFault α :=
  b.active.foldlM (fun total p =>
    match prices.lookup p.instrument with
    | none => .ok total
    | some price => return total + (← p.pnlAt price)) 0.0

end Book

end VolatilityDesk
