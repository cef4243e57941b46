import VolatilityDesk.Trading.Book
import VolatilityDesk.Trading.Session
/-!
# Risk

The risk desk stands in front of the book. It keeps the realized result of the trading day, halts
new trades for the rest of the day once the day's loss reaches a limit, and starts a new day when
the session's date moves on; a date that moves back changes nothing. Every operation first brings
the day up to date. An operation that fails keeps what it has done before: the new day, but nothing
of the book.
-/

namespace VolatilityDesk

/-- The result of one trading day so far. -/
structure DailyState (α : Type) where
  day : Date
  realized : α
  halted : Bool := false
  haltedAt : Option Timestamp := none

namespace DailyState

variable {α : Type} [Number α]

/-- A day on which nothing has happened. -/
def fresh (day : Date) : DailyState α := { day := day, realized := 0.0 }

/-- Adds the results of closed positions in their order. -/
def record (s : DailyState α) (positions : List (Position α)) : DailyState α :=
  { s with realized := positions.foldl (fun total p =>
      match p.realized with
      | some pnl => total + pnl
      | none => total) s.realized }

/-- Halts the day when a total is not above the negative of the limit. -/
def checkLimit (s : DailyState α) (limit total : α) (now : Timestamp) : DailyState α :=
  if s.halted ∨ -limit < total then s else { s with halted := true, haltedAt := some now }

end DailyState

/-- What a scan found. -/
structure RiskScan (α : Type) where
  /-- The positions closed for their losses. -/
  closed : List (Position α)
  /-- The realized result of the day after the scan. -/
  realized : α
  unrealized : α
  halted : Bool
  /-- This scan halted the day. -/
  tripped : Bool

/-- The realized and the unrealized result together. -/
def RiskScan.total {α : Type} [Number α] (s : RiskScan α) : α := s.realized + s.unrealized

/-- The book behind its limits. -/
structure RiskDesk (α : Type) where
  book : Book α
  session : Session
  /-- A position is closed when it loses more than this. -/
  maxLoss : α
  /-- The day is halted when it has lost this much. -/
  maxDailyLoss : α
  /-- The day, once there was an operation. -/
  state : Option (DailyState α) := none

/-- The answer of an operation and the desk after it. -/
abbrev Outcome (α ρ : Type) := Except TradingFault ρ × RiskDesk α

namespace RiskDesk

variable {α : Type} [Number α]

/-- The state of the day at a time. -/
def today (d : RiskDesk α) (now : Timestamp) : Except TradingFault (DailyState α) :=
  match d.session.tradingDay now with
  | .error fault => .error (.time fault)
  | .ok day =>
    match d.state with
    | none => .ok (.fresh day)
    | some s => .ok (if s.day.number < day.number then .fresh day else s)

/-- Runs an operation on the day brought up to date. -/
def onToday {ρ : Type} (d : RiskDesk α) (now : Timestamp)
    (operation : DailyState α → Outcome α ρ) : Outcome α ρ :=
  match d.today now with
  | .error fault => (.error fault, d)
  | .ok s => operation s

/-- The desk with a state of the day. -/
def withState (d : RiskDesk α) (s : DailyState α) : RiskDesk α := { d with state := some s }

/-- The state of the day. -/
def dailyState (d : RiskDesk α) (now : Timestamp) : Outcome α (DailyState α) :=
  d.onToday now fun s => (.ok s, d.withState s)

/-- New trades are halted for the day. -/
def isHalted (d : RiskDesk α) (now : Timestamp) : Outcome α Bool :=
  match d.dailyState now with
  | (.ok s, d) => (.ok s.halted, d)
  | (.error fault, d) => (.error fault, d)

/-- Applies a signal unless the day is halted. -/
def act (d : RiskDesk α) (signal : Signal α) (price : α) (now : Timestamp) :
    Outcome α (TradeResult α) :=
  d.onToday now fun s =>
    if s.halted then
      (.ok ⟨signal.instrument, .halted s.day d.maxDailyLoss⟩, d.withState s)
    else
      match d.book.act signal price now with
      | .error fault => (.error fault, d.withState s)
      | .ok (book, result) =>
        let s := match result.closed? with
          | some p =>
            let s := s.record [p]
            s.checkLimit d.maxDailyLoss s.realized now
          | none => s
        (.ok result, { d with book := book, state := some s })

/-- Closes the positions that have lost too much, then checks the day's realized and unrealized
result together against the limit. -/
def scan (d : RiskDesk α) (prices : Prices α) (now : Timestamp) : Outcome α (RiskScan α) :=
  d.onToday now fun s =>
    match d.book.scanStops prices d.maxLoss now with
    | .error fault => (.error fault, d.withState s)
    | .ok (book, closed) =>
      let s := s.record closed
      match book.unrealized prices with
      | .error fault => (.error fault, { d with book := book, state := some s })
      | .ok unrealized =>
        let checked := s.checkLimit d.maxDailyLoss (s.realized + unrealized) now
        (.ok
          { closed := closed
            realized := checked.realized
            unrealized := unrealized
            halted := checked.halted
            tripped := checked.halted && !s.halted },
          { d with book := book, state := some checked })

/-- Closes all positions that have a price. -/
def flatten (d : RiskDesk α) (prices : Prices α) (now : Timestamp) :
    Outcome α (List (Position α)) :=
  d.onToday now fun s =>
    match d.book.flatten prices now with
    | .error fault => (.error fault, d.withState s)
    | .ok (book, closed) =>
      let s := s.record closed
      (.ok closed,
        { d with book := book, state := some (s.checkLimit d.maxDailyLoss s.realized now) })

end RiskDesk

/-- An empty book under the limits of the settings. The serial number counts the positions opened
elsewhere before. -/
def Book.ofLimits (l : Limits Float) (serial : Nat) : Book Float :=
  { capital := l.capital, allowShort := l.allowShort, serial := serial }

/-- The risk desk that settings describe, over a book. -/
def RiskDesk.ofSettings (zones : ZoneDatabase) (s : Settings) (book : Book Float) :
    Except SessionFault (RiskDesk Float) := do
  return {
    book := book
    session := ← Session.ofPlan zones s.session
    maxLoss := s.limits.maxLoss
    maxDailyLoss := s.limits.maxDailyLoss }

end VolatilityDesk
