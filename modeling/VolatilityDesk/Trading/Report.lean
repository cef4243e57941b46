import VolatilityDesk.Signal.Report
import VolatilityDesk.Trading.Risk
/-!
# Positions and risk for people

The words for what came of a signal, the table of positions, the report on the day's risk, and the
message about a closed position.
-/

namespace VolatilityDesk

/-! ### Results of signals -/

namespace TradeOutcome

/-- The short name of an outcome. -/
def name : TradeOutcome Float → String
  | opened _ => "opened"
  | closed _ => "closed"
  | alreadyOpen _ => "already_open"
  | noPosition => "no_position"
  | insufficientCapital _ _ => "insufficient_capital"
  | invalidPrice _ => "invalid_price"
  | halted _ _ => "halted"

end TradeOutcome

namespace TradeResult

/-- What happened, and why. -/
def reason (r : TradeResult Float) : String :=
  match r.outcome with
  | .opened p => s!"opened {p.direction.text} x{p.quantity}"
  | .closed p => s!"closed {p.direction.text} on {p.direction.opposite.text} signal"
  | .alreadyOpen _ => s!"position already open for {r.instrument}"
  | .noPosition => s!"no open position for {r.instrument} to sell"
  | .insufficientCapital price capital =>
    s!"insufficient capital to buy {r.instrument} at ${FixedFormat.cents.text price} "
      ++ s!"(capital ${FixedFormat.cents.text capital})"
  | .invalidPrice price => s!"invalid live price {Shortest.text .lower price}"
  | .halted day limit =>
    s!"trading halted for {day.text}: daily loss limit ${FixedFormat.cents.text limit} reached"

/-- A result on one line. -/
def line (r : TradeResult Float) : String := s!"{r.instrument}: {r.outcome.name} - {r.reason}"

end TradeResult

/-! ### Positions -/

/-- The words of a remark. -/
def CloseRemark.text : CloseRemark Float → String
  | .note text => text
  | .opposing direction signalId => s!"opposing {direction.text} signal {signalId}"
  | .lossExceeded loss limit =>
    s!"Loss of ${FixedFormat.cents.text loss} exceeds max loss of ${FixedFormat.cents.text limit}"
  | .sessionEnd => "End of trading window - closing all positions"

/-- The number, or zero for none; a zero has no sign. -/
def orZero (x : Option Float) : Float :=
  match x with
  | some x => if x == 0.0 then 0.0 else x
  | none => 0.0

/-- A gain or a loss with its sign. -/
def signedDollars (x : Float) : String := "$" ++ FixedFormat.signedAmount.text x

/-- A gain or a loss in its colour. -/
def colouredGain (x : Float) : String := coloured (gainColour x) (FixedFormat.signedAmount.text x)

namespace Position

/-- The message about a closed position. -/
def alert (p : Position Float) : String :=
  let pnl := orZero p.realized
  let icon := if (0.0 : Float) ≤ pnl then "✅" else "🔻"
  let reason := (p.closeReason.map CloseReason.text).getD "closed"
  let remark := p.closeRemark.text
  joinLines ([
    s!"{icon} *CLOSED {p.instrument}* ({reason})",
    "",
    s!"{p.direction.text} x{p.quantity}",
    s!"Entry {dollars p.entry} -> Exit {dollars (orZero p.exit)}",
    s!"P&L: {signedDollars pnl}"] ++ if remark.isEmpty then [] else [remark])

/-- The last price and the result of a position: at the live price while it is open, at the exit
price after it was closed. -/
def lastAndResult (p : Position Float) (prices : Prices Float) :
    Except TradingFault (Option Float × Option Float) :=
  if p.isOpen then
    match prices.lookup p.instrument with
    | none => .ok (none, none)
    | some price => return (some price, some (← p.pnlAt price))
  else .ok (p.exit, p.realized)

/-- The columns of the table of positions. -/
def columns : List String := ["Symbol", "Dir", "Qty", "Entry", "Last/Exit", "PnL", "Status"]

/-- The row of a position at the latest prices. -/
def row (prices : Prices Float) (p : Position Float) : Except TradingFault (List String) := do
  let (last, pnl) ← p.lastAndResult prices
  let status :=
    if p.isOpen then "OPEN" else (p.closeReason.map CloseReason.text).getD "CLOSED"
  return [p.instrument, p.direction.text, toString p.quantity, dollars p.entry,
    (last.map dollars).getD "-", (pnl.map colouredGain).getD "-", status]

/-- What is printed for positions at live prices. -/
def table (title : String) (prices : Prices Float) (positions : List (Position Float)) :
    Except TradingFault (List Printed) := do
  if positions.isEmpty then return [.line "[dim]No positions.[/dim]"]
  else return [.table { title := title, columns := columns, rows := ← positions.mapM (row prices) }]

end Position

/-! ### Risk -/

namespace RiskDesk

/-- The line of an open position in the risk report. -/
def reportLine (prices : Prices Float) (p : Position Float) : Except TradingFault String :=
  let head := s!"  {p.instrument}: {p.direction.text} x{p.quantity} @ {dollars p.entry}"
  match prices.lookup p.instrument with
  | none => .ok (head ++ " (no price)")
  | some price => do
    let pnl ← p.pnlAt price
    let cost ← p.costBasis
    let percent := if cost == 0.0 then 0.0 else pnl / cost * 100.0
    return head ++ s!" -> {dollars price}  P&L {signedDollars pnl} "
      ++ s!"({FixedFormat.signedCents.text percent}%)"

/-- The report on a day at a time. -/
def reportOn (d : RiskDesk Float) (s : DailyState Float) (prices : Prices Float)
    (now : Timestamp) : Except TradingFault String := do
  let positions ← d.book.active.mapM (reportLine prices)
  let isOpen ← (d.session.isOpen now).mapError .time
  let flattening ← (d.session.shouldFlatten now).mapError .time
  return joinLines ([
    "Risk Management Report",
    "======================",
    "",
    s!"Trading day: {s.day.text}",
    s!"Realized P&L: {dollars s.realized}",
    s!"Max daily loss: {dollars d.maxDailyLoss}",
    s!"Max loss per trade: {dollars d.maxLoss}",
    "",
    "Open positions:"]
    ++ (if positions.isEmpty then ["  none"] else positions)
    ++ ["",
      "Status:",
      if s.halted then "  HALTED: daily loss limit reached" else "  Daily loss limit not reached",
      if isOpen then "  Within trading window" else "  Outside trading window"]
    ++ if flattening then ["  Closing window: flatten all positions"] else [])

/-- The report on the day's risk at live prices. -/
def report (d : RiskDesk Float) (prices : Prices Float) (now : Timestamp) :
    Outcome Float String :=
  d.onToday now fun s => (d.reportOn s prices now, d.withState s)

end RiskDesk

end VolatilityDesk
