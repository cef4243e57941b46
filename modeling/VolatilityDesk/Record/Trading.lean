import VolatilityDesk.Record.Market
import VolatilityDesk.Trading.Report
import VolatilityDesk.Trading.Tick
/-!
# Records of trading

Positions, the results of signals, the state of a day, scans and ticks as interchange records.
-/

namespace VolatilityDesk.Record

/-- A position. -/
def position (p : Position Float) : Json :=
  .object [
    ("id", .text p.id), ("instrument", .text p.instrument),
    ("direction", .text p.direction.text), ("quantity", .ofInt p.quantity),
    ("entry_price", float p.entry), ("opened_at", time p.openedAt),
    ("status", .text p.status.text), ("signal_id", .text p.signalId),
    ("target_price", float? p.target), ("stop_price", float? p.stop),
    ("closed_at", time? p.closedAt), ("exit_price", float? p.exit),
    ("realized_pnl", float? p.realized),
    ("close_reason", .ofOption (fun r => .text (CloseReason.text r)) p.closeReason),
    ("close_detail", .text p.closeRemark.text)]

/-- Positions in their order. -/
def positions (l : List (Position Float)) : Json := .list (l.map position)

/-- The identifiers of positions. -/
def ids (l : List (Position Float)) : Json := .texts (l.map (·.id))

/-- What came of a signal. -/
def tradeResult (r : TradeResult Float) : Json :=
  .object [
    ("instrument", .text r.instrument), ("outcome", .text r.outcome.name),
    ("position", .ofOption position r.position?), ("reason", .text r.reason),
    ("acted", .bool r.acted), ("line", .text r.line)]

/-- The state of a day. -/
def dailyState (s : DailyState Float) : Json :=
  .object [
    ("trading_day", .text s.day.text), ("realized_pnl", float s.realized),
    ("halted", .bool s.halted), ("halted_at", time? s.haltedAt)]

/-- What a scan found. -/
def riskScan (s : RiskScan Float) : Json :=
  .object [
    ("closed", positions s.closed), ("realized_pnl", float s.realized),
    ("unrealized_pnl", float s.unrealized), ("total_pnl", float s.total),
    ("halted", .bool s.halted), ("tripped", .bool s.tripped)]

/-- What a tick did. -/
def tickReport (r : TickReport Float) : Json :=
  .object [
    ("at", time r.time), ("skipped", .bool r.skipped),
    ("signals", .list (r.signals.map signal)), ("results", .list (r.results.map tradeResult)),
    ("scan", .ofOption riskScan r.scan), ("stopped", ids r.stopped),
    ("flattened", positions r.flattened), ("closed", ids r.closed), ("opened", ids r.opened)]

end VolatilityDesk.Record
