import VolatilityDesk.Journal
import VolatilityDesk.Record.Market
/-!
# Records of the journal

The journal's rows and its account of the closed positions as interchange records.
-/

namespace VolatilityDesk.Record

/-- A row of the journal's positions. -/
def positionRow (r : PositionRow) : Json :=
  .object [
    ("id", .ofNat r.id), ("position_id", .text r.positionId), ("signal_id", .text r.signalId),
    ("instrument", .text r.instrument), ("direction", .text r.direction),
    ("quantity", .ofInt r.quantity), ("entry_price", float r.entry),
    ("exit_price", float? r.exit), ("realized_pnl", float? r.realized),
    ("close_reason", .ofOption .text r.closeReason), ("close_detail", .text r.closeDetail),
    ("opened_at", .text r.openedAt), ("closed_at", .ofOption .text r.closedAt)]

/-- The performance in the journal. -/
def performance (p : Performance) : Json :=
  .object [
    ("total_signals", .ofNat p.signals), ("closed_positions", .ofNat p.closed),
    ("wins", .ofNat p.wins), ("win_rate", float? p.winRate), ("total_pnl", float p.total),
    ("avg_return_pct", float? p.averageReturn),
    ("by_instrument", .object (p.byInstrument.map fun i => (i.instrument, .object [
      ("closed", .ofNat i.closed), ("wins", .ofNat i.wins), ("total_pnl", float? i.total)])))]

end VolatilityDesk.Record
