import VolatilityDesk.Trading.Risk
/-!
# One tick

A tick evaluates a snapshot of the market at a time: it gives signals on every series, applies them
unless the session is about to end, closes positions that have lost too much, and closes all
positions when the session is about to end.
-/

namespace VolatilityDesk

/-- Everything that one tick did. -/
structure TickReport (α : Type) where
  time : Timestamp
  signals : List (Signal α) := []
  /-- What came of the signals that were applied, in their order. -/
  results : List (TradeResult α) := []
  /-- The positions closed for their losses. -/
  stopped : List (Position α) := []
  /-- The positions closed before the end of the session. -/
  flattened : List (Position α) := []
  /-- Absent when the tick was skipped. -/
  scan : Option (RiskScan α) := none
  /-- The tick fell outside the session. -/
  skipped : Bool := false

namespace TickReport

variable {α : Type}

/-- All positions closed in the tick: on signals, for their losses, before the end of the
session. -/
def closed (r : TickReport α) : List (Position α) :=
  r.results.filterMap (·.closed?) ++ r.stopped ++ r.flattened

/-- The positions opened in the tick. -/
def opened (r : TickReport α) : List (Position α) := r.results.filterMap (·.opened?)

end TickReport

namespace RiskDesk

variable {α : Type} [Number α]

/-- Applies signals one after the other, each at the price of its instrument. -/
def actAll (prices : Prices α) (now : Timestamp) :
    List (Signal α) → RiskDesk α → Outcome α (List (TradeResult α))
  | [], d => (.ok [], d)
  | s :: rest, d =>
    match prices.lookup s.instrument with
    | none => (.error (.noPrice s.instrument), d)
    | some price =>
      match d.act s price now with
      | (.error fault, d) => (.error fault, d)
      | (.ok result, d) =>
        match actAll prices now rest d with
        | (.error fault, d) => (.error fault, d)
        | (.ok results, d) => (.ok (result :: results), d)

/-- The part of a tick behind its signals: the scan, and flattening when the session is about to
end. -/
def settle (d : RiskDesk α) (prices : Prices α) (flattening : Bool) (report : TickReport α) :
    Outcome α (TickReport α) :=
  match d.scan prices report.time with
  | (.error fault, d) => (.error fault, d)
  | (.ok scan, d) =>
    let report := { report with scan := some scan, stopped := scan.closed }
    if flattening then
      match d.flatten prices report.time with
      | (.error fault, d) => (.error fault, d)
      | (.ok flattened, d) => (.ok { report with flattened := flattened }, d)
    else (.ok report, d)

/-- Evaluates a snapshot at a time. -/
def runTick [Root α] (d : RiskDesk α) (rules : SignalRules α) (snapshot : Snapshot α)
    (now : Timestamp) : Outcome α (TickReport α) :=
  let prices := snapshot.latestPrices
  match d.session.shouldFlatten now with
  | .error fault => (.error (.time fault), d)
  | .ok flattening =>
    match Classify.signals rules snapshot now with
    | .error fault => (.error (.time fault), d)
    | .ok signals =>
      if flattening then d.settle prices true { time := now, signals := signals }
      else
        match actAll prices now signals d with
        | (.error fault, d) => (.error fault, d)
        | (.ok results, d) =>
          d.settle prices false { time := now, signals := signals, results := results }

end RiskDesk

end VolatilityDesk
