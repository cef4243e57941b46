import VolatilityDesk.Command.Workplace
/-!
# Commands on price files

The scan gives signals on the latest windows of a price file; the other command shows the
indicators of every instrument in it.
-/

namespace VolatilityDesk

namespace Command

/-- What a scan prints. -/
def scanOutput (output : String) (now : Timestamp) (signals : List (Signal Float)) :
    List Printed :=
  match output with
  | "json" => [.data (Export.json signals)]
  | "csv" => [.plain (Export.csv signals)]
  | _ => Signal.table now signals

/-- Settings with another least return, which is not checked. -/
def withMinReturn (minReturn : Option Float) (s : Settings) : Settings :=
  match minReturn with
  | some x => { s with rules := { s.rules with minReturn := x } }
  | none => s

/-- Gives signals on the latest windows of a price file. -/
def runScan (path output : String) (minReturn : Option Float) : Work Unit := do
  let s := withMinReturn minReturn (← Work.settings)
  let snapshot ← Work.prices path
  let now := (← get).clock
  let signals ← Work.orFail .time (Classify.signals s.rules snapshot now)
  Work.print (scanOutput output now signals)

/-! ### Indicators -/

/-- The columns of the table of indicators. -/
def indicatorColumns : List String :=
  ["Symbol", "Samples", "Price", "SMA", "Bands", "RSI", "Vol %", "Chg %", "Score", "Dir"]

/-- The row of an instrument; a number of samples that gives no signal is marked. -/
def indicatorRow (rules : SignalRules Float) (entry : String × Series Float) : List String :=
  let (instrument, series) := entry
  let i := Indicator.compute rules.periods series
  let samples := toString series.size
  let amount := FixedFormat.amount.text
  [instrument,
    if rules.periods.required ≤ series.size then samples else coloured "yellow" samples,
    amount i.price,
    amount i.average,
    amount i.lowerBand ++ " - " ++ amount i.upperBand,
    FixedFormat.tenths.text i.strength,
    FixedFormat.whole.text i.volumeRatio,
    FixedFormat.signedCents.text i.priceChange,
    FixedFormat.cents.text (Classify.score rules i),
    ((Classify.direction? i).map Direction.text).getD "-"]

/-- What is printed for the indicators of a price file. -/
def indicatorOutput (rules : SignalRules Float) (snapshot : Snapshot Float) : List Printed :=
  [.table
    { title := "Indicator Snapshot"
      columns := indicatorColumns
      rows := snapshot.map (indicatorRow rules) },
    .line s!"[dim]{rules.periods.required} sample(s) needed for a signal[/dim]"]

/-- Shows the indicators of every instrument in a price file. -/
def runIndicators (path : String) : Work Unit := do
  let s ← Work.settings
  let snapshot ← Work.prices path
  Work.print (indicatorOutput s.rules snapshot)

end Command

end VolatilityDesk
