import VolatilityDesk.Console
import VolatilityDesk.Decimal.Fixed
import VolatilityDesk.Signal.Export
import VolatilityDesk.Text.Blank
/-!
# Signals for people

A signal is shown as a row of a table or as a message of several lines; a summary lists the signals
of a scan in one message of limited length, and says how many of them did not fit.
-/

namespace VolatilityDesk

/-- Lines joined by line feeds. -/
def joinLines (lines : List String) : String := "\n".intercalate lines

/-- An amount of money. -/
def dollars (x : Float) : String := "$" ++ FixedFormat.amount.text x

/-- The minute of a universal time, as it stands in headings. -/
def universalMinute (now : Timestamp) : String := now.dayMinuteText ++ " UTC"

namespace Signal

/-! ### Table -/

/-- The columns of the table of signals. -/
def columns : List String :=
  ["Symbol", "Dir", "Entry", "Target", "Stop", "Exp. ROI", "Conf", "RSI", "Vol %"]

/-- The row of a signal. -/
def row (s : Signal Float) : List String :=
  [s.instrument,
    coloured (if s.direction = .buy then "green" else "red") s.direction.text,
    dollars s.entry,
    dollars s.target,
    dollars s.stop,
    FixedFormat.cents.text s.expectedReturn ++ "%",
    FixedFormat.whole.percent s.confidence,
    FixedFormat.whole.text s.indicators.strength,
    FixedFormat.whole.text s.indicators.volumeRatio]

/-- What is printed for the signals of a scan at a time. -/
def table (now : Timestamp) (signals : List (Signal Float)) : List Printed :=
  if signals.isEmpty then
    [.line "[yellow]No signals generated (no instruments passed the volatility gates).[/yellow]"]
  else
    [.table
      { title := "Volatility Signals"
        caption := some s!"Generated at {universalMinute now}"
        columns := columns
        rows := (ranked signals).map row },
      .line s!"\n[dim]{signals.length} signal(s) total[/dim]"]

/-! ### Messages -/

/-- The message about one signal. -/
def alert (s : Signal Float) : String :=
  let arrow := if s.direction = .buy then "📈" else "📉"
  let i := s.indicators
  joinLines [
    s!"🚨 *{s.direction.text} SIGNAL: {s.instrument}*",
    "",
    s!"💰 Entry: {dollars s.entry}",
    s!"🎯 Target: {dollars s.target}",
    s!"🛑 Stop: {dollars s.stop}",
    s!"{arrow} Expected return: {FixedFormat.cents.text s.expectedReturn}%",
    s!"🔍 Confidence: {FixedFormat.whole.percent s.confidence}",
    s!"⏱ Time frame: {s.timeframe}",
    "",
    s!"RSI {FixedFormat.tenths.text i.strength} | Volume {FixedFormat.whole.text i.volumeRatio}"
      ++ s!"% of avg | Change {FixedFormat.signedCents.text i.priceChange}%",
    Text.stripEnd
      s!"⏰ {s.createdAt.shortDateText} {s.createdAt.secondText} {s.createdAt.clockName}"]

/-- The longest message that the chat takes. -/
def messageLimit : Int := 4096

/-- A signal's line in a summary. -/
def summaryRow (s : Signal Float) : String :=
  s!"| {s.direction.text} | {s.instrument} | {dollars s.entry} | "
    ++ s!"{FixedFormat.cents.text s.expectedReturn}% |"

/-- The line for the signals that do not fit. -/
def summaryFooter (missing : Nat) : String := s!"... and {missing} more"

/-- Adds rows to a text as long as a footer would still fit behind the row, then the footer for
the others. -/
def appendRows (limit : Int) (text : String) : List (Signal Float) → String
  | [] => text
  | s :: rest =>
    let longer := joinLines [text, summaryRow s]
    let footer := summaryFooter (rest.length + 1)
    if limit < (joinLines [longer, footer]).length then joinLines [text, footer]
    else appendRows limit longer rest

/-- The lines above the rows of a summary. -/
def summaryHead (now : Timestamp) (count : Nat) : List String :=
  ["📊 *Volatility Scan Complete*", "", s!"🕐 {universalMinute now}",
    s!"📈 {count} signal(s) generated"]

/-- The heading of the rows. -/
def summaryColumns : List String := ["", "| Dir | Symbol | Entry | ROI |"]

/-- The message about all signals of a scan, cut to a length. -/
def summary (now : Timestamp) (limit : Int) (signals : List (Signal Float)) : String :=
  let head := summaryHead now signals.length
  if signals.isEmpty then joinLines head
  else appendRows limit (joinLines (head ++ summaryColumns)) (ranked signals)

end Signal

end VolatilityDesk
