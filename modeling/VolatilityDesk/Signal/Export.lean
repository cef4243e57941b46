import VolatilityDesk.Csv.Writer
import VolatilityDesk.Json.Writer
import VolatilityDesk.Signal
/-!
# Signals for other programs

Signals are exported as interchange text and as comma-separated records, in both in the same
order: by confidence and then by expected return, the highest first, equal ones as they came.
-/

namespace VolatilityDesk

namespace Signal

/-- The first signal ranks below the second: by confidence, then by expected return. -/
def ranksBelow {α : Type} [Number α] (a b : Signal α) : Bool :=
  if a.confidence == b.confidence then decide (a.expectedReturn < b.expectedReturn)
  else decide (a.confidence < b.confidence)

/-- The signals with the highest rank first, equal ones in the order in which they came. -/
def ranked {α : Type} [Number α] (signals : List (Signal α)) : List (Signal α) :=
  signals.mergeSort fun a b => !ranksBelow a b

end Signal

namespace Indicators

/-- The indicators as an object. -/
def record (i : Indicators Float) : Json :=
  .object [
    ("price", .ofFloat i.price),
    ("sma", .ofFloat i.average),
    ("upper_band", .ofFloat i.upperBand),
    ("lower_band", .ofFloat i.lowerBand),
    ("rsi", .ofFloat i.strength),
    ("volume_ratio", .ofFloat i.volumeRatio),
    ("price_change", .ofFloat i.priceChange)]

end Indicators

namespace Export

/-- A signal as an object. -/
def record (s : Signal Float) : Json :=
  .object [
    ("id", .text s.id),
    ("instrument", .text s.instrument),
    ("direction", .text s.direction.text),
    ("entry_price", .ofFloat s.entry),
    ("target_price", .ofFloat s.target),
    ("stop_loss", .ofFloat s.stop),
    ("expected_return_pct", .ofFloat s.expectedReturn),
    ("confidence", .ofFloat s.confidence),
    ("timeframe", .text s.timeframe),
    ("indicators", s.indicators.record),
    ("created_at", .text s.createdAt.text)]

/-- All signals as interchange text over several lines. -/
def json (signals : List (Signal Float)) : String :=
  (Json.list ((Signal.ranked signals).map record)).indented

/-- The headings of the records. -/
def columns : List String :=
  ["id", "instrument", "direction", "entry_price", "target_price", "stop_loss",
    "expected_return_pct", "confidence", "timeframe", "created_at"]

/-- The cells of a signal's record, in the order of the headings. -/
def cells (s : Signal Float) : List String :=
  let number := Shortest.text .lower
  [s.id, s.instrument, s.direction.text, number s.entry, number s.target, number s.stop,
    number s.expectedReturn, number s.confidence, s.timeframe, s.createdAt.text]

/-- All signals as records under their headings. -/
def csv (signals : List (Signal Float)) : String :=
  Csv.text (columns :: (Signal.ranked signals).map cells)

end Export

end VolatilityDesk
