import VolatilityDesk.Json.Writer
import VolatilityDesk.Market.Series
import VolatilityDesk.Signal
/-!
# Records of the market

Values of the desk as interchange records, every member by its name. A double that is no number of
the interchange format is written as the text of its name.
-/

namespace VolatilityDesk.Record

/-- A double; the ones that are no numbers of the format are texts. -/
def float (x : Float) : Json :=
  match Binary64.ofFloat x with
  | .finite .. => Json.ofFloat x
  | _ => .text (Shortest.text .upper x)

/-- A number that may be missing. -/
def float? : Option Float → Json := Json.ofOption float

/-- A time by its text. -/
def time (t : Timestamp) : Json := .text t.text

/-- A time that may be missing. -/
def time? : Option Timestamp → Json := Json.ofOption time

/-- A series. -/
def series (s : Series Float) : Json :=
  .object [
    ("instrument", .text s.instrument),
    ("prices", .list (s.prices.map float)),
    ("volumes", .list (s.volumes.map float)),
    ("timestamps", .list (s.timestamps.map time))]

/-- A snapshot, each series under its key. -/
def snapshot (s : Snapshot Float) : Json := .object (s.map fun (key, v) => (key, series v))

/-- The indicators of a series. -/
def indicators (i : Indicators Float) : Json :=
  .object [
    ("price", float i.price), ("sma", float i.average), ("upper_band", float i.upperBand),
    ("lower_band", float i.lowerBand), ("rsi", float i.strength),
    ("volume_ratio", float i.volumeRatio), ("price_change", float i.priceChange)]

/-- A signal with its indicators. -/
def signal (s : Signal Float) : Json :=
  .object [
    ("id", .text s.id), ("instrument", .text s.instrument),
    ("direction", .text s.direction.text), ("entry_price", float s.entry),
    ("target_price", float s.target), ("stop_loss", float s.stop),
    ("expected_return_pct", float s.expectedReturn), ("confidence", float s.confidence),
    ("indicators", indicators s.indicators), ("created_at", time s.createdAt),
    ("timeframe", .text s.timeframe)]

end VolatilityDesk.Record
