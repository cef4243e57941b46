import VolatilityDesk.Indicator
import VolatilityDesk.Time.Local
/-!
# Signals

A signal says to buy or to sell an instrument at an entry price, with a target on the profitable
side and a stop on the other. Its identifier holds the instrument, the direction and the universal
time of its creation, which is read on the machine's own clock where it has no offset.
-/

namespace VolatilityDesk

/-- The direction of a trade. -/
inductive Direction where
  | buy
  | sell
  deriving DecidableEq, Repr

namespace Direction

/-- The other direction. -/
def opposite : Direction → Direction
  | buy => sell
  | sell => buy

/-- The word for a direction. -/
def text : Direction → String
  | buy => "BUY"
  | sell => "SELL"

/-- The direction with a word. -/
def ofText? : String → Option Direction
  | "BUY" => some buy
  | "SELL" => some sell
  | _ => none

theorem ofText?_text (d : Direction) : ofText? d.text = some d := by cases d <;> rfl

end Direction

/-- A trading signal with its price levels. -/
structure Signal (α : Type) where
  id : String
  instrument : String
  direction : Direction
  entry : α
  target : α
  stop : α
  /-- From entry to target, in percent. -/
  expectedReturn : α
  /-- The volatility score, from 0 to 1. -/
  confidence : α
  /-- The indicators that the decision was made from. -/
  indicators : Indicators α
  createdAt : Timestamp
  /-- How long a position is meant to be held. -/
  timeframe : String

namespace Signal

/-- The universal time of a signal's creation on a machine whose clock shows the time of a zone. -/
def universalTime (host : Zone) (t : Timestamp) : Except TimeFault Timestamp := do
  (← host.readLocal t).toUniversal

/-- The identifier of a signal. -/
def identifier (host : Zone) (instrument : String) (direction : Direction)
    (createdAt : Timestamp) : Except TimeFault String := do
  return s!"SIG-{instrument}-{direction.text}-{(← universalTime host createdAt).stamp}"

end Signal

end VolatilityDesk
