import VolatilityDesk.Signal
/-!
# Classification

From indicators to a signal. A score adds up four signs of volatility; a direction follows from
the band and the strength, or from the last change; target and stop are bounded by the band. A
signal is given only when the score, the direction, the expected return and the order of the
levels all allow it.
-/

namespace VolatilityDesk

/-- The thresholds of classification, and what else a signal is made with. -/
structure SignalRules (α : Type) where
  periods : Indicator.Periods α
  /-- Strength above this counts as overbought, below `oversold` as oversold. -/
  overbought : α
  oversold : α
  /-- The volume ratio of a surge, in percent. -/
  volumeThreshold : α
  /-- The change of a volatile price, in percent. -/
  minChange : α
  /-- The least expected return of a signal, in percent. -/
  minReturn : α
  /-- The distance of the stop from the entry, in percent. -/
  stopDistance : α
  /-- The least score of a signal. -/
  minConfidence : α
  timeframe : String
  /-- The zone of the machine's clock, on which times without an offset are read. -/
  localZone : Zone

namespace Classify

variable {α : Type} [Number α]

/-- A price within this share of a band touches it. -/
def proximity : α := 0.02

/-- The price has nearly reached the upper band. -/
def nearUpper (i : Indicators α) : Bool := i.upperBand * (1.0 - proximity) ≤ i.price

/-- The price has nearly reached the lower band. -/
def nearLower (i : Indicators α) : Bool := i.price ≤ i.lowerBand * (1.0 + proximity)

/-- Adds a weight when a sign is seen. -/
def weigh (score weight : α) (seen : Bool) : α := if seen then score + weight else score

/-- The volatility score: the weights of the band, the strength, the volume and the change. -/
def score (r : SignalRules α) (i : Indicators α) : α :=
  let score := weigh 0.0 0.30 (nearUpper i || nearLower i)
  let score := weigh score 0.25 (decide (r.overbought < i.strength ∨ i.strength < r.oversold))
  let score := weigh score 0.25 (decide (r.volumeThreshold < i.volumeRatio))
  let score := weigh score 0.20 (decide (r.minChange < Number.magnitude i.priceChange))
  Number.round4 score

/-- Buy when oversold at the lower band or rising from the middle, sell when overbought at the
upper band or falling from the middle. -/
def direction? (i : Indicators α) : Option Direction :=
  if (nearLower i ∧ i.strength < 30.0) ∨
      (0.0 < i.priceChange ∧ 50.0 < i.strength ∧ i.strength < 70.0) then some .buy
  else if (nearUpper i ∧ 70.0 < i.strength) ∨
      (i.priceChange < 0.0 ∧ 30.0 < i.strength ∧ i.strength < 50.0) then some .sell
  else none

/-- A target and a stop. -/
structure Levels (α : Type) where
  target : α
  stop : α

/-- The levels for an entry price: the expected return away and the stop distance away, the target
no farther than the band on its side, the stop no farther than the band on the other. -/
def levels (r : SignalRules α) (i : Indicators α) (entry : α) (d : Direction) : Levels α :=
  let share := r.minReturn / 100.0
  let distance := r.stopDistance / 100.0
  let (target, stop) := match d with
    | .buy =>
      (Number.least i.upperBand (entry * (1.0 + share)),
        Number.greatest i.lowerBand (entry * (1.0 - distance)))
    | .sell =>
      (Number.greatest i.lowerBand (entry * (1.0 - share)),
        Number.least i.upperBand (entry * (1.0 + distance)))
  ⟨Number.round4 target, Number.round4 stop⟩

/-- The return from entry to target in percent, positive when profitable. -/
def expectedReturn (entry target : α) (d : Direction) : α :=
  if entry ≤ 0.0 then 0.0
  else
    let gain := match d with
      | .buy => target - entry
      | .sell => entry - target
    Number.round4 (gain / entry * 100.0)

/-- Stop, entry and target in the order of the direction. -/
def ordered (entry target stop : α) : Direction → Bool
  | .buy => decide (stop < entry ∧ entry < target)
  | .sell => decide (target < entry ∧ entry < stop)

/-- A decision on an instrument, before it gets a time and an identifier. -/
structure Verdict (α : Type) where
  direction : Direction
  indicators : Indicators α
  levels : Levels α
  expectedReturn : α
  confidence : α

/-- The decision on a series: none without enough history, a positive price, a sufficient score, a
clear direction, a sufficient return and ordered levels. -/
def verdict? [Root α] (r : SignalRules α) (s : Series α) : Option (Verdict α) :=
  let i := Indicator.compute r.periods s
  if (s.size : Int) < r.periods.required then none
  else if i.price ≤ 0.0 then none
  else if score r i < r.minConfidence then none
  else match direction? i with
    | none => none
    | some d =>
      let l := levels r i i.price d
      let gain := expectedReturn i.price l.target d
      if gain < r.minReturn then none
      else if ordered i.price l.target l.stop d then some ⟨d, i, l, gain, score r i⟩
      else none

/-- The signal on a series at a time, if there is one. -/
def signal? [Root α] (r : SignalRules α) (s : Series α) (now : Timestamp) :
    Except TimeFault (Option (Signal α)) :=
  match verdict? r s with
  | none => .ok none
  | some v => do
    return some
      { id := ← Signal.identifier r.localZone s.instrument v.direction now
        instrument := s.instrument
        direction := v.direction
        entry := v.indicators.price
        target := v.levels.target
        stop := v.levels.stop
        expectedReturn := v.expectedReturn
        confidence := v.confidence
        indicators := v.indicators
        createdAt := now
        timeframe := r.timeframe }

/-- The entries of a snapshot in the order of their keys. -/
def sortedByKey {β : Type} (entries : List (String × β)) : List (String × β) :=
  entries.mergeSort fun a b => decide (a.1 ≤ b.1)

/-- The signals on all series of a snapshot at a time, in the order of their keys. -/
def signals [Root α] (r : SignalRules α) (snapshot : Snapshot α) (now : Timestamp) :
    Except TimeFault (List (Signal α)) := do
  let found ← (sortedByKey snapshot).mapM fun (_, s) => signal? r s now
  return found.filterMap id

end Classify

end VolatilityDesk
