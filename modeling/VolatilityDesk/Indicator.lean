import VolatilityDesk.Market.Series
/-!
# Indicators

What a window of prices and volumes says about an instrument: its moving average with a band of
deviations around it, its relative strength, its volume against the recent average, and its last
change. A window that is too short for an indicator gives a neutral value instead: zero, or fifty
for the relative strength.

Sums are taken pairwise: short lists from left to right, longer ones in eight lanes, long ones as
the sum of two halves. In exact arithmetic that is the sum of the list.
-/

namespace VolatilityDesk

/-- The indicators of one instrument at one moment. -/
structure Indicators (α : Type) where
  price : α
  /-- The moving average of the prices. -/
  average : α
  upperBand : α
  lowerBand : α
  /-- Relative strength, from 0 to 100. -/
  strength : α
  /-- The latest volume in percent of its recent average. -/
  volumeRatio : α
  /-- The change from the price before to the latest one, in percent. -/
  priceChange : α

namespace Indicator

variable {α : Type} [Number α]

/-! ### Sums -/

/-- The sum from left to right, started at a value. -/
def sumFrom (start : α) (values : List α) : α := values.foldl (· + ·) start

/-- The sum from left to right. -/
def sequentialSum : List α → α
  | [] => 0.0
  | first :: rest => sumFrom first rest

/-- Adds further blocks of eight values to the eight lanes, then the lanes in pairs, then the
values that are left over one by one. -/
def laneSum (a b c d e f g h : α) : List α → α
  | s :: t :: u :: v :: w :: x :: y :: z :: rest =>
    laneSum (a + s) (b + t) (c + u) (d + v) (e + w) (f + x) (g + y) (h + z) rest
  | rest => sumFrom (((a + b) + (c + d)) + ((e + f) + (g + h))) rest

/-- The sum of a list of at most 128 values. -/
def blockSum : List α → α
  | a :: b :: c :: d :: e :: f :: g :: h :: rest => laneSum a b c d e f g h rest
  | values => sequentialSum values

/-- Where a long list is divided: near the middle, after whole blocks of eight. -/
def half (size : Nat) : Nat := size / 2 - size / 2 % 8

/-- The sum of a list, long ones divided in half again and again. -/
def pairwiseSum (values : List α) : α :=
  if values.length ≤ 128 then blockSum values
  else
    pairwiseSum (values.take (half values.length)) + pairwiseSum (values.drop (half values.length))
termination_by values.length
decreasing_by
  · simp only [List.length_take, half]; omega
  · simp only [List.length_drop, half]; omega

/-- The sum of a list, never a negative zero. -/
def sum (values : List α) : α := pairwiseSum values + 0.0

/-! ### Averages -/

/-- The mean of a list. -/
def mean (values : List α) : α := sum values / Number.ofCount values.length

/-- The square of the deviation of the values from their mean, in the mean. -/
def variance (values : List α) : α :=
  let center := mean values
  sum (values.map fun x => (x - center) * (x - center)) / Number.ofCount values.length

/-- The window of a positive period, if there are enough values for it. -/
def window? (values : List α) (period : Int) : Option (List α) :=
  if period ≤ 0 ∨ (values.length : Int) < period then none
  else some (lastItems period.toNat values)

/-- The mean of the last values of a period. -/
def movingAverage (values : List α) (period : Int) : α :=
  match window? values period with
  | some window => mean window
  | none => 0.0

/-- The standard deviation of the last values of a period. -/
def deviation [Root α] (values : List α) (period : Int) : α :=
  match window? values period with
  | some window => Root.sqrt (variance window)
  | none => 0.0

/-- A moving average and the band around it. -/
structure Band (α : Type) where
  middle : α
  upper : α
  lower : α

/-- The band of a number of deviations on either side of the moving average. -/
def band [Root α] (prices : List α) (period : Int) (deviations : α) : Band α :=
  if (prices.length : Int) < period then ⟨0.0, 0.0, 0.0⟩
  else
    let middle := movingAverage prices period
    let width := deviations * deviation prices period
    ⟨middle, middle + width, middle - width⟩

/-! ### Strength, volume and change -/

/-- The differences of neighbouring values. -/
def differences : List α → List α
  | first :: second :: rest => (second - first) :: differences (second :: rest)
  | _ => []

/-- The strength of the gains against the losses of the differences. -/
def strengthOf (deltas : List α) : α :=
  let gains := sum (deltas.filter fun x => decide ((0.0 : α) < x))
  let losses := -sum (deltas.filter fun x => decide (x < (0.0 : α)))
  if losses == 0.0 then 100.0 else 100.0 - 100.0 / (1.0 + gains / losses)

/-- The relative strength over the last differences of a period: 100 without a loss, 50 without
enough prices. -/
def strength (prices : List α) (period : Int) : α :=
  if period ≤ 0 ∨ (prices.length : Int) < period + 1 then 50.0
  else strengthOf (differences (lastItems (period.toNat + 1) prices))

/-- The latest volume in percent of the mean of the last ones. -/
def volumeRatio (volumes : List α) (period : Int) : α :=
  let average := movingAverage volumes period
  if average ≤ 0.0 then 0.0 else volumes.getLast?.getD 0.0 / average * 100.0

/-- The change between the two most recent prices, in percent. -/
def priceChange (prices : List α) : α :=
  match prices.reverse with
  | latest :: before :: _ =>
    if before == 0.0 then 0.0 else (latest - before) / before * 100.0
  | _ => 0.0

/-! ### All of them -/

/-- The periods of the indicators, and the width of the band. -/
structure Periods (α : Type) where
  band : Int
  deviations : α
  strength : Int
  volume : Int

/-- The number of samples from which on no indicator has its neutral value for want of
samples. -/
def requiredHistory (band strength volume : Int) : Int := max (max band (strength + 1)) volume

/-- The samples that these periods need. -/
def Periods.required (p : Periods α) : Int := requiredHistory p.band p.strength p.volume

/-- The indicators of a series at its latest sample. -/
def compute [Root α] (p : Periods α) (s : Series α) : Indicators α :=
  let band := band s.prices p.band p.deviations
  { price := s.latestPrice
    average := band.middle
    upperBand := band.upper
    lowerBand := band.lower
    strength := strength s.prices p.strength
    volumeRatio := volumeRatio s.volumes p.volume
    priceChange := priceChange s.prices }

end Indicator

end VolatilityDesk
