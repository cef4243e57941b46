import VolatilityDesk.Number
import VolatilityDesk.Time.Timestamp
/-!
# Price series

The history of one instrument: prices, volumes and, where the source has them, times, in
chronological order and equally long. A series is read from its end, so `window` keeps the last
samples of all three.
-/

namespace VolatilityDesk

/-- The last `count` items of a list. -/
def lastItems {α : Type} (count : Nat) (items : List α) : List α :=
  items.drop (items.length - count)

theorem length_lastItems {α : Type} (count : Nat) (items : List α) :
    (lastItems count items).length = min count items.length := by
  simp [lastItems]
  omega

theorem lastItems_append_of_le {α : Type} {count : Nat} (earlier items : List α)
    (enough : count ≤ items.length) :
    lastItems count (earlier ++ items) = lastItems count items := by
  have skip : earlier.length + items.length - count = earlier.length + (items.length - count) := by
    omega
  simp [lastItems, skip, List.drop_append]

/-- The history of one instrument, most recent sample last. -/
structure Series (α : Type) where
  instrument : String
  prices : List α
  volumes : List α
  /-- Empty when the source has no times. -/
  timestamps : List Timestamp
  volumes_length : volumes.length = prices.length
  timestamps_length : timestamps = [] ∨ timestamps.length = prices.length

/-- Why lists make no series. -/
inductive SeriesFault where
  | volumes (instrument : String) (prices volumes : Nat)
  | timestamps (instrument : String) (prices timestamps : Nat)
  /-- A window of no samples. -/
  | window (size : Int)
  deriving DecidableEq, Repr

/-- What is said about the fault. -/
def SeriesFault.message : SeriesFault → String
  | .volumes instrument prices found => s!"{instrument}: {prices} prices but {found} volumes"
  | .timestamps instrument prices found => s!"{instrument}: {prices} prices but {found} timestamps"
  | .window size => s!"window size must be > 0, got {size}"

namespace Series

variable {α : Type}

/-- A series of equally long lists; the times may be missing altogether. -/
def make (instrument : String) (prices volumes : List α) (timestamps : List Timestamp) :
    Except SeriesFault (Series α) :=
  if hv : volumes.length = prices.length then
    if ht : timestamps = [] ∨ timestamps.length = prices.length then
      .ok ⟨instrument, prices, volumes, timestamps, hv, ht⟩
    else .error (.timestamps instrument prices.length timestamps.length)
  else .error (.volumes instrument prices.length volumes.length)

/-- The number of samples. -/
def size (s : Series α) : Nat := s.prices.length

/-- The most recent price, zero for a series without samples. -/
def latestPrice [Number α] (s : Series α) : α := s.prices.getLast?.getD 0.0

/-- The time of the most recent sample. -/
def latestTimestamp? (s : Series α) : Option Timestamp := s.timestamps.getLast?

/-- The samples from one place up to before another. -/
def slice (s : Series α) (start stop : Nat) : Series α where
  instrument := s.instrument
  prices := (s.prices.take stop).drop start
  volumes := (s.volumes.take stop).drop start
  timestamps := (s.timestamps.take stop).drop start
  volumes_length := by simp [s.volumes_length]
  timestamps_length := by
    rcases s.timestamps_length with h | h
    · simp [h]
    · simp [h]

/-- The last samples, at most `count` of them. -/
def last (s : Series α) (count : Nat) : Series α where
  instrument := s.instrument
  prices := lastItems count s.prices
  volumes := lastItems count s.volumes
  timestamps := lastItems count s.timestamps
  volumes_length := by simp [length_lastItems, s.volumes_length]
  timestamps_length := by
    rcases s.timestamps_length with h | h
    · simp [h, lastItems]
    · simp [h, length_lastItems]

/-- The last samples, at most `count` of them, which must be at least one. -/
def window (s : Series α) (count : Int) : Except SeriesFault (Series α) :=
  if count ≤ 0 then .error (.window count) else .ok (s.last count.toNat)

end Series

/-- Each name once, at its first place. -/
def distinct : List String → List String
  | [] => []
  | name :: rest => name :: (distinct rest).filter (· != name)

/-- The series of several instruments, each under its key. -/
abbrev Snapshot (α : Type) := List (String × Series α)

/-- The most recent price under every key whose series has a sample. -/
def Snapshot.latestPrices {α : Type} [Number α] (s : Snapshot α) : List (String × α) :=
  s.filterMap fun (key, series) => if series.size = 0 then none else some (key, series.latestPrice)

/-- The latest time of all series that have times. -/
def Snapshot.latestTime {α : Type} (s : Snapshot α) : Except TimeFault (Option Timestamp) :=
  Timestamp.latest (s.filterMap fun (_, series) => series.latestTimestamp?)

end VolatilityDesk
