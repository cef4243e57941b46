import VolatilityDesk.Market.Feed
import VolatilityDesk.Outlets
import VolatilityDesk.Word
/-!
# The monitor

The monitor fetches prices at a fixed interval, evaluates each snapshot in a tick and hands the
reports to the outlets. A snapshot outside the session is skipped. A tick that fails keeps what it
has done so far, and a run of ticks goes on after it. To be told to stop lets the current tick come
to its end and prevents the next one.
-/

namespace VolatilityDesk

/-- A desk at work on a feed. -/
structure Monitor (φ : Type) where
  settings : Settings
  feed : φ
  desk : RiskDesk Float
  /-- A tick is dated by the latest time in its snapshot. -/
  usesFeedTime : Bool := false
  /-- The most recent signals, oldest first. -/
  history : List (Signal Float) := []
  /-- The number of ticks made in runs. -/
  ticks : Nat := 0
  stopped : Bool := false
  /-- The waits between ticks, in seconds. -/
  waits : List Int := []

/-- Why a monitor cannot be set up. -/
inductive MonitorSetupFault where
  | session (fault : SessionFault)
  /-- A history of less than nothing. -/
  | negativeHistory
  /-- A size of the history that no machine number holds. -/
  | historyTooLarge

/-- Why a tick fails. -/
inductive TickFault where
  | feed (fault : FeedFault)
  | time (fault : TimeFault)
  | trading (fault : TradingFault)
  | outlet (fault : OutletFault)

/-- What is said about the fault. -/
def MonitorSetupFault.message : MonitorSetupFault → String
  | session fault => fault.message
  | negativeHistory => "maxlen must be non-negative"
  | historyTooLarge => "Python int too large to convert to C ssize_t"

namespace Monitor

variable {φ : Type}

/-- A monitor with a fresh desk. The serial number counts the positions opened elsewhere before. -/
def ofSettings (zones : ZoneDatabase) (s : Settings) (serial : Nat) (usesFeedTime : Bool)
    (feed : φ) : Except MonitorSetupFault (Monitor φ) :=
  match RiskDesk.ofSettings zones s (Book.ofLimits s.limits serial) with
  | .error fault => .error (.session fault)
  | .ok desk =>
    if !Word.holds64 s.historySize then .error .historyTooLarge
    else if s.historySize < 0 then .error .negativeHistory
    else .ok { settings := s, feed := feed, desk := desk, usesFeedTime := usesFeedTime }

/-- Tells the monitor to stop. -/
def stop (m : Monitor φ) : Monitor φ := { m with stopped := true }

/-- Adds signals to the history; the oldest give way. -/
def remember (m : Monitor φ) (signals : List (Signal Float)) : Monitor φ :=
  { m with history := lastItems m.settings.historySize.toNat (m.history ++ signals) }

/-- The time of a tick: a time given for it, else the latest time in the snapshot if the monitor
goes by the feed, else the clock. -/
def tickTime (m : Monitor φ) (snapshot : Snapshot Float) (given : Option Timestamp)
    (clock : Timestamp) : Except TimeFault Timestamp :=
  match given with
  | some now => .ok now
  | none =>
    if m.usesFeedTime then return (← snapshot.latestTime).getD clock else .ok clock

/-- Evaluates a snapshot at a time, unless it lies outside the session. -/
def evaluate (m : Monitor φ) (snapshot : Snapshot Float) (now : Timestamp) :
    Except TickFault (TickReport Float) × Monitor φ :=
  match m.desk.session.isOpen now with
  | .error fault => (.error (.time fault), m)
  | .ok false => (.ok { time := now, skipped := true }, m)
  | .ok true =>
    match m.desk.runTick m.settings.rules snapshot now with
    | (.error fault, desk) => (.error (.trading fault), { m with desk := desk })
    | (.ok report, desk) => (.ok report, { m with desk := desk }.remember report.signals)

/-- Fetches a snapshot and evaluates it. -/
def observe [PriceFeed φ] (m : Monitor φ) (given : Option Timestamp) (clock : Timestamp) :
    Except TickFault (TickReport Float) × Monitor φ :=
  let (fetched, feed) := PriceFeed.fetch m.feed m.settings.watchlist
  let m := { m with feed := feed, stopped := m.stopped || fetched.stop }
  match fetched.series with
  | .error fault => (.error (.feed fault), m)
  | .ok snapshot =>
    match m.tickTime snapshot given clock with
    | .error fault => (.error (.time fault), m)
    | .ok now => m.evaluate snapshot now

/-- Hands a report to the outlets, unless its tick was skipped. -/
def publish (o : Outlets) (report : TickReport Float) :
    Except TickFault (TickReport Float) × Outlets :=
  if report.skipped then (.ok report, o)
  else match o.publish report with
    | (.error fault, o) => (.error (.outlet fault), o)
    | (.ok (), o) => (.ok report, o)

/-- One tick: fetch, evaluate, and tell the outlets. -/
def tick [PriceFeed φ] (m : Monitor φ) (o : Outlets) (given : Option Timestamp)
    (clock : Timestamp) : Except TickFault (TickReport Float) × Monitor φ × Outlets :=
  match m.observe given clock with
  | (.error fault, m) => (.error fault, m, o)
  | (.ok report, m) =>
    let (out, o) := publish o report
    (out, m, o)

/-- Waits for the next tick, unless ticks follow each other at once. -/
def pause (m : Monitor φ) : Monitor φ :=
  if 0 < m.settings.pollSeconds then { m with waits := m.waits ++ [m.settings.pollSeconds] } else m

/-- A tick of a run: it counts whether it fails or not. -/
def count [PriceFeed φ] (m : Monitor φ) (o : Outlets) (clock : Timestamp) : Monitor φ × Outlets :=
  let (_, m, o) := m.tick o none clock
  ({ m with ticks := m.ticks + 1 }, o)

/-- Makes ticks until the monitor is stopped, at most a number of them. The clock gives the time
after a number of ticks. -/
def runFor [PriceFeed φ] (clock : Nat → Timestamp) :
    Nat → Monitor φ → Outlets → Monitor φ × Outlets
  | 0, m, o => (m, o)
  | left + 1, m, o =>
    if m.stopped then (m, o)
    else
      let (m, o) := m.count o (clock m.ticks)
      if left = 0 then (m, o) else runFor clock left m.pause o

/-- A limit is looked at only after a tick, so that one tick is made under any limit. -/
def ticksWithin (limit : Int) : Nat := max 1 limit.toNat

/-- Makes ticks until the monitor is stopped or a limit is reached; answers with the number of
ticks made. -/
def run [PriceFeed φ] (m : Monitor φ) (o : Outlets) (clock : Nat → Timestamp) (limit : Int) :
    Nat × Monitor φ × Outlets :=
  let (after, o) := runFor clock (ticksWithin limit) m o
  (after.ticks - m.ticks, after, o)

end Monitor

end VolatilityDesk
