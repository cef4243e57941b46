import VolatilityDesk.Signal.Classify
import VolatilityDesk.Time.Clock
/-!
# Settings

Everything that the desk can be told: what to watch, when to give a signal, how much to risk, when
to trade, and whom to tell. A setting that nobody gives has the default stated here.
-/

namespace VolatilityDesk

/-- Capital and loss limits. -/
structure Limits (α : Type) where
  /-- The capital committed per position. -/
  capital : α
  /-- A position is closed when it loses more than this. -/
  maxLoss : α
  /-- No new trades on a day that has lost this much. -/
  maxDailyLoss : α
  /-- Open short positions on signals to sell. -/
  allowShort : Bool

/-- The trading session as it is written down. -/
structure SessionPlan where
  start : String
  stop : String
  timezone : String
  weekends : Bool
  /-- The minutes before the end in which open positions are closed. -/
  flattenMinutes : Int

/-- Where alerts go. -/
structure ChatAccount where
  token : String
  chat : String
  enabled : Bool

/-- All that can be set. -/
structure Settings where
  watchlist : List String
  rules : SignalRules Float
  limits : Limits Float
  session : SessionPlan
  /-- The seconds between two ticks. -/
  pollSeconds : Int
  /-- The number of recent signals kept in memory. -/
  historySize : Int
  logLevel : String
  /-- Where the journal is kept, if it is not at its usual place. -/
  journalPath : Option String
  /-- The seconds after which a request is given up. -/
  httpTimeout : Float
  chat : ChatAccount

namespace Settings

/-- The settings when nothing is set; the clock of the machine is taken to show universal time. -/
def defaults : Settings where
  watchlist := ["AAPL", "MSFT", "GOOGL", "AMZN", "META"]
  rules :=
    { periods := { band := 20, deviations := 2.0, strength := 14, volume := 10 }
      overbought := 70.0
      oversold := 30.0
      volumeThreshold := 150.0
      minChange := 1.0
      minReturn := 1.5
      stopDistance := 0.5
      minConfidence := 0.7
      timeframe := "1-3 hours"
      localZone := .universal }
  limits := { capital := 1000.0, maxLoss := 50.0, maxDailyLoss := 200.0, allowShort := false }
  session :=
    { start := "09:30"
      stop := "16:00"
      timezone := "America/New_York"
      weekends := false
      flattenMinutes := 5 }
  pollSeconds := 300
  historySize := 100
  logLevel := "INFO"
  journalPath := none
  httpTimeout := 30.0
  chat := { token := "", chat := "", enabled := false }

/-- The same settings on a machine whose clock shows the time of a zone. -/
def onClock (zone : Zone) (s : Settings) : Settings :=
  { s with rules := { s.rules with localZone := zone } }

end Settings

end VolatilityDesk
