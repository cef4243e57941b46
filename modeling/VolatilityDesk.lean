import VolatilityDesk.Command.Arguments
import VolatilityDesk.Command.Call
import VolatilityDesk.Command.Prices
import VolatilityDesk.Command.Replaying
import VolatilityDesk.Command.Run
import VolatilityDesk.Command.Status
import VolatilityDesk.Command.Workplace
import VolatilityDesk.Console
import VolatilityDesk.Csv.Reader
import VolatilityDesk.Csv.Writer
import VolatilityDesk.Decimal.Binary64
import VolatilityDesk.Decimal.Fixed
import VolatilityDesk.Decimal.Reader
import VolatilityDesk.Decimal.Shortest
import VolatilityDesk.Files
import VolatilityDesk.Indicator
import VolatilityDesk.Journal
import VolatilityDesk.Journal.Store
import VolatilityDesk.Json
import VolatilityDesk.Json.Number
import VolatilityDesk.Json.Reader
import VolatilityDesk.Json.Writer
import VolatilityDesk.Main
import VolatilityDesk.Market.Feed
import VolatilityDesk.Market.PriceFile
import VolatilityDesk.Market.Series
import VolatilityDesk.Monitor
import VolatilityDesk.Notify.Delivery
import VolatilityDesk.Notify.Messenger
import VolatilityDesk.Notify.Url
import VolatilityDesk.Number
import VolatilityDesk.Outlets
import VolatilityDesk.Proofs.Book.Change
import VolatilityDesk.Proofs.Book.Closing
import VolatilityDesk.Proofs.Book.Exit
import VolatilityDesk.Proofs.Book.History
import VolatilityDesk.Proofs.Book.Isolation
import VolatilityDesk.Proofs.Book.Quotes
import VolatilityDesk.Proofs.Book.Sizing
import VolatilityDesk.Proofs.Book.Sound
import VolatilityDesk.Proofs.Book.Step
import VolatilityDesk.Proofs.Book.Stops
import VolatilityDesk.Proofs.Book.Traded
import VolatilityDesk.Proofs.Command.Replaying
import VolatilityDesk.Proofs.Command.Work
import VolatilityDesk.Proofs.Csv.Lines
import VolatilityDesk.Proofs.Csv.Records
import VolatilityDesk.Proofs.Decimal.Literal
import VolatilityDesk.Proofs.Decimal.Shortest
import VolatilityDesk.Proofs.Fallible
import VolatilityDesk.Proofs.Indicator.Strength
import VolatilityDesk.Proofs.Indicator.Sums
import VolatilityDesk.Proofs.Indicator.Units
import VolatilityDesk.Proofs.Journal.Mirror
import VolatilityDesk.Proofs.Journal.Recent
import VolatilityDesk.Proofs.Journal.Recording
import VolatilityDesk.Proofs.Json.Numeral
import VolatilityDesk.Proofs.Json.Reading
import VolatilityDesk.Proofs.Json.Text
import VolatilityDesk.Proofs.Lookup
import VolatilityDesk.Proofs.Market.Replay
import VolatilityDesk.Proofs.Monitor.Audience
import VolatilityDesk.Proofs.Monitor.Closing
import VolatilityDesk.Proofs.Monitor.FeedTime
import VolatilityDesk.Proofs.Monitor.History
import VolatilityDesk.Proofs.Monitor.Journaling
import VolatilityDesk.Proofs.Monitor.Running
import VolatilityDesk.Proofs.Monitor.Step
import VolatilityDesk.Proofs.Monitor.Trimming
import VolatilityDesk.Proofs.Notify.Announcing
import VolatilityDesk.Proofs.Notify.Delivery
import VolatilityDesk.Proofs.Number.Arithmetic
import VolatilityDesk.Proofs.Number.Bounds
import VolatilityDesk.Proofs.Number.Exact
import VolatilityDesk.Proofs.Number.Extended
import VolatilityDesk.Proofs.Number.Order
import VolatilityDesk.Proofs.Number.Places
import VolatilityDesk.Proofs.Number.Quantity
import VolatilityDesk.Proofs.Number.Rounding
import VolatilityDesk.Proofs.Number.Value
import VolatilityDesk.Proofs.Number.Whole
import VolatilityDesk.Proofs.PriceFile.Gathering
import VolatilityDesk.Proofs.PriceFile.LineNumbers
import VolatilityDesk.Proofs.PriceFile.Records
import VolatilityDesk.Proofs.PriceFile.Refusals
import VolatilityDesk.Proofs.PriceFile.Row
import VolatilityDesk.Proofs.PriceFile.Times
import VolatilityDesk.Proofs.Risk.Breaker
import VolatilityDesk.Proofs.Risk.Change
import VolatilityDesk.Proofs.Risk.Conservation
import VolatilityDesk.Proofs.Risk.DailyResult
import VolatilityDesk.Proofs.Risk.Halt
import VolatilityDesk.Proofs.Risk.Intact
import VolatilityDesk.Proofs.Risk.Limit
import VolatilityDesk.Proofs.Risk.Reads
import VolatilityDesk.Proofs.Risk.Step
import VolatilityDesk.Proofs.Session.Hours
import VolatilityDesk.Proofs.Session.Margin
import VolatilityDesk.Proofs.Session.Remaining
import VolatilityDesk.Proofs.Settings.Bounds
import VolatilityDesk.Proofs.Settings.ClockTimes
import VolatilityDesk.Proofs.Settings.Field
import VolatilityDesk.Proofs.Settings.Gathering
import VolatilityDesk.Proofs.Signal.Batch
import VolatilityDesk.Proofs.Signal.Export
import VolatilityDesk.Proofs.Signal.Gain
import VolatilityDesk.Proofs.Signal.Identifier
import VolatilityDesk.Proofs.Signal.Levels
import VolatilityDesk.Proofs.Signal.Ranking
import VolatilityDesk.Proofs.Signal.Return
import VolatilityDesk.Proofs.Signal.Summary
import VolatilityDesk.Proofs.Signal.Thresholds
import VolatilityDesk.Proofs.Signal.Units
import VolatilityDesk.Proofs.Signal.Window
import VolatilityDesk.Proofs.Text.Order
import VolatilityDesk.Proofs.Text.Padded
import VolatilityDesk.Proofs.Tick.Accounts
import VolatilityDesk.Proofs.Tick.Attempts
import VolatilityDesk.Proofs.Tick.Order
import VolatilityDesk.Proofs.Tick.Step
import VolatilityDesk.Proofs.Tick.Stops
import VolatilityDesk.Proofs.Time.Calendar
import VolatilityDesk.Proofs.Time.Clock
import VolatilityDesk.Proofs.Time.Local
import VolatilityDesk.Proofs.Time.Order
import VolatilityDesk.Proofs.Time.Timestamp
import VolatilityDesk.Record.Console
import VolatilityDesk.Record.Journal
import VolatilityDesk.Record.Market
import VolatilityDesk.Record.Settings
import VolatilityDesk.Record.Trading
import VolatilityDesk.Settings
import VolatilityDesk.Settings.Coerce
import VolatilityDesk.Settings.DotEnv
import VolatilityDesk.Settings.Field
import VolatilityDesk.Settings.Load
import VolatilityDesk.Signal
import VolatilityDesk.Signal.Classify
import VolatilityDesk.Signal.Export
import VolatilityDesk.Signal.Report
import VolatilityDesk.Text.Blank
import VolatilityDesk.Text.Digit
import VolatilityDesk.Text.LetterCase
import VolatilityDesk.Text.Printable
import VolatilityDesk.Text.Quoted
import VolatilityDesk.Text.Segments
import VolatilityDesk.Text.Utf8
import VolatilityDesk.Time.Calendar
import VolatilityDesk.Time.Clock
import VolatilityDesk.Time.Fault
import VolatilityDesk.Time.Iso
import VolatilityDesk.Time.Local
import VolatilityDesk.Time.Timestamp
import VolatilityDesk.Time.Zone
import VolatilityDesk.Time.ZoneNames
import VolatilityDesk.Time.ZoneTable
import VolatilityDesk.Trading.Book
import VolatilityDesk.Trading.Position
import VolatilityDesk.Trading.Report
import VolatilityDesk.Trading.Risk
import VolatilityDesk.Trading.Session
import VolatilityDesk.Trading.Tick
import VolatilityDesk.Word
