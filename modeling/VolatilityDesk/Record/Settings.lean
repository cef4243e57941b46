import VolatilityDesk.Record.Market
import VolatilityDesk.Settings
/-!
# Records of the settings

All settings but the journal's place as one interchange record, in the order in which they are
checked.
-/

namespace VolatilityDesk.Record

/-- All settings but the place of the journal. -/
def settings (s : Settings) : Json :=
  .object [
    ("watchlist", .texts s.watchlist),
    ("bollinger_period", .ofInt s.rules.periods.band),
    ("bollinger_deviation", float s.rules.periods.deviations),
    ("rsi_period", .ofInt s.rules.periods.strength),
    ("rsi_overbought", float s.rules.overbought),
    ("rsi_oversold", float s.rules.oversold),
    ("volume_period", .ofInt s.rules.periods.volume),
    ("volume_threshold", float s.rules.volumeThreshold),
    ("min_volatility_percent", float s.rules.minChange),
    ("min_expected_roi", float s.rules.minReturn),
    ("stop_loss_percent", float s.rules.stopDistance),
    ("confidence_threshold", float s.rules.minConfidence),
    ("signal_timeframe", .text s.rules.timeframe),
    ("capital_per_instrument", float s.limits.capital),
    ("max_loss_per_trade", float s.limits.maxLoss),
    ("max_daily_loss", float s.limits.maxDailyLoss),
    ("allow_short", .bool s.limits.allowShort),
    ("trading_start", .text s.session.start),
    ("trading_end", .text s.session.stop),
    ("trading_timezone", .text s.session.timezone),
    ("trade_weekends", .bool s.session.weekends),
    ("flatten_margin_minutes", .ofInt s.session.flattenMinutes),
    ("poll_interval_seconds", .ofInt s.pollSeconds),
    ("signal_history_size", .ofInt s.historySize),
    ("log_level", .text s.logLevel),
    ("http_timeout", float s.httpTimeout),
    ("telegram_bot_token", .text s.chat.token),
    ("telegram_chat_id", .text s.chat.chat),
    ("telegram_enabled", .bool s.chat.enabled)]

end VolatilityDesk.Record
