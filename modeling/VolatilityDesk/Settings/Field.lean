import VolatilityDesk.Settings
import VolatilityDesk.Settings.Coerce
import VolatilityDesk.Text.LetterCase
import VolatilityDesk.Time.ZoneNames
/-!
# The settings one by one

Each setting has a name, accepts a kind of value, and may refuse some values of that kind. The
list `Field.all` holds them in the order in which they are checked.
-/

namespace VolatilityDesk

/-- Why a setting was not set. -/
inductive FieldFault where
  | complaints (found : List Complaint)
  /-- A clock time whose numbers no machine word holds ends the whole reading. -/
  | clock (fault : ClockFault)

/-- A setting: its name, and how it takes a value. -/
structure Field where
  name : String
  /-- Takes a value that is of the right kind and passes the setting's check. -/
  set : Json → Settings → Except FieldFault Settings
  /-- Takes any value of the right kind; another value changes nothing. -/
  force : Json → Settings → Settings

namespace Field

/-- A complaint about the setting itself. -/
def complain {α : Type} (kind : ComplaintKind) : Except FieldFault α :=
  .error (.complaints [⟨[], kind⟩])

/-- A setting read by a coercion and a check. -/
def make {β : Type} (name : String) (read : Json → Except ComplaintKind β)
    (check : β → Option Rejection) (put : Settings → β → Settings) : Field where
  name := name
  set value s :=
    match read value with
    | .error kind => complain kind
    | .ok x =>
      match check x with
      | some reason => complain (.rejected reason)
      | none => .ok (put s x)
  force value s :=
    match read value with
    | .error _ => s
    | .ok x => put s x

/-! ### Checks -/

/-- Every value is accepted. -/
def anything {β : Type} (_ : β) : Option Rejection := none

/-- A count must be above zero. -/
def countPositive (n : Int) : Option Rejection :=
  if n ≤ 0 then some (.countNotPositive n) else none

/-- A number must not be zero or below. -/
def positive (x : Float) : Option Rejection := if x ≤ 0.0 then some (.notPositive x) else none

/-- An interval must not be negative. -/
def intervalAllowed (n : Int) : Option Rejection :=
  if n < 0 then some (.negativeInterval n) else none

/-- A confidence lies above zero and is at most one. -/
def confidenceInRange (x : Float) : Option Rejection :=
  if 0.0 < x ∧ x ≤ 1.0 then none else some (.confidenceRange x)

/-- A bound of the strength lies between zero and one hundred. -/
def strengthInRange (x : Float) : Option Rejection :=
  if 0.0 < x ∧ x < 100.0 then none else some (.strengthRange x)

/-- A zone must be in the database. -/
def zoneKnown (name : String) : Option Rejection :=
  if Zone.names.contains name then none else some (.zone name)

/-! ### Settings of a special form -/

/-- A setting that holds a clock time as text. -/
def clockText (name : String) (put : Settings → String → Settings) : Field where
  name := name
  set value s :=
    match Coerce.text value with
    | .error kind => complain kind
    | .ok text =>
      match Clock.parse text with
      | .ok _ => .ok (put s text)
      | .error (.malformed text) => complain (.rejected (.clock text))
      | .error fault => .error (.clock fault)
  force value s :=
    match Coerce.text value with
    | .error _ => s
    | .ok text => put s text

/-- The names of instruments without blanks around them, in upper case; blank names are left
out. -/
def normalizeNames (names : List String) : List String :=
  (names.map Text.strip).filterMap fun name =>
    if name.isEmpty then none else some (Text.upperCase name)

/-- The instruments to watch. -/
def watchlist : Field where
  name := "watchlist"
  set value s :=
    match Coerce.texts value with
    | .error found => .error (.complaints found)
    | .ok names => .ok { s with watchlist := normalizeNames names }
  force value s :=
    match Coerce.texts value with
    | .error _ => s
    | .ok names => { s with watchlist := names }

/-! ### All of them -/

/-- Changes the rules for signals. -/
def setRules (change : SignalRules Float → SignalRules Float) (s : Settings) : Settings :=
  { s with rules := change s.rules }

/-- Changes the periods of the indicators. -/
def setPeriods (change : Indicator.Periods Float → Indicator.Periods Float) (s : Settings) :
    Settings :=
  setRules (fun r => { r with periods := change r.periods }) s

/-- Changes the limits of trading. -/
def setLimits (change : Limits Float → Limits Float) (s : Settings) : Settings :=
  { s with limits := change s.limits }

/-- Changes the plan of the session. -/
def setSession (change : SessionPlan → SessionPlan) (s : Settings) : Settings :=
  { s with session := change s.session }

/-- Changes the chat account. -/
def setChat (change : ChatAccount → ChatAccount) (s : Settings) : Settings :=
  { s with chat := change s.chat }

/-- All settings in the order in which they are checked. -/
def all : List Field := [
  watchlist,
  make "bollinger_period" Coerce.whole countPositive
    fun s n => setPeriods (fun p => { p with band := n }) s,
  make "bollinger_deviation" Coerce.float positive
    fun s x => setPeriods (fun p => { p with deviations := x }) s,
  make "rsi_period" Coerce.whole countPositive
    fun s n => setPeriods (fun p => { p with strength := n }) s,
  make "rsi_overbought" Coerce.float strengthInRange
    fun s x => setRules (fun r => { r with overbought := x }) s,
  make "rsi_oversold" Coerce.float strengthInRange
    fun s x => setRules (fun r => { r with oversold := x }) s,
  make "volume_period" Coerce.whole countPositive
    fun s n => setPeriods (fun p => { p with volume := n }) s,
  make "volume_threshold" Coerce.float positive
    fun s x => setRules (fun r => { r with volumeThreshold := x }) s,
  make "min_volatility_percent" Coerce.float positive
    fun s x => setRules (fun r => { r with minChange := x }) s,
  make "min_expected_roi" Coerce.float positive
    fun s x => setRules (fun r => { r with minReturn := x }) s,
  make "stop_loss_percent" Coerce.float positive
    fun s x => setRules (fun r => { r with stopDistance := x }) s,
  make "confidence_threshold" Coerce.float confidenceInRange
    fun s x => setRules (fun r => { r with minConfidence := x }) s,
  make "signal_timeframe" Coerce.text anything
    fun s text => setRules (fun r => { r with timeframe := text }) s,
  make "capital_per_instrument" Coerce.float positive
    fun s x => setLimits (fun l => { l with capital := x }) s,
  make "max_loss_per_trade" Coerce.float positive
    fun s x => setLimits (fun l => { l with maxLoss := x }) s,
  make "max_daily_loss" Coerce.float positive
    fun s x => setLimits (fun l => { l with maxDailyLoss := x }) s,
  make "allow_short" Coerce.flag anything
    fun s b => setLimits (fun l => { l with allowShort := b }) s,
  clockText "trading_start" fun s text => setSession (fun p => { p with start := text }) s,
  clockText "trading_end" fun s text => setSession (fun p => { p with stop := text }) s,
  make "trading_timezone" Coerce.text zoneKnown
    fun s text => setSession (fun p => { p with timezone := text }) s,
  make "trade_weekends" Coerce.flag anything
    fun s b => setSession (fun p => { p with weekends := b }) s,
  make "flatten_margin_minutes" Coerce.whole countPositive
    fun s n => setSession (fun p => { p with flattenMinutes := n }) s,
  make "poll_interval_seconds" Coerce.whole intervalAllowed
    fun s n => { s with pollSeconds := n },
  make "signal_history_size" Coerce.whole countPositive
    fun s n => { s with historySize := n },
  make "log_level" Coerce.text anything fun s text => { s with logLevel := text },
  make "db_path" Coerce.path anything fun s text => { s with journalPath := some text },
  make "http_timeout" Coerce.float positive fun s x => { s with httpTimeout := x },
  make "telegram_bot_token" Coerce.text anything
    fun s text => setChat (fun c => { c with token := text }) s,
  make "telegram_chat_id" Coerce.text anything
    fun s text => setChat (fun c => { c with chat := text }) s,
  make "telegram_enabled" Coerce.flag anything
    fun s b => setChat (fun c => { c with enabled := b }) s]

/-- The names of all settings. -/
def names : List String := all.map (·.name)

end Field

end VolatilityDesk
