import VolatilityDesk.Proofs.Number.Order
import VolatilityDesk.Proofs.Settings.Gathering
import Mathlib.Logic.Function.Basic
/-!
# What accepted settings satisfy

Every check of a single setting is a bound that holds from then on, whatever else is taken
(`Bounded`), and settings that are accepted hold their two pairs of bounds in order (`Sound`). Nine
numbers must be positive (`Threshold`). Their check lets through what is not a number, so such a
threshold is above zero exactly when its first source does not give a value that is read as none.

* `sound_when_accepted` — accepted settings are sound, and their thresholds positive if given as
  numbers.
* `not_every_threshold_positive` — a threshold that is not.
-/

namespace VolatilityDesk

/-! ### The thresholds -/

/-- The settings whose check is that they are positive. -/
inductive Threshold where
  | deviations
  | surge
  | change
  | gain
  | stopDistance
  | capital
  | tradeLoss
  | dailyLoss
  | timeout
  deriving DecidableEq

namespace Threshold

/-- The name of the setting. -/
def name : Threshold → String
  | deviations => "bollinger_deviation"
  | surge => "volume_threshold"
  | change => "min_volatility_percent"
  | gain => "min_expected_roi"
  | stopDistance => "stop_loss_percent"
  | capital => "capital_per_instrument"
  | tradeLoss => "max_loss_per_trade"
  | dailyLoss => "max_daily_loss"
  | timeout => "http_timeout"

/-- The number of the setting. -/
def of (s : Settings) : Threshold → Float
  | deviations => s.rules.periods.deviations
  | surge => s.rules.volumeThreshold
  | change => s.rules.minChange
  | gain => s.rules.minReturn
  | stopDistance => s.rules.stopDistance
  | capital => s.limits.capital
  | tradeLoss => s.limits.maxLoss
  | dailyLoss => s.limits.maxDailyLoss
  | timeout => s.httpTimeout

/-- All of them. -/
def all : List Threshold :=
  [deviations, surge, change, gain, stopDistance, capital, tradeLoss, dailyLoss, timeout]

theorem mem_all (t : Threshold) : t ∈ all := by
  cases t <;> decide

theorem name_injective : Function.Injective name := by
  have distinct : (all.map name).Nodup := by decide
  intro t u same
  exact List.inj_on_of_nodup_map distinct (mem_all t) (mem_all u) same

theorem name_ne {name : String} (other : name ∉ all.map Threshold.name) (t : Threshold) :
    t.name ≠ name := by
  rintro rfl
  exact other (List.mem_map_of_mem (mem_all t))

theorem name_mem_names (t : Threshold) : t.name ∈ Field.names := by
  have each : ∀ t ∈ all, t.name ∈ Field.names := by decide
  exact each t (mem_all t)

end Threshold

namespace Settings

variable {given : List (String × Json)} {value : Json} {f : Field} {fields : List Field}
  {s s' : Settings}

/-- A setting that takes a value becomes a threshold that has passed its check, if it is the one of
that name. Every other threshold stays as it is. -/
def Writes (f : Field) : Prop :=
  ∀ ⦃value s s'⦄, f.set value s = .ok s' → ∀ t : Threshold,
    (t.name = f.name ∧ Coerce.float value = .ok (t.of s') ∧ Field.positive (t.of s') = none) ∨
      (t.name ≠ f.name ∧ t.of s' = t.of s)

theorem writes_watchlist : Writes Field.watchlist := by
  intro value s s' set t
  obtain ⟨names, -, rfl⟩ := Field.watchlist_set_eq_ok_iff.mp set
  cases t <;> exact .inr ⟨by decide, rfl⟩

theorem writes_plain {β : Type} {name : String} {read : Json → Except ComplaintKind β}
    {check : β → Option Rejection} {put : Settings → β → Settings}
    (other : name ∉ Threshold.all.map Threshold.name)
    (kept : ∀ s x, Threshold.of (put s x) = Threshold.of s) :
    Writes (Field.make name read check put) := by
  intro value s s' set t
  obtain ⟨x, -, -, rfl⟩ := Field.make_set_eq_ok_iff.mp set
  rw [kept s x]
  exact .inr ⟨Threshold.name_ne other t, rfl⟩

theorem writes_clock {name : String} {put : Settings → String → Settings}
    (other : name ∉ Threshold.all.map Threshold.name)
    (kept : ∀ s x, Threshold.of (put s x) = Threshold.of s) :
    Writes (Field.clockText name put) := by
  intro value s s' set t
  obtain ⟨text, c, -, -, rfl⟩ := Field.clockText_set_eq_ok_iff.mp set
  rw [kept s text]
  exact .inr ⟨Threshold.name_ne other t, rfl⟩

theorem writes_threshold {put : Settings → Float → Settings} (t : Threshold)
    (puts : ∀ s x u, (Threshold.of (put s x)) u = if u = t then x else Threshold.of s u) :
    Writes (Field.make t.name Coerce.float Field.positive put) := by
  intro value s s' set u
  obtain ⟨x, taken, passed, rfl⟩ := Field.make_set_eq_ok_iff.mp set
  rw [puts s x]
  by_cases same : u = t
  · rw [if_pos same]
    exact .inl ⟨congrArg Threshold.name same, taken, passed⟩
  · rw [if_neg same]
    exact .inr ⟨Threshold.name_injective.ne same, rfl⟩

theorem writes_of_mem (member : f ∈ Field.all) : Writes f := by
  revert f
  simp only [Field.all, List.forall_mem_cons]
  refine ⟨writes_watchlist, writes_plain (by decide) fun _ _ => rfl,
    writes_threshold .deviations ?_, writes_plain (by decide) fun _ _ => rfl,
    writes_plain (by decide) fun _ _ => rfl, writes_plain (by decide) fun _ _ => rfl,
    writes_plain (by decide) fun _ _ => rfl, writes_threshold .surge ?_,
    writes_threshold .change ?_, writes_threshold .gain ?_, writes_threshold .stopDistance ?_,
    writes_plain (by decide) fun _ _ => rfl, writes_plain (by decide) fun _ _ => rfl,
    writes_threshold .capital ?_, writes_threshold .tradeLoss ?_, writes_threshold .dailyLoss ?_,
    writes_plain (by decide) fun _ _ => rfl, writes_clock (by decide) fun _ _ => rfl,
    writes_clock (by decide) fun _ _ => rfl, writes_plain (by decide) fun _ _ => rfl,
    writes_plain (by decide) fun _ _ => rfl, writes_plain (by decide) fun _ _ => rfl,
    writes_plain (by decide) fun _ _ => rfl, writes_plain (by decide) fun _ _ => rfl,
    writes_plain (by decide) fun _ _ => rfl, writes_plain (by decide) fun _ _ => rfl,
    writes_threshold .timeout ?_, writes_plain (by decide) fun _ _ => rfl,
    writes_plain (by decide) fun _ _ => rfl, writes_plain (by decide) fun _ _ => rfl,
    List.forall_mem_nil _⟩
  all_goals
    intro s x u
    cases u <;> rfl

/-- A threshold is as it was if no source gives it, and otherwise what its first source gives. -/
theorem Takes.threshold (takes : Takes given fields s s') (writes : ∀ f ∈ fields, Writes f)
    (t : Threshold) :
    (t.of s' = t.of s ∧ (t.name ∈ fields.map (·.name) → given.lookup t.name = none)) ∨
      ∃ value, given.lookup t.name = some value ∧ Coerce.float value = .ok (t.of s') ∧
        Field.positive (t.of s') = none := by
  induction takes with
  | done => exact .inl ⟨rfl, nofun⟩
  | absent absent _ ih =>
    obtain ⟨same, ungiven⟩ | taken := ih fun f member => writes f (.tail _ member)
    · refine .inl ⟨same, fun member => ?_⟩
      rcases List.mem_cons.mp member with named | member
      · rw [named]
        exact absent
      · exact ungiven member
    · exact .inr taken
  | taken found set _ ih =>
    obtain ⟨same, ungiven⟩ | taken := ih fun f member => writes f (.tail _ member)
    · rcases writes _ (.head _) set t with ⟨named, read, passed⟩ | ⟨other, kept⟩
      · rw [← same] at read passed
        exact .inr ⟨_, named ▸ found, read, passed⟩
      · refine .inl ⟨same.trans kept, fun member => ?_⟩
        rcases List.mem_cons.mp member with named | member
        · exact absurd named other
        · exact ungiven member
    · exact .inr taken

/-! ### Bounds -/

/-- Every setting that has a check of another kind passes it. -/
structure Bounded (s : Settings) : Prop where
  band : 0 < s.rules.periods.band
  strength : 0 < s.rules.periods.strength
  volume : 0 < s.rules.periods.volume
  flatten : 0 < s.session.flattenMinutes
  history : 0 < s.historySize
  poll : 0 ≤ s.pollSeconds
  confidence : 0.0 < s.rules.minConfidence ∧ s.rules.minConfidence ≤ 1.0
  overbought : 0.0 < s.rules.overbought ∧ s.rules.overbought < 100.0
  oversold : 0.0 < s.rules.oversold ∧ s.rules.oversold < 100.0
  start : ∃ c, Clock.parse s.session.start = .ok c
  stop : ∃ c, Clock.parse s.session.stop = .ok c

theorem bounded_defaults : Bounded defaults where
  band := by decide
  strength := by decide
  volume := by decide
  flatten := by decide
  history := by decide
  poll := by decide
  confidence := by decide +kernel
  overbought := by decide +kernel
  oversold := by decide +kernel
  start := Fallible.isOk_iff.mp (by decide +kernel)
  stop := Fallible.isOk_iff.mp (by decide +kernel)

/-- The setting breaks no bound when it takes a value. -/
def Keeps (f : Field) : Prop :=
  ∀ ⦃value s s'⦄, f.set value s = .ok s' → Bounded s → Bounded s'

theorem keeps_watchlist : Keeps Field.watchlist := by
  intro value s s' set bounds
  obtain ⟨names, -, rfl⟩ := Field.watchlist_set_eq_ok_iff.mp set
  exact { bounds with }

theorem keeps_make {β : Type} {name : String} {read : Json → Except ComplaintKind β}
    {check : β → Option Rejection} {put : Settings → β → Settings}
    (kept : ∀ x, check x = none → ∀ s, Bounded s → Bounded (put s x)) :
    Keeps (Field.make name read check put) := by
  intro value s s' set bounds
  obtain ⟨x, -, passed, rfl⟩ := Field.make_set_eq_ok_iff.mp set
  exact kept x passed s bounds

theorem keeps_clock {name : String} {put : Settings → String → Settings}
    (kept : ∀ text, (∃ c, Clock.parse text = .ok c) → ∀ s, Bounded s → Bounded (put s text)) :
    Keeps (Field.clockText name put) := by
  intro value s s' set bounds
  obtain ⟨text, c, -, read, rfl⟩ := Field.clockText_set_eq_ok_iff.mp set
  exact kept text ⟨c, read⟩ s bounds

theorem keeps_of_mem (member : f ∈ Field.all) : Keeps f := by
  revert f
  -- In the order of the list. A setting without a bound writes no field that has one.
  simp only [Field.all, List.forall_mem_cons]
  exact ⟨keeps_watchlist,
    keeps_make fun _ passed _ bounds =>
      { bounds with band := Field.countPositive_eq_none_iff.mp passed },
    keeps_make fun _ _ _ bounds => { bounds with },
    keeps_make fun _ passed _ bounds =>
      { bounds with strength := Field.countPositive_eq_none_iff.mp passed },
    keeps_make fun _ passed _ bounds =>
      { bounds with overbought := Field.strengthInRange_eq_none_iff.mp passed },
    keeps_make fun _ passed _ bounds =>
      { bounds with oversold := Field.strengthInRange_eq_none_iff.mp passed },
    keeps_make fun _ passed _ bounds =>
      { bounds with volume := Field.countPositive_eq_none_iff.mp passed },
    keeps_make fun _ _ _ bounds => { bounds with },
    keeps_make fun _ _ _ bounds => { bounds with },
    keeps_make fun _ _ _ bounds => { bounds with },
    keeps_make fun _ _ _ bounds => { bounds with },
    keeps_make fun _ passed _ bounds =>
      { bounds with confidence := Field.confidenceInRange_eq_none_iff.mp passed },
    keeps_make fun _ _ _ bounds => { bounds with },
    keeps_make fun _ _ _ bounds => { bounds with },
    keeps_make fun _ _ _ bounds => { bounds with },
    keeps_make fun _ _ _ bounds => { bounds with },
    keeps_make fun _ _ _ bounds => { bounds with },
    keeps_clock fun _ read _ bounds => { bounds with start := read },
    keeps_clock fun _ read _ bounds => { bounds with stop := read },
    keeps_make fun _ _ _ bounds => { bounds with },
    keeps_make fun _ _ _ bounds => { bounds with },
    keeps_make fun _ passed _ bounds =>
      { bounds with flatten := Field.countPositive_eq_none_iff.mp passed },
    keeps_make fun _ passed _ bounds =>
      { bounds with poll := Field.intervalAllowed_eq_none_iff.mp passed },
    keeps_make fun _ passed _ bounds =>
      { bounds with history := Field.countPositive_eq_none_iff.mp passed },
    keeps_make fun _ _ _ bounds => { bounds with },
    keeps_make fun _ _ _ bounds => { bounds with },
    keeps_make fun _ _ _ bounds => { bounds with },
    keeps_make fun _ _ _ bounds => { bounds with },
    keeps_make fun _ _ _ bounds => { bounds with },
    keeps_make fun _ _ _ bounds => { bounds with }, List.forall_mem_nil _⟩

theorem Takes.bounded (takes : Takes given Field.all defaults s) : Bounded s :=
  takes.keeps (fun _ member _ _ _ set => keeps_of_mem member set) bounded_defaults

/-! ### Accepted settings -/

/-- The settings keep every bound, and both pairs of bounds are in order. -/
structure Sound (s : Settings) : Prop extends Bounded s where
  apart : s.rules.oversold < s.rules.overbought
  session : ∃ start stop, Clock.parse s.session.start = .ok start ∧
    Clock.parse s.session.stop = .ok stop ∧ start.micros < stop.micros

/-- The first source that gives the setting gives a value that is read, but not as a number. -/
def GivenNan (given : List (String × Json)) (name : String) : Prop :=
  ∃ value x, given.lookup name = some value ∧ Coerce.float value = .ok x ∧
    Number.isNan x = true

/-- Settings whose clock times can be read can be judged. -/
theorem Bounded.exists_judged (bounds : Bounded s) : ∃ verdict, conflict? s = .ok verdict := by
  obtain ⟨start, opens⟩ := bounds.start
  obtain ⟨stop, closes⟩ := bounds.stop
  exact ⟨_, conflict?_eq opens closes⟩

theorem Bounded.sound (bounds : Bounded s) (agreed : conflict? s = .ok none) : Sound s := by
  obtain ⟨start, opens⟩ := bounds.start
  obtain ⟨stop, closes⟩ := bounds.stop
  rw [conflict?_eq opens closes, Except.ok.injEq] at agreed
  by_cases crossed : s.rules.overbought ≤ s.rules.oversold
  · rw [if_pos crossed] at agreed
    cases agreed
  · rw [if_neg crossed] at agreed
    have apart := Double.lt_of_not_le (Double.isNan_eq_false_of_lt bounds.overbought.1).2
      (Double.isNan_eq_false_of_lt bounds.oversold.1).2 crossed
    cases first : start.isBefore stop with
    | true => exact ⟨bounds, apart, start, stop, opens, closes, Clock.isBefore_iff.mp first⟩
    | false =>
      rw [first] at agreed
      cases agreed

theorem threshold_pos_iff (takes : Takes given Field.all defaults s) (t : Threshold) :
    0.0 < t.of s ↔ ¬ GivenNan given t.name := by
  rcases takes.threshold (fun _ => writes_of_mem) t with
    ⟨same, ungiven⟩ | ⟨value, found, read, passed⟩
  · have standard : 0.0 < t.of defaults := by cases t <;> decide +kernel
    rw [same]
    refine iff_of_true standard ?_
    rintro ⟨value, x, found, -⟩
    rw [ungiven (Threshold.name_mem_names t)] at found
    cases found
  · have given_iff : GivenNan given t.name ↔ Number.isNan (t.of s) = true := by
      constructor
      · rintro ⟨value', x, found', read', nan⟩
        cases found.symm.trans found'
        cases read.symm.trans read'
        exact nan
      · exact fun nan => ⟨value, _, found, read, nan⟩
    rw [given_iff]
    rcases Field.positive_eq_none_iff.mp passed with above | nan
    · refine iff_of_true above ?_
      rw [(Double.isNan_eq_false_of_lt above).2]
      nofun
    · refine iff_of_false ?_ (not_not_intro nan)
      intro above
      rw [(Double.isNan_eq_false_of_lt above).2] at nan
      cases nan

/-- **Accepted settings are sound.** They satisfy everything that is asked of them but one thing: a
threshold is above zero exactly if its first source does not give what is not a number. -/
theorem sound_when_accepted {keywords : List (String × Json)} {around : Surroundings}
    (accepted : load keywords around = .ok s) :
    s.Sound ∧ ∃ given, gathered keywords around = .ok (given, []) ∧
      ∀ t : Threshold, 0.0 < t.of s ↔ ¬ GivenNan given t.name := by
  rw [load_eq] at accepted
  obtain ⟨⟨given, unknown⟩, sources, built⟩ := Fallible.bind_eq_ok_iff.mp accepted
  obtain ⟨rfl, takes, agreed⟩ := build_eq_ok_iff.mp built
  exact ⟨takes.bounded.sound agreed, given, sources, threshold_pos_iff takes⟩

/-- Settings from the caller and from the environment are accepted with a threshold among them that
is not a number. -/
theorem sound_from_two_sources :
    let keywords := [("volume_threshold", Json.text "NaN"), ("rsi_oversold", .number "25")]
    let around : Surroundings := ⟨[("MAX_DAILY_LOSS", "75.5"), ("TRADING_START", "8:00")], none⟩
    ∃ s, load keywords around = .ok s ∧ s.Sound ∧
      ∃ given, gathered keywords around = .ok (given, []) ∧
        ∀ t : Threshold, 0.0 < t.of s ↔ ¬ GivenNan given t.name := by
  intro keywords around
  obtain ⟨s, accepted⟩ : ∃ s, load keywords around = .ok s :=
    Fallible.isOk_iff.mp (by decide +kernel)
  exact ⟨s, accepted, sound_when_accepted accepted⟩

/-- A daily loss limit that is not a number is accepted, and it is not above zero. -/
theorem not_every_threshold_positive : ¬ ∀ keywords around s, load keywords around = .ok s →
    ∀ t : Threshold, 0.0 < t.of s := by
  intro all
  have accepted : ((load [("max_daily_loss", .text "NaN")] ⟨[], none⟩).toOption.any
      fun s => !decide (0.0 < Threshold.dailyLoss.of s)) = true := by decide +kernel
  cases loaded : load [("max_daily_loss", .text "NaN")] ⟨[], none⟩ with
  | error fault =>
    rw [loaded] at accepted
    cases accepted
  | ok s =>
    rw [loaded] at accepted
    simp [Except.toOption, all _ _ s loaded .dailyLoss] at accepted

end Settings

end VolatilityDesk
