import VolatilityDesk.Proofs.Risk.Change
import VolatilityDesk.Trading.Tick
/-!
# Steps of a tick

A tick is a run of operations of the desk. `Ticked` says which ones, and what the report holds, for
a tick that gives a report; a tick that fails has run the operations before its fault, and no
others. So what runs of the desk keep, ticks keep.

* `ticked_of_runTick` — the operations of a tick, and its report.
* `exists_after_eq_runTick` — also a tick that fails is a run of operations.
-/

namespace VolatilityDesk.RiskDesk

variable {α : Type} [Number α]

/-! ### Answers of operations -/

section Answers

variable {d after : RiskDesk α} {now : Timestamp}

theorem perform_act {s : Signal α} {price : α} {result : TradeResult α}
    (acts : d.act s price now = (.ok result, after)) :
    d.perform (.act s price now) = (.ok (.traded result), after) := by
  simp [perform, acts, Except.map]

theorem perform_scan {prices : Prices α} {report : RiskScan α}
    (scans : d.scan prices now = (.ok report, after)) :
    d.perform (.scan prices now) = (.ok (.scanned report), after) := by
  simp [perform, scans, Except.map]

theorem perform_flatten {prices : Prices α} {gone : List (Position α)}
    (flattens : d.flatten prices now = (.ok gone, after)) :
    d.perform (.flatten prices now) = (.ok (.flattened gone), after) := by
  simp [perform, flattens, Except.map]

end Answers

/-! ### Applying signals -/

/-- Signals were applied one after the other, each at the price of its instrument. -/
inductive Applied (prices : Prices α) (now : Timestamp) :
    List (Signal α) → RiskDesk α → List (TradeResult α) → RiskDesk α → Prop where
  | nil {d : RiskDesk α} : Applied prices now [] d [] d
  | cons {s : Signal α} {rest : List (Signal α)} {price : α} {d middle after : RiskDesk α}
      {result : TradeResult α} {results : List (TradeResult α)}
      (priced : prices.lookup s.instrument = some price)
      (acts : d.perform (.act s price now) = (.ok (.traded result), middle))
      (later : Applied prices now rest middle results after) :
      Applied prices now (s :: rest) d (result :: results) after

theorem applied_of_actAll {prices : Prices α} {now : Timestamp} {signals : List (Signal α)}
    {d after : RiskDesk α} {results : List (TradeResult α)}
    (acts : actAll prices now signals d = (.ok results, after)) :
    Applied prices now signals d results after := by
  induction signals generalizing d results with
  | nil =>
    cases acts
    exact .nil
  | cons s rest ih =>
    rw [actAll] at acts
    split at acts
    · cases acts
    · rename_i price priced
      split at acts
      · cases acts
      · rename_i result middle first
        split at acts
        · cases acts
        · rename_i others last later
          cases acts
          exact .cons priced (perform_act first) (ih later)

/-! ### Whole ticks -/

/-- What a tick that gives a report has done. -/
inductive Ticked [Root α] (d : RiskDesk α) (rules : SignalRules α) (snapshot : Snapshot α)
    (now : Timestamp) : TickReport α → RiskDesk α → Prop where
  | trading {signals : List (Signal α)} {results : List (TradeResult α)} {scan : RiskScan α}
      {traded after : RiskDesk α} (early : d.session.shouldFlatten now = .ok false)
      (evaluated : Classify.signals rules snapshot now = .ok signals)
      (applied : Applied snapshot.latestPrices now signals d results traded)
      (scans : traded.perform (.scan snapshot.latestPrices now) = (.ok (.scanned scan), after)) :
      Ticked d rules snapshot now
        { time := now, signals := signals, results := results, scan := some scan,
          stopped := scan.closed }
        after
  | closing {signals : List (Signal α)} {scan : RiskScan α} {gone : List (Position α)}
      {scanned after : RiskDesk α} (ending : d.session.shouldFlatten now = .ok true)
      (evaluated : Classify.signals rules snapshot now = .ok signals)
      (scans : d.perform (.scan snapshot.latestPrices now) = (.ok (.scanned scan), scanned))
      (flattens : scanned.perform (.flatten snapshot.latestPrices now) =
        (.ok (.flattened gone), after)) :
      Ticked d rules snapshot now
        { time := now, signals := signals, scan := some scan, stopped := scan.closed,
          flattened := gone }
        after

section Tick

variable [Root α] {d after : RiskDesk α} {rules : SignalRules α} {snapshot : Snapshot α}
  {now : Timestamp} {report : TickReport α}

theorem ticked_of_runTick (returns : d.runTick rules snapshot now = (.ok report, after)) :
    Ticked d rules snapshot now report after := by
  unfold runTick at returns
  cases margin : d.session.shouldFlatten now with
  | error fault => simp [margin] at returns
  | ok flattening =>
    cases evaluated : Classify.signals rules snapshot now with
    | error fault => simp [margin, evaluated] at returns
    | ok signals =>
      simp only [margin, evaluated] at returns
      cases flattening with
      | true =>
        simp only [if_true, settle] at returns
        split at returns
        · cases returns
        · rename_i scan scanned scans
          split at returns
          · cases returns
          · rename_i gone last flattens
            cases returns
            exact .closing margin evaluated (perform_scan scans) (perform_flatten flattens)
      | false =>
        simp only [Bool.false_eq_true, if_false, settle] at returns
        split at returns
        · cases returns
        · rename_i results traded acts
          split at returns
          · cases returns
          · rename_i scan scanned scans
            cases returns
            exact .trading margin evaluated (applied_of_actAll acts) (perform_scan scans)

end Tick

/-! ### Ticks as runs -/

section Runs

theorem after_act (d : RiskDesk α) (s : Signal α) (price : α) (now : Timestamp)
    (rest : List (Operation α)) :
    d.after (.act s price now :: rest) = (d.act s price now).2.after rest := rfl

theorem after_scan (d : RiskDesk α) (prices : Prices α) (now : Timestamp)
    (rest : List (Operation α)) :
    d.after (.scan prices now :: rest) = (d.scan prices now).2.after rest := rfl

theorem after_flatten (d : RiskDesk α) (prices : Prices α) (now : Timestamp)
    (rest : List (Operation α)) :
    d.after (.flatten prices now :: rest) = (d.flatten prices now).2.after rest := rfl

theorem exists_after_eq_actAll (prices : Prices α) (now : Timestamp) (signals : List (Signal α))
    (d : RiskDesk α) : ∃ operations, d.after operations = (actAll prices now signals d).2 := by
  induction signals generalizing d with
  | nil => exact ⟨[], rfl⟩
  | cons s rest ih =>
    cases priced : prices.lookup s.instrument with
    | none =>
      simp only [actAll, priced]
      exact ⟨[], rfl⟩
    | some price =>
      rcases acts : d.act s price now with ⟨out, middle⟩
      simp only [actAll, priced, acts]
      cases out with
      | error fault =>
        refine ⟨[.act s price now], ?_⟩
        rw [after_act, acts, after_nil]
      | ok result =>
        -- The rest of the batch runs on, and only the answer depends on whether it fails.
        obtain ⟨operations, same⟩ := ih middle
        refine ⟨.act s price now :: operations, ?_⟩
        rw [after_act, acts, same]
        dsimp only
        split <;> rename_i later <;> rw [later]

theorem exists_after_eq_settle (d : RiskDesk α) (prices : Prices α) (flattening : Bool)
    (report : TickReport α) :
    ∃ operations, d.after operations = (d.settle prices flattening report).2 ∧
      ∀ o ∈ operations, o.isSignal = false := by
  rcases scans : d.scan prices report.time with ⟨out, scanned⟩
  simp only [settle, scans]
  cases out with
  | error fault =>
    refine ⟨[.scan prices report.time], ?_, by simp [Operation.isSignal]⟩
    rw [after_scan, scans, after_nil]
  | ok scan =>
    cases flattening with
    | false =>
      refine ⟨[.scan prices report.time], ?_, by simp [Operation.isSignal]⟩
      rw [after_scan, scans, after_nil]
      rfl
    | true =>
      refine ⟨[.scan prices report.time, .flatten prices report.time], ?_,
        by simp [Operation.isSignal]⟩
      rw [after_scan, scans, after_flatten, after_nil]
      simp only [if_true]
      cases scanned.flatten prices report.time with
      | mk out last => cases out <;> rfl

/-- A tick is a run of operations, whether it fails or not; when the session is about to end it
applies no signal. -/
theorem exists_after_eq_runTick [Root α] (d : RiskDesk α) (rules : SignalRules α)
    (snapshot : Snapshot α) (now : Timestamp) :
    ∃ operations, d.after operations = (d.runTick rules snapshot now).2 ∧
      (d.session.shouldFlatten now = .ok true → ∀ o ∈ operations, o.isSignal = false) := by
  cases margin : d.session.shouldFlatten now with
  | error fault =>
    simp only [runTick, margin]
    exact ⟨[], rfl, nofun⟩
  | ok flattening =>
    cases evaluated : Classify.signals rules snapshot now with
    | error fault =>
      simp only [runTick, margin, evaluated]
      exact ⟨[], rfl, nofun⟩
    | ok signals =>
      cases flattening with
      | true =>
        simp only [runTick, margin, evaluated, if_true]
        obtain ⟨operations, same, silent⟩ := d.exists_after_eq_settle snapshot.latestPrices true
          { time := now, signals := signals }
        exact ⟨operations, same, fun _ => silent⟩
      | false =>
        obtain ⟨first, applied⟩ := exists_after_eq_actAll snapshot.latestPrices now signals d
        rcases acts : actAll snapshot.latestPrices now signals d with ⟨out, traded⟩
        rw [acts] at applied
        simp only [runTick, margin, evaluated, Bool.false_eq_true, if_false, acts]
        cases out with
        | error fault => exact ⟨first, applied, nofun⟩
        | ok results =>
          obtain ⟨second, same, -⟩ := traded.exists_after_eq_settle snapshot.latestPrices false
            { time := now, signals := signals, results := results }
          refine ⟨first ++ second, ?_, nofun⟩
          rw [after_append, applied, same]

end Runs

/-! ### Series to compute with -/

/-- Prices of an instrument, each for one unit at an unknown time. -/
def sampleSeries (instrument : String) (prices : List Float) : Series Float where
  instrument := instrument
  prices := prices
  volumes := prices.map fun _ => 1.0
  timestamps := []
  volumes_length := List.length_map _
  timestamps_length := .inl rfl

/-- Rules that need four samples and little return. -/
def sampleRules : SignalRules Float :=
  { Settings.defaults.rules with
    periods := { band := 2, deviations := 2.0, strength := 3, volume := 2 }
    minReturn := 0.1
    minConfidence := 0.0 }

end VolatilityDesk.RiskDesk
