import VolatilityDesk.Proofs.Signal.Levels
import VolatilityDesk.Proofs.Tick.Accounts
/-!
# The attempts of a tick

A tick applies each signal at the price of the snapshot, which is the entry of the signal. So the
price of an attempt is always valid, and a position that is opened has the levels of its signal
around its own entry. Both hold of every attempt, also in a tick that fails at a later one:
`attempts` lists them up to the first fault, and what a tick has opened was opened by one of them.

* `opened_between_levels` — signals and attempts of a tick have their levels in order.
* `mem_or_opened_of_runTick` — what a tick has opened was opened by an attempt.
-/

namespace VolatilityDesk

open Classify

/-- The position has a target and a stop on the two sides of its own entry. -/
def Position.Straddled {α : Type} [Number α] (p : Position α) : Prop :=
  ∃ target stop, p.target = some target ∧ p.stop = some stop ∧
    Straddles p.entry target stop p.direction

/-! ### Single attempts -/

namespace Book

theorem isValidPrice_iff {price : Float} : isValidPrice price = true ↔ 0.0 < price := by
  constructor
  · intro valid
    exact (pos_of_isValidPrice valid).1
  · intro positive
    have above : ¬ price ≤ 0.0 := fun below => Double.not_lt_of_le below positive
    simp [isValidPrice, above, (Double.isNan_eq_false_of_lt positive).2]

variable {α : Type} [Number α] {b after : Book α} {s : Signal α} {price : α} {now : Timestamp}
  {result : TradeResult α} {p : Position α}

/-- The position was opened on the signal, at a price. -/
structure OpenedOn (s : Signal α) (price : α) (p : Position α) : Prop where
  instrument : p.instrument = s.instrument
  direction : p.direction = s.direction
  entry : p.entry = price
  target : p.target = some s.target
  stop : p.stop = some s.stop

theorem Acted.openedOn (acted : Acted b s price now after result)
    (opens : result.opened? = some p) : OpenedOn s price p := by
  cases acted with
  | opened =>
    obtain rfl := Option.some.inj opens
    exact ⟨rfl, rfl, rfl, rfl, rfl⟩
  | invalid | already | closed | nothing | poor => cases opens

/-- What is open after a signal was open before it or was opened on it. -/
theorem Acted.mem_or_opened (acted : Acted b s price now after result) (left : p ∈ after.active) :
    p ∈ b.active ∨ result.opened? = some p := by
  cases acted with
  | invalid | already | nothing | poor => exact .inl left
  | closed => exact .inl (List.mem_of_mem_filter left)
  | opened =>
    rcases List.mem_append.mp left with old | new
    · exact .inl old
    · obtain rfl := List.mem_singleton.mp new
      exact .inr rfl

theorem Acted.outcome_ne_invalidPrice (acted : Acted b s price now after result)
    (valid : isValidPrice price = true) (other : α) : result.outcome ≠ .invalidPrice other := by
  cases acted with
  | invalid bad =>
    rw [valid] at bad
    cases bad
  | already | closed | nothing | poor | opened => nofun

end Book

namespace RiskDesk

section Single

variable {α : Type} [Number α] {d after : RiskDesk α} {s : Signal α} {price : α} {now : Timestamp}
  {result : TradeResult α} {p : Position α}

/-- A signal is refused on a halted day, or acts on the book. -/
theorem halted_or_acted (acts : d.act s price now = (.ok result, after)) :
    (after.book = d.book ∧ ∃ day, result.outcome = .halted day d.maxDailyLoss) ∨
      Book.Acted d.book s price now after.book result := by
  have step := step_perform d (.act s price now)
  rw [perform_act acts] at step
  cases step with
  | refused brought halted => exact .inl ⟨rfl, _, rfl⟩
  | traded brought free acted quiet => exact .inr acted
  | closed brought free acted closes => exact .inr acted

theorem act_of_perform (answers : d.perform (.act s price now) = (.ok (.traded result), after)) :
    d.act s price now = (.ok result, after) := by
  rcases acts : d.act s price now with ⟨out, middle⟩
  cases out with
  | error fault => simp [perform, acts, Except.map] at answers
  | ok other => simpa [perform, acts, Except.map] using answers

/-- A signal that fails leaves the book alone. -/
theorem book_of_act_error {fault : TradingFault}
    (fails : d.act s price now = (.error fault, after)) : after.book = d.book := by
  have step := step_perform d (.act s price now)
  rw [show d.perform (.act s price now) = (.error fault, after) by
    simp [perform, fails, Except.map]] at step
  cases step with
  | timeless | failed => rfl

theorem mem_or_opened_of_act (acts : d.act s price now = (.ok result, after))
    (left : p ∈ after.book.active) : p ∈ d.book.active ∨ result.opened? = some p := by
  rcases halted_or_acted acts with ⟨same, -⟩ | acted
  · exact .inl (same ▸ left)
  · exact acted.mem_or_opened left

end Single

/-! ### Attempts up to the first fault -/

section Attempts

variable {α : Type} [Number α]

/-- The signals that are applied, one after the other up to the first fault, each with what came of
it. -/
def attempts (prices : Prices α) (now : Timestamp) :
    List (Signal α) → RiskDesk α → List (Signal α × TradeResult α)
  | [], _ => []
  | s :: rest, d =>
    match prices.lookup s.instrument with
    | none => []
    | some price =>
      match d.act s price now with
      | (.error _, _) => []
      | (.ok result, d) => (s, result) :: attempts prices now rest d

variable {prices : Prices α} {now : Timestamp} {signals : List (Signal α)} {d after : RiskDesk α}
  {s : Signal α} {result : TradeResult α} {results : List (TradeResult α)} {p : Position α}

theorem attempts_cons {rest : List (Signal α)} {price : α} {middle : RiskDesk α}
    (priced : prices.lookup s.instrument = some price)
    (acts : d.act s price now = (.ok result, middle)) :
    attempts prices now (s :: rest) d = (s, result) :: attempts prices now rest middle := by
  simp [attempts, priced, acts]

/-- Signals that were all applied are the attempts, with their results. -/
theorem Applied.attempts_eq (applied : Applied prices now signals d results after) :
    (attempts prices now signals d).map (·.2) = results := by
  induction applied with
  | nil => rfl
  | cons priced acts later ih =>
    rw [attempts_cons priced (act_of_perform acts), List.map_cons, ih]

/-- An attempt applies one of the signals, at the price of its instrument. -/
theorem exists_act_of_mem_attempts (attempt : (s, result) ∈ attempts prices now signals d) :
    s ∈ signals ∧ ∃ (before after : RiskDesk α) (price : α),
      prices.lookup s.instrument = some price ∧ before.act s price now = (.ok result, after) := by
  induction signals generalizing d with
  | nil => cases attempt
  | cons first rest ih =>
    rw [attempts] at attempt
    split at attempt
    · cases attempt
    · rename_i price priced
      split at attempt
      · cases attempt
      · rename_i answer middle acts
        rcases List.mem_cons.mp attempt with here | later
        · cases here
          exact ⟨.head _, d, middle, price, priced, acts⟩
        · obtain ⟨member, act⟩ := ih later
          exact ⟨.tail _ member, act⟩

/-- What is open after the signals was open before or was opened by an attempt, also when a signal
has failed. -/
theorem mem_or_opened_of_actAll (left : p ∈ (actAll prices now signals d).2.book.active) :
    p ∈ d.book.active ∨
      ∃ s result, (s, result) ∈ attempts prices now signals d ∧ result.opened? = some p := by
  induction signals generalizing d with
  | nil => exact .inl left
  | cons first rest ih =>
    rw [actAll] at left
    split at left
    · exact .inl left
    · rename_i price priced
      split at left
      · rename_i fails
        rw [book_of_act_error fails] at left
        exact .inl left
      · rename_i answer middle acts
        have later : p ∈ (actAll prices now rest middle).2.book.active := by
          split at left <;> rename_i applied <;> rwa [applied]
        rw [attempts_cons priced acts]
        rcases ih later with between | ⟨s, result, attempt, opens⟩
        · rcases mem_or_opened_of_act acts between with before | opens
          · exact .inl before
          · exact .inr ⟨first, answer, .head _, opens⟩
        · exact .inr ⟨s, result, .tail _ attempt, opens⟩

/-- Settling opens nothing. -/
theorem mem_of_settle {flattening : Bool} {report : TickReport α}
    (left : p ∈ (d.settle prices flattening report).2.book.active) : p ∈ d.book.active := by
  obtain ⟨operations, same, silent⟩ := d.exists_after_eq_settle prices flattening report
  rw [← same] at left
  exact (d.noneOpened_after silent).active.mem left

end Attempts

/-! ### Attempts of a tick -/

section Tick

variable {α : Type} [Number α] [Root α]

/-- What a tick attempts: nothing within the margin before the close, and nothing when it cannot
tell the margin or the signals. -/
def attempted (d : RiskDesk α) (rules : SignalRules α) (snapshot : Snapshot α) (now : Timestamp) :
    List (Signal α × TradeResult α) :=
  match d.session.shouldFlatten now, Classify.signals rules snapshot now with
  | .ok false, .ok signals => attempts snapshot.latestPrices now signals d
  | _, _ => []

variable {d after : RiskDesk α} {rules : SignalRules α} {snapshot : Snapshot α} {now : Timestamp}
  {s : Signal α} {result : TradeResult α} {p : Position α} {report : TickReport α}

theorem exists_act_of_mem_attempted (attempt : (s, result) ∈ d.attempted rules snapshot now) :
    ∃ signals, Classify.signals rules snapshot now = .ok signals ∧ s ∈ signals ∧
      ∃ (before after : RiskDesk α) (price : α),
        snapshot.latestPrices.lookup s.instrument = some price ∧
          before.act s price now = (.ok result, after) := by
  unfold attempted at attempt
  split at attempt
  · rename_i signals early evaluated
    obtain ⟨member, act⟩ := exists_act_of_mem_attempts attempt
    exact ⟨signals, evaluated, member, act⟩
  · cases attempt

/-- The results of a report are those of the attempts. -/
theorem results_eq_of_runTick (returns : d.runTick rules snapshot now = (.ok report, after)) :
    report.results = (d.attempted rules snapshot now).map (·.2) := by
  cases ticked_of_runTick returns with
  | trading early evaluated applied scans =>
    simp only [attempted, early, evaluated]
    exact applied.attempts_eq.symm
  | closing ending evaluated scans flattens => simp [attempted, ending]

/-- What is open after a tick was open before it or was opened by an attempt. -/
theorem mem_or_opened_of_runTick (left : p ∈ (d.runTick rules snapshot now).2.book.active) :
    p ∈ d.book.active ∨
      ∃ s result, (s, result) ∈ d.attempted rules snapshot now ∧ result.opened? = some p := by
  unfold runTick at left
  unfold attempted
  cases margin : d.session.shouldFlatten now with
  | error fault =>
    simp only [margin] at left
    exact .inl left
  | ok flattening =>
    cases evaluated : Classify.signals rules snapshot now with
    | error fault =>
      simp only [margin, evaluated] at left
      exact .inl left
    | ok signals =>
      cases flattening with
      | true =>
        simp only [margin, evaluated, if_true] at left
        exact .inl (mem_of_settle left)
      | false =>
        simp only [margin, evaluated, Bool.false_eq_true, if_false] at left ⊢
        refine mem_or_opened_of_actAll ?_
        split at left <;> rename_i applied <;> rw [applied]
        · exact left
        · exact mem_of_settle left

end Tick

/-! ### Levels of what a tick opens -/

variable {rules : SignalRules Float} {snapshot : Snapshot Float} {now : Timestamp}

theorem exists_qualified {signals : List (Signal Float)} {s : Signal Float}
    (keyed : snapshot.Keyed) (evaluated : Classify.signals rules snapshot now = .ok signals)
    (member : s ∈ signals) :
    ∃ series, (s.instrument, series) ∈ snapshot ∧ Qualified rules series s := by
  obtain ⟨⟨key, series⟩, present, found⟩ := exists_series_of_mem evaluated member
  have named : s.instrument = key :=
    (instrument_of_signal? found).trans (keyed.named (key, series) present)
  exact ⟨series, named ▸ present, qualified_of_signal? found⟩

/-- **Signals and what they open have ordered levels.** In a snapshot with every series under its
instrument, every signal of a batch lies between its levels, at the latest price of a series with
enough history, which is positive, and with sufficient score and return. In every tick on such a
snapshot, on any desk and whether it fails or not, no attempt meets an invalid price, and a position
that is opened has the entry of its signal and its levels around it. The attempts are the results of
the report, if there is one, and account for everything that is open after the tick and was not
before. -/
theorem opened_between_levels (keyed : snapshot.Keyed) :
    (∀ signals, Classify.signals rules snapshot now = .ok signals → ∀ s ∈ signals,
        ∃ series, (s.instrument, series) ∈ snapshot ∧ Qualified rules series s) ∧
      ∀ d : RiskDesk Float,
        (∀ s result, (s, result) ∈ d.attempted rules snapshot now →
          (∃ signals, Classify.signals rules snapshot now = .ok signals ∧ s ∈ signals) ∧
            (∀ price, result.outcome ≠ .invalidPrice price) ∧
            ∀ p, result.opened? = some p → Book.OpenedOn s s.entry p ∧ p.Straddled) ∧
          (∀ p ∈ (d.runTick rules snapshot now).2.book.active, p ∈ d.book.active ∨
            ∃ s result, (s, result) ∈ d.attempted rules snapshot now ∧
              result.opened? = some p) ∧
          ∀ report, (d.runTick rules snapshot now).1 = .ok report →
            report.results = (d.attempted rules snapshot now).map (·.2) := by
  refine ⟨fun signals evaluated s member => exists_qualified keyed evaluated member,
    fun d => ⟨?attempts, fun p left => mem_or_opened_of_runTick left,
      fun report returns => results_eq_of_runTick (Prod.ext returns rfl)⟩⟩
  case attempts =>
    intro s result attempt
    obtain ⟨signals, evaluated, member, before, after, price, priced, acts⟩ :=
      exists_act_of_mem_attempted attempt
    obtain ⟨series, present, qualified⟩ := exists_qualified keyed evaluated member
    obtain rfl : s.entry = price :=
      Option.some.inj ((qualified.priced keyed present).symm.trans priced)
    refine ⟨⟨signals, evaluated, member⟩, ?_, ?_⟩
    · intro other
      rcases halted_or_acted acts with ⟨-, day, refused⟩ | acted
      · rw [refused]
        nofun
      · exact acted.outcome_ne_invalidPrice (Book.isValidPrice_iff.mpr qualified.positive) other
    · intro p opens
      rcases halted_or_acted acts with ⟨-, day, refused⟩ | acted
      · simp [TradeResult.opened?, refused] at opens
      · have on := acted.openedOn opens
        refine ⟨on, s.target, s.stop, on.target, on.stop, ?_⟩
        rw [on.entry, on.direction]
        exact qualified.placed

/-- A tick buys on a signal, at the latest price and between its levels. -/
theorem opened_between_levels_rising :
    ∃ s result p,
      (s, result) ∈ sample.attempted sampleRules sampleSnapshot (noon 739446) ∧
        result.opened? = some p ∧ p.entry = 101.0 ∧ Book.OpenedOn s s.entry p ∧ p.Straddled := by
  have sorted : Classify.sortedByKey sampleSnapshot = sampleSnapshot :=
    List.mergeSort_of_pairwise (by decide)
  have rising : (sample.attempted sampleRules sampleSnapshot (noon 739446)).map
      (fun attempt => attempt.2.opened?.map Position.entry) = [some 101.0] := by
    unfold attempted Classify.signals
    rw [sorted]
    decide +kernel
  obtain ⟨⟨s, result⟩, alone, entered⟩ := List.map_eq_singleton_iff.mp rising
  obtain ⟨p, opens, entry⟩ := Option.map_eq_some_iff.mp entered
  have attempt : (s, result) ∈ sample.attempted sampleRules sampleSnapshot (noon 739446) := by
    rw [alone]
    exact List.mem_singleton_self _
  obtain ⟨-, ticks⟩ := opened_between_levels keyed_sampleSnapshot
  obtain ⟨-, -, levels⟩ := (ticks sample).1 s result attempt
  exact ⟨s, result, p, attempt, opens, entry, levels p opens⟩

end RiskDesk

end VolatilityDesk
