import VolatilityDesk.Proofs.Book.Stops
import VolatilityDesk.Proofs.Risk.Change
/-!
# The breaker

The breaker is the halt of a day. It is dated exactly when it is set; a scan sets it exactly when
the realized and the unrealized result together are not above the negative of the limit, and says so
in its report; and between the starts of two days it is set at most once, whichever operations could
have set it. A total that is not a number is above nothing, so it sets the breaker too.

* `breaker_set_once` — when the breaker is set, what a scan says of it, and how often it trips.
* `dated_after` — in every run the breaker is dated exactly when it is set.
-/

namespace VolatilityDesk

variable {α : Type} [Number α]

/-! ### The breaker of a day -/

namespace DailyState

/-- The day is halted exactly when it has a time of its halt. -/
def Dated (s : DailyState α) : Prop := s.halted = true ↔ s.haltedAt.isSome = true

variable {s : DailyState α} {positions : List (Position α)} {limit total : α} {now : Timestamp}

theorem dated_fresh (day : Date) : (fresh day : DailyState α).Dated := by simp [Dated, fresh]

theorem Dated.checkLimit (dated : s.Dated) : (s.checkLimit limit total now).Dated := by
  unfold DailyState.checkLimit
  split
  · exact dated
  · simp [Dated]

theorem Dated.record (dated : s.Dated) : (s.record positions).Dated := dated

/-- A check leaves a day halted when it was, and when the total is not above the negative of the
limit. -/
theorem checkLimit_halted_iff : (s.checkLimit limit total now).halted = true ↔
    s.halted = true ∨ ¬ -limit < total := by
  constructor
  · intro halted
    unfold checkLimit at halted
    split at halted
    · exact .inl halted
    · rename_i neither
      exact .inr fun above => neither (.inr above)
  · rintro (halted | reached)
    · rw [checkLimit_of_halted halted, halted]
    · exact halted_checkLimit reached

/-- A check that halts a day dates the halt. -/
theorem checkLimit_haltedAt (free : s.halted = false)
    (halted : (s.checkLimit limit total now).halted = true) :
    (s.checkLimit limit total now).haltedAt = some now := by
  unfold checkLimit at halted ⊢
  split at halted
  · rw [free] at halted
    cases halted
  · rename_i neither
    rw [if_neg neither]

end DailyState

namespace RiskDesk

variable {d : RiskDesk α} {s t : DailyState α} {o : Operation α} {now : Timestamp}
  {prices : Prices α}

/-! ### Dated halts -/

/-- A step that finds a dated day, if there is one, leaves a dated day. -/
theorem Step.dated {out : Outcome α (Answer α)} (step : Step d o out)
    (dated : ∀ s, d.state = some s → s.Dated) (left : out.2.state = some t) : t.Dated := by
  have brings : ∀ {now s}, d.today now = .ok s → s.Dated := by
    intro now s brought
    rcases kept_or_started brought with ⟨kept, -⟩ | ⟨new, -⟩
    · exact dated s kept
    · rw [new]
      exact DailyState.dated_fresh _
  cases step with
  | timeless => exact dated t left
  | failed brought | read brought | asked brought | refused brought | traded brought =>
    obtain rfl := Option.some.inj left
    exact brings brought
  | closed brought | scanned brought | flattened brought =>
    obtain rfl := Option.some.inj left
    exact (brings brought).record.checkLimit

theorem dated_after (dated : ∀ s, d.state = some s → s.Dated) (operations : List (Operation α)) :
    ∀ s, (d.after operations).state = some s → s.Dated := by
  induction operations generalizing d with
  | nil => exact dated
  | cons o rest ih => exact ih fun s left => (step_perform d o).dated dated left

/-! ### What a scan makes of the breaker -/

/-- What a scan makes of the state of the day, and what its report says of it. -/
structure Judged (d after : RiskDesk α) (prices : Prices α) (now : Timestamp) (s t : DailyState α)
    (report : RiskScan α) : Prop where
  state : after.state = some t
  /-- What the scan closes is booked before the check. -/
  booked : ∃ pnls : List α, after.book.closed = d.book.closed ++ report.closed ∧
    report.closed.map (·.realized) = pnls.map some ∧ t.realized = pnls.foldl (· + ·) s.realized
  /-- The rest is valued at the prices of the scan. -/
  unrealized : after.book.unrealized prices = .ok report.unrealized
  halted : t.halted = true ↔
    s.halted = true ∨ ¬ -d.maxDailyLoss < t.realized + report.unrealized
  tripped : report.tripped = true ↔ s.halted = false ∧ t.halted = true
  since : report.tripped = true → t.haltedAt = some now
  shown : report.realized = t.realized ∧ report.halted = t.halted

theorem judged_of_scan {after : RiskDesk α} {report : RiskScan α} (brought : d.today now = .ok s)
    (scans : d.perform (.scan prices now) = (.ok (.scanned report), after)) :
    ∃ t, Judged d after prices now s t report := by
  have step := step_perform d (.scan prices now)
  rw [scans] at step
  cases step with
  | @scanned _ _ own book gone unrealized brought' stops valued =>
    obtain rfl : s = own := Except.ok.inj (brought.symm.trans brought')
    obtain ⟨closed, closing⟩ := Book.closed_of_closeBy Book.closes_of_stopRule stops
    obtain ⟨pnls, results⟩ := Position.exists_results closing
    set t := (s.record gone).checkLimit d.maxDailyLoss ((s.record gone).realized + unrealized) now
    have realized : t.realized = (s.record gone).realized := DailyState.checkLimit_realized
    have tripped : (t.halted && !s.halted) = true ↔ s.halted = false ∧ t.halted = true := by
      cases s.halted <;> simp
    refine ⟨t, ?_⟩
    exact
      { state := rfl
        booked := ⟨pnls, closed, results, realized.trans (DailyState.record_realized results)⟩
        unrealized := valued
        halted := by
          rw [realized]
          exact DailyState.checkLimit_halted_iff
        tripped := tripped
        since := fun trips =>
          DailyState.checkLimit_haltedAt (tripped.mp trips).1 (tripped.mp trips).2
        shown := ⟨rfl, rfl⟩ }

/-- On a book with a result for every position a scan answers whenever its time has a date. -/
theorem exists_scan (valued : d.book.Valued) (brought : d.today now = .ok s)
    (prices : Prices α) : ∃ report after, d.scan prices now = (.ok report, after) := by
  obtain ⟨book, gone, stops⟩ := valued.exists_scanStops prices d.maxLoss now
  obtain ⟨unrealized, worth⟩ := Book.exists_unrealized_of_scanStops stops
  simp only [scan, onToday, brought, stops, worth]
  exact ⟨_, _, rfl⟩

theorem exists_scanned (valued : d.book.Valued) (brought : d.today now = .ok s)
    (prices : Prices α) :
    ∃ report after, d.perform (.scan prices now) = (.ok (.scanned report), after) := by
  obtain ⟨report, after, scans⟩ := exists_scan valued brought prices
  refine ⟨report, after, ?_⟩
  rw [perform, scans]
  rfl

/-! ### One halt a day -/

/-- The operation finds the day running and leaves it halted. -/
def Trips (d : RiskDesk α) (o : Operation α) : Prop :=
  ∃ s t, d.today o.time = .ok s ∧ s.halted = false ∧
    (d.perform o).2.state = some t ∧ t.halted = true

/-- An operation of a run starts a day. -/
def StartsDayIn (d : RiskDesk α) (operations : List (Operation α)) : Prop :=
  ∃ earlier next later day, operations = earlier ++ next :: later ∧
    (d.after earlier).StartsDay next.time day

theorem StartsDayIn.cons {rest : List (Operation α)}
    (starts : StartsDayIn (d.perform o).2 rest) : StartsDayIn d (o :: rest) := by
  obtain ⟨earlier, next, later, day, rfl, starts⟩ := starts
  exact ⟨o :: earlier, next, later, day, rfl, starts⟩

/-- A halted day is not halted again: before that another day starts. -/
theorem startsDayIn_of_trips (present : d.state = some s) (halted : s.halted = true)
    {between : List (Operation α)} (trips : Trips (d.after between) o) :
    StartsDayIn d (between ++ [o]) := by
  induction between generalizing d s with
  | nil =>
    obtain ⟨u, t, brought, free, -, -⟩ := trips
    rcases kept_or_started brought with ⟨kept, -⟩ | ⟨-, starts⟩
    · obtain rfl : s = u := Option.some.inj (present.symm.trans kept)
      rw [halted] at free
      cases free
    · exact ⟨[], o, [], u.day, rfl, starts⟩
  | cons next rest ih =>
    rw [after_cons] at trips
    rcases (step_perform d next).timeless_or_booked with ⟨-, same⟩ | ⟨u, s', brought, booked⟩
    · exact (ih (by rw [same, present]) halted trips).cons
    · rcases kept_or_started brought with ⟨kept, -⟩ | ⟨-, starts⟩
      · obtain rfl : s = u := Option.some.inj (present.symm.trans kept)
        exact (ih booked.state (booked.halted halted).1 trips).cons
      · exact ⟨[], next, rest ++ [o], u.day, rfl, starts⟩

/-- **The breaker of a day.** In every run from a desk without a day over a fresh book: a day is
halted exactly when its halt is dated; a scan at a time that has a date answers, and leaves the day
halted exactly when it was halted before or realized and unrealized result together are not above
the negative of the limit, and reports just that; and of two operations that halt a day the later
one comes after the start of another day. -/
theorem breaker_set_once {d : RiskDesk Float} {l : Limits Float} {serial : Nat}
    (fresh : d.book = Book.ofLimits l serial) (unstarted : d.state = none)
    (operations : List (Operation Float)) :
    (∀ s, (d.after operations).state = some s →
        (s.halted = true ↔ s.haltedAt.isSome = true)) ∧
      (∀ prices now s, (d.after operations).today now = .ok s → ∃ report after t,
        (d.after operations).perform (.scan prices now) = (.ok (.scanned report), after) ∧
          Judged (d.after operations) after prices now s t report) ∧
      ∀ before first between second, Trips (d.after before) first →
        Trips (d.after (before ++ [first] ++ between)) second →
          StartsDayIn (d.after (before ++ [first])) (between ++ [second]) := by
  refine ⟨?dated, ?scans, ?once⟩
  case dated =>
    refine dated_after ?_ operations
    rw [unstarted]
    nofun
  case scans =>
    intro prices now s brought
    have start : d.book.Valued := by
      rw [fresh]
      exact Book.valued_ofLimits l serial
    have valued : (d.after operations).book.Valued :=
      book_after_induction start Book.Valued.step operations
    obtain ⟨report, after, scans⟩ := exists_scanned valued brought prices
    obtain ⟨t, judged⟩ := judged_of_scan brought scans
    exact ⟨report, after, t, scans, judged⟩
  case once =>
    intro before first between second trips again
    obtain ⟨_, t, -, -, left, halted⟩ := trips
    rw [after_append] at again
    refine startsDayIn_of_trips ?_ halted again
    rw [after_concat]
    exact left

/-! ### Two halts -/

/-- A position is bought at 100 on a day, and a scan at the noon of the day finds it at 80. -/
def buying (day : Int) : Operation Float := .act (sampleSignal "AAPL" .buy) 100.0 (noon day)

def falling (day : Int) : Operation Float := .scan [("AAPL", 80.0)] (noon day)

/-- The scan halts the day, and that of the next day halts the next. -/
theorem breaker_set_once_next_day :
    (∃ report after s t, (sample.after [buying 739446]).perform (falling 739446) =
          (.ok (.scanned report), after) ∧
        Judged (sample.after [buying 739446]) after [("AAPL", 80.0)] (noon 739446) s t report ∧
        report.tripped = true ∧ t.haltedAt = some (noon 739446)) ∧
      StartsDayIn (sample.after ([buying 739446] ++ [falling 739446]))
        ([buying 739447] ++ [falling 739447]) := by
  have fresh : sample.book = Book.ofLimits Settings.defaults.limits 0 := rfl
  obtain ⟨-, scans, once⟩ := breaker_set_once fresh rfl [buying 739446]
  constructor
  · obtain ⟨report, after, t, answers, judged⟩ :=
      scans [("AAPL", 80.0)] (noon 739446) (.fresh ⟨739446⟩) rfl
    have lost : ((sample.after [buying 739446]).perform (falling 739446)).2.state.map
        (fun s => s.halted) = some true := by decide +kernel
    have halted : t.halted = true := by
      rw [falling, answers, judged.state] at lost
      exact Option.some.inj lost
    have trips := judged.tripped.mpr ⟨rfl, halted⟩
    exact ⟨report, after, _, t, answers, judged, trips, judged.since trips⟩
  · exact once [buying 739446] (falling 739446) [buying 739447] (falling 739447)
      ⟨_, _, rfl, rfl, rfl, rfl⟩ ⟨_, _, rfl, rfl, rfl, rfl⟩

end RiskDesk

end VolatilityDesk
