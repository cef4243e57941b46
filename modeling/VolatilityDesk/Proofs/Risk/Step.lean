import VolatilityDesk.Proofs.Book.Step
import VolatilityDesk.Trading.Risk
/-!
# Steps of the risk desk

What every operation of the desk can do, said once: `Step` gives the answer and the desk after it.
`Booked` is the part of it that every step has in common: what is closed is added to the day, and
a halt is never taken back.

* `step_perform` — what an operation does to the desk.
* `Step.timeless_or_booked` — what it does to the day.
-/

namespace VolatilityDesk

open Fallible

variable {α : Type} [Number α]

/-! ### The state of a day -/

namespace DailyState

variable {s : DailyState α} {positions : List (Position α)} {limit total : α} {now : Timestamp}

@[simp] theorem record_day : (s.record positions).day = s.day := rfl

@[simp] theorem record_halted : (s.record positions).halted = s.halted := rfl

@[simp] theorem record_haltedAt : (s.record positions).haltedAt = s.haltedAt := rfl

@[simp] theorem checkLimit_day : (s.checkLimit limit total now).day = s.day := by
  unfold checkLimit
  split <;> rfl

@[simp] theorem checkLimit_realized : (s.checkLimit limit total now).realized = s.realized := by
  unfold checkLimit
  split <;> rfl

theorem checkLimit_of_halted (halted : s.halted = true) : s.checkLimit limit total now = s :=
  if_pos (.inl halted)

/-- A total that is not above the negative of the limit leaves the day halted. -/
theorem halted_checkLimit (reached : ¬ -limit < total) :
    (s.checkLimit limit total now).halted = true := by
  unfold checkLimit
  split
  · rename_i skipped
    exact skipped.resolve_right reached
  · rfl

theorem record_cons {p : Position α} {pnl : α} (result : p.realized = some pnl) :
    s.record (p :: positions) =
      DailyState.record { s with realized := s.realized + pnl } positions := by
  simp only [record, List.foldl_cons, result]

/-- Results are added from the left, in the order of the positions. -/
theorem record_realized {pnls : List α} (results : positions.map (·.realized) = pnls.map some) :
    (s.record positions).realized = pnls.foldl (· + ·) s.realized := by
  induction positions generalizing s pnls with
  | nil =>
    obtain rfl : pnls = [] := List.map_eq_nil_iff.mp results.symm
    rfl
  | cons p rest ih =>
    obtain ⟨pnl, others, rfl, result, results⟩ := List.map_eq_cons_iff.mp results.symm
    rw [record_cons result.symm, ih results.symm, List.foldl_cons]

end DailyState

namespace RiskDesk

/-! ### Operations and runs -/

/-- An operation of the desk. -/
inductive Operation (α : Type) where
  | act (signal : Signal α) (price : α) (now : Timestamp)
  | scan (prices : Prices α) (now : Timestamp)
  | flatten (prices : Prices α) (now : Timestamp)
  | dailyState (now : Timestamp)
  | isHalted (now : Timestamp)

/-- When an operation happens. -/
def Operation.time {α : Type} : Operation α → Timestamp
  | .act _ _ now | .scan _ now | .flatten _ now | .dailyState now | .isHalted now => now

/-- The operation applies a signal. -/
def Operation.isSignal {α : Type} : Operation α → Bool
  | .act _ _ _ => true
  | .scan _ _ | .flatten _ _ | .dailyState _ | .isHalted _ => false

/-- What an operation that does not fail answers. -/
inductive Answer (α : Type) where
  | traded (result : TradeResult α)
  | scanned (report : RiskScan α)
  | flattened (closed : List (Position α))
  | day (state : DailyState α)
  | halted (halted : Bool)

/-- The answer of an operation and the desk after it. -/
def perform (d : RiskDesk α) : Operation α → Outcome α (Answer α)
  | .act signal price now => (d.act signal price now).map (Except.map .traded) id
  | .scan prices now => (d.scan prices now).map (Except.map .scanned) id
  | .flatten prices now => (d.flatten prices now).map (Except.map .flattened) id
  | .dailyState now => (d.dailyState now).map (Except.map .day) id
  | .isHalted now => (d.isHalted now).map (Except.map .halted) id

/-- The desk after operations, one after the other, whether they fail or not. -/
def after (d : RiskDesk α) (operations : List (Operation α)) : RiskDesk α :=
  operations.foldl (fun d o => (d.perform o).2) d

@[simp] theorem after_nil (d : RiskDesk α) : d.after [] = d := rfl

@[simp] theorem after_append (d : RiskDesk α) (first second : List (Operation α)) :
    d.after (first ++ second) = (d.after first).after second := List.foldl_append

@[simp] theorem after_cons (d : RiskDesk α) (o : Operation α) (rest : List (Operation α)) :
    d.after (o :: rest) = (d.perform o).2.after rest := rfl

theorem after_concat (d : RiskDesk α) (earlier : List (Operation α)) (o : Operation α) :
    d.after (earlier ++ [o]) = ((d.after earlier).perform o).2 := by
  rw [after_append, after_cons, after_nil]

/-! ### The change of day -/

variable {d : RiskDesk α} {s : DailyState α} {now : Timestamp}

/-- A time has a date in the session's zone that is later than the day of the desk, if there is
one. -/
def StartsDay (d : RiskDesk α) (now : Timestamp) (day : Date) : Prop :=
  d.session.tradingDay now = .ok day ∧ ∀ s, d.state = some s → s.day.number < day.number

theorem today_of_state {day : Date} (present : d.state = some s)
    (dated : d.session.tradingDay now = .ok day) (current : day.number ≤ s.day.number) :
    d.today now = .ok s := by
  unfold today
  rw [dated, present]
  simp [Int.not_lt.mpr current]

theorem not_startsDay_of_today_eq_error {fault : TradingFault}
    (timeless : d.today now = .error fault) (day : Date) : ¬ d.StartsDay now day := by
  rintro ⟨dated, _⟩
  unfold today at timeless
  cases present : d.state <;> simp [dated, present] at timeless

/-- The day at a time is the desk's own, or a fresh one which the time starts. -/
theorem kept_or_started (brought : d.today now = .ok s) :
    (d.state = some s ∧ ∀ day, ¬ d.StartsDay now day) ∨
      (s = .fresh s.day ∧ d.StartsDay now s.day) := by
  unfold today at brought
  cases dated : d.session.tradingDay now with
  | error fault => simp [dated] at brought
  | ok day =>
    cases present : d.state with
    | none =>
      simp only [dated, present, Except.ok.injEq] at brought
      subst brought
      exact .inr ⟨rfl, dated, by simp [present]⟩
    | some old =>
      simp only [dated, present, Except.ok.injEq] at brought
      split at brought
      · rename_i later
        subst brought
        refine .inr ⟨rfl, dated, fun t here => ?_⟩
        obtain rfl : old = t := Option.some.inj (present.symm.trans here)
        exact later
      · rename_i current
        subst brought
        refine .inl ⟨rfl, fun other starts => ?_⟩
        obtain rfl : day = other := Except.ok.inj (dated.symm.trans starts.1)
        exact current (starts.2 old present)

/-! ### Single steps -/

/-- What one operation answers, and the desk after it. -/
inductive Step (d : RiskDesk α) : Operation α → Outcome α (Answer α) → Prop where
  | timeless {o : Operation α} {fault : TradingFault} (timeless : d.today o.time = .error fault) :
      Step d o (.error fault, d)
  | failed {o : Operation α} {s : DailyState α} {fault : TradingFault}
      (brought : d.today o.time = .ok s) : Step d o (.error fault, d.withState s)
  | read {now : Timestamp} {s : DailyState α} (brought : d.today now = .ok s) :
      Step d (.dailyState now) (.ok (.day s), d.withState s)
  | asked {now : Timestamp} {s : DailyState α} (brought : d.today now = .ok s) :
      Step d (.isHalted now) (.ok (.halted s.halted), d.withState s)
  | refused {signal : Signal α} {price : α} {now : Timestamp} {s : DailyState α}
      (brought : d.today now = .ok s) (halted : s.halted = true) :
      Step d (.act signal price now)
        (.ok (.traded ⟨signal.instrument, .halted s.day d.maxDailyLoss⟩), d.withState s)
  | traded {signal : Signal α} {price : α} {now : Timestamp} {s : DailyState α} {book : Book α}
      {result : TradeResult α} (brought : d.today now = .ok s) (free : s.halted = false)
      (acts : Book.Acted d.book signal price now book result) (quiet : result.closed? = none) :
      Step d (.act signal price now)
        (.ok (.traded result), { d with book := book, state := some s })
  | closed {signal : Signal α} {price : α} {now : Timestamp} {s : DailyState α} {book : Book α}
      {result : TradeResult α} {p : Position α} (brought : d.today now = .ok s)
      (free : s.halted = false) (acts : Book.Acted d.book signal price now book result)
      (closes : result.closed? = some p) :
      Step d (.act signal price now)
        (.ok (.traded result),
          { d with
            book := book
            state := some
              ((s.record [p]).checkLimit d.maxDailyLoss (s.record [p]).realized now) })
  | scanned {prices : Prices α} {now : Timestamp} {s : DailyState α} {book : Book α}
      {gone : List (Position α)} {unrealized : α} (brought : d.today now = .ok s)
      (scans : d.book.scanStops prices d.maxLoss now = .ok (book, gone))
      (valued : book.unrealized prices = .ok unrealized) :
      Step d (.scan prices now)
        (let recorded := s.record gone
        let checked := recorded.checkLimit d.maxDailyLoss (recorded.realized + unrealized) now
        (.ok (.scanned
          { closed := gone
            realized := checked.realized
            unrealized := unrealized
            halted := checked.halted
            tripped := checked.halted && !recorded.halted }),
          { d with book := book, state := some checked }))
  | flattened {prices : Prices α} {now : Timestamp} {s : DailyState α} {book : Book α}
      {gone : List (Position α)} (brought : d.today now = .ok s)
      (flattens : d.book.flatten prices now = .ok (book, gone)) :
      Step d (.flatten prices now)
        (.ok (.flattened gone),
          { d with
            book := book
            state := some
              ((s.record gone).checkLimit d.maxDailyLoss (s.record gone).realized now) })

/-- An operation at a time without a date fails and does nothing. -/
theorem perform_of_timeless {o : Operation α} {fault : TradingFault}
    (timeless : d.today o.time = .error fault) : d.perform o = (.error fault, d) := by
  cases o <;> simp only [Operation.time] at timeless <;>
    simp [perform, act, scan, flatten, isHalted, dailyState, onToday, timeless, Except.map]

theorem step_perform (d : RiskDesk α) (o : Operation α) : Step d o (d.perform o) := by
  cases brought : d.today o.time with
  | error fault => exact perform_of_timeless brought ▸ .timeless brought
  | ok s =>
    cases o with
    | act signal price now =>
      simp only [perform, act, onToday, show d.today now = .ok s from brought]
      split
      · rename_i halted
        exact .refused brought halted
      · rename_i free
        have free : s.halted = false := by simpa using free
        cases acts : d.book.act signal price now with
        | error fault => exact .failed brought
        | ok pair =>
          obtain ⟨book, result⟩ := pair
          have acts := Book.acted_of_act acts
          cases closes : result.closed? with
          | none =>
            simp only [closes]
            exact .traded brought free acts closes
          | some p =>
            simp only [closes]
            exact .closed brought free acts closes
    | scan prices now =>
      simp only [perform, scan, onToday, show d.today now = .ok s from brought]
      cases scans : d.book.scanStops prices d.maxLoss now with
      | error fault => exact .failed brought
      | ok pair =>
        obtain ⟨book, gone⟩ := pair
        obtain ⟨unrealized, valued⟩ := Book.exists_unrealized_of_scanStops scans
        simp only [valued]
        exact .scanned brought scans valued
    | flatten prices now =>
      simp only [perform, flatten, onToday, show d.today now = .ok s from brought]
      cases flattens : d.book.flatten prices now with
      | error fault => exact .failed brought
      | ok pair => exact .flattened brought flattens
    | dailyState now =>
      simp only [perform, dailyState, onToday, show d.today now = .ok s from brought]
      exact .read brought
    | isHalted now =>
      simp only [perform, isHalted, dailyState, onToday, show d.today now = .ok s from brought]
      exact .asked brought

/-! ### What steps keep -/

variable {o : Operation α} {out : Outcome α (Answer α)}

/-- No operation changes the session or the limits. -/
theorem Step.settings_eq (step : Step d o out) :
    out.2.session = d.session ∧ out.2.maxDailyLoss = d.maxDailyLoss := by
  cases step <;> exact ⟨rfl, rfl⟩

theorem settings_after (d : RiskDesk α) (operations : List (Operation α)) :
    (d.after operations).session = d.session ∧
      (d.after operations).maxDailyLoss = d.maxDailyLoss := by
  induction operations generalizing d with
  | nil => exact ⟨rfl, rfl⟩
  | cons o rest ih =>
    obtain ⟨session, limit⟩ := (step_perform d o).settings_eq
    rw [after_cons, (ih _).1, (ih _).2]
    exact ⟨session, limit⟩

/-- Only a signal on a day that is not halted can open a position. -/
theorem Step.opens_nothing (step : Step d o out)
    (halted : o.isSignal = true → ∀ s, d.today o.time = .ok s → s.halted = true) :
    Book.NoneOpened d.book out.2.book := by
  cases step with
  | timeless | failed | read | asked | refused => exact .refl _
  | traded brought free | closed brought free =>
    have absurd := halted rfl _ brought
    rw [free] at absurd
    cases absurd
  | scanned _ scans => exact Book.noneOpened_of_closeBy scans
  | flattened _ flattens => exact Book.noneOpened_of_closeBy flattens

/-- Without signals a run opens nothing. -/
theorem noneOpened_after (d : RiskDesk α) {operations : List (Operation α)}
    (silent : ∀ o ∈ operations, o.isSignal = false) :
    Book.NoneOpened d.book (d.after operations).book := by
  induction operations generalizing d with
  | nil => exact .refl _
  | cons o rest ih =>
    have first := (step_perform d o).opens_nothing (by simp [silent o (.head _)])
    exact first.trans (ih _ fun other inside => silent other (.tail _ inside))

/-- What a step makes of a day: it closes positions, adds their results to the day in the order in
which they join the closed ones, and never takes a halt back. -/
structure Booked (d after : RiskDesk α) (s s' : DailyState α) : Prop where
  state : after.state = some s'
  day : s'.day = s.day
  closed : ∃ (gone : List (Position α)) (pnls : List α),
    after.book.closed = d.book.closed ++ gone ∧ gone.map (·.realized) = pnls.map some ∧
      s'.realized = pnls.foldl (· + ·) s.realized
  halted : s.halted = true → s'.halted = true ∧ s'.haltedAt = s.haltedAt

theorem booked_of_state {after : RiskDesk α} (state : after.state = some s)
    (closed : after.book.closed = d.book.closed) : Booked d after s s where
  state := state
  day := rfl
  closed := ⟨[], [], by rw [closed, List.append_nil], rfl, rfl⟩
  halted := fun halted => ⟨halted, rfl⟩

theorem booked_of_checked {after : RiskDesk α} {gone : List (Position α)} {limit total : α}
    (state : after.state = some ((s.record gone).checkLimit limit total now))
    (closed : after.book.closed = d.book.closed ++ gone)
    (closing : ∀ q ∈ gone, ∃ p : Position α, p.Closes q) :
    Booked d after s ((s.record gone).checkLimit limit total now) where
  state := state
  day := by rw [DailyState.checkLimit_day, DailyState.record_day]
  closed := by
    obtain ⟨pnls, results⟩ := Position.exists_results closing
    refine ⟨gone, pnls, closed, results, ?_⟩
    rw [DailyState.checkLimit_realized, DailyState.record_realized results]
  halted := fun halted => by
    have stays : (s.record gone).halted = true := by rw [DailyState.record_halted, halted]
    rw [DailyState.checkLimit_of_halted stays]
    exact ⟨stays, DailyState.record_haltedAt⟩

/-- Every step brings the day up to date and books on it what it closes, unless the time has no
date; then it does nothing. -/
theorem Step.timeless_or_booked (step : Step d o out) :
    ((∀ day, ¬ d.StartsDay o.time day) ∧ out.2 = d) ∨
      ∃ s s', d.today o.time = .ok s ∧ Booked d out.2 s s' := by
  cases step with
  | timeless timeless => exact .inl ⟨not_startsDay_of_today_eq_error timeless, rfl⟩
  | failed brought | read brought | asked brought | refused brought =>
    exact .inr ⟨_, _, brought, booked_of_state rfl rfl⟩
  | traded brought _ acts quiet =>
    refine .inr ⟨_, _, brought, booked_of_state rfl ?_⟩
    rw [acts.closed_eq, quiet]
    exact List.append_nil _
  | closed brought _ acts closes =>
    refine .inr ⟨_, _, brought, booked_of_checked rfl ?_ fun q inside => ?_⟩
    · rw [acts.closed_eq, closes]
      rfl
    · exact acts.exists_closes (List.mem_singleton.mp inside ▸ closes)
  | scanned brought scans =>
    obtain ⟨closed, closing⟩ := Book.closed_of_closeBy Book.closes_of_stopRule scans
    exact .inr ⟨_, _, brought, booked_of_checked rfl closed closing⟩
  | flattened brought flattens =>
    obtain ⟨closed, closing⟩ := Book.closed_of_closeBy Book.closes_of_flattenRule flattens
    exact .inr ⟨_, _, brought, booked_of_checked rfl closed closing⟩

/-! ### A desk to compute with -/

/-- A desk that only buys, closes what loses more than 50 and halts a day that has lost 200. Its
session is in universal time. -/
def sample : RiskDesk Float where
  book := { capital := 1000.0, allowShort := false }
  session :=
    { start := { hour := 9, minute := 30 }
      stop := { hour := 16, minute := 0 }
      zone := ⟨"UTC", fun _ => 0⟩
      weekends := false
      margin := 5 * Micros.perMinute }
  maxLoss := 50.0
  maxDailyLoss := 200.0

/-- Noon of the day with a number. -/
def noon (day : Int) : Timestamp := ⟨day * Micros.perDay + 12 * Micros.perHour, some 0⟩

/-- A signal on an instrument as it is made around a price of 100. -/
def sampleSignal (instrument : String) (direction : Direction) : Signal Float where
  id := instrument ++ direction.text
  instrument := instrument
  direction := direction
  entry := 100.0
  target := 101.5
  stop := 99.5
  expectedReturn := 1.5
  confidence := 0.75
  indicators := ⟨100.0, 100.0, 104.0, 96.0, 50.0, 100.0, 0.0⟩
  createdAt := noon 739446
  timeframe := "1-3 hours"

/-- A position is bought at 100 and sold for the whole loss that a day may have. -/
def losing (day : Int) : List (Operation Float) :=
  [.act (sampleSignal "AAPL" .buy) 100.0 (noon day),
    .act (sampleSignal "AAPL" .sell) 80.0 (noon day)]

end RiskDesk

end VolatilityDesk
