import VolatilityDesk.Proofs.Risk.Step
import VolatilityDesk.Trading.Report
/-!
# Readings of the desk

To look at the day, to ask whether it is halted and to write the report of its risk all bring the
day up to date first, as the operations do, so each of them may start a day. But a day that is not
later than the operations behind the reading is one that the next of them starts anyway, with
nothing on it: no operation can tell whether the desk was read before.

* `same_answers_when_read` — readings between operations leave all answers as they are.
* `Ahead.serve` — a desk that was only looked at serves the same calls in the same way.
-/

namespace VolatilityDesk.RiskDesk

/-! ### Runs with readings -/

/-- A look at the desk beside its operations. -/
inductive Reading where
  | dailyState (now : Timestamp)
  | isHalted (now : Timestamp)
  | report (prices : Prices Float) (now : Timestamp)

/-- When the desk is read. -/
def Reading.time : Reading → Timestamp
  | .dailyState now | .isHalted now | .report _ now => now

/-- The desk after a reading, whether it fails or not. -/
def look (d : RiskDesk Float) : Reading → RiskDesk Float
  | .dailyState now => (d.dailyState now).2
  | .isHalted now => (d.isHalted now).2
  | .report prices now => (d.report prices now).2

/-- An operation of a run, or a reading that was put into it. -/
inductive Call where
  | operation (o : Operation Float)
  | reading (r : Reading)

/-- The run without the readings. -/
def operationsOf : List Call → List (Operation Float)
  | [] => []
  | .operation o :: rest => o :: operationsOf rest
  | .reading _ :: rest => operationsOf rest

/-- What comes of an operation. -/
abbrev Reply : Type := Except TradingFault (Answer Float)

/-- The answers to the operations of a run. -/
def answers (d : RiskDesk Float) : List (Operation Float) → List Reply
  | [] => []
  | o :: rest => (d.perform o).1 :: (d.perform o).2.answers rest

/-- The answers to the operations of a run with readings, and the desk after it. -/
def serve (d : RiskDesk Float) : List Call → List Reply × RiskDesk Float
  | [] => ([], d)
  | .operation o :: rest =>
    ((d.perform o).1 :: ((d.perform o).2.serve rest).1, ((d.perform o).2.serve rest).2)
  | .reading r :: rest => (d.look r).serve rest

/-- The number of the day of a time in a session, if it has one. -/
def dayNumber? (s : Session) (now : Timestamp) : Option Int :=
  (s.tradingDay now).toOption.map (·.number)

/-- The day of the first time is not later than that of the second, if both have one. -/
def NotLater (s : Session) (first second : Timestamp) : Prop :=
  ∀ day ∈ dayNumber? s first, ∀ day' ∈ dayNumber? s second, day ≤ day'

/-- No reading is on a later day than an operation behind it. -/
def Timely (s : Session) : List Call → Prop
  | [] => True
  | .operation _ :: rest => Timely s rest
  | .reading r :: rest => (∀ o ∈ operationsOf rest, NotLater s r.time o.time) ∧ Timely s rest

instance (s : Session) (first second : Timestamp) : Decidable (NotLater s first second) :=
  inferInstanceAs (Decidable (∀ _ ∈ _, ∀ _ ∈ _, _))

instance decidableTimely (s : Session) : (calls : List Call) → Decidable (Timely s calls)
  | [] => inferInstanceAs (Decidable True)
  | .operation _ :: rest => decidableTimely s rest
  | .reading _ :: rest =>
    have := decidableTimely s rest
    inferInstanceAs (Decidable (_ ∧ _))

theorem dayNumber?_of_tradingDay {s : Session} {now : Timestamp} {day : Date}
    (dated : s.tradingDay now = .ok day) : dayNumber? s now = some day.number := by
  rw [dayNumber?, dated]
  rfl

theorem NotLater.le {s : Session} {first second : Timestamp} {day day' : Date}
    (order : NotLater s first second) (dated : s.tradingDay first = .ok day)
    (dated' : s.tradingDay second = .ok day') : day.number ≤ day'.number :=
  order _ (dayNumber?_of_tradingDay dated) _ (dayNumber?_of_tradingDay dated')

/-! ### Days that are started early -/

variable {d d' : RiskDesk Float} {s : DailyState Float} {o : Operation Float} {now : Timestamp}

/-- A reading brings the day up to date and does nothing else. -/
theorem look_of_today {r : Reading} (brought : d.today r.time = .ok s) :
    d.look r = d.withState s := by
  cases r <;> simp only [Reading.time] at brought <;>
    simp [look, dailyState, isHalted, report, onToday, brought]

theorem look_of_timeless {r : Reading} {fault : TradingFault}
    (timeless : d.today r.time = .error fault) : d.look r = d := by
  cases r <;> simp only [Reading.time] at timeless <;>
    simp [look, dailyState, isHalted, report, onToday, timeless]

/-- Nothing of the old day matters to an operation but what is left of it when the day is brought
up to date. -/
theorem perform_withState (t : DailyState Float) (brought : d.today o.time = .ok s)
    (brought' : (d.withState t).today o.time = .ok s) :
    (d.withState t).perform o = d.perform o := by
  cases o <;> simp only [Operation.time] at brought brought' <;>
    simp only [perform, act, scan, flatten, dailyState, isHalted, onToday, brought, brought'] <;>
    rfl

/-- A day that was started early is found by a time of it, and gives way to a later one. -/
theorem today_withState_fresh {day day' : Date}
    (later : ∀ s, d.state = some s → s.day.number < day.number)
    (dated : d.session.tradingDay now = .ok day') (due : day.number ≤ day'.number) :
    (d.withState (.fresh day)).today now = d.today now := by
  have early : (d.withState (.fresh day)).today now = .ok (.fresh day') := by
    simp only [today, withState, DailyState.fresh, dated]
    split
    · rfl
    · rename_i current
      have level : day.number = day'.number := Int.le_antisymm due (Int.not_lt.mp current)
      rw [show day = day' from congrArg Date.mk level]
  rw [early]
  simp only [today, dated]
  cases present : d.state with
  | none => rfl
  | some s => simp [Int.lt_of_lt_of_le (later s present) due]

/-- The second desk is the first one, or has started a day at which the first one will be when it
comes to the operations that are pending. -/
inductive Ahead (pending : List (Operation Float)) (d : RiskDesk Float) :
    RiskDesk Float → Prop where
  | level : Ahead pending d d
  | rolled {day : Date} (later : ∀ s, d.state = some s → s.day.number < day.number)
      (due : ∀ o ∈ pending, ∀ day', d.session.tradingDay o.time = .ok day' →
        day.number ≤ day'.number) : Ahead pending d (d.withState (.fresh day))

variable {pending : List (Operation Float)}

/-- A reading that is no later than the pending operations keeps a desk ahead. -/
theorem Ahead.look (ahead : Ahead pending d d') {r : Reading}
    (timely : ∀ o ∈ pending, NotLater d.session r.time o.time) :
    Ahead pending d (d'.look r) := by
  have session : d'.session = d.session := by cases ahead <;> rfl
  cases brought : d'.today r.time with
  | error fault => rwa [look_of_timeless brought]
  | ok s =>
    rw [look_of_today brought]
    rcases kept_or_started brought with ⟨kept, -⟩ | ⟨new, dated, started⟩
    · have same : d'.withState s = d' := by rw [withState, ← kept]
      rwa [same]
    · rw [session] at dated
      rw [new]
      have due : ∀ o ∈ pending, ∀ day', d.session.tradingDay o.time = .ok day' →
          s.day.number ≤ day'.number := fun o inside day' => (timely o inside).le dated
      cases ahead with
      | level => exact .rolled started due
      | rolled later =>
        refine .rolled (fun t present => ?_) due
        exact Int.lt_trans (later t present) (started _ rfl)

/-- The next operation has one answer on both desks, and brings the first one up. -/
theorem Ahead.perform (ahead : Ahead (o :: pending) d d') :
    (d'.perform o).1 = (d.perform o).1 ∧
      Ahead pending (d.perform o).2 (d'.perform o).2 := by
  cases ahead with
  | level => exact ⟨rfl, .level⟩
  | @rolled day later due =>
    cases dated : d.session.tradingDay o.time with
    | error fault =>
      have timeless : d.today o.time = .error (.time fault) := by simp only [today, dated]
      have timeless' : (d.withState (.fresh day)).today o.time = .error (.time fault) := by
        simp only [today, withState, dated]
      rw [perform_of_timeless timeless, perform_of_timeless timeless']
      exact ⟨rfl, .rolled later fun other inside => due other (.tail _ inside)⟩
    | ok day' =>
      have found := today_withState_fresh later dated (due o (.head _) day' dated)
      obtain ⟨s, brought⟩ : ∃ s, d.today o.time = .ok s := by
        simp only [today, dated]
        cases d.state <;> exact ⟨_, rfl⟩
      rw [perform_withState _ brought (found.trans brought)]
      exact ⟨rfl, .level⟩

theorem Ahead.serve {calls : List Call} (ahead : Ahead (operationsOf calls) d d')
    (timely : Timely d.session calls) :
    (d'.serve calls).1 = d.answers (operationsOf calls) ∧
      (d'.serve calls).2.book = (d.after (operationsOf calls)).book := by
  induction calls generalizing d d' with
  | nil =>
    refine ⟨rfl, ?_⟩
    cases ahead <;> rfl
  | cons call rest ih =>
    cases call with
    | operation o =>
      obtain ⟨answer, ahead⟩ := ahead.perform
      have session : (d.perform o).2.session = d.session := (step_perform d o).settings_eq.1
      obtain ⟨answers, book⟩ := ih ahead (by rw [session]; exact timely)
      exact ⟨by rw [RiskDesk.serve, operationsOf, RiskDesk.answers, answer, answers], book⟩
    | reading r => exact ih (ahead.look timely.1) timely.2

/-- **Readings leave no trace.** Readings may be put into any run of operations, before its first
and between any two of them: if none is on a later day than an operation behind it, every operation
has the answer that it has without them, and the run comes to the same book. In a run whose days
never go back it is enough that no reading is later than the operation that follows it. -/
theorem same_answers_when_read (d : RiskDesk Float) (calls : List Call)
    (timely : Timely d.session calls) :
    (d.serve calls).1 = d.answers (operationsOf calls) ∧
      (d.serve calls).2.book = (d.after (operationsOf calls)).book :=
  Ahead.level.serve timely

/-- After the whole loss of a day the desk is asked, on the next day and again for the day before,
whether it is halted; then it trades on. -/
def askedOvernight : List Call :=
  [.reading (.report [] (noon 739446)),
    .operation (.act (sampleSignal "AAPL" .buy) 100.0 (noon 739446)),
    .reading (.dailyState (noon 739446)),
    .operation (.act (sampleSignal "AAPL" .sell) 80.0 (noon 739446)),
    .reading (.isHalted (noon 739447)),
    .reading (.isHalted (noon 739446)),
    .operation (.act (sampleSignal "MSFT" .buy) 100.0 (noon 739447))]

theorem same_answers_when_asked_overnight :
    Timely sample.session askedOvernight ∧
      (sample.serve askedOvernight).1 = sample.answers (operationsOf askedOvernight) ∧
      (sample.serve askedOvernight).2.book =
        (sample.after (losing 739446 ++
          [.act (sampleSignal "MSFT" .buy) 100.0 (noon 739447)])).book := by
  have timely : Timely sample.session askedOvernight := by decide +kernel
  obtain ⟨answers, book⟩ := same_answers_when_read sample askedOvernight timely
  exact ⟨timely, answers, book⟩

end VolatilityDesk.RiskDesk
