import VolatilityDesk.Proofs.Book.Sizing
import VolatilityDesk.Proofs.Risk.Breaker
/-!
# Failing calls

At a time that has a date an operation of the desk fails only where a signal asks for a position
that cannot be sized. Nothing has been written by then but the day, so the desk is left as a reading
of the day leaves it. Closing never fails: the quantity of every position that was opened in a run
was found as a whole part, so there is a double for it, and the position has a result at every
price. `Counted` is what runs keep of this, and `Unfailing` what follows for the sweeps.

* `intact_when_failing` — what fails, and how it leaves the desk.
* `Counted.step` — every quantity of a run has a double.
-/

namespace VolatilityDesk

/-! ### Quantities of a run -/

/-- The quantity is a number of units that a double stands for. -/
def Position.Counted (p : Position Float) : Prop :=
  ∃ units v, p.units = .ok units ∧ Double.value? units = some v

/-- Closing leaves the quantity as it is. -/
theorem Position.Counted.closes {p q : Position Float} (counted : p.Counted)
    (closes : p.Closes q) : q.Counted := by
  obtain ⟨units, v, converted, value⟩ := counted
  have quantity : q.quantity = p.quantity := (congrArg Position.quantity closes.asOpened_eq :)
  refine ⟨units, v, ?_, value⟩
  rw [Position.units, quantity]
  exact converted

namespace Book

/-- Every position, open or closed, has a quantity that a double stands for. -/
def Counted (b : Book Float) : Prop := ∀ p ∈ b.positions, p.Counted

/-- No open position fails to be closed, neither sweep fails, and valuing what is open does not,
whatever the prices and the limit are. -/
structure Unfailing {α : Type} [Number α] (b : Book α) : Prop where
  closes : ∀ p ∈ b.active, ∀ price reason now remark, ∃ q, p.close price reason now remark = .ok q
  scans : ∀ prices limit now, ∃ after gone, b.scanStops prices limit now = .ok (after, gone)
  flattens : ∀ prices now, ∃ after gone, b.flatten prices now = .ok (after, gone)
  values : ∀ prices, ∃ total, b.unrealized prices = .ok total

theorem Valued.unfailing {α : Type} [Number α] {b : Book α} (valued : b.Valued) :
    b.Unfailing where
  closes := by
    intro p inside price reason now remark
    obtain ⟨units, counted⟩ := valued p inside
    obtain ⟨pnl, result⟩ := p.exists_pnlAt counted price
    exact ⟨_, Position.close_eq_ok_iff.mpr ⟨pnl, result, rfl⟩⟩
  scans := valued.exists_scanStops
  flattens := valued.exists_flatten
  values := by
    intro prices
    refine exists_unrealized fun p inside price _ => ?_
    obtain ⟨units, counted⟩ := valued p inside
    exact p.exists_pnlAt counted price

section Counted

variable {b after : Book Float}

theorem counted_ofLimits (l : Limits Float) (serial : Nat) :
    (Book.ofLimits l serial).Counted := by
  intro p inside
  cases inside

theorem Counted.valued (counted : b.Counted) : b.Valued := by
  intro p inside
  obtain ⟨units, -, converted, -⟩ := counted p (List.mem_append_left _ inside)
  exact ⟨units, converted⟩

/-- What is opened is a whole part, and its double has a value. -/
theorem counted_newPosition {s : Signal Float} {quantity : Int} {price : Float}
    {now : Timestamp} (buys : Number.whole (b.capital / price) = .ok quantity)
    (some : 0 < quantity) : (b.newPosition s quantity price now).Counted := by
  obtain ⟨units, v, converted, value⟩ := Double.exists_value_of_whole buys some
  refine ⟨units, v, ?_, value⟩
  have bought : (b.newPosition s quantity price now).quantity = quantity := rfl
  rw [Position.units, bought, converted]

/-- Every step keeps the quantities counted. -/
theorem Counted.step {o : Operation Float} (step : Step b o after) (counted : b.Counted) :
    after.Counted := by
  have held : ∀ p ∈ b.active, p.Counted := fun p inside =>
    counted p (List.mem_append_left _ inside)
  intro p inside
  rcases List.mem_append.mp inside with isOpen | closed
  · exact step.forall_active (fun _ _ _ _ => counted_newPosition) held p isOpen
  · rcases step.closed_or_closes closed with old | ⟨q, isOpen, closes⟩
    · exact counted p (List.mem_append_right _ old)
    · exact (held q isOpen).closes closes

end Counted

end Book

namespace RiskDesk

/-! ### Operations at a time with a date -/

section Dated

variable {α : Type} [Number α] {d left : RiskDesk α} {s : DailyState α} {now : Timestamp}

theorem exists_today {day : Date} (dated : d.session.tradingDay now = .ok day) :
    ∃ s, d.today now = .ok s := by
  unfold today
  rw [dated]
  cases d.state with
  | none => exact ⟨_, rfl⟩
  | some s => exact ⟨_, rfl⟩

/-- A signal that fails has failed on the book, and has brought the day up to date. -/
theorem failed_of_act {signal : Signal α} {price : α} {fault : TradingFault}
    (brought : d.today now = .ok s) (fails : d.act signal price now = (.error fault, left)) :
    left = d.withState s ∧ d.book.act signal price now = .error fault := by
  unfold act onToday at fails
  rw [brought] at fails
  dsimp only at fails
  split at fails
  · cases fails
  · cases answers : d.book.act signal price now with
    | error cause =>
      rw [answers] at fails
      cases fails
      exact ⟨rfl, rfl⟩
    | ok pair =>
      rw [answers] at fails
      cases fails

/-- On a book with a result for every position flattening answers as well. -/
theorem exists_flatten (valued : d.book.Valued) (brought : d.today now = .ok s)
    (prices : Prices α) : ∃ gone left, d.flatten prices now = (.ok gone, left) := by
  obtain ⟨book, gone, flattens⟩ := valued.exists_flatten prices now
  simp only [flatten, onToday, brought, flattens]
  exact ⟨_, _, rfl⟩

end Dated

/-- **A failing call leaves the desk intact, and closing never fails.** After any run of a desk over
a fresh book, at a time that has a date: a signal that fails leaves the desk as a reading of the day
does, with the same open and closed positions, and it has failed to find a quantity for a position
that it asks for. Nothing that closes or values open positions fails, and every position has a
quantity that a double stands for. -/
theorem intact_when_failing {d : RiskDesk Float} {l : Limits Float} {serial : Nat}
    (fresh : d.book = Book.ofLimits l serial) (operations : List (Operation Float))
    {now : Timestamp} {day : Date} (dated : d.session.tradingDay now = .ok day) :
    let d' := d.after operations
    ∃ s, d'.dailyState now = (.ok s, d'.withState s) ∧
      (∀ signal price fault left, d'.act signal price now = (.error fault, left) →
        left = d'.withState s ∧ d'.book.Asks signal price ∧
          ∃ cause, fault = .noQuantity cause) ∧
      (∀ prices, (∃ report left, d'.scan prices now = (.ok report, left)) ∧
        ∃ gone left, d'.flatten prices now = (.ok gone, left)) ∧
      d'.book.Unfailing ∧ d'.book.Counted := by
  intro d'
  have counted : d'.book.Counted :=
    book_after_induction (fresh ▸ Book.counted_ofLimits l serial) Book.Counted.step operations
  have valued := counted.valued
  have session : d'.session = d.session := (settings_after d operations).1
  obtain ⟨s, brought⟩ : ∃ s, d'.today now = .ok s := exists_today (session ▸ dated)
  refine ⟨s, ?_, ?_, ?_, valued.unfailing, counted⟩
  · unfold dailyState onToday
    rw [brought]
  · intro signal price fault left fails
    obtain ⟨same, refused⟩ := failed_of_act brought fails
    obtain ⟨asks, cause, -, rfl⟩ := valued.act_eq_error_iff.mp refused
    exact ⟨same, asks, cause, rfl⟩
  · intro prices
    exact ⟨exists_scan valued brought prices, exists_flatten valued brought prices⟩

/-! ### A signal that fails on the next day -/

/-- A position is bought at 100. -/
def bought : List (Operation Float) := [.act (sampleSignal "AAPL" .buy) 100.0 (noon 739446)]

/-- On the next day a signal on another instrument fails at the least price. It leaves the desk with
a fresh day and with the position that it had. -/
theorem intact_at_least_price :
    let d := sample.after bought
    sample.session.tradingDay (noon 739447) = .ok ⟨739447⟩ ∧
    ∃ left s,
      d.act (sampleSignal "MSFT" .buy) Book.leastPrice (noon 739447) =
        (.error (.noQuantity .infinite), left) ∧
      d.dailyState (noon 739447) = (.ok s, left) ∧
      left.book.active.map (·.instrument) = ["AAPL"] := by
  intro d
  have dated : sample.session.tradingDay (noon 739447) = .ok ⟨739447⟩ := by decide
  have fault : Fallible.fault? (d.act (sampleSignal "MSFT" .buy) Book.leastPrice (noon 739447)).1 =
      some (.noQuantity .infinite) := by decide +kernel
  have held : d.book.active.map (·.instrument) = ["AAPL"] := by decide +kernel
  obtain ⟨⟨answer, left⟩, called⟩ :
      ∃ out, d.act (sampleSignal "MSFT" .buy) Book.leastPrice (noon 739447) = out := ⟨_, rfl⟩
  rw [called] at fault
  obtain rfl : answer = .error (.noQuantity .infinite) := Fallible.fault?_eq_some_iff.mp fault
  have fresh : sample.book = Book.ofLimits Settings.defaults.limits 0 := rfl
  obtain ⟨s, read, intact, -⟩ := intact_when_failing fresh bought dated
  obtain ⟨rfl, -, -⟩ := intact _ _ _ _ called
  exact ⟨dated, _, s, called, read, held⟩

end RiskDesk

end VolatilityDesk
