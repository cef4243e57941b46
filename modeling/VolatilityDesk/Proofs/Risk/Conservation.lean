import VolatilityDesk.Proofs.Number.Exact
import VolatilityDesk.Proofs.Risk.Intact
/-!
# Conservation of the total result

Closing positions at the prices they are valued at moves their results from the unrealized total to
the realized one. In the exact arithmetic of the rational numbers nothing is lost on the way but
what rounding to four places takes from or adds to each result that is booked, at most half of the
last place. Positions without a price are in neither total and stay as they are.

* `total_conserved` — what a scan and a flattening leave of the total.
-/

namespace VolatilityDesk

open Exact Fallible

namespace Position

/-- The result of a position at the prices of a list, zero if it has no price there. -/
def worth (prices : Prices ℚ) (p : Position ℚ) : ℚ :=
  match prices.lookup p.instrument with
  | some price => p.unitGain price * p.quantity
  | none => 0

variable {prices : Prices ℚ} {p q : Position ℚ}

theorem worth_of_pnlAt {price pnl : ℚ} (priced : prices.lookup p.instrument = some price)
    (result : p.pnlAt price = .ok pnl) : p.worth prices = pnl := by
  unfold worth
  rw [priced]
  exact Except.ok.inj result

theorem worth_of_unpriced (unpriced : prices.lookup p.instrument = none) : p.worth prices = 0 := by
  unfold worth
  rw [unpriced]

/-- Closing at the price of a list books what the position is worth at it, to four places. -/
theorem realized_of_close {price : ℚ} {reason : CloseReason} {now : Timestamp}
    {remark : CloseRemark ℚ} (priced : prices.lookup p.instrument = some price)
    (closes : p.close price reason now remark = .ok q) :
    q.realized = some (Number.round4 (p.worth prices)) := by
  obtain ⟨pnl, result, rfl⟩ := close_eq_ok_iff.mp closes
  rw [worth_of_pnlAt priced result]

end Position

namespace Book

variable {prices : Prices ℚ} {positions kept gone : List (Position ℚ)}
  {rule : Position ℚ → Except TradingFault (Option (Position ℚ))}

/-- Every whole quantity is an exact number, so every open position has a result. -/
theorem valued_of_exact (b : Book ℚ) : b.Valued := fun p _ => ⟨p.quantity, rfl⟩

theorem unrealized_eq (b : Book ℚ) (prices : Prices ℚ) :
    b.unrealized prices = .ok (b.active.map (·.worth prices)).sum := by
  unfold unrealized
  rw [zero_literal, ← zero_add (b.active.map _).sum]
  generalize b.active = positions
  generalize (0 : ℚ) = total
  induction positions generalizing total with
  | nil => simp [pure, Except.pure]
  | cons p rest ih =>
    rw [List.foldlM_cons, List.map_cons, List.sum_cons, ← add_assoc]
    cases priced : prices.lookup p.instrument with
    | none =>
      rw [Position.worth_of_unpriced priced, add_zero]
      exact ih total
    | some price =>
      rw [Position.worth_of_pnlAt priced rfl]
      exact ih _

/-- What flattening leaves open has no price. -/
theorem unrealized_of_flatten {b after : Book ℚ} {now : Timestamp}
    (flattens : b.flatten prices now = .ok (after, gone)) : after.unrealized prices = .ok 0 := by
  obtain ⟨kept, swept, rfl⟩ := closeBy_eq_ok_iff.mp flattens
  have worthless : ∀ x ∈ kept.map (·.worth prices), x = 0 := by
    intro x inside
    obtain ⟨p, here, rfl⟩ := List.mem_map.mp inside
    exact Position.worth_of_unpriced (flattenRule_eq_none_iff.mp (swept.stays_of_mem_kept here))
  rw [unrealized_eq, List.sum_eq_zero worthless]

/-- The rule books what it closes at the prices of a list. -/
def ClosesAt (prices : Prices ℚ)
    (rule : Position ℚ → Except TradingFault (Option (Position ℚ))) : Prop :=
  ∀ {p q : Position ℚ}, rule p = .ok (some q) → q.realized = some (Number.round4 (p.worth prices))

theorem closesAt_stopRule (prices : Prices ℚ) (limit : ℚ) (now : Timestamp) :
    ClosesAt prices (stopRule prices limit now) := by
  intro p q closes
  obtain ⟨price, pnl, priced, -, -, closed⟩ := stopRule_eq_some_iff.mp closes
  exact Position.realized_of_close priced closed

theorem closesAt_flattenRule (prices : Prices ℚ) (now : Timestamp) :
    ClosesAt prices (flattenRule prices now) := by
  intro p q closes
  obtain ⟨price, priced, closed⟩ := flattenRule_eq_some_iff.mp closes
  exact Position.realized_of_close priced closed

/-- Along a sweep every position that stays keeps its worth, and every one that is closed moves it
to the day's result, rounded once. -/
theorem Swept.total_sub_le (closing : ClosesAt prices rule)
    (swept : Swept rule positions kept gone) (s : DailyState ℚ) :
    |((s.record gone).realized + (kept.map (·.worth prices)).sum) -
      (s.realized + (positions.map (·.worth prices)).sum)| ≤ 0.00005 * gone.length := by
  induction swept generalizing s with
  | nil =>
    change |(s.realized + _) - (s.realized + _)| ≤ _
    simp
  | @keep p rest kept gone stays _ ih =>
    have same := ih s
    simp only [List.map_cons, List.sum_cons]
    rwa [add_left_comm, add_left_comm s.realized, add_sub_add_left_eq_sub]
  | @close p q rest kept gone closes _ ih =>
    have booked := closing closes
    have rounding := abs_round4_sub_le (p.worth prices)
    have later := ih { s with realized := s.realized + Number.round4 (p.worth prices) }
    rw [DailyState.record_cons booked, List.map_cons, List.sum_cons, List.length_cons]
    rw [abs_le] at rounding later ⊢
    push_cast
    constructor <;> linarith

end Book

namespace RiskDesk

/-- Between two desks some positions were closed, and the realized result of the day together with
the unrealized one at some prices is what it was, up to half of the fourth place for each of
them. -/
structure Conserved (d after : RiskDesk ℚ) (prices : Prices ℚ) (s : DailyState ℚ)
    (gone : List (Position ℚ)) : Prop where
  closed : after.book.closed = d.book.closed ++ gone
  total : ∃ t before rest, after.state = some t ∧
    d.book.unrealized prices = .ok before ∧ after.book.unrealized prices = .ok rest ∧
    |(t.realized + rest) - (s.realized + before)| ≤ 0.00005 * gone.length

/-- What is closed by a rule is recorded, and the check of the limit takes nothing from it. -/
theorem conserved_of_closeBy {d after : RiskDesk ℚ} {prices : Prices ℚ}
    {s : DailyState ℚ} {gone : List (Position ℚ)} {limit total : ℚ} {now : Timestamp}
    {rule : Position ℚ → Except TradingFault (Option (Position ℚ))}
    (closing : Book.ClosesAt prices rule) (sweeps : d.book.closeBy rule = .ok (after.book, gone))
    (state : after.state = some ((s.record gone).checkLimit limit total now)) :
    Conserved d after prices s gone := by
  obtain ⟨kept, swept, left⟩ := Book.closeBy_eq_ok_iff.mp sweeps
  refine ⟨by rw [left], _, _, _, state, Book.unrealized_eq _ _, Book.unrealized_eq _ _, ?_⟩
  rw [DailyState.checkLimit_realized, left]
  exact swept.total_sub_le closing s

/-- **Closing conserves the total result.** Whatever the desk holds, a scan and a flattening answer
at every time that has a date, and both leave the realized result of the day and the unrealized one
at the prices given what they were together, up to half of the fourth place for each position they
close. After a flattening nothing is unrealized at these prices. -/
theorem total_conserved (d : RiskDesk ℚ) (prices : Prices ℚ) {now : Timestamp} {s : DailyState ℚ}
    (brought : d.today now = .ok s) :
    (∃ report left, d.scan prices now = (.ok report, left) ∧
      Conserved d left prices s report.closed) ∧
    (∃ gone left, d.flatten prices now = (.ok gone, left) ∧ Conserved d left prices s gone ∧
      left.book.unrealized prices = .ok 0) := by
  have valued := d.book.valued_of_exact
  constructor
  · obtain ⟨report, left, scans⟩ := exists_scan valued brought prices
    have step := step_perform d (.scan prices now)
    rw [perform, scans] at step
    refine ⟨report, left, scans, ?_⟩
    cases step with
    | scanned brought' stops _ =>
      obtain rfl := Except.ok.inj (brought.symm.trans brought')
      exact conserved_of_closeBy (Book.closesAt_stopRule prices d.maxLoss now) stops rfl
  · obtain ⟨gone, left, flattens⟩ := exists_flatten valued brought prices
    have step := step_perform d (.flatten prices now)
    rw [perform, flattens] at step
    refine ⟨gone, left, flattens, ?_⟩
    cases step with
    | flattened brought' sweeps =>
      obtain rfl := Except.ok.inj (brought.symm.trans brought')
      refine ⟨conserved_of_closeBy (Book.closesAt_flattenRule prices now) sweeps rfl, ?_⟩
      exact Book.unrealized_of_flatten sweeps

/-- A desk that may sell short, in exact arithmetic. -/
def exactSample : RiskDesk ℚ where
  book := { capital := 250, allowShort := true }
  session := sample.session
  maxLoss := 50
  maxDailyLoss := 200

/-- Two units are sold at 100. -/
def shortSale : Operation ℚ := .act
  { sampleSignal "AAPL" .sell with
    entry := 100
    target := 98.5
    stop := 100.5
    expectedReturn := 1.5
    confidence := 0.75
    indicators := ⟨100, 100, 104, 96, 50, 100, 0⟩ }
  100 (noon 739446)

/-- Two units sold at 100 have gained 66.66667 at 66.666665, which is booked as 66.6667. -/
theorem total_conserved_of_shortSale :
    let d := exactSample.after [shortSale]
    let prices := [("AAPL", (66.666665 : ℚ))]
    d.book.unrealized prices = .ok 66.66667 ∧
      ∃ s gone left, d.today (noon 739446) = .ok s ∧ s.realized = 0 ∧
        d.flatten prices (noon 739446) = (.ok gone, left) ∧
        left.state.map (·.realized) = some 66.6667 ∧ Conserved d left prices s gone := by
  intro d prices
  have gained : (d.book.active.map (·.worth prices)).sum = 66.66667 := by decide +kernel
  have day : (d.today (noon 739446)).toOption.map (·.realized) = some 0 := by decide +kernel
  have booked : (d.flatten prices (noon 739446)).2.state.map (·.realized) = some 66.6667 := by
    decide +kernel
  obtain ⟨s, brought, nothing⟩ := map_toOption_eq_some_iff.mp day
  obtain ⟨-, gone, left, flattens, conserved, -⟩ := total_conserved d prices brought
  rw [flattens] at booked
  refine ⟨?_, s, gone, left, brought, nothing, flattens, booked, conserved⟩
  rw [Book.unrealized_eq, gained]

end RiskDesk

end VolatilityDesk
