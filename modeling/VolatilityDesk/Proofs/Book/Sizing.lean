import VolatilityDesk.Proofs.Book.Stops
import VolatilityDesk.Proofs.Number.Quantity
import VolatilityDesk.Proofs.Risk.Step
/-!
# Sizing

A signal that asks for a new position gets as many units as the capital buys. At a price so small
that the capital divided by it is beyond the largest double there is no such number, and the signal
fails where it should get a result. On the book of a run nothing else about a signal can fail: what
it closes has a result at every price, and everything it refuses is a result.

* `fails_iff_overflows` — the signals that fail on the book of a run.
* `not_every_signal_answered` — one of them, at the least price.
-/

namespace VolatilityDesk.Book

open Fallible

/-! ### Failing signals -/

section Signals

variable {α : Type} [Number α] {b : Book α} {s : Signal α} {price : α} {now : Timestamp}
  {fault : TradingFault}

/-- A signal asks for a new position: its price can be traded at, there is no position of its
instrument to keep or to close, and it buys or may sell short. -/
structure Asks (b : Book α) (s : Signal α) (price : α) : Prop where
  valid : isValidPrice price = true
  flat : b.position? s.instrument = none
  allowed : s.direction = .buy ∨ b.allowShort = true

theorem act_of_asks (asks : b.Asks s price) : b.act s price now = b.openOn s price now := by
  have free : ¬ (s.direction = .sell ∧ (!b.allowShort) = true) := by
    rintro ⟨sells, long⟩
    rcases asks.allowed with buys | short
    · rw [buys] at sells
      cases sells
    · rw [short] at long
      cases long
  unfold act
  rw [if_pos asks.valid, asks.flat]
  exact if_neg free

theorem openOn_eq_error_iff : b.openOn s price now = .error fault ↔
    ∃ cause, Number.whole (b.capital / price) = .error cause ∧ fault = .noQuantity cause := by
  unfold openOn
  cases sized : Number.whole (b.capital / price) with
  | error cause =>
    constructor
    · intro fails
      cases fails
      exact ⟨cause, rfl, rfl⟩
    · rintro ⟨_, same, rfl⟩
      cases same
      rfl
  | ok quantity =>
    constructor
    · intro fails
      dsimp only at fails
      split at fails <;> cases fails
    · rintro ⟨cause, fails, -⟩
      cases fails

/-- An open position with a result can be closed on a signal. -/
theorem exists_closeOn {p : Position α} {units : α} (counted : p.units = .ok units) (b : Book α)
    (s : Signal α) (price : α) (now : Timestamp) :
    ∃ after result, b.closeOn p s price now = .ok (after, result) := by
  obtain ⟨pnl, valued⟩ := p.exists_pnlAt counted price
  exact ⟨_, _, bind_eq_ok_iff.mpr
    ⟨_, Position.close_eq_ok_iff.mpr ⟨pnl, valued, rfl⟩, rfl⟩⟩

/-- A signal that fails has asked for a new position. -/
theorem Valued.asks_of_act (valued : b.Valued) (fails : b.act s price now = .error fault) :
    b.Asks s price := by
  unfold act at fails
  split at fails
  · rename_i valid
    cases held : b.position? s.instrument with
    | some p =>
      -- A position of the instrument is kept or closed, and closing does not fail.
      obtain ⟨units, counted⟩ := valued p (List.mem_of_find?_eq_some held)
      obtain ⟨after, result, closes⟩ := exists_closeOn counted b s price now
      rw [held] at fails
      dsimp only at fails
      rw [closes] at fails
      split at fails <;> cases fails
    | none =>
      rw [held] at fails
      dsimp only at fails
      split at fails
      · cases fails
      · rename_i free
        refine ⟨valid, held, ?_⟩
        cases direction : s.direction with
        | buy => exact .inl rfl
        | sell => exact .inr (by simpa [direction] using free)
  · cases fails

/-- A signal fails exactly when a position that it asks for cannot be sized. -/
theorem Valued.act_eq_error_iff (valued : b.Valued) : b.act s price now = .error fault ↔
    b.Asks s price ∧
      ∃ cause, Number.whole (b.capital / price) = .error cause ∧ fault = .noQuantity cause := by
  constructor
  · intro fails
    have asks := valued.asks_of_act fails
    rw [act_of_asks asks, openOn_eq_error_iff] at fails
    exact ⟨asks, fails⟩
  · rintro ⟨asks, sized⟩
    rw [act_of_asks asks, openOn_eq_error_iff]
    exact sized

/-- No operation changes the capital of a position. -/
theorem Step.capital_eq {after : Book α} {o : Operation α} (step : Step b o after) :
    after.capital = b.capital := by
  cases step with
  | acted acts => cases acts <;> rfl
  | failed | scanned | flattened => rfl

theorem capital_after (b : Book α) (operations : List (Operation α)) :
    (b.after operations).capital = b.capital :=
  after_induction (motive := fun c => c.capital = b.capital) rfl
    (fun step same => step.capital_eq.trans same) operations

end Signals

/-! ### Signals that find no quantity -/

section Overflow

/-- A signal asks for a position of more units than a double can count. -/
structure Overflows (b : Book Float) (s : Signal Float) (price : Float) : Prop
    extends Asks b s price where
  beyond : Double.exact (b.capital / price) = .infinity .positive

variable {b : Book Float} {l : Limits Float} {capital : ℚ}

/-- With a positive capital a signal fails exactly when its quantity overflows. -/
theorem Valued.act_eq_error_iff_overflows {s : Signal Float} {price : Float} {now : Timestamp}
    {fault : TradingFault} (valued : b.Valued) (value : Double.value? b.capital = some capital)
    (pos : 0 < capital) : b.act s price now = .error fault ↔
      fault = .noQuantity .infinite ∧ b.Overflows s price := by
  rw [valued.act_eq_error_iff]
  constructor
  · rintro ⟨asks, cause, sized, rfl⟩
    have positive := (pos_of_isValidPrice asks.valid).1
    obtain ⟨rfl, beyond⟩ := (Double.whole_div_eq_error_iff value pos positive).mp sized
    exact ⟨rfl, asks, beyond⟩
  · rintro ⟨rfl, asks, beyond⟩
    exact ⟨asks, .infinite, Double.whole_of_infinity beyond, rfl⟩

/-- **A signal gets a result unless its quantity overflows.** On the book of any run, with a
positive capital, a signal at any price fails exactly when it asks for a position of more units than
a double can count. That takes a price below the capital divided by the largest double. Every other
signal gets a result, which is what `Acted` says of it. -/
theorem fails_iff_overflows (value : Double.value? l.capital = some capital) (pos : 0 < capital)
    (serial : Nat) (operations : List (Operation Float)) (s : Signal Float) (price : Float)
    (now : Timestamp) :
    let b := (Book.ofLimits l serial).after operations
    (∀ fault, b.act s price now = .error fault ↔
      fault = .noQuantity .infinite ∧ b.Overflows s price) ∧
    (b.Overflows s price →
      ∃ p, Double.value? price = some p ∧ 0 < p ∧ Binary64.greatest * p < capital) ∧
    (¬ b.Overflows s price →
      ∃ after result, b.act s price now = .ok (after, result) ∧
        Acted b s price now after result) := by
  intro b
  have same : b.capital = l.capital := capital_after _ operations
  have value : Double.value? b.capital = some capital := same ▸ value
  have fails (fault : TradingFault) : b.act s price now = .error fault ↔
      fault = .noQuantity .infinite ∧ b.Overflows s price :=
    (valued_after l serial operations).act_eq_error_iff_overflows value pos
  refine ⟨fails, ?_, ?_⟩
  · intro overflows
    have positive := (pos_of_isValidPrice overflows.valid).1
    exact Double.exists_small_of_overflow value positive overflows.beyond
  · intro fits
    cases answers : b.act s price now with
    | error fault => exact absurd ((fails fault).mp answers).2 fits
    | ok pair =>
      obtain ⟨after, result⟩ := pair
      exact ⟨after, result, rfl, acted_of_act answers⟩

/-! ### The least price -/

open RiskDesk (sampleSignal noon)

/-- The least positive double. -/
def leastPrice : Float := 5e-324

/-- A book with a capital of a thousand. -/
def thousand : Book Float := Book.ofLimits Settings.defaults.limits 0

theorem value_thousand : Double.value? thousand.capital = some 1000 := by
  have stands : Double.exact thousand.capital =
      .finite .positive (1000 * 2 ^ 43) (-43) (by decide) := rfl
  rw [Double.value?, stands, Double.number?, Double.factor]
  norm_num

/-- A thousand buys more units at the least price than a double can count. -/
theorem overflows_thousand : thousand.Overflows (sampleSignal "AAPL" .buy) leastPrice := by
  have valid : isValidPrice leastPrice = true := by decide +kernel
  have sized : Number.whole (thousand.capital / leastPrice) = .error .infinite := by decide +kernel
  have pos : (0 : ℚ) < 1000 := by norm_num
  have beyond := (Double.whole_div_eq_error_iff value_thousand pos (pos_of_isValidPrice valid).1).mp
    sized
  exact ⟨⟨valid, rfl, .inl rfl⟩, beyond.2⟩

/-- Not every signal gets a result. -/
theorem not_every_signal_answered :
    ¬ ∀ (l : Limits Float) (serial : Nat) (operations : List (Operation Float)) (capital : ℚ),
      Double.value? l.capital = some capital → 0 < capital →
        ∀ (s : Signal Float) (price : Float) (now : Timestamp),
          ∃ after result,
            ((Book.ofLimits l serial).after operations).act s price now = .ok (after, result) := by
  intro answered
  obtain ⟨after, result, answers⟩ := answered Settings.defaults.limits 0 [] 1000 value_thousand
    (by norm_num) (sampleSignal "AAPL" .buy) leastPrice (noon 739446)
  have fails : thousand.act (sampleSignal "AAPL" .buy) leastPrice (noon 739446) =
      .error (.noQuantity .infinite) :=
    ((valued_ofLimits _ _).act_eq_error_iff_overflows value_thousand (by norm_num)).mpr
      ⟨rfl, overflows_thousand⟩
  exact absurd (fails.symm.trans answers) nofun

/-- At the least price the signal fails, and at a hundred it gets a result. -/
theorem fails_at_least_price :
    Double.value? Settings.defaults.limits.capital = some 1000 ∧
    thousand.act (sampleSignal "AAPL" .buy) leastPrice (noon 739446) =
      .error (.noQuantity .infinite) ∧
    ∃ after result,
      thousand.act (sampleSignal "AAPL" .buy) 100.0 (noon 739446) = .ok (after, result) := by
  refine ⟨value_thousand, ?_, ?_⟩
  · obtain ⟨fails, -, -⟩ := fails_iff_overflows value_thousand (by norm_num) 0 []
      (sampleSignal "AAPL" .buy) leastPrice (noon 739446)
    exact (fails _).mpr ⟨rfl, overflows_thousand⟩
  · obtain ⟨-, small, answers⟩ := fails_iff_overflows value_thousand (by norm_num) 0 []
      (sampleSignal "AAPL" .buy) 100.0 (noon 739446)
    have fits : ¬ thousand.Overflows (sampleSignal "AAPL" .buy) 100.0 := by
      intro overflows
      obtain ⟨p, value, -, below⟩ := small overflows
      obtain rfl : 100 = p := Option.some.inj (Double.value_hundred.symm.trans value)
      have large : 10 ≤ Binary64.greatest :=
        (show 10 ≤ 2 ^ 53 - 1 by decide).trans (Nat.le_mul_of_pos_right _ (Nat.two_pow_pos _))
      have large : (10 : ℚ) ≤ Binary64.greatest := by exact_mod_cast large
      linarith
    obtain ⟨after, result, answer, -⟩ := answers fits
    exact ⟨after, result, answer⟩

end Overflow

end VolatilityDesk.Book
