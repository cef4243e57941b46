import VolatilityDesk.Proofs.Book.Change
import VolatilityDesk.Proofs.Risk.Step
/-!
# The book behind the desk

An operation of the desk changes the book in one of the three ways in which the book changes, and
answers with just that change; whatever it does to the day, it does besides. So a book stays sound
behind the desk, in every run.

* `Step.change` — a step of the desk is a change of its book.
* `sound_book_after` — so the book stays sound in every run.
-/

namespace VolatilityDesk.RiskDesk

variable {α : Type}

/-- What an answer reports of the book. -/
def Answer.events : Answer α → List (TradeEvent α)
  | .traded result => result.events
  | .scanned report => report.closed.map .closed
  | .flattened closed => closed.map .closed
  | .day _ | .halted _ => []

/-- What an operation reports of the book: nothing when it fails. -/
def reported : Except TradingFault (Answer α) → List (TradeEvent α)
  | .ok answer => answer.events
  | .error _ => []

variable [Number α]

/-- Every operation of the desk changes the book as it reports. -/
theorem Step.change {d : RiskDesk α} {o : Operation α} {out : Outcome α (Answer α)}
    (distinct : (d.book.active.map (·.instrument)).Nodup) (step : Step d o out) :
    Book.Change d.book out.2.book (reported out.1) := by
  cases step with
  | timeless | failed | read | asked | refused => exact .same
  | traded brought free acts quiet => exact Book.change_of_acted distinct acts
  | closed brought free acts closes => exact Book.change_of_acted distinct acts
  | scanned brought scans valued => exact Book.change_of_closeBy Book.closes_of_stopRule scans
  | flattened brought flattens =>
    exact Book.change_of_closeBy Book.closes_of_flattenRule flattens

/-- An operation of the desk leaves the book alone or takes it a step of its own. -/
theorem Step.book_step {d : RiskDesk α} {o : Operation α} {out : Outcome α (Answer α)}
    (step : Step d o out) :
    out.2.book = d.book ∨ ∃ operation, Book.Step d.book operation out.2.book := by
  cases step with
  | timeless | failed | read | asked | refused => exact .inl rfl
  | traded brought free acts quiet => exact .inr ⟨_, .acted acts⟩
  | closed brought free acts closes => exact .inr ⟨_, .acted acts⟩
  | scanned brought scans valued =>
    obtain ⟨kept, swept, rfl⟩ := Book.closeBy_eq_ok_iff.mp scans
    exact .inr ⟨_, .scanned swept⟩
  | flattened brought flattens =>
    obtain ⟨kept, swept, rfl⟩ := Book.closeBy_eq_ok_iff.mp flattens
    exact .inr ⟨_, .flattened swept⟩

/-- What every step of the book keeps holds of the book behind the desk, after every run. -/
theorem book_after_induction {motive : Book α → Prop} {d : RiskDesk α} (start : motive d.book)
    (keeps : ∀ {b after : Book α} {o : Book.Operation α}, Book.Step b o after → motive b →
      motive after)
    (operations : List (Operation α)) : motive (d.after operations).book := by
  induction operations generalizing d with
  | nil => exact start
  | cons o rest ih =>
    refine ih ?_
    rcases (step_perform d o).book_step with same | ⟨_, step⟩
    · rwa [same]
    · exact keeps step start

/-! ### What an answer tells of the book -/

section Answers

variable {d after : RiskDesk α} {now : Timestamp}

/-- A signal that gets a result is refused and leaves the book alone, or acts on the book. -/
theorem refused_or_acted {s : Signal α} {price : α} {result : TradeResult α}
    (answers : d.perform (.act s price now) = (.ok (.traded result), after)) :
    (after.book = d.book ∧ result.instrument = s.instrument ∧ result.opened? = none) ∨
      Book.Acted d.book s price now after.book result := by
  have step := step_perform d (.act s price now)
  rw [answers] at step
  cases step with
  | refused brought halted => exact .inl ⟨rfl, rfl, rfl⟩
  | traded brought free acts quiet => exact .inr acts
  | closed brought free acts closes => exact .inr acts

theorem scanStops_of_perform {prices : Prices α} {report : RiskScan α}
    (answers : d.perform (.scan prices now) = (.ok (.scanned report), after)) :
    d.book.scanStops prices d.maxLoss now = .ok (after.book, report.closed) := by
  have step := step_perform d (.scan prices now)
  rw [answers] at step
  cases step with
  | scanned brought scans valued => exact scans

theorem flatten_of_perform {prices : Prices α} {gone : List (Position α)}
    (answers : d.perform (.flatten prices now) = (.ok (.flattened gone), after)) :
    d.book.flatten prices now = .ok (after.book, gone) := by
  have step := step_perform d (.flatten prices now)
  rw [answers] at step
  cases step with
  | flattened brought flattens => exact flattens

/-- Flattening leaves only positions without a price. -/
theorem lookup_eq_none_of_flatten {prices : Prices α} {gone : List (Position α)}
    (flattens : d.perform (.flatten prices now) = (.ok (.flattened gone), after))
    {p : Position α} (left : p ∈ after.book.active) : prices.lookup p.instrument = none := by
  obtain ⟨kept, swept, same⟩ := Book.closeBy_eq_ok_iff.mp (flatten_of_perform flattens)
  rw [same] at left
  exact Book.flattenRule_eq_none_iff.mp (swept.stays_of_mem_kept left)

end Answers

/-! ### What runs keep -/

/-- No operation changes the loss at which a position is closed. -/
theorem Step.maxLoss_eq {d : RiskDesk α} {o : Operation α} {out : Outcome α (Answer α)}
    (step : Step d o out) : out.2.maxLoss = d.maxLoss := by
  cases step <;> rfl

theorem maxLoss_after (d : RiskDesk α) (operations : List (Operation α)) :
    (d.after operations).maxLoss = d.maxLoss := by
  induction operations generalizing d with
  | nil => rfl
  | cons o rest ih => exact (ih _).trans (step_perform d o).maxLoss_eq

/-- A sound book stays sound behind the desk. -/
theorem sound_book_after {d : RiskDesk Float} (sound : d.book.Sound)
    (operations : List (Operation Float)) : (d.after operations).book.Sound :=
  book_after_induction sound Book.Sound.step operations

end VolatilityDesk.RiskDesk
