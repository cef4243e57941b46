import Mathlib.Data.List.Induction
import VolatilityDesk.Proofs.Number.Order
import VolatilityDesk.Proofs.Risk.Step
/-!
# The daily limit

A day whose realized loss has reached the limit is halted, with one exception that is meant so: a
scan checks the realized and the unrealized result together, so open positions that gain may make
up for what it has just closed. Closing on a signal and flattening check the realized result alone
and allow no exception.

* `halted_or_clearedByScan` — a day at its limit is halted, or cleared by a scan.
* `not_always_halted_at_limit` — a day that is cleared.
-/

namespace VolatilityDesk.RiskDesk

/-- An answer after which the realized result alone was checked. -/
def Answer.checksRealized {α : Type} : Answer α → Bool
  | .traded result => result.closed?.isSome
  | .flattened _ => true
  | _ => false

/-- A scan of the run answered with a total above the negative of the limit. It left the day in
exactly this state, and nothing has been closed since. -/
def ClearedByScan (d : RiskDesk Float) (operations : List (Operation Float))
    (s : DailyState Float) : Prop :=
  ∃ before prices now later report cleared,
    operations = before ++ .scan prices now :: later ∧
    (d.after before).perform (.scan prices now) = (.ok (.scanned report), cleared) ∧
    -d.maxDailyLoss < report.total ∧ cleared.state = some s ∧
    (d.after operations).book.closed = cleared.book.closed

variable {d : RiskDesk Float} {s : DailyState Float} {o : Operation Float}

theorem halted_checkLimit_of_le {limit : Float} {now : Timestamp}
    (lost : (s.checkLimit limit s.realized now).realized ≤ -limit) :
    (s.checkLimit limit s.realized now).halted = true := by
  rw [DailyState.checkLimit_realized] at lost
  exact DailyState.halted_checkLimit (Double.not_lt_of_le lost)

theorem Step.halted_of_checksRealized {answer : Answer Float} {later : RiskDesk Float}
    (step : Step d o (.ok answer, later)) (checks : answer.checksRealized = true)
    (reached : later.state = some s) (lost : s.realized ≤ -d.maxDailyLoss) : s.halted = true := by
  cases step with
  | closed | flattened =>
    obtain rfl := Option.some.inj reached
    exact halted_checkLimit_of_le lost
  | traded _ _ _ quiet => simp [Answer.checksRealized, quiet] at checks
  | refused => cases checks
  | read | asked | scanned => cases checks

/-- A step that leaves a day at its limit halts it, or is a scan that clears it, or leaves the day
and the closed positions as they are. -/
theorem Step.halted_or_cleared_or_kept {out : Outcome Float (Answer Float)}
    (limited : 0.0 < d.maxDailyLoss) (step : Step d o out) (reached : out.2.state = some s)
    (lost : s.realized ≤ -d.maxDailyLoss) :
    s.halted = true ∨
      (∃ prices now report, o = .scan prices now ∧ out.1 = .ok (.scanned report) ∧
        -d.maxDailyLoss < report.total) ∨
      (d.state = some s ∧ out.2.book.closed = d.book.closed) := by
  -- A day that has just started has lost nothing, so a day at its limit is the desk's own.
  have own : d.today o.time = .ok s → d.state = some s := fun brought => by
    rcases kept_or_started brought with ⟨kept, _⟩ | ⟨new, _⟩
    · exact kept
    · rw [new] at lost
      exact absurd lost (Double.not_zero_le_neg limited)
  cases step with
  | timeless => exact .inr (.inr ⟨reached, rfl⟩)
  | failed brought | read brought | asked brought | refused brought =>
    obtain rfl := Option.some.inj reached
    exact .inr (.inr ⟨own brought, rfl⟩)
  | traded brought _ acts quiet =>
    obtain rfl := Option.some.inj reached
    refine .inr (.inr ⟨own brought, ?_⟩)
    rw [acts.closed_eq, quiet]
    exact List.append_nil _
  | closed | flattened =>
    obtain rfl := Option.some.inj reached
    exact .inl (halted_checkLimit_of_le lost)
  | @scanned prices now t book gone unrealized =>
    obtain rfl := Option.some.inj reached
    by_cases above : -d.maxDailyLoss < (t.record gone).realized + unrealized
    · refine .inr (.inl ⟨prices, now, _, rfl, rfl, ?_⟩)
      rw [RiskScan.total, DailyState.checkLimit_realized]
      exact above
    · exact .inl (DailyState.halted_checkLimit above)

/-- **At its limit the day is halted, unless a scan has cleared it.** This holds after every run
from a desk without a day. It is always halted when the last operation has closed a position on a
signal or has flattened. -/
theorem halted_or_clearedByScan (fresh : d.state = none) (limited : 0.0 < d.maxDailyLoss)
    (operations : List (Operation Float)) (reached : (d.after operations).state = some s)
    (lost : s.realized ≤ -d.maxDailyLoss) :
    (s.halted = true ∨ ClearedByScan d operations s) ∧
      ∀ before last answer, operations = before ++ [last] →
        ((d.after before).perform last).1 = .ok answer → answer.checksRealized = true →
        s.halted = true := by
  induction operations using List.reverseRecOn generalizing s with
  | nil =>
    rw [after_nil, fresh] at reached
    cases reached
  | append_singleton earlier o ih =>
    obtain ⟨_, limit⟩ := settings_after d earlier
    rw [after_concat] at reached
    rw [← limit] at lost
    have step := step_perform (d.after earlier) o
    constructor
    · rcases step.halted_or_cleared_or_kept (limit ▸ limited) reached lost with
        halted | ⟨prices, now, report, rfl, answers, above⟩ | ⟨kept, closed⟩
      · exact .inl halted
      · refine .inr
          ⟨earlier, prices, now, [], report, _, rfl, Prod.ext answers rfl, ?_, reached, ?_⟩
        · exact limit ▸ above
        · rw [after_concat]
      · rw [limit] at lost
        rcases (ih kept lost).1 with halted | cleared
        · exact .inl halted
        · obtain ⟨before, prices, now, later, report, desk, rfl, answers, above, left, same⟩ :=
            cleared
          refine .inr ⟨before, prices, now, later ++ [o], report, desk, by simp, answers, above,
            left, ?_⟩
          rw [after_concat, closed, same]
    · intro before last answer split answers checks
      obtain ⟨rfl, same⟩ := List.append_inj' split rfl
      obtain rfl := (List.cons_eq_cons.mp same).1
      have step : Step (d.after earlier) o (.ok answer, ((d.after earlier).perform o).2) := by
        rw [← answers]
        exact step
      exact step.halted_of_checksRealized checks reached lost

/-! ### A loss that is made up for -/

/-- Two positions are bought at 100. A scan closes the one that has lost the limit of the day while
the other has gained more. -/
def offsetLoss : List (Operation Float) :=
  [.act (sampleSignal "AAPL" .buy) 100.0 (noon 739446),
    .act (sampleSignal "MSFT" .buy) 100.0 (noon 739446),
    .scan [("AAPL", 80.0), ("MSFT", 130.0)] (noon 739446)]

theorem exists_unhalted_offsetLoss : ∃ s, (sample.after offsetLoss).state = some s ∧
    s.realized ≤ -sample.maxDailyLoss ∧ s.halted = false := by
  have day : (sample.after offsetLoss).state.map (fun s => (s.realized, s.halted)) =
      some (-200.0, false) := by decide +kernel
  obtain ⟨s, reached, parts⟩ := Option.map_eq_some_iff.mp day
  obtain ⟨realized, halted⟩ := Prod.mk.inj parts
  refine ⟨s, reached, ?_, halted⟩
  rw [realized]
  decide +kernel

/-- A realized loss at the limit does not always halt the day. -/
theorem not_always_halted_at_limit :
    ¬ ∀ (d : RiskDesk Float) (operations : List (Operation Float)) (s : DailyState Float),
      d.book.active = [] → d.book.closed = [] → d.state = none → 0.0 < d.maxDailyLoss →
      (d.after operations).state = some s → s.realized ≤ -d.maxDailyLoss → s.halted = true := by
  intro always
  obtain ⟨s, reached, lost, free⟩ := exists_unhalted_offsetLoss
  have halted := always sample offsetLoss s rfl rfl rfl (by decide +kernel) reached lost
  rw [free] at halted
  cases halted

/-- The day of this loss is at its limit without a halt, so a scan has cleared it. -/
theorem clearedByScan_offsetLoss :
    ∃ s, (sample.after offsetLoss).state = some s ∧ s.halted = false ∧
      ClearedByScan sample offsetLoss s := by
  obtain ⟨s, reached, lost, free⟩ := exists_unhalted_offsetLoss
  obtain ⟨allowed, -⟩ :=
    halted_or_clearedByScan rfl (by decide +kernel) offsetLoss reached lost
  exact ⟨s, reached, free, allowed.resolve_left (by simp [free])⟩

end VolatilityDesk.RiskDesk
