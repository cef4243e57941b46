import Mathlib.Data.List.Induction
import VolatilityDesk.Proofs.Book.Sound
import VolatilityDesk.Proofs.Risk.Step
/-!
# Exit prices

A signal closes a position only at a price that can be traded at. The two sweeps make no such test:
they close at whatever price they are given for the instrument, be it zero, negative or no number
at all. `ExitFrom` says where an exit price comes from, and every closed position of every run has
one; so the exits of a run are valid as far as the prices given to its sweeps are.

* `valid_or_quoted_exit` — where every exit price of a run comes from.
* `not_every_exit_valid` — a scan closes at the price zero.
-/

namespace VolatilityDesk.Book

section Runs

variable {α : Type}

/-- The prices that an operation sweeps the open positions with. -/
def Operation.quotes : Operation α → Prices α
  | .act _ _ _ => []
  | .scanStops prices _ _ | .flatten prices _ => prices

variable [Number α]

/-- Where an exit price comes from: a signal closed the position at a valid price, or a sweep of
the run was given the price for its instrument. -/
inductive ExitFrom (operations : List (Operation α)) (q : Position α) (exit : α) : Prop where
  | signal (reason : q.closeReason = some .signal) (valid : isValidPrice exit = true)
  | sweep {o : Operation α} (member : o ∈ operations) (reason : q.closeReason ≠ some .signal)
      (quoted : o.quotes.lookup q.instrument = some exit)

theorem ExitFrom.mono {operations more : List (Operation α)} {q : Position α} {exit : α}
    (sub : operations ⊆ more) (source : ExitFrom operations q exit) : ExitFrom more q exit := by
  cases source with
  | signal reason valid => exact .signal reason valid
  | sweep member reason quoted => exact .sweep (sub member) reason quoted

/-- What a step adds to the closed positions has an exit price that comes from its operation. -/
theorem Step.exitFrom {b after : Book α} {o : Operation α} (step : Step b o after)
    {q : Position α} (closed : q ∈ after.closed) :
    q ∈ b.closed ∨ ∃ exit, q.exit = some exit ∧ ExitFrom [o] q exit := by
  cases step with
  | failed => exact .inl closed
  | acted acts =>
    cases acts with
    | closed valid held opposing closes =>
      rcases List.mem_append.mp closed with old | new
      · exact .inl old
      · obtain rfl := List.mem_singleton.mp new
        obtain ⟨pnl, -, rfl⟩ := Position.close_eq_ok_iff.mp closes
        exact .inr ⟨_, rfl, .signal rfl valid⟩
    | invalid | already | nothing | poor | opened => exact .inl closed
  | scanned swept =>
    rcases List.mem_append.mp closed with old | new
    · exact .inl old
    · obtain ⟨p, -, closes⟩ := swept.closes_of_mem_gone new
      obtain ⟨price, _, quoted, -, -, closes⟩ := stopRule_eq_some_iff.mp closes
      obtain ⟨pnl, -, rfl⟩ := Position.close_eq_ok_iff.mp closes
      exact .inr ⟨price, rfl, .sweep (.head _) nofun quoted⟩
  | flattened swept =>
    rcases List.mem_append.mp closed with old | new
    · exact .inl old
    · obtain ⟨p, -, closes⟩ := swept.closes_of_mem_gone new
      obtain ⟨price, quoted, closes⟩ := flattenRule_eq_some_iff.mp closes
      obtain ⟨pnl, -, rfl⟩ := Position.close_eq_ok_iff.mp closes
      exact .inr ⟨price, rfl, .sweep (.head _) nofun quoted⟩

/-- Every closed position of a run has an exit price that comes from the run. -/
theorem exitFrom_of_mem_closed {b : Book α} (fresh : b.closed = [])
    (operations : List (Operation α)) {q : Position α}
    (closed : q ∈ (b.after operations).closed) :
    ∃ exit, q.exit = some exit ∧ ExitFrom operations q exit := by
  -- From the end: the last operation closed it, or it was closed before that.
  induction operations using List.reverseRecOn with
  | nil =>
    rw [show b.after [] = b from rfl, fresh] at closed
    cases closed
  | append_singleton earlier o ih =>
    have last : b.after (earlier ++ [o]) = (b.after earlier).next o := by
      simp [Book.after]
    rw [last] at closed
    rcases (step_next (b.after earlier) o).exitFrom closed with old | ⟨exit, exits, new⟩
    · obtain ⟨exit, exits, source⟩ := ih old
      exact ⟨exit, exits, source.mono (List.subset_append_left _ _)⟩
    · exact ⟨exit, exits, new.mono (List.subset_append_right _ _)⟩

end Runs

/-- **An exit price is valid, or a sweep was given it.** After every run from a fresh book each
closed position has an exit price. Either a signal closed the position at a valid price, or the
exit is the price that a scan or a flattening of the run was given for the instrument; so it is
positive and a number when all prices given for the instrument are. -/
theorem valid_or_quoted_exit (l : Limits Float) (serial : Nat)
    (operations : List (Operation Float)) {q : Position Float}
    (closed : q ∈ ((Book.ofLimits l serial).after operations).closed) :
    ∃ exit, q.exit = some exit ∧ ExitFrom operations q exit ∧
      ((∀ o ∈ operations, ∀ price, o.quotes.lookup q.instrument = some price →
          isValidPrice price = true) → 0.0 < exit ∧ Number.isNan exit = false) := by
  obtain ⟨exit, exits, source⟩ := exitFrom_of_mem_closed rfl operations closed
  refine ⟨exit, exits, source, ?_⟩
  intro valid
  apply pos_of_isValidPrice
  cases source with
  | signal reason tested => exact tested
  | sweep member reason quoted => exact valid _ member exit quoted

/-! ### A price of zero -/

open RiskDesk (sampleSignal noon)

/-- A position is bought at 100. A scan that is given a price of zero closes it. -/
def closedAtZero : List (Operation Float) :=
  [.act (sampleSignal "AAPL" .buy) 100.0 (noon 739446),
    .scanStops [("AAPL", 0.0)] 50.0 (noon 739446)]

theorem exists_exit_zero :
    ∃ q ∈ ((Book.ofLimits Settings.defaults.limits 0).after closedAtZero).closed,
      q.instrument = "AAPL" ∧ q.exit = some 0.0 := by
  have exits : ((Book.ofLimits Settings.defaults.limits 0).after closedAtZero).closed.map
      (fun q => (q.instrument, q.exit)) = [("AAPL", some 0.0)] := by decide +kernel
  obtain ⟨q, alone, parts⟩ := List.map_eq_singleton_iff.mp exits
  obtain ⟨named, exit⟩ := Prod.mk.inj parts
  refine ⟨q, ?_, named, exit⟩
  rw [alone]
  exact List.mem_singleton_self q

/-- Not every exit price is a positive number. -/
theorem not_every_exit_valid :
    ¬ ∀ (l : Limits Float) (serial : Nat) (operations : List (Operation Float)),
      ∀ q ∈ ((Book.ofLimits l serial).after operations).closed,
        ∃ exit, q.exit = some exit ∧ 0.0 < exit ∧ Number.isNan exit = false := by
  intro always
  obtain ⟨q, closed, -, zero⟩ := exists_exit_zero
  obtain ⟨exit, exits, positive, -⟩ := always _ _ _ q closed
  obtain rfl : 0.0 = exit := Option.some.inj (zero.symm.trans exits)
  exact Double.not_lt_of_le (by decide) positive

/-- The exit at zero comes from the scan. -/
theorem quoted_exit_zero :
    ∃ q ∈ ((Book.ofLimits Settings.defaults.limits 0).after closedAtZero).closed,
      q.exit = some 0.0 ∧ ExitFrom closedAtZero q 0.0 := by
  obtain ⟨q, closed, -, zero⟩ := exists_exit_zero
  obtain ⟨exit, exits, source, -⟩ := valid_or_quoted_exit _ _ _ closed
  obtain rfl : 0.0 = exit := Option.some.inj (zero.symm.trans exits)
  exact ⟨q, closed, zero, source⟩

end VolatilityDesk.Book
