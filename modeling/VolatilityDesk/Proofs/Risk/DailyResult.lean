import Mathlib.Data.List.Induction
import VolatilityDesk.Proofs.Risk.Step
/-!
# The result of a day

The realized result of a day is the sum of the results of the positions that have joined the closed
ones since the operation that started the day, that operation included: each is counted once, in
the order of closing, and nothing that was closed before counts. The sum is taken from the left, so
the result is exact also for numbers that round.

* `realized_eq_sum_of_closed` — the result is the sum over the positions closed on the day.
-/

namespace VolatilityDesk.RiskDesk

variable {α : Type} [Number α]

/-- An operation starts a day, and none of the later ones starts another. -/
structure StartedBy (d : RiskDesk α) (before : List (Operation α)) (first : Operation α)
    (later : List (Operation α)) (day : Date) : Prop where
  starts : (d.after before).StartsDay first.time day
  latest : ∀ earlier next rest, later = earlier ++ next :: rest →
    ∀ other, ¬ (d.after (before ++ first :: earlier)).StartsDay next.time other

namespace StartedBy

variable {d : RiskDesk α} {before later : List (Operation α)} {first : Operation α} {day : Date}

theorem alone (starts : (d.after before).StartsDay first.time day) :
    StartedBy d before first [] day where
  starts := starts
  latest := fun earlier next rest split => by simp at split

/-- An operation that starts no day continues the one that was started. -/
theorem concat (started : StartedBy d before first later day) {o : Operation α}
    (continues : ∀ other, ¬ (d.after (before ++ first :: later)).StartsDay o.time other) :
    StartedBy d before first (later ++ [o]) day where
  starts := started.starts
  latest := fun earlier next rest split => by
    rcases List.eq_nil_or_concat rest with rfl | ⟨front, last, rfl⟩
    · obtain ⟨rfl, last⟩ := List.append_inj' split rfl
      obtain rfl := List.cons_eq_cons.mp last |>.1
      exact continues
    · have split : later ++ [o] = (earlier ++ next :: front) ++ [last] := by
        rw [split, List.concat_eq_append, List.append_assoc, List.cons_append]
      exact started.latest earlier next front (List.append_inj' split rfl).1

end StartedBy

/-- **The realized result of the day is what was closed on it.** In every run from a desk without a
day, failing operations included, it is the sum from the left, started at zero, of the results of
exactly the positions that were closed by the operation that started the day and by all later
ones, in the order of closing. -/
theorem realized_eq_sum_of_closed {d : RiskDesk α} (fresh : d.state = none)
    (operations : List (Operation α)) {s : DailyState α}
    (reached : (d.after operations).state = some s) :
    ∃ before first later, operations = before ++ first :: later ∧
      StartedBy d before first later s.day ∧
      ∃ (added : List (Position α)) (pnls : List α),
        (d.after operations).book.closed = (d.after before).book.closed ++ added ∧
        added.map (·.realized) = pnls.map some ∧ s.realized = pnls.foldl (· + ·) 0.0 := by
  induction operations using List.reverseRecOn generalizing s with
  | nil =>
    rw [after_nil, fresh] at reached
    cases reached
  | append_singleton earlier o ih =>
    rw [after_concat] at reached ⊢
    rcases (step_perform (d.after earlier) o).timeless_or_booked with
      ⟨continues, same⟩ | ⟨t, s', brought, booked⟩
    -- Without a date the operation does nothing, so it only prolongs the day.
    · rw [same] at reached ⊢
      obtain ⟨before, first, later, rfl, started, results⟩ := ih reached
      exact ⟨before, first, later ++ [o], by simp, started.concat continues, results⟩
    · obtain rfl : s' = s := Option.some.inj (booked.state.symm.trans reached)
      obtain ⟨gone, pnls, closed, results, sum⟩ := booked.closed
      rcases kept_or_started brought with ⟨kept, continues⟩ | ⟨new, starts⟩
      · obtain ⟨before, first, later, rfl, started, added, earned, joined, each, total⟩ := ih kept
        refine ⟨before, first, later ++ [o], by simp, ?_, added ++ gone, earned ++ pnls, ?_, ?_, ?_⟩
        · rw [booked.day]
          exact started.concat continues
        · rw [closed, joined, List.append_assoc]
        · rw [List.map_append, List.map_append, each, results]
        · rw [sum, total, List.foldl_append]
      · refine ⟨earlier, o, [], rfl, ?_, gone, pnls, closed, results, ?_⟩
        · rw [booked.day]
          exact .alone starts
        · rw [sum, new]
          rfl

/-- Two days with the same loss: the result of the second is that loss once. -/
theorem realized_eq_sum_of_closed_next_day :
    ∃ s, (sample.after (losing 739446 ++ losing 739447)).state = some s ∧ s.realized = -200.0 ∧
      ∃ before first later, losing 739446 ++ losing 739447 = before ++ first :: later ∧
        StartedBy sample before first later s.day ∧
        ∃ (added : List (Position Float)) (pnls : List Float),
          (sample.after (losing 739446 ++ losing 739447)).book.closed =
            (sample.after before).book.closed ++ added ∧
          added.map (·.realized) = pnls.map some ∧ s.realized = pnls.foldl (· + ·) 0.0 := by
  have result : (sample.after (losing 739446 ++ losing 739447)).state.map (·.realized) =
      some (-200.0) := by decide +kernel
  obtain ⟨s, reached, loss⟩ := Option.map_eq_some_iff.mp result
  exact ⟨s, reached, loss, realized_eq_sum_of_closed rfl _ reached⟩

end VolatilityDesk.RiskDesk
