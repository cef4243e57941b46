import Mathlib.Data.List.Infix
import VolatilityDesk.Notify.Delivery
/-!
# Replies spent on a request

The replies to a request are a front part of the replies to come. It is the shortest that settles
the matter (`Suffices`): it ends with a success, with a failure for good, or with the last attempt
that is allowed. Every one of these replies answers one sending of the same request.

* `exists_spent` — a delivery spends the shortest part of the replies that suffices.
-/

namespace VolatilityDesk

namespace Reply

/-- The reply has a status, or failed in the exchange of requests and replies. -/
def isAnswer : Reply → Bool
  | status _ => true
  | failure kind => kind.isExchange

/-- A success asks for no other attempt. -/
theorem isRetryable_of_isSuccess {r : Reply} (success : r.isSuccess = true) :
    r.isRetryable = false := by
  cases r with
  | failure kind => cases success
  | status code =>
    simp only [isSuccess, Bool.and_eq_true, decide_eq_true_eq] at success
    simp only [isRetryable, retryCodes, List.contains_eq_mem, decide_eq_false_iff_not,
      List.mem_cons, List.not_mem_nil, or_false]
    omega

end Reply

/-- A list that is continued without end is taken in two parts. -/
theorem takeD_add {α : Type} (l : List α) (m n : Nat) (a : α) :
    l.takeD (m + n) a = l.takeD m a ++ (l.drop m).takeD n a := by
  induction m generalizing l with
  | zero => simp
  | succ m ih =>
    rw [Nat.add_right_comm, List.takeD_succ, List.takeD_succ, ih, List.drop_tail, List.cons_append]

namespace Wire

/-- No further attempt follows on these replies: the last one is a success or a failure for good, or
they are as many as there are attempts. -/
def Settled (spent : List Reply) : Prop :=
  (∃ last, spent.getLast? = some last ∧ (last.isSuccess = true ∨ last.isRetryable = false)) ∨
    spent.length = maxAttempts

/-- The replies are just enough: they settle the matter, and no front part of them does. -/
structure Suffices (spent : List Reply) : Prop where
  settled : Settled spent
  shortest : ∀ shorter, shorter <+: spent → shorter ≠ spent → ¬ Settled shorter

/-- The replies to the next requests. Where the list ends everything succeeds. -/
def upcoming (w : Wire) (count : Nat) : List Reply := w.replies.takeD count (.status 200)

/-- What comes next was listed, or is a success behind the end of the list. -/
theorem mem_upcoming {w : Wire} {count : Nat} {reply : Reply}
    (inside : reply ∈ w.upcoming count) : reply ∈ w.replies ∨ reply = .status 200 := by
  unfold upcoming at inside
  generalize w.replies = replies at inside ⊢
  induction count generalizing replies with
  | zero => simp at inside
  | succ count ih =>
    rw [List.takeD_succ] at inside
    rcases List.mem_cons.mp inside with rfl | later
    · cases replies with
      | nil => exact .inr rfl
      | cons first rest => exact .inl (List.mem_cons_self ..)
    · exact (ih _ later).imp_left List.mem_of_mem_tail

/-- What sending one request, as often as there are replies, does to the line. -/
structure Spends (w : Wire) (r : Request) (spent : List Reply) (after : Wire) : Prop where
  upcoming : w.upcoming spent.length = spent
  replies : after.replies = w.replies.drop spent.length
  requests : after.requests = w.requests ++ List.replicate spent.length r

section Attempts

variable {w after : Wire} {r : Request} {spent tried : List Reply} {last : Reply}

theorem spends_attempt (w : Wire) (r : Request) :
    w.Spends r [(w.attempt r).1] (w.attempt r).2 := by
  unfold attempt
  cases replies : w.replies with
  | nil => exact ⟨by simp [Wire.upcoming, replies], by simp [replies], rfl⟩
  | cons reply rest => exact ⟨by simp [Wire.upcoming, replies], by simp [replies], rfl⟩

/-- Waiting leaves no other trace on the line. -/
theorem Spends.waited {waits : List Nat} (spends : w.Spends r spent after) :
    w.Spends r spent { after with waits := waits } :=
  ⟨spends.upcoming, spends.replies, spends.requests⟩

theorem Spends.append {middle : Wire} {more : List Reply} (first : w.Spends r spent middle)
    (second : middle.Spends r more after) : w.Spends r (spent ++ more) after where
  upcoming := by
    have later := second.upcoming
    rw [Wire.upcoming, first.replies] at later
    rw [Wire.upcoming, List.length_append, takeD_add, later]
    exact congrArg (· ++ more) first.upcoming
  replies := by rw [second.replies, first.replies, List.drop_drop, List.length_append]
  requests := by
    rw [second.requests, first.requests, List.append_assoc, List.replicate_append_replicate,
      List.length_append]

/-- Attempts end with the first reply that asks for no other one, or with the last that is
allowed. -/
theorem exists_tried (r : Request) (attempts left : Nat) (w : Wire) :
    ∃ tried last, (∀ reply ∈ tried, reply.isRetryable = true) ∧
      (tried.length = left ∨ (tried.length < left ∧ last.isRetryable = false)) ∧
      (deliverFrom r attempts left w).1 = last ∧
      w.Spends r (tried ++ [last]) (deliverFrom r attempts left w).2 := by
  induction left generalizing attempts w with
  | zero => exact ⟨[], (w.attempt r).1, by simp, .inl rfl, rfl, w.spends_attempt r⟩
  | succ left ih =>
    have once := w.spends_attempt r
    unfold deliverFrom
    rcases attempted : w.attempt r with ⟨reply, middle⟩
    rw [attempted] at once
    dsimp only
    cases again : reply.isRetryable with
    | false =>
      rw [if_neg Bool.false_ne_true]
      exact ⟨[], reply, by simp, .inr ⟨by simp, again⟩, rfl, once⟩
    | true =>
      rw [if_pos rfl]
      obtain ⟨tried, last, retried, ends, answer, rest⟩ :=
        ih (attempts + 1) { middle with waits := middle.waits ++ [waitAfter attempts] }
      refine ⟨reply :: tried, last, ?_, ?_, answer, once.waited.append rest⟩
      · exact List.forall_mem_cons.mpr ⟨again, retried⟩
      · rw [List.length_cons]
        exact ends.imp (congrArg (· + 1)) fun ⟨below, final⟩ => ⟨Nat.succ_lt_succ below, final⟩

theorem suffices_of_tried (retried : ∀ reply ∈ tried, reply.isRetryable = true)
    (ends : tried.length = maxAttempts - 1 ∨
      (tried.length < maxAttempts - 1 ∧ last.isRetryable = false)) :
    Suffices (tried ++ [last]) where
  settled := by
    rcases ends with full | ⟨-, final⟩
    · right
      rw [List.length_append, full]
      rfl
    · exact .inl ⟨last, by simp, .inr final⟩
  shortest := by
    intro shorter front apart settled
    -- What is shorter was tried, so its last reply asks for another attempt and there is one.
    have earlier := (List.prefix_concat_iff.mp front).resolve_left apart
    rcases settled with ⟨reply, ended, final⟩ | full
    · have again := retried reply (earlier.mem (List.mem_of_getLast? ended))
      rcases final with success | final
      · rw [Reply.isRetryable_of_isSuccess success] at again
        cases again
      · rw [final] at again
        cases again
    · have length := earlier.length_le
      have allowed : maxAttempts = 3 := rfl
      omega

/-- A request is sent until the replies settle the matter, and not once more. -/
theorem exists_spent (w : Wire) (r : Request) :
    ∃ spent last, Suffices spent ∧ spent.getLast? = some last ∧ (w.deliver r).1 = last ∧
      w.Spends r spent (w.deliver r).2 := by
  obtain ⟨tried, last, retried, ends, answer, spends⟩ := exists_tried r 1 (maxAttempts - 1) w
  exact ⟨tried ++ [last], last, suffices_of_tried retried ends, by simp, answer, spends⟩

end Attempts

end Wire

end VolatilityDesk
