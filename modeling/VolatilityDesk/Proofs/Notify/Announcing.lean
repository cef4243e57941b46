import VolatilityDesk.Notify.Messenger
import VolatilityDesk.Proofs.Fallible
import VolatilityDesk.Proofs.Notify.Delivery
import VolatilityDesk.Proofs.Risk.Step
/-!
# Messages and the replies to them

An announcement sends its messages in order, each on the replies that those before it have left over
(`SentInTurn`). Whatever becomes of a message, the next one is sent, and the announcement ends well.

This is so once requests can be made at all (`Ready`). A messenger with a token and a chat may still
be without the settings that its requests need, and then its first message fails.

* `notices_accounted` — which replies each message of an announcement gets.
* `not_every_announcement_completes` — an account alone does not make a messenger ready.
-/

namespace VolatilityDesk

namespace Messenger

/-- Requests can be made: there is an account and someone to send to, the settings could be read,
and the token makes an address. -/
structure Ready (m : Messenger) : Prop where
  enabled : m.enabled = true
  settings : m.timeout.isOk = true
  address : Url.resolveFault? service m.place = none

/-- The last of the replies is a code of success. -/
def Arrived (spent : List Reply) : Prop :=
  ∃ code, spent.getLast? = some (.status code) ∧ 200 ≤ code ∧ code ≤ 299

/-- A message is sent on the next replies of the line, just enough of them, each of which answers a
request with its text; it counts as sent exactly if it arrived. -/
structure Sent (m : Messenger) (text mode : String) (w : Wire) (spent : List Reply)
    (arrived : Bool) (after : Wire) : Prop where
  answer : m.send text mode w = (.ok arrived, after)
  enough : Wire.Suffices spent
  spends : w.Spends (m.request text mode) spent after
  arrived_iff : arrived = true ↔ Arrived spent

/-- Messages are sent one after the other, each on the line that the one before it left, and those
that arrived are counted. -/
inductive SentInTurn (m : Messenger) :
    List String → Wire → List (List Reply) → Nat → Wire → Prop where
  | nil {w : Wire} : SentInTurn m [] w [] 0 w
  | cons {text : String} {texts : List String} {w middle after : Wire} {spent : List Reply}
      {others : List (List Reply)} {arrived : Bool} {count : Nat}
      (first : m.Sent text markup w spent arrived middle)
      (rest : SentInTurn m texts middle others count after) :
      SentInTurn m (text :: texts) w (spent :: others) (if arrived then count + 1 else count) after

variable {m : Messenger} {w after : Wire} {spent : List (List Reply)} {count : Nat}
  {texts : List String}

/-! ### One message -/

theorem Sent.answers {text mode : String} {replies : List Reply} {arrived : Bool}
    (sent : m.Sent text mode w replies arrived after)
    (answers : ∀ reply ∈ w.replies, reply.isAnswer = true) :
    ∀ reply ∈ after.replies, reply.isAnswer = true := by
  intro reply left
  rw [sent.spends.replies] at left
  exact answers reply (List.mem_of_mem_drop left)

/-- Whatever is replied, a message is sent or given up, and no fault is reported. -/
theorem Ready.exists_sent (ready : m.Ready) (text mode : String)
    (answers : ∀ reply ∈ w.replies, reply.isAnswer = true) :
    ∃ replies arrived after, m.Sent text mode w replies arrived after := by
  obtain ⟨replies, last, enough, ended, replied, spends⟩ := w.exists_spent (m.request text mode)
  obtain ⟨seconds, readable⟩ := Fallible.isOk_iff.mp ready.settings
  have answered : last.isAnswer = true := by
    have next : last ∈ w.upcoming replies.length := by
      rw [spends.upcoming]
      exact List.mem_of_getLast? ended
    rcases Wire.mem_upcoming next with listed | rfl
    · exact answers last listed
    · rfl
  have sends : m.send text mode w = (.ok last.isSuccess, (w.deliver (m.request text mode)).2) := by
    unfold send
    rw [ready.enabled, readable, ready.address]
    rcases delivered : w.deliver (m.request text mode) with ⟨reply, after⟩
    rw [delivered] at replied
    obtain rfl : reply = last := replied
    cases reply with
    | status code => rfl
    | failure kind =>
      have exchange : kind.isExchange = true := answered
      simp only [Bool.not_true, Bool.false_eq_true, if_false, exchange, if_true]
      rfl
  refine ⟨replies, last.isSuccess, _, sends, enough, spends, ?_⟩
  rw [Arrived, ended]
  cases last with
  | failure kind => simp [Reply.isSuccess]
  | status code => simp [Reply.isSuccess]

/-! ### One after the other -/

/-- Messages in turn take their replies from the line in turn. -/
theorem SentInTurn.replies (sent : m.SentInTurn texts w spent count after) :
    w.upcoming spent.flatten.length = spent.flatten ∧
      after.replies = w.replies.drop spent.flatten.length := by
  induction sent with
  | nil => simp [Wire.upcoming]
  | @cons text texts w middle after replies others arrived count first rest ih =>
    obtain ⟨upcoming, left⟩ := ih
    have taken := first.spends.upcoming
    have kept := first.spends.replies
    rw [Wire.upcoming] at taken upcoming
    rw [List.flatten_cons, List.length_append]
    constructor
    · rw [Wire.upcoming, takeD_add, taken, ← kept, upcoming]
    · rw [left, kept, List.drop_drop]

/-- Every message is requested. -/
theorem SentInTurn.ne_nil (sent : m.SentInTurn texts w spent count after) :
    ∀ replies ∈ spent, replies ≠ [] := by
  induction sent with
  | nil => simp
  | cons first rest ih =>
    refine List.forall_mem_cons.mpr ⟨?_, ih⟩
    rintro rfl
    rcases first.enough.settled with ⟨last, ended, -⟩ | full
    · cases ended
    · cases full

theorem Ready.exists_sentInTurn (ready : m.Ready) (texts : List String)
    (answers : ∀ reply ∈ w.replies, reply.isAnswer = true) :
    ∃ spent count after, m.sendAll texts w = (.ok count, after) ∧
      m.SentInTurn texts w spent count after := by
  induction texts generalizing w with
  | nil => exact ⟨[], 0, w, rfl, .nil⟩
  | cons text texts ih =>
    obtain ⟨replies, arrived, middle, first⟩ := ready.exists_sent text markup answers
    obtain ⟨others, count, after, sends, rest⟩ := ih (first.answers answers)
    refine ⟨replies :: others, _, after, ?_, .cons first rest⟩
    rw [sendAll, first.answer]
    simp only [sends]

/-- **Every message of an announcement gets its replies.** A messenger that is ready announces
signals, then closed positions, then a summary if one is wanted, and no reply of the exchange keeps
it from ending well. Each message is requested at least once, and spends the shortest next part of
the replies that ends with a success, with a failure for good or with the third attempt; it counts
as sent exactly if the last of them is a code of success. -/
theorem notices_accounted (ready : m.Ready) (now : Timestamp) (signals : List (Signal Float))
    (closed : List (Position Float)) (summary : Bool)
    (answers : ∀ reply ∈ w.replies, reply.isAnswer = true) :
    ∃ spent count after, m.notify now signals closed summary w = (.ok count, after) ∧
      m.SentInTurn (signals.map Signal.alert ++ closed.map Position.alert
        ++ if summary then [Signal.summary now Signal.messageLimit signals] else [])
        w spent count after ∧
      w.upcoming spent.flatten.length = spent.flatten ∧
      after.replies = w.replies.drop spent.flatten.length ∧
      ∀ replies ∈ spent, replies ≠ [] := by
  obtain ⟨spent, count, after, sends, sent⟩ :=
    ready.exists_sentInTurn (announcements now signals closed summary) answers
  obtain ⟨upcoming, left⟩ := sent.replies
  refine ⟨spent, count, after, ?_, sent, upcoming, left, sent.ne_nil⟩
  rw [notify, ready.enabled, if_pos rfl, sends]

/-! ### Messengers to compute with -/

open RiskDesk (noon sampleSignal)

/-- A messenger in surroundings where the settings can be read or not. -/
def inSurroundings (around : Surroundings) : Messenger where
  token := "123:ABC"
  chat := "999"
  timeout := Settings.httpTimeout <$> Settings.load [] around

/-- Trouble that lasts for the first message, then a success, then a refusal. -/
def sampleWire : Wire where
  replies := [.status 503, .failure .readTimeout, .status 429, .status 200, .status 403]

/-- The first of three messages is given up after three attempts, the second arrives, and the
summary is refused. -/
theorem notices_accounted_in_trouble :
    let m := inSurroundings ⟨[], none⟩
    let signals := [sampleSignal "AAPL" .buy, sampleSignal "MSFT" .buy]
    m.Ready ∧ (∀ reply ∈ sampleWire.replies, reply.isAnswer = true) ∧
      ∃ spent after, m.notify (noon 739446) signals [] true sampleWire = (.ok 1, after) ∧
        m.SentInTurn (signals.map Signal.alert
          ++ [Signal.summary (noon 739446) Signal.messageLimit signals]) sampleWire spent 1 after ∧
        after.replies = [] := by
  intro m signals
  have ready : m.Ready := ⟨by decide, by decide +kernel, by decide +kernel⟩
  have answers : ∀ reply ∈ sampleWire.replies, reply.isAnswer = true := by decide
  obtain ⟨spent, count, after, announces, sent, -⟩ :=
    notices_accounted ready (noon 739446) signals [] true answers
  have outcome : (m.notify (noon 739446) signals [] true sampleWire).1.toOption = some 1 ∧
      (m.notify (noon 739446) signals [] true sampleWire).2.replies = [] := by decide +kernel
  rw [announces] at outcome
  obtain ⟨counted, used⟩ := outcome
  obtain rfl : count = 1 := Option.some.inj counted
  exact ⟨ready, answers, spent, after, announces, sent, used⟩

/-- An account and someone to send to are not enough. Without readable settings, or with a token
that makes no address, nothing is announced and a fault is reported, whatever would be replied. -/
theorem not_every_announcement_completes :
    (¬ ∀ (m : Messenger) (now : Timestamp) (signals : List (Signal Float))
        (closed : List (Position Float)) (summary : Bool) (w : Wire), m.enabled = true →
        Url.resolveFault? service m.place = none → (∀ reply ∈ w.replies, reply.isAnswer = true) →
        (m.notify now signals closed summary w).1.isOk = true) ∧
      ¬ ∀ (m : Messenger) (now : Timestamp) (signals : List (Signal Float))
        (closed : List (Position Float)) (summary : Bool) (w : Wire), m.enabled = true →
        m.timeout.isOk = true → (∀ reply ∈ w.replies, reply.isAnswer = true) →
        (m.notify now signals closed summary w).1.isOk = true := by
  constructor
  · intro completes
    have answered := completes (inSurroundings ⟨[("HTTP_TIMEOUT", "abc")], none⟩) (noon 739446)
      [sampleSignal "AAPL" .buy] [] false sampleWire (by decide) (by decide +kernel) (by decide)
    revert answered
    decide +kernel
  · intro completes
    have answered := completes { inSurroundings ⟨[], none⟩ with token := "123:ABC\n" }
      (noon 739446) [sampleSignal "AAPL" .buy] [] false sampleWire (by decide) (by decide +kernel)
      (by decide)
    revert answered
    decide +kernel

end Messenger

end VolatilityDesk
