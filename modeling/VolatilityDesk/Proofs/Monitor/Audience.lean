import VolatilityDesk.Proofs.Monitor.Step
/-!
# Ticks before an audience

A monitor trades first and tells afterwards. Here the outlets are replaced by an audience of any
kind, which may answer a report with any error and change in any way: a journal that takes all,
some or nothing, a chat with whatever replies, or nobody. The outlets are one such audience, and
before all of them the monitor does the same.

* `same_before_any_audience` — the monitor does the same whoever listens.
* `useAllBefore_publish` — the outlets are an audience.
-/

namespace VolatilityDesk.Monitor

variable {φ : Type} [PriceFeed φ]

/-- How an audience takes a report: its answer, which may be any error, and the audience
afterwards. -/
abbrev Reception (ε ω : Type) := ω → TickReport Float → Except ε Unit × ω

/-- What is done with a monitor. -/
inductive Use where
  | tick (given : Option Timestamp) (clock : Timestamp)
  | run (clock : Nat → Timestamp) (limit : Int)
  | stop

/-- The monitor and its outlets after a use, whether a tick fails or not. -/
def use (m : Monitor φ) (o : Outlets) : Use → Monitor φ × Outlets
  | .tick given clock => (m.tick o given clock).2
  | .run clock limit => (m.run o clock limit).2
  | .stop => (m.stop, o)

/-- The monitor and its outlets after uses, one after the other. -/
def useAll (m : Monitor φ) (o : Outlets) : List Use → Monitor φ × Outlets
  | [] => (m, o)
  | u :: rest =>
    let (m, o) := m.use o u
    useAll m o rest

/-! ### Any audience -/

section Audience

variable {ε ω : Type} (hear : Reception ε ω)

/-- One tick, told to an audience unless it was skipped. An error of the audience fails the tick. -/
def tickBefore (m : Monitor φ) (w : ω) (given : Option Timestamp) (clock : Timestamp) :
    Except (TickFault ⊕ ε) (TickReport Float) × Monitor φ × ω :=
  match m.observe given clock with
  | (.error fault, m) => (.error (.inl fault), m, w)
  | (.ok report, m) =>
    if report.skipped then (.ok report, m, w)
    else match hear w report with
      | (.error fault, w) => (.error (.inr fault), m, w)
      | (.ok (), w) => (.ok report, m, w)

/-- A tick of a run before an audience. -/
def countBefore (m : Monitor φ) (w : ω) (clock : Timestamp) : Monitor φ × ω :=
  let (_, m, w) := m.tickBefore hear w none clock
  ({ m with ticks := m.ticks + 1 }, w)

/-- Ticks before an audience, at most a number of them. -/
def runForBefore (clock : Nat → Timestamp) : Nat → Monitor φ → ω → Monitor φ × ω
  | 0, m, w => (m, w)
  | left + 1, m, w =>
    if m.stopped then (m, w)
    else
      let (m, w) := m.countBefore hear w (clock m.ticks)
      if left = 0 then (m, w) else runForBefore clock left m.pause w

/-- The monitor and its audience after a use. -/
def useBefore (m : Monitor φ) (w : ω) : Use → Monitor φ × ω
  | .tick given clock => (m.tickBefore hear w given clock).2
  | .run clock limit => runForBefore hear clock (ticksWithin limit) m w
  | .stop => (m.stop, w)

/-- The monitor and its audience after uses, one after the other. -/
def useAllBefore (m : Monitor φ) (w : ω) : List Use → Monitor φ × ω
  | [] => (m, w)
  | u :: rest =>
    let (m, w) := m.useBefore hear w u
    useAllBefore m w rest

theorem monitor_tickBefore (m : Monitor φ) (w : ω) (given : Option Timestamp) (clock : Timestamp) :
    (m.tickBefore hear w given clock).2.1 = (m.observe given clock).2 := by
  unfold tickBefore
  rcases m.observe given clock with ⟨out, after⟩
  cases out with
  | error fault => rfl
  | ok report =>
    dsimp only
    split
    · rfl
    · split
      · rfl
      · rfl

end Audience

/-! ### The outlets are an audience -/

section Outlets

theorem tickBefore_publish (m : Monitor φ) (o : Outlets) (given : Option Timestamp)
    (clock : Timestamp) :
    (m.tickBefore Outlets.publish o given clock).2 = (m.tick o given clock).2 := by
  unfold tickBefore tick publish
  rcases m.observe given clock with ⟨out, after⟩
  cases out with
  | error fault => rfl
  | ok report =>
    dsimp only
    split
    · rfl
    · rcases o.publish report with ⟨answer, o⟩
      cases answer with
      | error fault => rfl
      | ok done => rfl

theorem countBefore_publish (m : Monitor φ) (o : Outlets) (clock : Timestamp) :
    m.countBefore Outlets.publish o clock = m.count o clock := by
  have ticked := m.tickBefore_publish o none clock
  simp only [countBefore, count, ticked]

theorem runForBefore_publish (clock : Nat → Timestamp) (left : Nat) (m : Monitor φ)
    (o : Outlets) :
    runForBefore Outlets.publish clock left m o = runFor clock left m o := by
  induction left generalizing m o with
  | zero => rfl
  | succ left ih => simp only [runForBefore, runFor, countBefore_publish, ih]

theorem useBefore_publish (m : Monitor φ) (o : Outlets) (u : Use) :
    m.useBefore Outlets.publish o u = m.use o u := by
  cases u with
  | tick given clock => exact m.tickBefore_publish o given clock
  | run clock limit => exact runForBefore_publish clock (ticksWithin limit) m o
  | stop => rfl

theorem useAllBefore_publish (uses : List Use) (m : Monitor φ) (o : Outlets) :
    m.useAllBefore Outlets.publish o uses = m.useAll o uses := by
  induction uses generalizing m o with
  | nil => rfl
  | cons u rest ih => simp only [useAllBefore, useAll, useBefore_publish, ih]

end Outlets

/-! ### Two audiences -/

section TwoAudiences

variable {ε ε' ω ω' : Type} (hear : Reception ε ω) (hear' : Reception ε' ω')

theorem monitor_countBefore (m : Monitor φ) (w : ω) (w' : ω') (clock : Timestamp) :
    (m.countBefore hear w clock).1 = (m.countBefore hear' w' clock).1 := by
  have same := monitor_tickBefore hear m w none clock
  rw [← monitor_tickBefore hear' m w' none clock] at same
  simp only [countBefore, same]

/-- Which ticks a run makes does not depend on how they are taken. -/
theorem monitor_runForBefore (clock : Nat → Timestamp) (left : Nat) (m : Monitor φ) (w : ω)
    (w' : ω') :
    (runForBefore hear clock left m w).1 = (runForBefore hear' clock left m w').1 := by
  induction left generalizing m w w' with
  | zero => rfl
  | succ left ih =>
    have counted := monitor_countBefore hear hear' m w w' (clock m.ticks)
    rw [runForBefore, runForBefore]
    split
    · rfl
    · dsimp only
      split
      · exact counted
      · rw [counted]
        exact ih _ _ _

theorem monitor_useBefore (m : Monitor φ) (w : ω) (w' : ω') (u : Use) :
    (m.useBefore hear w u).1 = (m.useBefore hear' w' u).1 := by
  cases u with
  | tick given clock =>
    exact (monitor_tickBefore hear m w given clock).trans
      (monitor_tickBefore hear' m w' given clock).symm
  | run clock limit => exact monitor_runForBefore hear hear' clock (ticksWithin limit) m w w'
  | stop => rfl

theorem monitor_useAllBefore (uses : List Use) (m : Monitor φ) (w : ω) (w' : ω') :
    (m.useAllBefore hear w uses).1 = (m.useAllBefore hear' w' uses).1 := by
  induction uses generalizing m w w' with
  | nil => rfl
  | cons u rest ih =>
    have used := monitor_useBefore hear hear' m w w' u
    simp only [useAllBefore]
    rw [used]
    exact ih _ _ _

end TwoAudiences

/-- **Telling never influences trading.** Whatever is done with a monitor, in ticks and in runs of
any number of ticks, it comes to the same state, with the same daily figures, positions and history:
with any outlets, attached or missing and answering or failing as they may, and before any other
audience in their place. -/
theorem same_before_any_audience (m : Monitor φ) (o : Outlets) (uses : List Use) :
    (∀ o' : Outlets, (m.useAll o' uses).1 = (m.useAll o uses).1) ∧
      ∀ {ε ω : Type} (hear : Reception ε ω) (w : ω),
        (m.useAllBefore hear w uses).1 = (m.useAll o uses).1 := by
  have before {ε ω : Type} (hear : Reception ε ω) (w : ω) :
      (m.useAllBefore hear w uses).1 = (m.useAll o uses).1 := by
    rw [← useAllBefore_publish]
    exact monitor_useAllBefore hear Outlets.publish uses m w o
  constructor
  · intro o'
    rw [← useAllBefore_publish uses m o']
    exact before Outlets.publish o'
  · intro ε ω hear w
    exact before hear w

end VolatilityDesk.Monitor
