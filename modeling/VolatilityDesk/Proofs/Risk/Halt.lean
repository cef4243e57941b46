import VolatilityDesk.Proofs.Risk.Step
/-!
# Halted days

A day that is halted stays halted, and only an operation of a later day ends it: until then no
position is opened and every signal is refused without a trace. Days never go back, also when the
times of the operations do. The runs are arbitrary, so the calls of several clients may be mixed in
any order.

* `halt_wins` — what a halted day is like until the next one.
* `day_le_after` — days never go back.
-/

namespace VolatilityDesk.RiskDesk

variable {α : Type}

/-- The second desk is still halted since the first was, on a day that it recorded: it has no
position that the first does not have. -/
structure StillHalted (d later : RiskDesk α) (s : DailyState α) : Prop where
  state : ∃ s', later.state = some s' ∧ s'.day = s.day ∧ s'.halted = true ∧
    s'.haltedAt = s.haltedAt
  active : later.book.active.Sublist d.book.active
  serial : later.book.serial = d.book.serial

theorem StillHalted.refl {d : RiskDesk α} {s : DailyState α} (present : d.state = some s)
    (halted : s.halted = true) : StillHalted d d s where
  state := ⟨s, present, rfl, halted, rfl⟩
  active := .refl _
  serial := rfl

variable [Number α]

/-! ### Days never go back -/

/-- The day after a step is not before the day of the desk. -/
theorem Step.day_le {d : RiskDesk α} {o : Operation α} {out : Outcome α (Answer α)}
    (step : Step d o out) {s : DailyState α} (present : d.state = some s) :
    ∃ s', out.2.state = some s' ∧ s.day.number ≤ s'.day.number := by
  rcases step.timeless_or_booked with ⟨_, same⟩ | ⟨t, s', brought, booked⟩
  · exact ⟨s, by rw [same, present], Int.le_refl _⟩
  · refine ⟨s', booked.state, ?_⟩
    rw [booked.day]
    rcases kept_or_started brought with ⟨kept, _⟩ | ⟨_, started⟩
    · obtain rfl : s = t := Option.some.inj (present.symm.trans kept)
      exact Int.le_refl _
    · exact Int.le_of_lt (started.2 s present)

theorem day_le_after {d : RiskDesk α} {s : DailyState α} (present : d.state = some s)
    (operations : List (Operation α)) :
    ∃ s', (d.after operations).state = some s' ∧ s.day.number ≤ s'.day.number := by
  induction operations generalizing d s with
  | nil => exact ⟨s, present, Int.le_refl _⟩
  | cons o rest ih =>
    obtain ⟨t, here, first⟩ := (step_perform d o).day_le present
    obtain ⟨s', there, second⟩ := ih here
    exact ⟨s', there, Int.le_trans first second⟩

/-! ### Halts -/

/-- An operation whose date is not later leaves a halted desk halted. -/
theorem StillHalted.step {d later : RiskDesk α} {s : DailyState α} {o : Operation α}
    {out : Outcome α (Answer α)} (still : StillHalted d later s) (step : Step later o out)
    (current : ∀ day, later.session.tradingDay o.time = .ok day → day.number ≤ s.day.number) :
    StillHalted d out.2 s := by
  obtain ⟨t, present, day, halted, since⟩ := still.state
  have kept : ∀ u, later.today o.time = .ok u → u = t := fun u brought => by
    rcases kept_or_started brought with ⟨kept, _⟩ | ⟨_, dated, started⟩
    · exact Option.some.inj (kept.symm.trans present)
    · have before := started t present
      have after := current u.day dated
      rw [day] at before
      omega
  obtain ⟨active, serial⟩ := step.opens_nothing fun _ u brought => kept u brought ▸ halted
  refine
    { state := ?_
      active := active.trans still.active
      serial := serial.trans still.serial }
  rcases step.timeless_or_booked with ⟨_, same⟩ | ⟨u, s', brought, booked⟩
  · exact ⟨t, by rw [same, present], day, halted, since⟩
  · obtain rfl := kept u brought
    obtain ⟨stays, same⟩ := booked.halted halted
    exact ⟨s', booked.state, booked.day.trans day, stays, same.trans since⟩

theorem StillHalted.after {d later : RiskDesk α} {s : DailyState α} (still : StillHalted d later s)
    {operations : List (Operation α)}
    (current : ∀ o ∈ operations, ∀ day, later.session.tradingDay o.time = .ok day →
      day.number ≤ s.day.number) : StillHalted d (later.after operations) s := by
  induction operations generalizing later with
  | nil => exact still
  | cons o rest ih =>
    have step := step_perform later o
    refine ih (still.step step (current o (.head _))) fun other inside => ?_
    rw [step.settings_eq.1]
    exact current other (.tail _ inside)

/-- A halted desk refuses a signal and stays exactly as it is. -/
theorem act_of_halted {d : RiskDesk α} {s : DailyState α} {now : Timestamp} {day : Date}
    (present : d.state = some s) (halted : s.halted = true)
    (dated : d.session.tradingDay now = .ok day) (current : day.number ≤ s.day.number)
    (signal : Signal α) (price : α) :
    d.act signal price now =
      (.ok ⟨signal.instrument, .halted s.day d.maxDailyLoss⟩, d) := by
  have same : d.withState s = d := by rw [withState, ← present]
  simp only [act, onToday, today_of_state present dated current, if_pos halted, same]

/-- **A halt wins.** Once a run has reached a state of the day, no continuation goes back to an
earlier day. If that state is halted, then as long as no operation has a later date, the day stays
halted since the same time, nothing is opened, and every signal is answered with the halt and
changes nothing at all. -/
theorem halt_wins (d : RiskDesk α) (before : List (Operation α)) {s : DailyState α}
    (reached : (d.after before).state = some s) :
    (∀ rest, ∃ s', (d.after (before ++ rest)).state = some s' ∧ s.day.number ≤ s'.day.number) ∧
      (s.halted = true → ∀ during : List (Operation α),
        (∀ o ∈ during, ∀ day, d.session.tradingDay o.time = .ok day →
          day.number ≤ s.day.number) →
        StillHalted (d.after before) (d.after (before ++ during)) s ∧
          ∀ signal price now day, d.session.tradingDay now = .ok day →
            day.number ≤ s.day.number →
            (d.after (before ++ during)).act signal price now =
              (.ok ⟨signal.instrument, .halted s.day d.maxDailyLoss⟩,
                d.after (before ++ during))) := by
  constructor
  · intro rest
    rw [after_append]
    exact day_le_after reached rest
  · intro halted during current
    obtain ⟨session, _⟩ := settings_after d before
    have still : StillHalted (d.after before) (d.after (before ++ during)) s := by
      rw [after_append]
      exact (StillHalted.refl reached halted).after (by rwa [session])
    refine ⟨still, fun signal price now day dated early => ?_⟩
    obtain ⟨session, limit⟩ := settings_after d (before ++ during)
    obtain ⟨s', present, same, stays, _⟩ := still.state
    have refused := act_of_halted present stays (by rwa [session]) (by rwa [same]) signal price
    rwa [same, limit] at refused

/-- After the whole loss of a day and a look at the day before, a signal at the same noon is
refused. -/
theorem halt_wins_after_loss :
    ∃ s, (sample.after (losing 739446)).state = some s ∧ s.halted = true ∧
      (sample.after (losing 739446 ++ [.dailyState (noon 739445)])).act
          (sampleSignal "MSFT" .buy) 100.0 (noon 739446) =
        (.ok ⟨"MSFT", .halted s.day 200.0⟩,
          sample.after (losing 739446 ++ [.dailyState (noon 739445)])) := by
  obtain ⟨s, reached, halted, day⟩ : ∃ s, (sample.after (losing 739446)).state = some s ∧
      s.halted = true ∧ s.day = ⟨739446⟩ := ⟨_, rfl, rfl, rfl⟩
  refine ⟨s, reached, halted, ?_⟩
  have current : ∀ o ∈ [(.dailyState (noon 739445) : Operation Float)], ∀ day,
      sample.session.tradingDay o.time = .ok day → day.number ≤ s.day.number := by
    intro o inside other dated
    obtain rfl := List.mem_singleton.mp inside
    obtain rfl : (⟨739445⟩ : Date) = other := Except.ok.inj dated
    rw [day]
    decide
  obtain ⟨-, refuses⟩ := (halt_wins sample (losing 739446) reached).2 halted _ current
  exact refuses (sampleSignal "MSFT" .buy) 100.0 (noon 739446) ⟨739446⟩ rfl (day ▸ Int.le_refl _)

end VolatilityDesk.RiskDesk
