import VolatilityDesk.Proofs.Book.Change
/-!
# The history of a book

The events of a run are its record: every position that was opened is on the book for ever, once,
open or closed, with everything that was recorded at its opening; the closed positions are the
closings in their order; and of one instrument openings and closings take turns. These hold after
every run from a fresh book, so of every two moments of a run the later one has lost nothing that
the earlier one had.

* `recorded_and_kept` — the history of a run is the record of its book, and is kept.
* `Recorded.change` — a change adds its events to the record.
-/

namespace VolatilityDesk.Book

open TradeEvent

/-- Of one instrument, openings and closings take turns, an opening first, and each closing is that
of the position opened just before. What is open at the end is the position opened last. -/
inductive Turns {α : Type} : List (TradeEvent α) → Option (Position α) → Prop where
  | nil : Turns [] none
  | opened {events : List (TradeEvent α)} {p : Position α} (turns : Turns events none) :
      Turns (events ++ [.opened p]) (some p)
  | closed {events : List (TradeEvent α)} {p q : Position α} (turns : Turns events (some p))
      (same : q.asOpened = p.asOpened) : Turns (events ++ [.closed q]) none

/-- The events are the record of the book. -/
structure Recorded (b : Book Float) (events : List (TradeEvent Float)) : Prop where
  /-- No two openings are of one identifier. -/
  identifiers : ((openings events).map (·.id)).Nodup
  /-- What was opened is on the book, and nothing else is. -/
  opened : (openings events).Perm (b.positions.map Position.asOpened)
  closed : closings events = b.closed
  turns : ∀ instrument,
    Turns (events.filter (·.instrument == instrument)) (b.position? instrument)

/-- The later book has lost nothing that the earlier one had. -/
structure Kept {α : Type} (b later : Book α) : Prop where
  closed : b.closed <+: later.closed
  present : ∀ p ∈ b.positions, ∃ q ∈ later.positions, q.id = p.id
  unchanged : ∀ p ∈ b.positions, ∀ q ∈ later.positions, q.id = p.id → q.asOpened = p.asOpened

/-! ### One instrument in a sweep -/

section Instrument

variable {α : Type}

theorem find?_eq_none_of_nodup {p : Position α} {rest : List (Position α)}
    (distinct : ((p :: rest).map (·.instrument)).Nodup) :
    rest.find? (·.instrument == p.instrument) = none :=
  find?_eq_none_iff.mpr (List.nodup_cons.mp distinct).1

/-- Closing leaves the position of an instrument alone, or closes it and no other one of the
instrument. -/
theorem Moved.kept_or_closed [Number α] {positions kept gone : List (Position α)}
    (distinct : (positions.map (·.instrument)).Nodup) (moved : Moved positions kept gone)
    (instrument : String) :
    (kept.find? (·.instrument == instrument) = positions.find? (·.instrument == instrument) ∧
        gone.filter (·.instrument == instrument) = []) ∨
      ∃ p q, positions.find? (·.instrument == instrument) = some p ∧ p.Closes q ∧
        kept.find? (·.instrument == instrument) = none ∧
        gone.filter (·.instrument == instrument) = [q] := by
  induction moved with
  | nil => exact .inl ⟨rfl, rfl⟩
  | @keep p rest kept gone moved ih =>
    have tail := ih (List.nodup_cons.mp distinct).2
    by_cases here : p.instrument = instrument
    · subst here
      have missing := find?_eq_none_of_nodup distinct
      rcases tail with ⟨_, empty⟩ | ⟨r, _, found, _⟩
      · exact .inl ⟨by simp, empty⟩
      · rw [missing] at found
        cases found
    · simpa [List.find?_cons, here] using tail
  | @close p q rest kept gone closes moved ih =>
    have tail := ih (List.nodup_cons.mp distinct).2
    have named := closes.instrument_eq
    by_cases here : p.instrument = instrument
    · subst here
      have missing := find?_eq_none_of_nodup distinct
      rw [missing] at tail
      rcases tail with ⟨absent, empty⟩ | ⟨r, _, found, _⟩
      · refine .inr ⟨p, q, by simp, closes, absent, ?_⟩
        simp [named, empty]
      · cases found
    · simpa [List.find?_cons, List.filter_cons, named, here] using tail

end Instrument

/-! ### What a change adds to the record -/

variable {b after : Book Float} {events new : List (TradeEvent Float)}

/-- An opening is the next turn of its instrument and no turn of another one. -/
theorem turns_opened {p : Position Float} {instrument : String}
    (flat : b.position? p.instrument = none)
    (turns : Turns (events.filter (·.instrument == instrument)) (b.position? instrument)) :
    Turns ((events ++ [TradeEvent.opened p]).filter (·.instrument == instrument))
      ((b.active ++ [p]).find? (·.instrument == instrument)) := by
  by_cases here : p.instrument = instrument
  · subst here
    have absent : b.active.find? (·.instrument == p.instrument) = none := flat
    rw [flat] at turns
    simpa [absent, TradeEvent.instrument] using turns.opened
  · have same : (b.active ++ [p]).find? (·.instrument == instrument) = b.position? instrument := by
      simp [here, position?]
    rw [same]
    simpa [here, TradeEvent.instrument] using turns

/-- Closings are the next turns of their instruments. -/
theorem turns_closed {kept gone : List (Position Float)} {instrument : String}
    (distinct : (b.active.map (·.instrument)).Nodup) (moved : Moved b.active kept gone)
    (turns : Turns (events.filter (·.instrument == instrument)) (b.position? instrument)) :
    Turns ((events ++ gone.map TradeEvent.closed).filter (·.instrument == instrument))
      (kept.find? (·.instrument == instrument)) := by
  have closings : (gone.map TradeEvent.closed).filter (·.instrument == instrument) =
      (gone.filter (·.instrument == instrument)).map .closed := List.filter_map
  rw [List.filter_append, closings]
  rcases moved.kept_or_closed distinct instrument with
    ⟨same, empty⟩ | ⟨p, q, held, closes, absent, alone⟩
  · rw [empty, same, List.map_nil, List.append_nil]
    exact turns
  · have held : b.position? instrument = some p := held
    rw [alone, absent]
    rw [held] at turns
    exact turns.closed closes.asOpened_eq

/-- A change adds to the record what it reports. -/
theorem Recorded.change (recorded : Recorded b events) (sound : b.Sound)
    (change : Change b after new) : Recorded after (events ++ new) := by
  have opened : (openings (events ++ new)).Perm (after.positions.map Position.asOpened) := by
    rw [openings_append]
    cases change with
    | same => simpa [openings] using recorded.opened
    | @opened s price now quantity =>
      set p := b.newPosition s quantity price now with next
      have fresh : p.asOpened = p := rfl
      have shifted : (p :: b.positions).Perm (b.active ++ [p] ++ b.closed) := by
        rw [List.append_assoc]
        exact List.perm_middle.symm
      have joined : (openings events ++ [p]).Perm ((p :: b.positions).map Position.asOpened) := by
        rw [List.map_cons, fresh]
        exact (recorded.opened.append_right [p]).trans (List.perm_append_singleton p _)
      exact joined.trans (shifted.map _)
    | closed moved =>
      have balanced := moved.perm_positions
      rw [openings_map_closed, List.append_nil]
      exact recorded.opened.trans balanced.symm
  refine
    { identifiers := ?identifiers
      opened := opened
      closed := ?closings
      turns := ?turns }
  case identifiers =>
    have named := opened.map Position.id
    rw [List.map_map] at named
    exact named.nodup_iff.mpr (sound.change change).identifiers
  case closings =>
    rw [closings_append, recorded.closed]
    cases change with
    | same => exact List.append_nil _
    | opened => exact List.append_nil _
    | closed moved => rw [closings_map_closed]
  case turns =>
    intro instrument
    have earlier := recorded.turns instrument
    cases change with
    | same => simpa using earlier
    | opened _ flat => exact turns_opened flat earlier
    | closed moved => exact turns_closed sound.instruments moved earlier

/-- The record of a book goes on through every run. -/
theorem Recorded.run (recorded : Recorded b events) (sound : b.Sound)
    (operations : List (Operation Float)) :
    Recorded (b.after operations) (events ++ b.history operations) := by
  induction operations generalizing b events with
  | nil => simpa [history, Book.after] using recorded
  | cons o rest ih =>
    have change := change_next b sound.instruments o
    have later := ih (recorded.change sound change) (sound.change change)
    rwa [List.append_assoc] at later

theorem recorded_ofLimits (l : Limits Float) (serial : Nat) :
    Recorded (Book.ofLimits l serial) [] where
  identifiers := List.nodup_nil
  opened := .nil
  closed := rfl
  turns := fun _ => .nil

/-- A record that goes on takes nothing back. -/
theorem Recorded.kept {later : Book Float} (recorded : Recorded b events)
    (goes : Recorded later (events ++ new)) : Kept b later where
  closed := by
    rw [← recorded.closed, ← goes.closed, closings_append]
    exact List.prefix_append _ _
  present := by
    intro p inside
    have entered : p.asOpened ∈ openings events :=
      recorded.opened.mem_iff.mpr (List.mem_map_of_mem inside)
    have still : p.asOpened ∈ openings (events ++ new) := by
      rw [openings_append]
      exact List.mem_append_left _ entered
    obtain ⟨q, there, same⟩ := List.mem_map.mp (goes.opened.mem_iff.mp still)
    exact ⟨q, there, (congrArg Position.id same :)⟩
  unchanged := by
    intro p inside q there named
    have first : p.asOpened ∈ openings (events ++ new) := by
      rw [openings_append]
      exact List.mem_append_left _ (recorded.opened.mem_iff.mpr (List.mem_map_of_mem inside))
    have second : q.asOpened ∈ openings (events ++ new) :=
      goes.opened.mem_iff.mpr (List.mem_map_of_mem there)
    exact List.inj_on_of_nodup_map goes.identifiers second first named

/-- **No position is lost, duplicated or rewritten.** After every run of operations from a fresh
book, failing ones included, the events of the run are the record of the book, and whatever
operations follow, the book keeps all that it had. -/
theorem recorded_and_kept (l : Limits Float) (serial : Nat)
    (operations later : List (Operation Float)) :
    Recorded ((Book.ofLimits l serial).after operations)
        ((Book.ofLimits l serial).history operations) ∧
      Kept ((Book.ofLimits l serial).after operations)
        ((Book.ofLimits l serial).after (operations ++ later)) := by
  have run (operations : List (Operation Float)) :
      Recorded ((Book.ofLimits l serial).after operations)
        ((Book.ofLimits l serial).history operations) :=
    (recorded_ofLimits l serial).run (sound_ofLimits l serial) operations
  have goes := run (operations ++ later)
  rw [history_append] at goes
  exact ⟨run operations, (run operations).kept goes⟩

end VolatilityDesk.Book
