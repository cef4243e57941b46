import VolatilityDesk.Proofs.Book.Sound
/-!
# Changes of the book

Whatever an operation is, it changes the book in one of three ways: not at all, by opening one
position, or by closing some of the open ones. `Change` says which one it was, together with the
events that the operation reports, so that what a run keeps is proved for three cases and not for
every operation. An operation that fails changes nothing and reports nothing.

* `change_next` — every operation is a change with the events that it reports.
* `Sound.change` — a change keeps a book sound.
-/

namespace VolatilityDesk

open Fallible

variable {α : Type}

/-! ### Events -/

/-- A position was opened or closed. -/
inductive TradeEvent (α : Type) where
  | opened (position : Position α)
  | closed (position : Position α)

namespace TradeEvent

/-- The position that was opened. -/
def opened? : TradeEvent α → Option (Position α)
  | opened p => some p
  | closed _ => none

/-- The position that was closed. -/
def closed? : TradeEvent α → Option (Position α)
  | opened _ => none
  | closed p => some p

/-- The instrument of the position. -/
def instrument : TradeEvent α → String
  | opened p | closed p => p.instrument

/-- The positions that were opened, as they were then. -/
def openings (events : List (TradeEvent α)) : List (Position α) := events.filterMap opened?

/-- The positions that were closed, as they are since. -/
def closings (events : List (TradeEvent α)) : List (Position α) := events.filterMap closed?

@[simp] theorem openings_append (first second : List (TradeEvent α)) :
    openings (first ++ second) = openings first ++ openings second := List.filterMap_append

@[simp] theorem closings_append (first second : List (TradeEvent α)) :
    closings (first ++ second) = closings first ++ closings second := List.filterMap_append

@[simp] theorem openings_map_closed (gone : List (Position α)) :
    openings (gone.map closed) = [] := by
  induction gone with
  | nil => rfl
  | cons q rest ih => exact ih

@[simp] theorem closings_map_closed (gone : List (Position α)) :
    closings (gone.map closed) = gone := by
  induction gone with
  | nil => rfl
  | cons q rest ih => exact congrArg (q :: ·) ih

end TradeEvent

namespace TradeResult

/-- What a result reports. -/
def events (r : TradeResult α) : List (TradeEvent α) :=
  match r.outcome with
  | .opened p => [.opened p]
  | .closed p => [.closed p]
  | _ => []

theorem openings_events (r : TradeResult α) :
    TradeEvent.openings r.events = r.opened?.toList := by
  obtain ⟨instrument, outcome⟩ := r
  cases outcome <;> rfl

theorem closings_events (r : TradeResult α) :
    TradeEvent.closings r.events = r.closed?.toList := by
  obtain ⟨instrument, outcome⟩ := r
  cases outcome <;> rfl

end TradeResult

namespace Book

variable [Number α]

/-- The events of a sweep. -/
def sweepEvents : Except TradingFault (Book α × List (Position α)) → List (TradeEvent α)
  | .ok (_, gone) => gone.map .closed
  | .error _ => []

/-- What an operation reports. -/
def events (b : Book α) : Operation α → List (TradeEvent α)
  | .act signal price now =>
    match b.act signal price now with
    | .ok (_, result) => result.events
    | .error _ => []
  | .scanStops prices limit now => sweepEvents (b.scanStops prices limit now)
  | .flatten prices now => sweepEvents (b.flatten prices now)

/-- What operations report, one after the other. -/
def history (b : Book α) : List (Operation α) → List (TradeEvent α)
  | [] => []
  | o :: rest => b.events o ++ (b.next o).history rest

theorem history_append (b : Book α) (first second : List (Operation α)) :
    b.history (first ++ second) = b.history first ++ (b.after first).history second := by
  induction first generalizing b with
  | nil => rfl
  | cons o rest ih =>
    have later := ih (b.next o)
    simp only [List.cons_append, history, later, List.append_assoc]
    rfl

/-! ### The three kinds of changes -/

/-- What an operation does to the book, with the events that it reports. -/
inductive Change (b : Book α) : Book α → List (TradeEvent α) → Prop where
  | same : Change b b []
  | opened {s : Signal α} {price : α} {now : Timestamp} {quantity : Int}
      (valid : isValidPrice price = true) (flat : b.position? s.instrument = none)
      (allowed : s.direction = .buy ∨ b.allowShort = true) (some : 0 < quantity) :
      Change b
        { b with
          active := b.active ++ [b.newPosition s quantity price now]
          serial := b.serial + 1 }
        [.opened (b.newPosition s quantity price now)]
  | closed {kept gone : List (Position α)} (moved : Moved b.active kept gone) :
      Change b { b with active := kept, closed := b.closed ++ gone } (gone.map .closed)

theorem change_of_acted {b after : Book α} {s : Signal α} {price : α} {now : Timestamp}
    {result : TradeResult α} (distinct : (b.active.map (·.instrument)).Nodup)
    (acted : Acted b s price now after result) : Change b after result.events := by
  cases acted with
  | closed valid held opposing closes =>
    exact .closed (.of_find distinct held ⟨_, _, _, _, closes⟩)
  | opened valid flat allowed buys some => exact .opened valid flat allowed some
  | invalid | already | nothing | poor => exact .same

theorem change_of_closeBy {b after : Book α} {gone : List (Position α)}
    {rule : Position α → Except TradingFault (Option (Position α))}
    (closing : ∀ {p q : Position α}, rule p = .ok (some q) → p.Closes q)
    (sweeps : b.closeBy rule = .ok (after, gone)) : Change b after (gone.map .closed) := by
  obtain ⟨kept, swept, rfl⟩ := closeBy_eq_ok_iff.mp sweeps
  exact .closed (.of_swept closing swept)

/-- Every operation changes the book in one of the three ways and reports just that. -/
theorem change_next (b : Book α) (distinct : (b.active.map (·.instrument)).Nodup)
    (o : Operation α) : Change b (b.next o) (b.events o) := by
  cases o with
  | act signal price now =>
    cases acts : b.act signal price now with
    | error fault =>
      simp only [next, perform, events, acts]
      exact .same
    | ok pair =>
      simp only [next, perform, events, acts]
      exact change_of_acted distinct (acted_of_act acts)
  | scanStops prices limit now =>
    cases scans : b.scanStops prices limit now with
    | error fault =>
      simp only [next, perform, events, scans]
      exact .same
    | ok pair =>
      simp only [next, perform, events, scans]
      exact change_of_closeBy closes_of_stopRule scans
  | flatten prices now =>
    cases flattens : b.flatten prices now with
    | error fault =>
      simp only [next, perform, events, flattens]
      exact .same
    | ok pair =>
      simp only [next, perform, events, flattens]
      exact change_of_closeBy closes_of_flattenRule flattens

end Book

namespace Book

/-- Every change keeps a book sound. -/
theorem Sound.change {b after : Book Float} {events : List (TradeEvent Float)} (sound : b.Sound)
    (change : Change b after events) : after.Sound := by
  cases change with
  | same => exact sound
  | opened valid flat allowed some => exact sound.opened valid flat allowed some
  | closed moved => exact sound.moved moved

end Book

end VolatilityDesk
