import VolatilityDesk.Proofs.Book.Closing
/-!
# Steps of the book

What every operation of the book can do, said once, so that no later proof opens an operation
again: `Acted` for a signal, and `Step` for one operation of a run. An operation that fails leaves
the book as it was, and the run goes on.

* `step_next`, `acted_of_act` — what an operation, and what a signal, does to the book.
* `after_induction` — what every step keeps, every run keeps.
-/

namespace VolatilityDesk.Book

open Fallible

variable {α : Type}

/-! ### Signals -/

section Signals

variable [Number α]

/-- What a signal does to the book, case by case. -/
inductive Acted (b : Book α) (s : Signal α) (price : α) (now : Timestamp) :
    Book α → TradeResult α → Prop where
  | invalid (bad : isValidPrice price = false) :
      Acted b s price now b ⟨s.instrument, .invalidPrice price⟩
  | already {p : Position α} (valid : isValidPrice price = true)
      (held : b.position? s.instrument = some p) (same : s.direction = p.direction) :
      Acted b s price now b ⟨s.instrument, .alreadyOpen p⟩
  | closed {p q : Position α} (valid : isValidPrice price = true)
      (held : b.position? s.instrument = some p) (opposing : s.direction ≠ p.direction)
      (closes : p.close price .signal now (.opposing s.direction s.id) = .ok q) :
      Acted b s price now
        { b with active := b.others p.instrument, closed := b.closed ++ [q] }
        ⟨p.instrument, .closed q⟩
  | nothing (valid : isValidPrice price = true) (flat : b.position? s.instrument = none)
      (sells : s.direction = .sell) (long : b.allowShort = false) :
      Acted b s price now b ⟨s.instrument, .noPosition⟩
  | poor {quantity : Int} (valid : isValidPrice price = true)
      (flat : b.position? s.instrument = none)
      (allowed : s.direction = .buy ∨ b.allowShort = true)
      (buys : Number.whole (b.capital / price) = .ok quantity) (few : quantity ≤ 0) :
      Acted b s price now b ⟨s.instrument, .insufficientCapital price b.capital⟩
  | opened {quantity : Int} (valid : isValidPrice price = true)
      (flat : b.position? s.instrument = none)
      (allowed : s.direction = .buy ∨ b.allowShort = true)
      (buys : Number.whole (b.capital / price) = .ok quantity) (some : 0 < quantity) :
      Acted b s price now
        { b with
          active := b.active ++ [b.newPosition s quantity price now]
          serial := b.serial + 1 }
        ⟨s.instrument, .opened (b.newPosition s quantity price now)⟩

variable {b after : Book α} {s : Signal α} {price : α} {now : Timestamp} {result : TradeResult α}

theorem acted_of_openOn (valid : isValidPrice price = true)
    (flat : b.position? s.instrument = none)
    (allowed : s.direction = .buy ∨ b.allowShort = true)
    (answers : b.openOn s price now = .ok (after, result)) : Acted b s price now after result := by
  unfold openOn at answers
  cases buys : Number.whole (b.capital / price) with
  | error fault => simp [buys] at answers
  | ok quantity =>
    simp only [buys] at answers
    split at answers
    · rename_i few
      cases answers
      exact .poor valid flat allowed buys few
    · rename_i some
      cases answers
      exact .opened valid flat allowed buys (Int.not_le.mp some)

theorem acted_of_act (answers : b.act s price now = .ok (after, result)) :
    Acted b s price now after result := by
  unfold act at answers
  split at answers
  · rename_i valid
    cases held : b.position? s.instrument with
    | some p =>
      simp only [held] at answers
      split at answers
      · rename_i same
        cases answers
        exact .already valid held same
      · rename_i opposing
        obtain ⟨q, closes, parts⟩ := bind_eq_ok_iff.mp answers
        cases parts
        exact .closed valid held opposing closes
    | none =>
      simp only [held] at answers
      split at answers
      · rename_i refused
        cases answers
        exact .nothing valid held refused.1 (by simpa using refused.2)
      · rename_i free
        have allowed : s.direction = .buy ∨ b.allowShort = true := by
          cases direction : s.direction with
          | buy => exact .inl rfl
          | sell => exact .inr (by simpa [direction] using free)
        exact acted_of_openOn valid held allowed answers
  · rename_i bad
    cases answers
    exact .invalid (by simpa using bad)

/-- A signal adds to the closed positions what it closes. -/
theorem Acted.closed_eq (acted : Acted b s price now after result) :
    after.closed = b.closed ++ result.closed?.toList := by
  cases acted <;> simp [TradeResult.closed?]

theorem Acted.exists_closes (acted : Acted b s price now after result) {q : Position α}
    (closed : result.closed? = some q) : ∃ p : Position α, p.Closes q := by
  cases acted with
  | closed _ _ _ closes =>
    obtain rfl := Option.some.inj closed
    exact ⟨_, _, _, _, _, closes⟩
  | _ => cases closed

theorem Acted.instrument_eq (acted : Acted b s price now after result) :
    result.instrument = s.instrument := by
  cases acted with
  | @closed p q valid held =>
    have named : p.instrument = s.instrument := key_of_find? held
    exact named
  | invalid | already | nothing | poor | opened => rfl

/-- A signal opens a position in its instrument at the price it is applied at. -/
theorem Acted.mem_of_opened {p : Position α} (acted : Acted b s price now after result)
    (opens : result.opened? = some p) :
    p ∈ after.active ∧ p.instrument = s.instrument ∧ p.entry = price := by
  cases acted with
  | opened =>
    obtain rfl := Option.some.inj opens
    exact ⟨List.mem_append_right _ (List.mem_singleton_self _), rfl, rfl⟩
  | invalid | already | closed | nothing | poor => cases opens

/-- A signal leaves the positions of other instruments open. -/
theorem Acted.mem_of_other {p : Position α} (acted : Acted b s price now after result)
    (member : p ∈ b.active) (other : p.instrument ≠ s.instrument) : p ∈ after.active := by
  cases acted with
  | invalid | already | nothing | poor => exact member
  | opened => exact List.mem_append_left _ member
  | @closed held' q valid held opposing closes =>
    have named : held'.instrument = s.instrument := key_of_find? held
    refine List.mem_filter.mpr ⟨member, ?_⟩
    rw [named]
    simpa using other

end Signals

/-! ### Runs -/

/-- An operation of the book. -/
inductive Operation (α : Type) where
  | act (signal : Signal α) (price : α) (now : Timestamp)
  | scanStops (prices : Prices α) (limit : α) (now : Timestamp)
  | flatten (prices : Prices α) (now : Timestamp)

section Runs

variable [Number α]

/-- The book that an operation leaves, unless it fails. -/
def perform (b : Book α) : Operation α → Except TradingFault (Book α)
  | .act signal price now => Prod.fst <$> b.act signal price now
  | .scanStops prices limit now => Prod.fst <$> b.scanStops prices limit now
  | .flatten prices now => Prod.fst <$> b.flatten prices now

/-- The book after an operation, whether it fails or not. -/
def next (b : Book α) (o : Operation α) : Book α :=
  match b.perform o with
  | .ok after => after
  | .error _ => b

/-- The book after operations, one after the other. -/
def after (b : Book α) (operations : List (Operation α)) : Book α := operations.foldl next b

/-- What one operation does to the book. -/
inductive Step (b : Book α) : Operation α → Book α → Prop where
  | failed {o : Operation α} {fault : TradingFault} (fails : b.perform o = .error fault) :
      Step b o b
  | acted {signal : Signal α} {price : α} {now : Timestamp} {after : Book α}
      {result : TradeResult α} (acts : Acted b signal price now after result) :
      Step b (.act signal price now) after
  | scanned {prices : Prices α} {limit : α} {now : Timestamp} {kept gone : List (Position α)}
      (swept : Swept (stopRule prices limit now) b.active kept gone) :
      Step b (.scanStops prices limit now)
        { b with active := kept, closed := b.closed ++ gone }
  | flattened {prices : Prices α} {now : Timestamp} {kept gone : List (Position α)}
      (swept : Swept (flattenRule prices now) b.active kept gone) :
      Step b (.flatten prices now) { b with active := kept, closed := b.closed ++ gone }

theorem step_next (b : Book α) (o : Operation α) : Step b o (b.next o) := by
  unfold next
  cases performed : b.perform o with
  | error fault => exact .failed performed
  | ok after =>
    cases o with
    | act signal price now =>
      obtain ⟨⟨_, result⟩, acts, rfl⟩ := map_eq_ok_iff.mp performed
      exact .acted (acted_of_act acts)
    | scanStops prices limit now =>
      obtain ⟨⟨_, gone⟩, scans, rfl⟩ := map_eq_ok_iff.mp performed
      obtain ⟨kept, swept, rfl⟩ := closeBy_eq_ok_iff.mp scans
      exact .scanned swept
    | flatten prices now =>
      obtain ⟨⟨_, gone⟩, flattens, rfl⟩ := map_eq_ok_iff.mp performed
      obtain ⟨kept, swept, rfl⟩ := closeBy_eq_ok_iff.mp flattens
      exact .flattened swept

/-- What holds of a book and is kept by every step holds after every run. -/
theorem after_induction {motive : Book α → Prop} {b : Book α} (start : motive b)
    (step : ∀ {b after : Book α} {o : Operation α}, Step b o after → motive b → motive after)
    (operations : List (Operation α)) : motive (b.after operations) := by
  induction operations generalizing b with
  | nil => exact start
  | cons o rest ih => exact ih (step (step_next b o) start)

/-- No operation allows or forbids selling short. -/
theorem Step.allowShort_eq {b after : Book α} {o : Operation α} (step : Step b o after) :
    after.allowShort = b.allowShort := by
  cases step with
  | acted acts => cases acts <;> rfl
  | failed | scanned | flattened => rfl

theorem allowShort_after (b : Book α) (operations : List (Operation α)) :
    (b.after operations).allowShort = b.allowShort :=
  after_induction (motive := fun c => c.allowShort = b.allowShort) rfl
    (fun step same => step.allowShort_eq.trans same) operations

/-- What holds of all open positions, and of every one that may be opened, holds of those that are
open after a step. -/
theorem Step.forall_active {motive : Position α → Prop} {b after : Book α} {o : Operation α}
    (step : Step b o after)
    (opening : ∀ s quantity price now, Number.whole (b.capital / price) = .ok quantity →
      0 < quantity → motive (b.newPosition s quantity price now))
    (held : ∀ p ∈ b.active, motive p) : ∀ p ∈ after.active, motive p := by
  intro p inside
  cases step with
  | failed => exact held p inside
  | acted acts =>
    cases acts with
    | invalid | already | nothing | poor => exact held p inside
    | closed => exact held p (List.mem_of_mem_filter inside)
    | opened _ _ _ buys some =>
      rcases List.mem_append.mp inside with old | new
      · exact held p old
      · obtain rfl := List.mem_singleton.mp new
        exact opening _ _ _ _ buys some
  | scanned swept => exact held p (swept.sublist.mem inside)
  | flattened swept => exact held p (swept.sublist.mem inside)

/-- What is closed after a step was closed before, or the step has closed it. -/
theorem Step.closed_or_closes {b after : Book α} {o : Operation α} (step : Step b o after)
    {q : Position α} (closed : q ∈ after.closed) : q ∈ b.closed ∨ ∃ p ∈ b.active, p.Closes q := by
  cases step with
  | failed => exact .inl closed
  | acted acts =>
    cases acts with
    | invalid | already | nothing | poor | opened => exact .inl closed
    | closed valid held opposing closes =>
      rcases List.mem_append.mp closed with old | new
      · exact .inl old
      · obtain rfl := List.mem_singleton.mp new
        exact .inr ⟨_, List.mem_of_find?_eq_some held, _, _, _, _, closes⟩
  | scanned swept =>
    rcases List.mem_append.mp closed with old | new
    · exact .inl old
    · obtain ⟨p, isOpen, closes⟩ := swept.closes_of_mem_gone new
      exact .inr ⟨p, isOpen, closes_of_stopRule closes⟩
  | flattened swept =>
    rcases List.mem_append.mp closed with old | new
    · exact .inl old
    · obtain ⟨p, isOpen, closes⟩ := swept.closes_of_mem_gone new
      exact .inr ⟨p, isOpen, closes_of_flattenRule closes⟩

end Runs

end VolatilityDesk.Book
