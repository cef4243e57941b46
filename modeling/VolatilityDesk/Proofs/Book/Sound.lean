import Mathlib.Data.List.Nodup
import VolatilityDesk.Proofs.Book.Step
import VolatilityDesk.Proofs.Number.Order
import VolatilityDesk.Proofs.Text.Padded
import VolatilityDesk.Trading.Risk
/-!
# Sound books

`Book.Sound` says what the fields of a book always mean: which of them an open and a closed
position carry, that the open positions are found under their instruments, and that no two
positions share an identifier. The main result is that every run of operations from a fresh book
ends in a sound one, whatever the signals, prices, limits and times, failing operations included.

* `sound_after` — every run from a fresh book ends in a sound one.
* `Sound.step` — so does every step from a sound one.
-/

namespace VolatilityDesk

namespace Position

/-- The position as it was when it was opened. -/
def asOpened {α : Type} (p : Position α) : Position α :=
  { p with
    status := .open
    closedAt := none
    exit := none
    realized := none
    closeReason := none
    closeRemark := .note "" }

/-- What an open position carries: at least one unit, bought or sold at a positive price, and
nothing that only closing records. -/
structure Held (p : Position Float) : Prop where
  status : p.status = .open
  quantity : 1 ≤ p.quantity
  entry_pos : 0.0 < p.entry
  entry_number : Number.isNan p.entry = false
  exit : p.exit = none
  closedAt : p.closedAt = none
  realized : p.realized = none
  closeReason : p.closeReason = none

/-- What a closed position carries: when, why and at which price it was closed, and its result at
that price to four places. -/
structure Settled {α : Type} [Number α] (p : Position α) : Prop where
  status : p.status = .closed
  closedAt : p.closedAt.isSome = true
  closeReason : p.closeReason.isSome = true
  realized : ∃ exit pnl, p.exit = some exit ∧ p.pnlAt exit = .ok pnl ∧
    p.realized = some (Number.round4 pnl)

section Closes

variable {α : Type} [Number α] {p q : Position α}

theorem Closes.settled (closes : p.Closes q) : q.Settled := by
  obtain ⟨price, reason, now, remark, closed⟩ := closes
  obtain ⟨pnl, result, rfl⟩ := close_eq_ok_iff.mp closed
  exact ⟨rfl, rfl, rfl, price, pnl, rfl, result, rfl⟩

/-- Closing rewrites nothing that was recorded at the opening. -/
theorem Closes.asOpened_eq (closes : p.Closes q) : q.asOpened = p.asOpened := by
  obtain ⟨price, reason, now, remark, closed⟩ := closes
  obtain ⟨pnl, -, rfl⟩ := close_eq_ok_iff.mp closed
  rfl

theorem Closes.instrument_eq (closes : p.Closes q) : q.instrument = p.instrument :=
  (congrArg Position.instrument closes.asOpened_eq :)

end Closes

end Position

namespace Book

/-- All positions of the book, the open ones first. -/
def positions {α : Type} (b : Book α) : List (Position α) := b.active ++ b.closed

/-- What always holds of a book. -/
structure Sound (b : Book Float) : Prop where
  /-- No two open positions are of one instrument. -/
  instruments : (b.active.map (·.instrument)).Nodup
  /-- An open position is found under its own instrument. -/
  keyed : ∀ p ∈ b.active, b.position? p.instrument = some p
  held : ∀ p ∈ b.active, p.Held
  settled : ∀ p ∈ b.closed, p.Settled
  identifiers : (b.positions.map (·.id)).Nodup
  /-- Identifiers are given out in order. -/
  numbered : ∀ p ∈ b.positions, ∃ n ≤ b.serial, p.id = positionId p.instrument n
  /-- Nothing is sold short unless that is allowed. -/
  long : b.allowShort = false → ∀ p ∈ b.positions, p.direction = .buy

/-! ### Fresh books -/

theorem sound_ofLimits (l : Limits Float) (serial : Nat) : (Book.ofLimits l serial).Sound := by
  have active : (Book.ofLimits l serial).active = [] := rfl
  have closed : (Book.ofLimits l serial).closed = [] := rfl
  constructor <;> simp [positions, active, closed]

/-! ### Closing -/

section Closing

variable {α : Type}

theorem position?_eq_some_of_nodup {b : Book α}
    (distinct : (b.active.map (·.instrument)).Nodup) {p : Position α} (member : p ∈ b.active) :
    b.position? p.instrument = some p := by
  cases found : b.position? p.instrument with
  | none => exact absurd (List.mem_map_of_mem member) (find?_eq_none_iff.mp found)
  | some other =>
    have named : other.instrument = p.instrument := key_of_find? found
    rw [List.inj_on_of_nodup_map distinct (List.mem_of_find?_eq_some found) member named]

/-- Closing moves positions and loses none. -/
theorem Moved.perm_positions [Number α] {b : Book α} {kept gone : List (Position α)}
    (moved : Moved b.active kept gone) :
    ((kept ++ (b.closed ++ gone)).map Position.asOpened).Perm
      (b.positions.map Position.asOpened) := by
  have opened := moved.perm_map Position.Closes.asOpened_eq
  have shifted : (kept ++ (b.closed ++ gone)).Perm (kept ++ gone ++ b.closed) := by
    rw [List.append_assoc]
    exact List.perm_append_comm.append_left kept
  refine (shifted.map _).trans ?_
  rw [List.map_append, List.map_append, positions, List.map_append]
  exact opened.append_right _

end Closing

/-! ### Opening -/

/-- A price that can be traded at is a positive number. -/
theorem pos_of_isValidPrice {price : Float} (valid : isValidPrice price = true) :
    0.0 < price ∧ Number.isNan price = false := by
  simp only [isValidPrice, Bool.not_eq_true', Bool.or_eq_false_iff, decide_eq_false_iff_not]
    at valid
  exact ⟨Double.lt_of_not_le valid.2 rfl valid.1, valid.2⟩

/-! ### Soundness of runs -/

namespace Sound

variable {b : Book Float}

/-- Closing positions keeps a book sound. -/
theorem moved (sound : b.Sound) {kept gone : List (Position Float)}
    (moved : Moved b.active kept gone) :
    ({ b with active := kept, closed := b.closed ++ gone } : Book Float).Sound := by
  have sublist := moved.sublist
  have opened := moved.perm_positions
  have earlier : ∀ p ∈ kept ++ (b.closed ++ gone),
      ∃ old ∈ b.positions, old.asOpened = p.asOpened := fun p inside =>
    List.mem_map.mp (opened.mem_iff.mp (List.mem_map.mpr ⟨p, inside, rfl⟩))
  have distinct := sound.instruments.sublist (sublist.map _)
  refine
    { instruments := distinct
      keyed := fun p inside => position?_eq_some_of_nodup distinct inside
      held := fun p inside => sound.held p (sublist.mem inside)
      settled := ?settled
      identifiers := ?identifiers
      numbered := ?numbered
      long := ?long }
  case settled =>
    intro p inside
    rcases List.mem_append.mp inside with old | new
    · exact sound.settled p old
    · obtain ⟨_, _, closes⟩ := moved.exists_of_mem_gone new
      exact closes.settled
  case identifiers =>
    have same := opened.map Position.id
    rw [List.map_map, List.map_map] at same
    exact same.nodup_iff.mpr sound.identifiers
  case numbered =>
    intro p inside
    obtain ⟨old, member, same⟩ := earlier p inside
    obtain ⟨n, bound, named⟩ := sound.numbered old member
    have id : old.id = p.id := (congrArg Position.id same :)
    have instrument : old.instrument = p.instrument := (congrArg Position.instrument same :)
    exact ⟨n, bound, by rw [← id, named, instrument]⟩
  case long =>
    intro forbidden p inside
    obtain ⟨old, member, same⟩ := earlier p inside
    have direction : old.direction = p.direction := (congrArg Position.direction same :)
    exact direction ▸ sound.long forbidden old member

/-- The next identifier is not in use. -/
theorem fresh (sound : b.Sound) (instrument : String) :
    positionId instrument (b.serial + 1) ∉ b.positions.map (·.id) := by
  intro used
  obtain ⟨p, inside, same⟩ := List.mem_map.mp used
  obtain ⟨n, bound, named⟩ := sound.numbered p inside
  have serial := (Text.numbered_inj (named.symm.trans same)).2
  omega

/-- Opening a position in an instrument that has none keeps a book sound. -/
theorem opened (sound : b.Sound) {s : Signal Float} {price : Float} {now : Timestamp}
    {quantity : Int} (valid : isValidPrice price = true) (flat : b.position? s.instrument = none)
    (allowed : s.direction = .buy ∨ b.allowShort = true) (some : 0 < quantity) :
    ({ b with
      active := b.active ++ [b.newPosition s quantity price now]
      serial := b.serial + 1 } : Book Float).Sound := by
  have alone : s.instrument ∉ b.active.map (·.instrument) := find?_eq_none_iff.mp flat
  set p := b.newPosition s quantity price now with new
  have distinct : ((b.active ++ [p]).map (·.instrument)).Nodup := by
    rw [List.map_append, List.nodup_append]
    refine ⟨sound.instruments, by simp, fun name taken other single => ?_⟩
    obtain rfl : other = s.instrument := by simpa [new, newPosition] using single
    exact ne_of_mem_of_not_mem taken alone
  have shifted : (b.active ++ [p] ++ b.closed).Perm (p :: b.positions) := by
    rw [List.append_assoc]
    exact List.perm_middle
  refine
    { instruments := distinct
      keyed := fun q inside => position?_eq_some_of_nodup distinct inside
      held := ?held
      settled := sound.settled
      identifiers := ?identifiers
      numbered := ?numbered
      long := ?long }
  case held =>
    intro q inside
    rcases List.mem_append.mp inside with old | last
    · exact sound.held q old
    · obtain rfl := List.mem_singleton.mp last
      obtain ⟨positive, number⟩ := pos_of_isValidPrice valid
      exact ⟨rfl, some, positive, number, rfl, rfl, rfl, rfl⟩
  case identifiers =>
    rw [positions, (shifted.map _).nodup_iff, List.map_cons, List.nodup_cons]
    exact ⟨sound.fresh s.instrument, sound.identifiers⟩
  case numbered =>
    intro q inside
    rcases List.mem_cons.mp (shifted.mem_iff.mp inside) with rfl | old
    · exact ⟨b.serial + 1, Nat.le_refl _, rfl⟩
    · obtain ⟨n, bound, named⟩ := sound.numbered q old
      exact ⟨n, Nat.le_succ_of_le bound, named⟩
  case long =>
    intro forbidden q inside
    rcases List.mem_cons.mp (shifted.mem_iff.mp inside) with rfl | old
    · exact allowed.resolve_right (by simpa using forbidden)
    · exact sound.long forbidden q old

/-- Every step keeps a book sound. -/
theorem step {after : Book Float} {o : Operation Float} (step : Step b o after)
    (sound : b.Sound) : after.Sound := by
  cases step with
  | failed => exact sound
  | acted acts =>
    cases acts with
    | closed _ held _ closes =>
      exact sound.moved (.of_find sound.instruments held ⟨_, _, _, _, closes⟩)
    | opened valid flat allowed _ some => exact sound.opened valid flat allowed some
    | _ => exact sound
  | scanned swept => exact sound.moved (.of_swept closes_of_stopRule swept)
  | flattened swept => exact sound.moved (.of_swept closes_of_flattenRule swept)

end Sound

/-- **Every run of operations from a fresh book ends in a sound book**, which allows selling short
exactly when the limits do. -/
theorem sound_after (l : Limits Float) (serial : Nat) (operations : List (Operation Float)) :
    ((Book.ofLimits l serial).after operations).Sound ∧
      ((Book.ofLimits l serial).after operations).allowShort = l.allowShort :=
  ⟨after_induction (sound_ofLimits l serial) Sound.step operations,
    allowShort_after (Book.ofLimits l serial) operations⟩

end Book

end VolatilityDesk
