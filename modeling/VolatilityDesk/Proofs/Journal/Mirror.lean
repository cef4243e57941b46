import Mathlib.Data.List.Perm.Subperm
import VolatilityDesk.Proofs.Book.Traded
import VolatilityDesk.Proofs.Journal.Recording
/-!
# The journal and the book

A journal mirrors a book when its rows tell the positions of the book, one row for each. When a book
is traded and what was opened and then what was closed is recorded, the journal mirrors the later
book. What is closed has a row of its opening already, also when it was opened just before, so that
only the closing is written into it.

* `Mirrors.traded` — recording a balance keeps the mirror.
* `Recordable.step` — what the journal can hold of a book, every step keeps.
-/

namespace VolatilityDesk

/-- Nothing of a closing is in the row. -/
structure PositionRow.Unclosed (row : PositionRow) : Prop where
  exit : row.exit = none
  realized : row.realized = none
  closeReason : row.closeReason = none
  closeDetail : row.closeDetail = ""
  closedAt : row.closedAt = none

theorem PositionRow.Tells.unclosed {row : PositionRow} {p : Position Float} (tells : row.Tells p)
    (unclosed : p.asOpened = p) : row.Unclosed := by
  rw [← unclosed] at tells
  have closing := tells.closing
  exact ⟨closing.exit, closing.realized, closing.closeReason, closing.closeDetail, closing.closedAt⟩

/-! ### What the journal needs of a book -/

namespace Book

/-- Nothing of a closing is on the open positions, and all positions have a price that is stored as
it is. -/
structure Recordable (b : Book Float) : Prop where
  unclosed : ∀ p ∈ b.active, p.asOpened = p
  priced : ∀ p ∈ b.positions, Journal.stored p.entry = some p.entry

/-- A price that can be traded at is stored as it is. -/
theorem stored_of_isValidPrice {price : Float} (valid : isValidPrice price = true) :
    Journal.stored price = some price := by
  obtain ⟨positive, number⟩ := pos_of_isValidPrice valid
  have nonzero : (price == 0.0) = false := by
    rw [← Bool.not_eq_true, Double.beq_iff, Double.compare_swap (Double.exact 0.0),
      Double.lt_iff.mp positive]
    nofun
  simp [Journal.stored, number, nonzero]

namespace Recordable

variable {b after : Book Float}

theorem ofLimits (l : Limits Float) (serial : Nat) : (Book.ofLimits l serial).Recordable := by
  have active : (Book.ofLimits l serial).active = [] := rfl
  have closed : (Book.ofLimits l serial).closed = [] := rfl
  constructor <;> simp [positions, active, closed]

theorem moved (recordable : b.Recordable) {kept gone : List (Position Float)}
    (moved : Moved b.active kept gone) :
    ({ b with active := kept, closed := b.closed ++ gone } : Book Float).Recordable where
  unclosed := fun p inside => recordable.unclosed p (moved.sublist.mem inside)
  priced := by
    intro p inside
    have earlier := moved.perm_positions.mem_iff.mp (List.mem_map_of_mem inside)
    obtain ⟨old, there, same⟩ := List.mem_map.mp earlier
    have entry : old.entry = p.entry := (congrArg Position.entry same :)
    exact entry ▸ recordable.priced old there

theorem opened (recordable : b.Recordable) {s : Signal Float} {price : Float} {now : Timestamp}
    {quantity : Int} (valid : isValidPrice price = true) :
    ({ b with
      active := b.active ++ [b.newPosition s quantity price now]
      serial := b.serial + 1 } : Book Float).Recordable where
  unclosed := by
    intro p inside
    rcases List.mem_append.mp inside with old | new
    · exact recordable.unclosed p old
    · obtain rfl := List.mem_singleton.mp new
      rfl
  priced := by
    intro p inside
    rcases List.mem_append.mp inside with opened | closed
    · rcases List.mem_append.mp opened with old | new
      · exact recordable.priced p (List.mem_append_left _ old)
      · obtain rfl := List.mem_singleton.mp new
        exact stored_of_isValidPrice valid
    · exact recordable.priced p (List.mem_append_right _ closed)

/-- Every step of a sound book keeps it recordable. -/
theorem step {o : Operation Float} (step : Step b o after) (sound : b.Sound)
    (recordable : b.Recordable) : after.Recordable := by
  cases step with
  | failed => exact recordable
  | acted acts =>
    cases acts with
    | invalid | already | nothing | poor => exact recordable
    | closed _ held _ closes =>
      exact recordable.moved (.of_find sound.instruments held ⟨_, _, _, _, closes⟩)
    | opened valid => exact recordable.opened valid
  | scanned swept => exact recordable.moved (.of_swept closes_of_stopRule swept)
  | flattened swept => exact recordable.moved (.of_swept closes_of_flattenRule swept)

end Recordable

/-- All positions of a later book were there before or were opened, and none is missing. -/
theorem Traded.perm_positions {b after : Book Float} {entered left : List (Position Float)}
    (traded : Traded b after entered left) :
    ((b.positions ++ entered).map Position.asOpened).Perm
      (after.positions.map Position.asOpened) := by
  -- On both sides what is open or closed now comes first, and what was closed before comes last.
  have before : (b.positions ++ entered).Perm (b.active ++ entered ++ b.closed) := by
    rw [positions, List.append_assoc, List.append_assoc]
    exact List.perm_append_comm.append_left _
  have now : (after.active ++ left ++ b.closed).Perm after.positions := by
    rw [positions, traded.closed, List.append_assoc]
    exact List.perm_append_comm.append_left _
  refine (before.map _).trans (.trans ?_ (now.map _))
  simpa only [List.map_append] using traded.balance.symm.append_right (b.closed.map _)

end Book

/-! ### Mirrors -/

namespace Journal

/-- The rows tell the positions of the book, one row for each, and those of open positions hold
nothing of a closing. -/
structure Mirrors (j : Journal) (b : Book Float) : Prop where
  rows : ∃ listed, listed.Perm b.positions ∧ List.Forall₂ PositionRow.Tells j.positions listed
  unclosed : ∀ p ∈ b.active, ∀ row : PositionRow, row.Tells p → row.Unclosed

theorem Mirrors.ofLimits {j : Journal} (empty : j.positions = []) (l : Limits Float)
    (serial : Nat) : j.Mirrors (Book.ofLimits l serial) where
  rows := ⟨[], .nil, by rw [empty]; exact .nil⟩
  unclosed := by
    intro p inside
    cases inside

theorem Mirrors.congr {j later : Journal} {b : Book Float} (mirrors : j.Mirrors b)
    (same : later.positions = j.positions) : later.Mirrors b :=
  ⟨by rw [same]; exact mirrors.rows, mirrors.unclosed⟩

section Traded

variable {b after : Book Float} {listed opened closed : List (Position Float)}

/-- Whoever was listed, opened or closed is on the later book, as it was opened. -/
theorem exists_asOpened_eq (traded : Book.Traded b after opened closed)
    (listing : listed.Perm b.positions) :
    ∀ p ∈ listed ++ (opened ++ closed), ∃ q ∈ after.positions, q.asOpened = p.asOpened := by
  intro p inside
  rw [← List.append_assoc] at inside
  rcases List.mem_append.mp inside with entered | left
  · have present := (listing.append_right opened).mem_iff.mp entered
    exact List.mem_map.mp (traded.perm_positions.mem_iff.mp (List.mem_map_of_mem present))
  · refine ⟨p, List.mem_append_right _ ?_, rfl⟩
    rw [traded.closed]
    exact List.mem_append_right _ left

/-- Writing what was opened and then what was closed lists the positions of the later book. -/
theorem perm_foldl_put (traded : Book.Traded b after opened closed) (sound : after.Sound)
    (listing : listed.Perm b.positions) :
    ((opened ++ closed).foldl put listed).Perm after.positions := by
  have entered : ((listed ++ opened).map Position.asOpened).Perm
      (after.positions.map Position.asOpened) :=
    ((listing.append_right opened).map _).trans traded.perm_positions
  have distinct : ((listed ++ opened).map (·.id)).Nodup := by
    have named := entered.map Position.id
    rw [List.map_map, List.map_map] at named
    exact named.nodup_iff.mpr sound.identifiers
  have present : ∀ q ∈ closed, q.id ∈ (listed ++ opened).map (·.id) := by
    intro q inside
    have there : q ∈ after.positions := by
      rw [Book.positions, traded.closed]
      simp [inside]
    obtain ⟨p, listed', same⟩ := List.mem_map.mp (entered.mem_iff.mpr (List.mem_map_of_mem there))
    have named : p.id = q.id := (congrArg Position.id same :)
    exact named ▸ List.mem_map_of_mem listed'
  have ids := ids_foldl_put_of_mem present
  rw [List.foldl_append, foldl_put_of_nodup distinct]
  -- No more is listed than there is, each once, and it is on the later book.
  have once : (closed.foldl put (listed ++ opened)).Nodup := .of_map _ (ids ▸ distinct)
  refine (once.subperm ?_).perm_of_length_le ?_
  · intro p inside
    rw [Book.positions, traded.closed]
    rcases mem_foldl_put inside with left | ⟨entered', kept⟩
    · simp [left]
    · rcases List.mem_append.mp ((listing.append_right opened).mem_iff.mp entered') with old | new
      · rcases List.mem_append.mp old with active | before
        · have still := (traded.mem_active_iff sound.identifiers p).mpr
            ⟨List.mem_append_left _ active, kept⟩
          simp [still]
        · simp [before]
      · have still := (traded.mem_active_iff sound.identifiers p).mpr
          ⟨List.mem_append_right _ new, kept⟩
        simp [still]
  · have counted := congrArg List.length ids
    have total := entered.length_eq
    simp only [List.length_map] at counted total
    exact (total.symm.trans counted.symm).le

theorem Mirrors.traded {j later : Journal} {ids : List Nat} (mirrors : j.Mirrors b)
    (traded : Book.Traded b after opened closed) (sound : after.Sound)
    (recordable : after.Recordable)
    (records : j.recordPositions (opened ++ closed) = (.ok ids, later)) :
    later.signals = j.signals ∧ later.Mirrors after := by
  obtain ⟨listed, listing, tells⟩ := mirrors.rows
  have known := exists_asOpened_eq traded listing
  have consistent : Consistent (listed ++ (opened ++ closed)) := by
    intro p here q there named
    obtain ⟨p', on, same⟩ := known p here
    obtain ⟨q', on', same'⟩ := known q there
    have ids : p'.id = q'.id :=
      (congrArg Position.id same :).trans (named.trans (congrArg Position.id same' :).symm)
    rw [← same, ← same', List.inj_on_of_nodup_map sound.identifiers on on' ids]
  have numbers : ∀ p ∈ opened ++ closed, stored p.entry = some p.entry := by
    intro p inside
    obtain ⟨q, on, same⟩ := known p (List.mem_append_right _ inside)
    have entry : q.entry = p.entry := (congrArg Position.entry same :)
    exact entry ▸ recordable.priced q on
  obtain ⟨frame, told⟩ := tells_recordPositions records numbers consistent tells
  exact ⟨frame, ⟨_, perm_foldl_put traded sound listing, told⟩,
    fun p active row rowTells => rowTells.unclosed (recordable.unclosed p active)⟩

end Traded

end Journal

end VolatilityDesk
