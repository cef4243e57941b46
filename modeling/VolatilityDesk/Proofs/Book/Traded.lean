import VolatilityDesk.Proofs.Book.Change
/-!
# Balances

`Traded` compares a book with a later one by what was opened and what was closed in between. Single
changes are balanced, and balances add up. On a later book that is sound a balance leaves no choice:
the open positions are those before and those opened, in this order, without those closed.

* `Traded.of_change`, `Traded.trans` — changes are balanced, and balances add up.
* `Traded.active_eq` — the open positions of the later book.
-/

namespace VolatilityDesk.Book

open TradeEvent

/-- Between two books some positions were opened and some closed, and nothing else happened. -/
structure Traded {α : Type} (b after : Book α) (entered left : List (Position α)) : Prop where
  closed : after.closed = b.closed ++ left
  active : after.active.Sublist (b.active ++ entered)
  balance : ((after.active ++ left).map Position.asOpened).Perm
    ((b.active ++ entered).map Position.asOpened)

namespace Traded

variable {α : Type} {b middle after : Book α} {entered left entered' left' : List (Position α)}

/-! ### Balances add up -/

theorem refl (b : Book α) : Traded b b [] [] where
  closed := (List.append_nil _).symm
  active := by rw [List.append_nil]
  balance := .refl _

open List in
theorem trans (first : Traded b middle entered left) (second : Traded middle after entered' left') :
    Traded b after (entered ++ entered') (left ++ left') where
  closed := by rw [second.closed, first.closed, List.append_assoc]
  active := by
    rw [← List.append_assoc]
    exact second.active.trans (first.active.append_right entered')
  balance := by
    -- What closed first and what opened last trade places, so that each half balances on its own.
    have shifted : after.active ++ (left ++ left') ~ after.active ++ left' ++ left := by
      rw [List.append_assoc]
      exact List.perm_append_comm.append_left _
    have moved : middle.active ++ entered' ++ left ~ middle.active ++ left ++ entered' := by
      rw [List.append_assoc, List.append_assoc]
      exact List.perm_append_comm.append_left _
    calc (after.active ++ (left ++ left')).map Position.asOpened
      _ ~ (after.active ++ left' ++ left).map Position.asOpened := shifted.map _
      _ ~ (middle.active ++ entered' ++ left).map Position.asOpened := by
        simpa only [List.map_append] using second.balance.append_right (left.map _)
      _ ~ (middle.active ++ left ++ entered').map Position.asOpened := moved.map _
      _ ~ (b.active ++ entered ++ entered').map Position.asOpened := by
        simpa only [List.map_append] using first.balance.append_right (entered'.map _)
      _ = (b.active ++ (entered ++ entered')).map Position.asOpened := by rw [List.append_assoc]

/-- A change trades what it reports. -/
theorem of_change [Number α] {events : List (TradeEvent α)} (change : Change b after events) :
    Traded b after (openings events) (closings events) := by
  cases change with
  | same => exact refl b
  | opened valid flat allowed some =>
    exact
      { closed := (List.append_nil _).symm
        active := .refl _
        balance := by
          rw [show closings [_] = [] from rfl, List.append_nil]
          exact .refl _ }
  | closed moved =>
    rw [openings_map_closed, closings_map_closed]
    exact
      { closed := rfl
        active := by
          rw [List.append_nil]
          exact moved.sublist
        balance := by
          rw [List.append_nil, List.map_append]
          exact moved.perm_map Position.Closes.asOpened_eq }

/-! ### Where identifiers are distinct -/

section Distinct

variable (traded : Traded b after entered left) (distinct : (after.positions.map (·.id)).Nodup)

include traded distinct

/-- No two of the positions that are still open or were closed share an identifier. -/
theorem nodup_left : ((after.active ++ left).map (·.id)).Nodup := by
  have present : (after.active ++ left).Sublist after.positions := by
    rw [positions, traded.closed]
    exact (List.sublist_append_right _ _).append_left _
  exact distinct.sublist (present.map _)

/-- No two of the positions that were open before or were opened share an identifier. -/
theorem nodup_entered : ((b.active ++ entered).map (·.id)).Nodup := by
  have named := traded.balance.map Position.id
  rw [List.map_map, List.map_map] at named
  exact named.nodup_iff.mp (traded.nodup_left distinct)

theorem mem_active_iff (p : Position α) :
    p ∈ after.active ↔ p ∈ b.active ++ entered ∧ p.id ∉ left.map (·.id) := by
  have apart := traded.nodup_left distinct
  rw [List.map_append, List.nodup_append] at apart
  obtain ⟨-, -, apart⟩ := apart
  constructor
  · intro still
    refine ⟨traded.active.mem still, ?_⟩
    intro closed
    exact apart p.id (List.mem_map_of_mem still) p.id closed rfl
  · rintro ⟨present, kept⟩
    -- What has this entry is open or was closed; its identifier tells which, and that it is `p`.
    have entry := traded.balance.mem_iff.mpr (List.mem_map_of_mem present)
    obtain ⟨q, there, same⟩ := List.mem_map.mp entry
    have named : q.id = p.id := (congrArg Position.id same :)
    rcases List.mem_append.mp there with still | closed
    · have inside := traded.active.mem still
      rwa [← List.inj_on_of_nodup_map (traded.nodup_entered distinct) inside present named]
    · exact absurd (List.mem_map.mpr ⟨q, closed, named⟩) kept

/-- The open positions are those before and those opened without those closed. -/
theorem active_eq :
    after.active = (b.active ++ entered).filter (fun p => p.id ∉ left.map (·.id)) := by
  have before : (b.active ++ entered).Nodup := (traded.nodup_entered distinct).of_map _
  refine (before.perm_iff_eq_of_sublist traded.active List.filter_sublist).mp ?_
  refine (List.perm_ext_iff_of_nodup (before.sublist traded.active) (before.filter _)).mpr ?_
  intro p
  rw [traded.mem_active_iff distinct, List.mem_filter, decide_eq_true_iff]

end Distinct

end Traded

end VolatilityDesk.Book
