import VolatilityDesk.Proofs.Fallible
import VolatilityDesk.Proofs.Lookup
import VolatilityDesk.Trading.Book
/-!
# Closing positions

What closing does to a position and what the two sweeps do to the open positions. `Swept` says
which positions a rule keeps and which it closes; `Moved` forgets the rule, so that what every
closing keeps is proved once and not once for signals, stops and the end of the session.

* `closeBy_eq_ok_iff` — a sweep by a rule partitions the open positions.
* `Moved.perm_map` — what closing does not touch is carried by the same positions before and after.
-/

namespace VolatilityDesk

open Fallible

variable {α : Type}

namespace Position

variable [Number α]

/-- A position can be closed wherever its result can be computed, and keeps everything but what
closing records. -/
theorem close_eq_ok_iff {p q : Position α} {price : α} {reason : CloseReason} {now : Timestamp}
    {remark : CloseRemark α} :
    p.close price reason now remark = .ok q ↔
      ∃ pnl, p.pnlAt price = .ok pnl ∧
        { p with
          status := .closed
          exit := some price
          closedAt := some now
          realized := some (Number.round4 pnl)
          closeReason := some reason
          closeRemark := remark } = q := by
  simp only [close, bind_eq_ok_iff, pure_eq_ok_iff]

/-- Closing the first position at some price, for some reason, gives the second. -/
def Closes (p q : Position α) : Prop :=
  ∃ price reason now remark, p.close price reason now remark = .ok q

/-- What was closed has a result. -/
theorem Closes.exists_realized {p q : Position α} (closes : p.Closes q) :
    ∃ pnl, q.realized = some pnl := by
  obtain ⟨price, reason, now, remark, closed⟩ := closes
  obtain ⟨pnl, -, rfl⟩ := close_eq_ok_iff.mp closed
  exact ⟨Number.round4 pnl, rfl⟩

theorem exists_results {gone : List (Position α)}
    (closed : ∀ q ∈ gone, ∃ p : Position α, p.Closes q) :
    ∃ pnls : List α, gone.map (·.realized) = pnls.map some := by
  induction gone with
  | nil => exact ⟨[], rfl⟩
  | cons q rest ih =>
    obtain ⟨_, closes⟩ := closed q (.head _)
    obtain ⟨pnl, result⟩ := closes.exists_realized
    obtain ⟨pnls, results⟩ := ih fun r inside => closed r (.tail _ inside)
    exact ⟨pnl :: pnls, by rw [List.map_cons, result, results, List.map_cons]⟩

end Position

namespace Book

/-! ### Sweeps -/

/-- A rule sorts a list into the positions that stay and what it closes the others into, both in
their order. -/
inductive Swept (rule : Position α → Except TradingFault (Option (Position α))) :
    List (Position α) → List (Position α) → List (Position α) → Prop where
  | nil : Swept rule [] [] []
  | keep {p : Position α} {rest kept gone : List (Position α)} (stays : rule p = .ok none)
      (swept : Swept rule rest kept gone) : Swept rule (p :: rest) (p :: kept) gone
  | close {p q : Position α} {rest kept gone : List (Position α)} (closes : rule p = .ok (some q))
      (swept : Swept rule rest kept gone) : Swept rule (p :: rest) kept (q :: gone)

section Sweep

variable {rule : Position α → Except TradingFault (Option (Position α))}
  {positions kept gone : List (Position α)}

theorem sweep_eq_ok_iff : sweep rule positions = .ok (kept, gone) ↔
    Swept rule positions kept gone := by
  constructor
  · intro swept
    induction positions generalizing kept gone with
    | nil =>
      simp only [sweep, Except.ok.injEq, Prod.mk.injEq] at swept
      obtain ⟨rfl, rfl⟩ := swept
      exact .nil
    | cons p rest ih =>
      simp only [sweep, bind_eq_ok_iff, pure_eq_ok_iff, Prod.exists] at swept
      obtain ⟨closed, verdict, staying, leaving, tail, parts⟩ := swept
      cases closed with
      | none =>
        cases parts
        exact .keep verdict (ih tail)
      | some q =>
        cases parts
        exact .close verdict (ih tail)
  · intro swept
    induction swept with
    | nil => rfl
    | keep stays _ ih => simp [sweep, stays, ih, bind, Except.bind, pure, Except.pure]
    | close closes _ ih => simp [sweep, closes, ih, bind, Except.bind, pure, Except.pure]

/-- A sweep fails only where its rule does. -/
theorem exists_swept (decided : ∀ p ∈ positions, ∃ verdict, rule p = .ok verdict) :
    ∃ kept gone, Swept rule positions kept gone := by
  induction positions with
  | nil => exact ⟨[], [], .nil⟩
  | cons p rest ih =>
    obtain ⟨kept, gone, swept⟩ := ih fun other inside => decided other (.tail _ inside)
    obtain ⟨verdict, ruled⟩ := decided p (.head _)
    cases verdict with
    | none => exact ⟨p :: kept, gone, .keep ruled swept⟩
    | some q => exact ⟨kept, q :: gone, .close ruled swept⟩

/-- A sweep whose rule leaves all positions alone closes none. -/
theorem swept_self (stays : ∀ p ∈ positions, rule p = .ok none) :
    Swept rule positions positions [] := by
  induction positions with
  | nil => exact .nil
  | cons p rest ih =>
    exact .keep (stays p (.head _)) (ih fun other inside => stays other (.tail _ inside))

theorem closeBy_eq_ok_iff {b after : Book α} :
    b.closeBy rule = .ok (after, gone) ↔
      ∃ kept, Swept rule b.active kept gone ∧
        after = { b with active := kept, closed := b.closed ++ gone } := by
  simp only [closeBy, bind_eq_ok_iff, pure_eq_ok_iff, Prod.exists, sweep_eq_ok_iff,
    Prod.mk.injEq]
  constructor
  · rintro ⟨kept, closed, swept, rfl, rfl⟩
    exact ⟨kept, swept, rfl⟩
  · rintro ⟨kept, swept, rfl⟩
    exact ⟨kept, gone, swept, rfl, rfl⟩

theorem Swept.sublist (swept : Swept rule positions kept gone) : kept.Sublist positions := by
  induction swept with
  | nil => exact .slnil
  | keep _ _ ih => exact ih.cons_cons _
  | close _ _ ih => exact ih.cons _

/-- What a sweep keeps, its rule leaves alone. -/
theorem Swept.stays_of_mem_kept (swept : Swept rule positions kept gone) {p : Position α}
    (member : p ∈ kept) : rule p = .ok none := by
  induction swept with
  | nil => cases member
  | keep stays _ ih =>
    rcases List.mem_cons.mp member with rfl | member
    · exact stays
    · exact ih member
  | close _ _ ih => exact ih member

/-- A sweep keeps what its rule does not close. -/
theorem Swept.mem_kept (swept : Swept rule positions kept gone) {p : Position α}
    (member : p ∈ positions) (spared : ∀ q, rule p ≠ .ok (some q)) : p ∈ kept := by
  induction swept with
  | nil => cases member
  | keep _ _ ih =>
    rcases List.mem_cons.mp member with rfl | member
    · exact .head _
    · exact .tail _ (ih member)
  | close closes _ ih =>
    rcases List.mem_cons.mp member with rfl | member
    · exact absurd closes (spared _)
    · exact ih member

/-- What a sweep has closed, its rule closed. -/
theorem Swept.closes_of_mem_gone (swept : Swept rule positions kept gone) {q : Position α}
    (member : q ∈ gone) : ∃ p ∈ positions, rule p = .ok (some q) := by
  induction swept with
  | nil => cases member
  | keep _ _ ih =>
    obtain ⟨p, inside, closes⟩ := ih member
    exact ⟨p, .tail _ inside, closes⟩
  | close closes _ ih =>
    rcases List.mem_cons.mp member with rfl | member
    · exact ⟨_, .head _, closes⟩
    · obtain ⟨p, inside, closes⟩ := ih member
      exact ⟨p, .tail _ inside, closes⟩

end Sweep

/-! ### Opening nothing -/

/-- Between two books nothing was opened: what is open later was open before, and no identifier was
given out. -/
structure NoneOpened (b later : Book α) : Prop where
  active : later.active.Sublist b.active
  serial : later.serial = b.serial

theorem NoneOpened.refl (b : Book α) : NoneOpened b b := ⟨.refl _, rfl⟩

theorem NoneOpened.trans {b middle later : Book α} (first : NoneOpened b middle)
    (second : NoneOpened middle later) : NoneOpened b later where
  active := second.active.trans first.active
  serial := second.serial.trans first.serial

theorem noneOpened_of_closeBy {b after : Book α} {gone : List (Position α)}
    {rule : Position α → Except TradingFault (Option (Position α))}
    (sweeps : b.closeBy rule = .ok (after, gone)) : NoneOpened b after := by
  obtain ⟨kept, swept, rfl⟩ := closeBy_eq_ok_iff.mp sweeps
  exact ⟨swept.sublist, rfl⟩

/-! ### The two rules -/

section Rules

variable [Number α] {prices : Prices α} {limit : α} {now : Timestamp} {p q : Position α}

theorem stopRule_eq_some_iff : stopRule prices limit now p = .ok (some q) ↔
    ∃ price pnl, prices.lookup p.instrument = some price ∧ p.pnlAt price = .ok pnl ∧
      limit < -pnl ∧ p.close price .stopLoss now (.lossExceeded (-pnl) limit) = .ok q := by
  unfold stopRule
  cases priced : prices.lookup p.instrument with
  | none => simp
  | some price =>
    simp only [bind_eq_ok_iff, Option.some.injEq]
    constructor
    · rintro ⟨pnl, result, closed⟩
      split at closed
      · rename_i lost
        obtain ⟨r, closes, same⟩ := bind_eq_ok_iff.mp closed
        cases same
        exact ⟨price, pnl, rfl, result, lost, closes⟩
      · cases closed
    · rintro ⟨_, pnl, rfl, result, lost, closes⟩
      refine ⟨pnl, result, ?_⟩
      rw [if_pos lost, closes]
      rfl

theorem stopRule_eq_none_iff : stopRule prices limit now p = .ok none ↔
    ∀ price, prices.lookup p.instrument = some price →
      ∃ pnl, p.pnlAt price = .ok pnl ∧ ¬ limit < -pnl := by
  unfold stopRule
  cases priced : prices.lookup p.instrument with
  | none => simp
  | some price =>
    simp only [bind_eq_ok_iff, Option.some.injEq, forall_eq']
    refine exists_congr fun pnl => and_congr_right fun _ => ?_
    split
    · rename_i lost
      simp [lost, map_eq_ok_iff]
    · rename_i kept
      simp [kept, pure_eq_ok_iff]

theorem closes_of_stopRule (closes : stopRule prices limit now p = .ok (some q)) : p.Closes q := by
  obtain ⟨price, pnl, -, -, -, closed⟩ := stopRule_eq_some_iff.mp closes
  exact ⟨price, _, now, _, closed⟩

theorem flattenRule_eq_some_iff : flattenRule prices now p = .ok (some q) ↔
    ∃ price, prices.lookup p.instrument = some price ∧
      p.close price .sessionEnd now .sessionEnd = .ok q := by
  unfold flattenRule
  cases priced : prices.lookup p.instrument with
  | none => simp
  | some price => simp [map_eq_ok_iff]

theorem flattenRule_eq_none_iff : flattenRule prices now p = .ok none ↔
    prices.lookup p.instrument = none := by
  unfold flattenRule
  cases priced : prices.lookup p.instrument with
  | none => simp
  | some price => simp [map_eq_ok_iff]

theorem closes_of_flattenRule (closes : flattenRule prices now p = .ok (some q)) :
    p.Closes q := by
  obtain ⟨price, -, closed⟩ := flattenRule_eq_some_iff.mp closes
  exact ⟨price, _, now, _, closed⟩

end Rules

/-! ### Unrealized results -/

section Unrealized

variable [Number α]

/-- The open positions have a result together when each one that has a price has a result. -/
theorem exists_unrealized {b : Book α} {prices : Prices α}
    (valued : ∀ p ∈ b.active, ∀ price, prices.lookup p.instrument = some price →
      ∃ pnl, p.pnlAt price = .ok pnl) : ∃ total, b.unrealized prices = .ok total := by
  unfold unrealized
  generalize b.active = positions at valued ⊢
  generalize (0.0 : α) = total
  induction positions generalizing total with
  | nil => exact ⟨total, rfl⟩
  | cons p rest ih =>
    have later := ih fun p inside => valued p (.tail _ inside)
    rw [List.foldlM_cons]
    cases priced : prices.lookup p.instrument with
    | none => exact later total
    | some price =>
      obtain ⟨pnl, result⟩ := valued p (.head _) price priced
      obtain ⟨sum, done⟩ := later (total + pnl)
      refine ⟨sum, bind_eq_ok_iff.mpr ⟨total + pnl, ?_, done⟩⟩
      exact bind_eq_ok_iff.mpr ⟨pnl, result, rfl⟩

/-- After the stops at some prices the rest has a result at these prices. -/
theorem exists_unrealized_of_scanStops {b after : Book α} {prices : Prices α} {limit : α}
    {now : Timestamp} {gone : List (Position α)}
    (scanned : b.scanStops prices limit now = .ok (after, gone)) :
    ∃ total, after.unrealized prices = .ok total := by
  obtain ⟨kept, swept, rfl⟩ := closeBy_eq_ok_iff.mp scanned
  refine exists_unrealized fun p inside price priced => ?_
  obtain ⟨pnl, result, _⟩ := stopRule_eq_none_iff.mp (swept.stays_of_mem_kept inside) price priced
  exact ⟨pnl, result⟩

end Unrealized

/-! ### What closing moves -/

section Moving

variable [Number α]

/-- Some of the open positions are closed; the others stay, in their order. -/
inductive Moved : List (Position α) → List (Position α) → List (Position α) → Prop where
  | nil : Moved [] [] []
  | keep {p : Position α} {rest kept gone : List (Position α)} (moved : Moved rest kept gone) :
      Moved (p :: rest) (p :: kept) gone
  | close {p q : Position α} {rest kept gone : List (Position α)} (closes : p.Closes q)
      (moved : Moved rest kept gone) : Moved (p :: rest) kept (q :: gone)

namespace Moved

variable {positions kept gone : List (Position α)}

theorem refl : ∀ positions : List (Position α), Moved positions positions []
  | [] => .nil
  | _ :: rest => .keep (refl rest)

theorem sublist (moved : Moved positions kept gone) : kept.Sublist positions := by
  induction moved with
  | nil => exact .slnil
  | keep _ ih => exact ih.cons_cons _
  | close _ _ ih => exact ih.cons _

theorem exists_of_mem_gone (moved : Moved positions kept gone) {q : Position α}
    (member : q ∈ gone) : ∃ p ∈ positions, p.Closes q := by
  induction moved with
  | nil => cases member
  | keep _ ih =>
    obtain ⟨p, inside, closes⟩ := ih member
    exact ⟨p, .tail _ inside, closes⟩
  | close closes _ ih =>
    rcases List.mem_cons.mp member with rfl | member
    · exact ⟨_, .head _, closes⟩
    · obtain ⟨p, inside, closes⟩ := ih member
      exact ⟨p, .tail _ inside, closes⟩

/-- A feature that closing does not touch is carried by the same positions before and after. -/
theorem perm_map {β : Type} {feature : Position α → β}
    (stable : ∀ {p q : Position α}, p.Closes q → feature q = feature p)
    (moved : Moved positions kept gone) :
    (kept.map feature ++ gone.map feature).Perm (positions.map feature) := by
  induction moved with
  | nil => exact .nil
  | keep _ ih => exact ih.cons _
  | close closes _ ih =>
    rw [List.map_cons, List.map_cons, stable closes]
    exact List.perm_middle.trans (ih.cons _)

/-- A sweep by a rule that closes moves what it closes. -/
theorem of_swept {rule : Position α → Except TradingFault (Option (Position α))}
    (closing : ∀ {p q : Position α}, rule p = .ok (some q) → p.Closes q)
    (swept : Swept rule positions kept gone) : Moved positions kept gone := by
  induction swept with
  | nil => exact .nil
  | keep _ _ ih => exact .keep ih
  | close closes _ ih => exact .close (closing closes) ih

/-- With one position per instrument, closing the one of an instrument moves it alone. -/
theorem of_find {instrument : String} {p q : Position α}
    (distinct : (positions.map (·.instrument)).Nodup)
    (found : positions.find? (·.instrument == instrument) = some p) (closes : p.Closes q) :
    Moved positions (positions.filter (·.instrument != p.instrument)) [q] := by
  induction positions with
  | nil => simp at found
  | cons r rest ih =>
    obtain ⟨alone, distinct⟩ := List.nodup_cons.mp distinct
    have named : p.instrument = instrument := key_of_find? found
    by_cases here : r.instrument = instrument
    · obtain rfl : r = p := by simpa [List.find?_cons, here] using found
      have others : rest.filter (·.instrument != r.instrument) = rest := by
        refine List.filter_eq_self.mpr fun other inside => ?_
        have apart : other.instrument ≠ r.instrument := fun same =>
          alone (List.mem_map.mpr ⟨other, inside, same⟩)
        simpa using apart
      rw [List.filter_cons_of_neg (by simp), others]
      exact .close closes (refl rest)
    · have elsewhere : rest.find? (·.instrument == instrument) = some p := by
        simpa [List.find?_cons, here] using found
      rw [List.filter_cons_of_pos (by simpa [named] using here)]
      exact .keep (ih distinct elsewhere)

end Moved

theorem closed_of_closeBy {b after : Book α} {gone : List (Position α)}
    {rule : Position α → Except TradingFault (Option (Position α))}
    (closing : ∀ {p q : Position α}, rule p = .ok (some q) → p.Closes q)
    (sweeps : b.closeBy rule = .ok (after, gone)) :
    after.closed = b.closed ++ gone ∧ ∀ q ∈ gone, ∃ p : Position α, p.Closes q := by
  obtain ⟨kept, swept, rfl⟩ := closeBy_eq_ok_iff.mp sweeps
  refine ⟨rfl, fun q inside => ?_⟩
  obtain ⟨p, _, closes⟩ := (Moved.of_swept closing swept).exists_of_mem_gone inside
  exact ⟨p, closes⟩

end Moving

end Book

end VolatilityDesk
