import VolatilityDesk.Proofs.Book.Sound
import VolatilityDesk.Proofs.Number.Whole
/-!
# Stops

A scan for stops partitions the open positions by one test, stated in `lostMore` without the scan:
the position has a price at which it has lost more than the limit. Whoever passes it is closed at
that price; the others stay as they are. On the book of a run no such scan fails, since a quantity
that was bought can be multiplied with every price (`Valued`).

* `scanned_of_scanStops` — a scan closes just the positions that have lost more than the limit.
* `scanStops_again` — the next scan at the same prices finds nothing to close.
* `Valued.exists_scanStops` — no scan fails on the book of a run.
-/

namespace VolatilityDesk

open Fallible

variable {α : Type} [Number α]

/-! ### Positions with a result -/

namespace Position

/-- The result at a price is the gain of one unit times the quantity. -/
theorem pnlAt_eq_ok_iff {p : Position α} {price pnl : α} :
    p.pnlAt price = .ok pnl ↔ ∃ units, p.units = .ok units ∧ p.unitGain price * units = pnl := by
  simp only [pnlAt, bind_eq_ok_iff, pure_eq_ok_iff]

theorem exists_pnlAt {p : Position α} {units : α} (counted : p.units = .ok units) (price : α) :
    ∃ pnl, p.pnlAt price = .ok pnl :=
  ⟨_, pnlAt_eq_ok_iff.mpr ⟨units, counted, rfl⟩⟩

end Position

namespace Book

/-- Every open position has a result at every price. -/
def Valued (b : Book α) : Prop := ∀ p ∈ b.active, ∃ units, p.units = .ok units

section Valued

variable {b after : Book Float}

theorem valued_ofLimits (l : Limits Float) (serial : Nat) : (Book.ofLimits l serial).Valued := by
  intro p inside
  cases inside

/-- What is opened is a quantity that was found as a whole part. -/
theorem exists_units_newPosition {s : Signal Float} {quantity : Int} {price : Float}
    {now : Timestamp} (buys : Number.whole (b.capital / price) = .ok quantity)
    (some : 0 < quantity) : ∃ units, (b.newPosition s quantity price now).units = .ok units := by
  obtain ⟨units, counted⟩ := Binary64.exists_ofInt?_of_whole buys some
  refine ⟨units, ?_⟩
  have bought : (b.newPosition s quantity price now).quantity = quantity := rfl
  rw [Position.units, bought, counted]

/-- Every step keeps a result for every open position. -/
theorem Valued.step {o : Operation Float} (step : Step b o after) (valued : b.Valued) :
    after.Valued :=
  step.forall_active (fun _ _ _ _ => exists_units_newPosition) valued

theorem valued_after (l : Limits Float) (serial : Nat) (operations : List (Operation Float)) :
    ((Book.ofLimits l serial).after operations).Valued :=
  after_induction (valued_ofLimits l serial) Valued.step operations

end Valued

/-! ### The test for a stop -/

/-- There is a price for the position, at which it has lost more than the limit. -/
def lostMore (prices : Prices α) (limit : α) (p : Position α) : Bool :=
  match prices.lookup p.instrument with
  | none => false
  | some price =>
    match p.pnlAt price with
    | .ok pnl => decide (limit < -pnl)
    | .error _ => false

section Test

variable {prices : Prices α} {limit : α} {now : Timestamp} {p q : Position α}

theorem lostMore_iff : lostMore prices limit p = true ↔
    ∃ price pnl, prices.lookup p.instrument = some price ∧ p.pnlAt price = .ok pnl ∧
      limit < -pnl := by
  unfold lostMore
  cases priced : prices.lookup p.instrument with
  | none => simp
  | some price =>
    cases valued : p.pnlAt price with
    | error fault => simp [valued]
    | ok pnl => simp [valued]

/-- What the rule closes has lost more than the limit. -/
theorem lostMore_of_stopRule (closes : stopRule prices limit now p = .ok (some q)) :
    lostMore prices limit p = true := by
  obtain ⟨price, pnl, priced, valued, lost, -⟩ := stopRule_eq_some_iff.mp closes
  exact lostMore_iff.mpr ⟨price, pnl, priced, valued, lost⟩

/-- What the rule leaves alone has not lost more than the limit. -/
theorem not_lostMore_of_stopRule (stays : stopRule prices limit now p = .ok none) :
    lostMore prices limit p = false := by
  rw [← Bool.not_eq_true, lostMore_iff]
  rintro ⟨price, pnl, priced, valued, lost⟩
  obtain ⟨other, valued', kept⟩ := stopRule_eq_none_iff.mp stays price priced
  obtain rfl : pnl = other := Except.ok.inj (valued.symm.trans valued')
  exact kept lost

/-- The rule decides on every position that has a result. -/
theorem exists_stopRule {units : α} (counted : p.units = .ok units) :
    ∃ verdict, stopRule prices limit now p = .ok verdict := by
  cases priced : prices.lookup p.instrument with
  | none =>
    refine ⟨none, stopRule_eq_none_iff.mpr ?_⟩
    rw [priced]
    nofun
  | some price =>
    obtain ⟨pnl, valued⟩ := p.exists_pnlAt counted price
    by_cases lost : limit < -pnl
    · exact ⟨_, stopRule_eq_some_iff.mpr ⟨price, pnl, priced, valued, lost,
        Position.close_eq_ok_iff.mpr ⟨pnl, valued, rfl⟩⟩⟩
    · refine ⟨none, stopRule_eq_none_iff.mpr fun other same => ?_⟩
      obtain rfl : price = other := Option.some.inj (priced.symm.trans same)
      exact ⟨pnl, valued, lost⟩

/-- So does the rule for the end of the session. -/
theorem exists_flattenRule {units : α} (counted : p.units = .ok units) :
    ∃ verdict, flattenRule prices now p = .ok verdict := by
  cases priced : prices.lookup p.instrument with
  | none => exact ⟨none, flattenRule_eq_none_iff.mpr priced⟩
  | some price =>
    obtain ⟨pnl, valued⟩ := p.exists_pnlAt counted price
    exact ⟨_, flattenRule_eq_some_iff.mpr
      ⟨price, priced, Position.close_eq_ok_iff.mpr ⟨pnl, valued, rfl⟩⟩⟩

/-- The second position is the first one, stopped at its price. -/
structure StoppedOut (prices : Prices α) (now : Timestamp) (p q : Position α) : Prop where
  exit : q.exit = prices.lookup p.instrument
  closeReason : q.closeReason = some .stopLoss
  closedAt : q.closedAt = some now
  settled : q.Settled
  asOpened : q.asOpened = p.asOpened

theorem stoppedOut_of_stopRule (closes : stopRule prices limit now p = .ok (some q)) :
    StoppedOut prices now p q := by
  have settled := (closes_of_stopRule closes).settled
  have asOpened := (closes_of_stopRule closes).asOpened_eq
  obtain ⟨price, _, priced, -, -, closed⟩ := stopRule_eq_some_iff.mp closes
  obtain ⟨pnl, -, rfl⟩ := Position.close_eq_ok_iff.mp closed
  exact
    { exit := priced.symm
      closeReason := rfl
      closedAt := rfl
      settled := settled
      asOpened := asOpened }

end Test

/-! ### Scans for stops -/

section Scans

variable {b after : Book α} {prices : Prices α} {limit : α} {now : Timestamp}
  {positions kept gone : List (Position α)}

/-- A sweep for stops sorts by the test. -/
theorem Swept.partition (swept : Swept (stopRule prices limit now) positions kept gone) :
    kept = positions.filter (!lostMore prices limit ·) ∧
      List.Forall₂ (StoppedOut prices now) (positions.filter (lostMore prices limit)) gone := by
  induction swept with
  | nil => exact ⟨rfl, .nil⟩
  | keep stays _ ih =>
    have test := not_lostMore_of_stopRule stays
    obtain ⟨same, stopped⟩ := ih
    rw [List.filter_cons_of_pos (by simp [test]), List.filter_cons_of_neg (by simp [test]), same]
    exact ⟨rfl, stopped⟩
  | close closes _ ih =>
    have test := lostMore_of_stopRule closes
    obtain ⟨same, stopped⟩ := ih
    rw [List.filter_cons_of_neg (by simp [test]), List.filter_cons_of_pos test]
    exact ⟨same, .cons (stoppedOut_of_stopRule closes) stopped⟩

/-- A scan has closed exactly the positions that have lost more than the limit, in the order of
their opening, and has left the others and all else of the book as they were. -/
structure Scanned (b after : Book α) (prices : Prices α) (limit : α) (now : Timestamp)
    (gone : List (Position α)) : Prop where
  stopped : List.Forall₂ (StoppedOut prices now) (b.active.filter (lostMore prices limit)) gone
  book : after =
    { b with
      active := b.active.filter (!lostMore prices limit ·)
      closed := b.closed ++ gone }

theorem scanned_of_scanStops (scans : b.scanStops prices limit now = .ok (after, gone)) :
    Scanned b after prices limit now gone := by
  obtain ⟨kept, swept, rfl⟩ := closeBy_eq_ok_iff.mp scans
  obtain ⟨rfl, stopped⟩ := swept.partition
  exact ⟨stopped, rfl⟩

/-- A book with a result for every position can be swept by any rule that needs no more. -/
theorem Valued.exists_closeBy {rule : Position α → Except TradingFault (Option (Position α))}
    (decides : ∀ {p : Position α} {units : α}, p.units = .ok units →
      ∃ verdict, rule p = .ok verdict)
    (valued : b.Valued) : ∃ after gone, b.closeBy rule = .ok (after, gone) := by
  have decided : ∀ p ∈ b.active, ∃ verdict, rule p = .ok verdict := by
    intro p inside
    obtain ⟨units, counted⟩ := valued p inside
    exact decides counted
  obtain ⟨kept, gone, swept⟩ := exists_swept decided
  exact ⟨_, gone, closeBy_eq_ok_iff.mpr ⟨kept, swept, rfl⟩⟩

theorem Valued.exists_scanStops (valued : b.Valued) (prices : Prices α) (limit : α)
    (now : Timestamp) : ∃ after gone, b.scanStops prices limit now = .ok (after, gone) :=
  valued.exists_closeBy exists_stopRule

theorem Valued.exists_flatten (valued : b.Valued) (prices : Prices α) (now : Timestamp) :
    ∃ after gone, b.flatten prices now = .ok (after, gone) :=
  valued.exists_closeBy exists_flattenRule

/-- What a scan leaves open, another scan at the same prices leaves alone, whenever it comes. -/
theorem scanStops_again (scans : b.scanStops prices limit now = .ok (after, gone))
    (later : Timestamp) : after.scanStops prices limit later = .ok (after, []) := by
  obtain ⟨kept, swept, rfl⟩ := closeBy_eq_ok_iff.mp scans
  refine closeBy_eq_ok_iff.mpr ⟨kept, swept_self fun p inside => ?_, by simp⟩
  -- The rule stamps what it closes with the time, and decides without it.
  exact stopRule_eq_none_iff.mpr (stopRule_eq_none_iff.mp (swept.stays_of_mem_kept inside))

end Scans

end Book

end VolatilityDesk
