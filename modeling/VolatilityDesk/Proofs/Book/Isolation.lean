import VolatilityDesk.Proofs.Book.Quotes
import VolatilityDesk.Proofs.Book.Stops
import VolatilityDesk.Proofs.Lookup
/-!
# Instruments apart

The page of an instrument is what the book holds of it, apart from the identifiers, which count the
positions of all instruments. Two books with the same page keep it the same under every operation,
and as far as the page goes an operation can be replaced by what it says about the instrument: a
signal on another one by nothing, prices by the price of the instrument. So a run leaves the page
that the run of its own part alone leaves, and no instrument ever gets in the way of another.

Identifiers apart is all that can be had: the serial number of a position tells how many others were
opened before it.

* `instruments_isolated` — the page of an instrument is the work of its own operations.
* `page_after` — the page after a run, in terms of the page before it.
-/

namespace VolatilityDesk

open Fallible

variable {α : Type}

/-! ### Positions of an instrument -/

/-- The position apart from its identifier. -/
def Position.unnamed (p : Position α) : Position α := { p with id := "" }

@[simp] theorem Position.unnamed_instrument (p : Position α) :
    p.unnamed.instrument = p.instrument := rfl

@[simp] theorem Position.unnamed_unnamed (p : Position α) : p.unnamed.unnamed = p.unnamed := rfl

/-- The positions of an instrument among others, in their order and apart from their identifiers. -/
def ofInstrument (instrument : String) (positions : List (Position α)) : List (Position α) :=
  (positions.filter (·.instrument == instrument)).map Position.unnamed

section Instrument

variable {instrument : String} {p : Position α} {positions : List (Position α)}

@[simp] theorem ofInstrument_nil : ofInstrument instrument ([] : List (Position α)) = [] := rfl

theorem ofInstrument_cons_of_eq (here : p.instrument = instrument) :
    ofInstrument instrument (p :: positions) = p.unnamed :: ofInstrument instrument positions := by
  simp [ofInstrument, here]

theorem ofInstrument_cons_of_ne (elsewhere : p.instrument ≠ instrument) :
    ofInstrument instrument (p :: positions) = ofInstrument instrument positions := by
  simp [ofInstrument, elsewhere]

@[simp] theorem ofInstrument_append (first second : List (Position α)) :
    ofInstrument instrument (first ++ second) =
      ofInstrument instrument first ++ ofInstrument instrument second := by
  simp [ofInstrument]

@[simp] theorem ofInstrument_ofInstrument (positions : List (Position α)) :
    ofInstrument instrument (ofInstrument instrument positions) =
      ofInstrument instrument positions := by
  induction positions with
  | nil => rfl
  | cons p rest ih =>
    by_cases here : p.instrument = instrument
    · rw [ofInstrument_cons_of_eq here, ofInstrument_cons_of_eq (p := p.unnamed) here, ih]
      rfl
    · rw [ofInstrument_cons_of_ne here, ih]

/-- The positions of all other instruments are none of this one. -/
theorem ofInstrument_filter_ne (positions : List (Position α)) :
    ofInstrument instrument (positions.filter (·.instrument != instrument)) = [] := by
  simp [ofInstrument, List.filter_filter]

theorem ofInstrument_filter_ne_of_ne {other : String} (apart : other ≠ instrument)
    (positions : List (Position α)) :
    ofInstrument instrument (positions.filter (·.instrument != other)) =
      ofInstrument instrument positions := by
  unfold ofInstrument
  rw [List.filter_filter]
  congr 1
  apply List.filter_congr
  intro p _
  by_cases here : p.instrument = instrument
  · simp [here, apart.symm]
  · simp [here]

theorem find?_ofInstrument (positions : List (Position α)) :
    (ofInstrument instrument positions).find? (·.instrument == instrument) =
      (positions.find? (·.instrument == instrument)).map Position.unnamed := by
  induction positions with
  | nil => rfl
  | cons p rest ih =>
    by_cases here : p.instrument = instrument
    · simp [ofInstrument_cons_of_eq, here]
    · simp [ofInstrument_cons_of_ne here, here, ih]

end Instrument

namespace Book

/-- The page of an instrument: its positions, apart from their identifiers. -/
def page (b : Book α) (instrument : String) : Book α :=
  { b with
    active := ofInstrument instrument b.active
    closed := ofInstrument instrument b.closed
    serial := 0 }

theorem page_page (b : Book α) (instrument : String) :
    (b.page instrument).page instrument = b.page instrument := by
  simp [page]

theorem position?_page (b : Book α) (instrument : String) :
    (b.page instrument).position? instrument = (b.position? instrument).map Position.unnamed :=
  find?_ofInstrument b.active

/-! ### What is said about an instrument -/

/-- What an operation says about an instrument: a signal on another one is left out, and prices are
restricted to it. -/
def Operation.only (instrument : String) : Operation α → Option (Operation α)
  | .act signal price now =>
    if signal.instrument = instrument then some (.act signal price now) else none
  | .scanStops prices limit now =>
    some (.scanStops (prices.filter (·.1 == instrument)) limit now)
  | .flatten prices now => some (.flatten (prices.filter (·.1 == instrument)) now)

/-- What is said about an instrument is all that it says about it. -/
theorem Operation.only_of_only {instrument : String} {o part : Operation α}
    (said : o.only instrument = some part) : part.only instrument = some part := by
  cases o with
  | act signal price now =>
    by_cases here : signal.instrument = instrument
    · obtain rfl : Operation.act signal price now = part := by simpa [only, here] using said
      simp [only, here]
    · simp [only, here] at said
  | scanStops prices limit now =>
    obtain rfl := Option.some.inj said
    simp [only, List.filter_filter]
  | flatten prices now =>
    obtain rfl := Option.some.inj said
    simp [only, List.filter_filter]

variable [Number α]

/-! ### Signals -/

theorem close_unnamed (p : Position α) (price : α) (reason : CloseReason) (now : Timestamp)
    (remark : CloseRemark α) : p.unnamed.close price reason now remark =
      Position.unnamed <$> p.close price reason now remark := by
  have same : p.unnamed.pnlAt price = p.pnlAt price := rfl
  unfold Position.close
  rw [same]
  cases p.pnlAt price <;> rfl

section Signals

variable {b after : Book α} {s : Signal α} {price : α} {now : Timestamp} {result : TradeResult α}

/-- A signal on another instrument leaves the page as it is. -/
theorem Acted.page_of_other {instrument : String} (acted : Acted b s price now after result)
    (other : s.instrument ≠ instrument) : after.page instrument = b.page instrument := by
  cases acted with
  | invalid | already | nothing | poor => rfl
  | @opened quantity =>
    have elsewhere : (b.newPosition s quantity price now).instrument ≠ instrument := other
    simp [page, ofInstrument_cons_of_ne elsewhere]
  | @closed p q valid held opposing closes =>
    have named : p.instrument = s.instrument := key_of_find? held
    have renamed : q.instrument = p.instrument :=
      Position.Closes.instrument_eq ⟨_, _, _, _, closes⟩
    rw [← named] at other
    have elsewhere : q.instrument ≠ instrument := by rwa [renamed]
    simp [page, others, ofInstrument_filter_ne_of_ne other, ofInstrument_cons_of_ne elsewhere]

theorem page_openOn (b : Book α) (s : Signal α) (price : α) (now : Timestamp) :
    (fun out => out.1.page s.instrument) <$> (b.page s.instrument).openOn s price now =
      (fun out => out.1.page s.instrument) <$> b.openOn s price now := by
  have capital : (b.page s.instrument).capital = b.capital := rfl
  unfold openOn
  rw [capital]
  cases Number.whole (b.capital / price) with
  | error fault => rfl
  | ok quantity =>
    dsimp only
    split
    · exact congrArg Except.ok (b.page_page s.instrument)
    · have here (b : Book α) : (b.newPosition s quantity price now).instrument = s.instrument := rfl
      have same : ((b.page s.instrument).newPosition s quantity price now).unnamed =
          (b.newPosition s quantity price now).unnamed := by
        simp only [Position.unnamed, newPosition]
      refine congrArg Except.ok ?_
      simpa [page, ofInstrument_cons_of_eq (here _)] using same

theorem page_closeOn {p : Position α} (here : p.instrument = s.instrument) (b : Book α)
    (price : α) (now : Timestamp) :
    (fun out => out.1.page s.instrument) <$>
        (b.page s.instrument).closeOn p.unnamed s price now =
      (fun out => out.1.page s.instrument) <$> b.closeOn p s price now := by
  unfold closeOn
  rw [close_unnamed]
  cases closes : p.close price .signal now (.opposing s.direction s.id) with
  | error fault => rfl
  | ok q =>
    have renamed : q.instrument = p.instrument :=
      Position.Closes.instrument_eq ⟨_, _, _, _, closes⟩
    rw [here] at renamed
    refine congrArg Except.ok ?_
    simp [page, others, here, ofInstrument_filter_ne, ofInstrument_cons_of_eq renamed,
      ofInstrument_cons_of_eq (p := q.unnamed) renamed]

/-- The page after a signal on its instrument follows from the page before it. -/
theorem page_act (b : Book α) (s : Signal α) (price : α) (now : Timestamp) :
    (fun out => out.1.page s.instrument) <$> (b.page s.instrument).act s price now =
      (fun out => out.1.page s.instrument) <$> b.act s price now := by
  have short : (b.page s.instrument).allowShort = b.allowShort := rfl
  unfold act
  rw [position?_page, short]
  split
  · cases held : b.position? s.instrument with
    | none =>
      dsimp only [Option.map_none]
      split
      · exact congrArg Except.ok (b.page_page s.instrument)
      · exact b.page_openOn s price now
    | some p =>
      have here : p.instrument = s.instrument := key_of_find? held
      have direction : p.unnamed.direction = p.direction := rfl
      dsimp only [Option.map_some]
      rw [direction]
      split
      · exact congrArg Except.ok (b.page_page s.instrument)
      · exact page_closeOn here b price now
  · exact congrArg Except.ok (b.page_page s.instrument)

end Signals

/-! ### Sweeps -/

section Sweeps

variable {rule rule' : Position α → Except TradingFault (Option (Position α))}
  {instrument : String} {prices : Prices α} {limit : α} {now : Timestamp} {p : Position α}
  {positions kept gone : List (Position α)}

theorem stopRule_unnamed (prices : Prices α) (limit : α) (now : Timestamp) (p : Position α) :
    stopRule prices limit now p.unnamed =
      Option.map Position.unnamed <$> stopRule prices limit now p := by
  unfold stopRule
  rw [Position.unnamed_instrument]
  cases prices.lookup p.instrument with
  | none => rfl
  | some price =>
    have valued : p.unnamed.pnlAt price = p.pnlAt price := rfl
    simp only [valued, close_unnamed]
    cases p.pnlAt price with
    | error fault => rfl
    | ok pnl =>
      by_cases lost : limit < -pnl
      · simp only [bind, Except.bind, lost, if_true]
        cases p.close price .stopLoss now (.lossExceeded (-pnl) limit) <;> rfl
      · simp [bind, Except.bind, lost, pure, Except.pure, Functor.map, Except.map]

theorem flattenRule_unnamed (prices : Prices α) (now : Timestamp) (p : Position α) :
    flattenRule prices now p.unnamed =
      Option.map Position.unnamed <$> flattenRule prices now p := by
  unfold flattenRule
  rw [Position.unnamed_instrument]
  cases prices.lookup p.instrument with
  | none => rfl
  | some price =>
    simp only [close_unnamed]
    cases p.close price .sessionEnd now .sessionEnd <;> rfl

/-- A sweep sorts the positions of an instrument by what its rule says about them. -/
theorem Swept.ofInstrument
    (closing : ∀ {p q : Position α}, rule p = .ok (some q) → p.Closes q)
    (natural : ∀ p : Position α, p.instrument = instrument →
      rule' p.unnamed = Option.map Position.unnamed <$> rule p)
    (swept : Swept rule positions kept gone) :
    Swept rule' (ofInstrument instrument positions) (ofInstrument instrument kept)
      (ofInstrument instrument gone) := by
  induction swept with
  | nil => exact .nil
  | @keep p rest kept gone stays _ ih =>
    by_cases here : p.instrument = instrument
    · rw [ofInstrument_cons_of_eq here, ofInstrument_cons_of_eq here]
      refine .keep ?_ ih
      rw [natural p here, stays]
      rfl
    · rwa [ofInstrument_cons_of_ne here, ofInstrument_cons_of_ne here]
  | @close p q rest kept gone closes _ ih =>
    have renamed := (closing closes).instrument_eq
    by_cases here : p.instrument = instrument
    · rw [ofInstrument_cons_of_eq here, ofInstrument_cons_of_eq (renamed.trans here)]
      refine .close ?_ ih
      rw [natural p here, closes]
      rfl
    · rw [ofInstrument_cons_of_ne here, ofInstrument_cons_of_ne (renamed ▸ here)]
      exact ih

/-- The page after a sweep that succeeds follows from the page before it. -/
theorem page_closeBy {b after : Book α}
    (closing : ∀ {p q : Position α}, rule p = .ok (some q) → p.Closes q)
    (natural : ∀ p : Position α, p.instrument = instrument →
      rule' p.unnamed = Option.map Position.unnamed <$> rule p)
    (sweeps : b.closeBy rule = .ok (after, gone)) :
    (fun out => out.1.page instrument) <$> (b.page instrument).closeBy rule' =
      .ok (after.page instrument) := by
  obtain ⟨kept, swept, rfl⟩ := closeBy_eq_ok_iff.mp sweeps
  have apart : Swept rule' (b.page instrument).active _ _ := swept.ofInstrument closing natural
  refine map_eq_ok_iff.mpr ⟨(_, _), closeBy_eq_ok_iff.mpr ⟨_, apart, rfl⟩, ?_⟩
  simp [page]

end Sweeps

/-! ### Operations -/

section Operations

variable {b c : Book Float} {o part : Operation Float} {instrument : String}

/-- An operation that says nothing about an instrument leaves its page as it is. -/
theorem page_next_of_none (silent : o.only instrument = none) :
    (b.next o).page instrument = b.page instrument := by
  cases o with
  | act signal price now =>
    have other : signal.instrument ≠ instrument := by
      intro here
      simp [Operation.only, here] at silent
    have step := step_next b (.act signal price now)
    generalize b.next (.act signal price now) = after at step ⊢
    cases step with
    | failed => rfl
    | acted acts => exact acts.page_of_other other
  | scanStops | flatten => cases silent

/-- Operations that fail together and leave the same page otherwise leave the same page. -/
theorem page_next_congr (same : (·.page instrument) <$> (b.page instrument).perform part =
      (·.page instrument) <$> b.perform o) :
    ((b.page instrument).next part).page instrument = (b.next o).page instrument := by
  unfold next
  cases apart : (b.page instrument).perform part with
  | error fault =>
    cases whole : b.perform o with
    | error other => exact b.page_page instrument
    | ok after => simp [apart, whole, Functor.map, Except.map] at same
  | ok left =>
    cases whole : b.perform o with
    | error other => simp [apart, whole, Functor.map, Except.map] at same
    | ok after => simpa [apart, whole, Functor.map, Except.map] using same

/-- The page after an operation follows from the page before it and from what the operation says
about the instrument. A sweep that failed on another instrument would leave this one open as well,
so every open position needs a result. -/
theorem page_next_of_some (valued : b.Valued) (said : o.only instrument = some part) :
    ((b.page instrument).next part).page instrument = (b.next o).page instrument := by
  apply page_next_congr
  cases o with
  | act signal price now =>
    by_cases here : signal.instrument = instrument
    · obtain rfl : Operation.act signal price now = part := by
        simpa [Operation.only, here] using said
      subst here
      simpa [perform] using b.page_act signal price now
    · simp [Operation.only, here] at said
  | scanStops prices limit now =>
    obtain rfl := Option.some.inj said
    obtain ⟨after, gone, scans⟩ := valued.exists_scanStops prices limit now
    have natural : ∀ p : Position Float, p.instrument = instrument →
        stopRule (prices.filter (·.1 == instrument)) limit now p.unnamed =
          Option.map Position.unnamed <$> stopRule prices limit now p := by
      rintro p rfl
      rw [stopRule_unnamed, stopRule_congr (lookup_filter prices p.instrument)]
    have swept : (fun out => out.1.page instrument) <$> (b.page instrument).scanStops
        (prices.filter (·.1 == instrument)) limit now = .ok (after.page instrument) :=
      page_closeBy closes_of_stopRule natural scans
    simpa [perform, scans] using swept
  | flatten prices now =>
    obtain rfl := Option.some.inj said
    obtain ⟨after, gone, flattens⟩ := valued.exists_flatten prices now
    have natural : ∀ p : Position Float, p.instrument = instrument →
        flattenRule (prices.filter (·.1 == instrument)) now p.unnamed =
          Option.map Position.unnamed <$> flattenRule prices now p := by
      rintro p rfl
      rw [flattenRule_unnamed, flattenRule_congr (lookup_filter prices p.instrument)]
    have swept : (fun out => out.1.page instrument) <$> (b.page instrument).flatten
        (prices.filter (·.1 == instrument)) now = .ok (after.page instrument) :=
      page_closeBy closes_of_flattenRule natural flattens
    simpa [perform, flattens] using swept

/-- Runs from the same page leave the same page, one of all operations and one of what they say
about the instrument. -/
theorem page_after (valued : b.Valued) (valued' : c.Valued)
    (same : b.page instrument = c.page instrument) (operations : List (Operation Float)) :
    (b.after operations).page instrument =
      (c.after (operations.filterMap (·.only instrument))).page instrument := by
  induction operations generalizing b c with
  | nil => exact same
  | cons o rest ih =>
    have later := valued.step (step_next b o)
    cases said : o.only instrument with
    | none =>
      rw [List.filterMap_cons_none said]
      exact ih later valued' ((page_next_of_none said).trans same)
    | some part =>
      rw [List.filterMap_cons_some said]
      refine ih later (valued'.step (step_next c part)) ?_
      rw [← page_next_of_some valued said, same,
        page_next_of_some valued' (Operation.only_of_only said)]

/-- **Instruments are isolated.** After any operations on a new book, also failing ones, the open
position of an instrument and its closed positions are those after what the operations say about
the instrument alone, apart from the identifiers. -/
theorem instruments_isolated (l : Limits Float) (serial serial' : Nat)
    (operations : List (Operation Float)) (instrument : String) :
    let whole := (Book.ofLimits l serial).after operations
    let alone := (Book.ofLimits l serial').after (operations.filterMap (·.only instrument))
    (whole.position? instrument).map Position.unnamed =
        (alone.position? instrument).map Position.unnamed ∧
      ofInstrument instrument whole.closed = ofInstrument instrument alone.closed := by
  intro whole alone
  have same : whole.page instrument = alone.page instrument :=
    page_after (valued_ofLimits l serial) (valued_ofLimits l serial') rfl operations
  constructor
  · rw [← position?_page, ← position?_page, same]
  · exact congrArg Book.closed same

end Operations

end Book

end VolatilityDesk
