import Mathlib.Data.List.Forall2
import Mathlib.Data.List.Nodup
import VolatilityDesk.Journal
import VolatilityDesk.Proofs.Book.Sound
/-!
# What the journal writes

The two tables of the journal read back as lists: `KeepsFirst` relates the rows of signals to
everything that was recorded, of which the first with an identifier counts, and `PositionRow.Tells`
relates the rows of positions to a list in which a position that is recorded again takes the place
of the one with its identifier. A recording that succeeds keeps these relations, and touches one
table only.

* `KeepsFirst.recordSignals` — recorded signals add the first of each identifier.
* `tells_recordPositions` — recorded positions take the places of those with their identifiers.
-/

namespace VolatilityDesk

/-- The row has the content of the signal, its numbers as they are stored. -/
structure SignalRow.Tells (row : SignalRow) (s : Signal Float) : Prop where
  signalId : row.signalId = s.id
  instrument : row.instrument = s.instrument
  direction : row.direction = s.direction.text
  entry : Journal.stored s.entry = some row.entry
  target : Journal.stored s.target = some row.target
  stop : Journal.stored s.stop = some row.stop
  expectedReturn : Journal.stored s.expectedReturn = some row.expectedReturn
  confidence : Journal.stored s.confidence = some row.confidence
  timeframe : row.timeframe = s.timeframe
  indicators : row.indicators = s.indicators.record.line
  createdAt : row.createdAt = s.createdAt.text

/-- The row has what was recorded at the opening of the position. -/
structure PositionRow.TellsOpening (row : PositionRow) (p : Position Float) : Prop where
  positionId : row.positionId = p.id
  signalId : row.signalId = p.signalId
  instrument : row.instrument = p.instrument
  direction : row.direction = p.direction.text
  quantity : row.quantity = p.quantity
  entry : row.entry = p.entry
  openedAt : row.openedAt = p.openedAt.text

/-- The row has what is recorded at the closing of the position, its numbers as they are stored. -/
structure PositionRow.TellsClosing (row : PositionRow) (p : Position Float) : Prop where
  exit : row.exit = p.exit.bind Journal.stored
  realized : row.realized = p.realized.bind Journal.stored
  closeReason : row.closeReason = p.closeReason.map CloseReason.text
  closeDetail : row.closeDetail = p.closeRemark.text
  closedAt : row.closedAt = p.closedAt.map Timestamp.text

/-- The row has the content of the position. -/
structure PositionRow.Tells (row : PositionRow) (p : Position Float) : Prop where
  opening : row.TellsOpening p
  closing : row.TellsClosing p

namespace Journal

/-! ### Recordings one after the other -/

section Each

variable {β : Type} {record : Journal → β → Except JournalFault Nat × Journal} {j after : Journal}
  {ids : List Nat}

theorem recordEach_nil_eq_ok (records : recordEach record j [] = (.ok ids, after)) :
    after = j := by
  cases records
  rfl

theorem recordEach_cons_eq_ok {x : β} {rest : List β}
    (records : recordEach record j (x :: rest) = (.ok ids, after)) :
    ∃ id others middle, record j x = (.ok id, middle) ∧
      recordEach record middle rest = (.ok others, after) := by
  rw [recordEach] at records
  rcases first : record j x with ⟨out, middle⟩
  cases out with
  | error fault => simp [first] at records
  | ok id =>
    rcases later : recordEach record middle rest with ⟨out, last⟩
    cases out with
    | error fault => simp [first, later] at records
    | ok others =>
      simp only [first, later] at records
      cases records
      exact ⟨id, others, middle, rfl, later⟩

end Each

/-! ### Signals -/

/-- The rows are one for each identifier that was seen, with the content of the first signal that
had it. -/
structure KeepsFirst (j : Journal) (seen : List (Signal Float)) : Prop where
  once : (j.signals.map (·.signalId)).Nodup
  first : ∀ row ∈ j.signals, ∃ s, seen.find? (·.id == row.signalId) = some s ∧ row.Tells s
  present : ∀ s ∈ seen, s.id ∈ j.signals.map (·.signalId)

section Signals

variable {j after : Journal} {s : Signal Float} {seen : List (Signal Float)}

theorem KeepsFirst.nil (empty : j.signals = []) : j.KeepsFirst [] := by
  constructor <;> simp [empty]

theorem KeepsFirst.congr (keeps : j.KeepsFirst seen) (same : after.signals = j.signals) :
    after.KeepsFirst seen :=
  ⟨by rw [same]; exact keeps.once, by rw [same]; exact keeps.first,
    by rw [same]; exact keeps.present⟩

theorem tells_of_signalRow? {id : Nat} {row : SignalRow} (made : signalRow? id s = some row) :
    row.Tells s := by
  simp only [signalRow?, Option.bind_eq_bind, Option.bind_eq_some_iff] at made
  obtain ⟨entry, hasEntry, target, hasTarget, stop, hasStop, expected, hasExpected, confidence,
    hasConfidence, same⟩ := made
  cases same
  exact ⟨rfl, rfl, rfl, hasEntry, hasTarget, hasStop, hasExpected, hasConfidence, rfl, rfl, rfl⟩

/-- A signal that is recorded was there already, or gets the last row. -/
theorem repeated_or_new {id : Nat} (records : j.recordSignal s = (.ok id, after)) :
    after.positions = j.positions ∧
      ((s.id ∈ j.signals.map (·.signalId) ∧ after.signals = j.signals) ∨
        (s.id ∉ j.signals.map (·.signalId) ∧
          ∃ row : SignalRow, row.Tells s ∧ after.signals = j.signals ++ [row])) := by
  unfold recordSignal at records
  have view : Journal.signal? { j with lastSignal := j.lastSignal + 1 } s.id = j.signal? s.id := rfl
  dsimp only at records
  rw [view] at records
  cases found : j.signal? s.id with
  | some row =>
    simp only [found] at records
    cases records
    exact ⟨rfl, .inl ⟨mem_map_of_find? found, rfl⟩⟩
  | none =>
    cases made : signalRow? (j.lastSignal + 1) s with
    | none => simp [found, made] at records
    | some row =>
      simp only [found, made] at records
      cases records
      exact ⟨rfl, .inr ⟨find?_eq_none_iff.mp found, row, tells_of_signalRow? made, rfl⟩⟩

theorem KeepsFirst.recordSignal {id : Nat} (keeps : j.KeepsFirst seen)
    (records : j.recordSignal s = (.ok id, after)) : after.KeepsFirst (seen ++ [s]) := by
  -- What was seen first stays what was seen first.
  have older : ∀ row ∈ j.signals,
      ∃ t, (seen ++ [s]).find? (·.id == row.signalId) = some t ∧ row.Tells t := by
    intro row inside
    obtain ⟨t, found, tells⟩ := keeps.first row inside
    exact ⟨t, by rw [List.find?_append, found]; rfl, tells⟩
  obtain ⟨-, ⟨there, same⟩ | ⟨absent, row, tells, same⟩⟩ := repeated_or_new records
  · refine
      { once := by rw [same]; exact keeps.once
        first := by rw [same]; exact older
        present := ?_ }
    intro t inside
    rw [same]
    rcases List.mem_append.mp inside with old | new
    · exact keeps.present t old
    · obtain rfl := List.mem_singleton.mp new
      exact there
  · have unseen : seen.find? (·.id == row.signalId) = none := by
      rw [List.find?_eq_none]
      intro t inside same
      have named : t.id = s.id := by simpa [tells.signalId] using same
      exact absent (named ▸ keeps.present t inside)
    refine
      { once := ?once
        first := ?first
        present := ?present }
    case once =>
      rw [same, List.map_append, List.map_singleton, tells.signalId,
        (List.perm_append_singleton _ _).nodup_iff, List.nodup_cons]
      exact ⟨absent, keeps.once⟩
    case first =>
      intro other inside
      rw [same] at inside
      rcases List.mem_append.mp inside with old | new
      · exact older other old
      · obtain rfl := List.mem_singleton.mp new
        refine ⟨s, ?_, tells⟩
        rw [List.find?_append, unseen]
        simp [tells.signalId]
    case present =>
      intro t inside
      rw [same, List.map_append, List.map_singleton, tells.signalId]
      rcases List.mem_append.mp inside with old | new
      · exact List.mem_append_left _ (keeps.present t old)
      · obtain rfl := List.mem_singleton.mp new
        exact List.mem_append_right _ (List.mem_singleton_self _)

theorem KeepsFirst.recordSignals {signals : List (Signal Float)} {ids : List Nat}
    (keeps : j.KeepsFirst seen) (records : j.recordSignals signals = (.ok ids, after)) :
    after.KeepsFirst (seen ++ signals) ∧ after.positions = j.positions := by
  unfold Journal.recordSignals at records
  induction signals generalizing j seen ids with
  | nil =>
    obtain rfl := recordEach_nil_eq_ok records
    rw [List.append_nil]
    exact ⟨keeps, rfl⟩
  | cons s rest ih =>
    obtain ⟨id, others, middle, first, later⟩ := recordEach_cons_eq_ok records
    obtain ⟨same, -⟩ := repeated_or_new first
    obtain ⟨last, still⟩ := ih (keeps.recordSignal first) later
    rw [List.append_assoc] at last
    exact ⟨last, still.trans same⟩

end Signals

/-! ### Positions -/

/-- The listed positions after another one was written: in the place of the one with its
identifier, or at the end. -/
def put (listed : List (Position Float)) (p : Position Float) : List (Position Float) :=
  if p.id ∈ listed.map (·.id) then listed.map fun q => if q.id = p.id then p else q
  else listed ++ [p]

section Put

variable {listed positions : List (Position Float)} {p q : Position Float}

theorem mem_put (inside : q ∈ put listed p) : q = p ∨ (q ∈ listed ∧ q.id ≠ p.id) := by
  unfold put at inside
  split at inside
  · obtain ⟨old, there, same⟩ := List.mem_map.mp inside
    split at same
    · exact .inl same.symm
    · rename_i apart
      obtain rfl := same
      exact .inr ⟨there, apart⟩
  · rename_i absent
    rcases List.mem_append.mp inside with old | new
    · refine .inr ⟨old, ?_⟩
      intro same
      exact absent (same ▸ List.mem_map_of_mem old)
    · exact .inl (List.mem_singleton.mp new)

theorem put_of_notMem (absent : p.id ∉ listed.map (·.id)) : put listed p = listed ++ [p] :=
  if_neg absent

theorem ids_put_of_mem (present : p.id ∈ listed.map (·.id)) :
    (put listed p).map (·.id) = listed.map (·.id) := by
  rw [put, if_pos present, List.map_map]
  apply List.map_congr_left
  intro q _
  by_cases same : q.id = p.id
  · simp [same]
  · simp [same]

/-- New positions are added at the end. -/
theorem foldl_put_of_nodup (distinct : ((listed ++ positions).map (·.id)).Nodup) :
    positions.foldl put listed = listed ++ positions := by
  induction positions generalizing listed with
  | nil => exact (List.append_nil _).symm
  | cons p rest ih =>
    have absent : p.id ∉ listed.map (·.id) := by
      rw [List.map_append, List.map_cons] at distinct
      exact (List.nodup_middle.mp distinct).notMem ∘ List.mem_append_left _
    rw [List.append_cons] at distinct
    rw [List.foldl_cons, put_of_notMem absent, ih distinct, ← List.append_cons]

theorem ids_foldl_put_of_mem (present : ∀ p ∈ positions, p.id ∈ listed.map (·.id)) :
    (positions.foldl put listed).map (·.id) = listed.map (·.id) := by
  induction positions generalizing listed with
  | nil => rfl
  | cons p rest ih =>
    have same := ids_put_of_mem (present p (.head _))
    rw [List.foldl_cons, ih, same]
    intro q inside
    rw [same]
    exact present q (.tail _ inside)

/-- What is listed at the end was written, or has an identifier that was not. -/
theorem mem_foldl_put (inside : q ∈ positions.foldl put listed) :
    q ∈ positions ∨ (q ∈ listed ∧ q.id ∉ positions.map (·.id)) := by
  induction positions generalizing listed with
  | nil => exact .inr ⟨inside, List.not_mem_nil⟩
  | cons p rest ih =>
    rcases ih inside with later | ⟨there, apart⟩
    · exact .inl (.tail _ later)
    · rcases mem_put there with rfl | ⟨old, other⟩
      · exact .inl (.head _)
      · refine .inr ⟨old, ?_⟩
        rw [List.map_cons, List.mem_cons, not_or]
        exact ⟨other, apart⟩

end Put

section Positions

variable {j after : Journal} {p q : Position Float} {row closing : PositionRow}
  {rows : List PositionRow} {listed positions : List (Position Float)}

/-- The position can be recorded. -/
def admits (p : Position Float) : Bool := Word.holds64 p.quantity && (stored p.entry).isSome

/-- A row with another closing, if it is the row of the position. -/
def closeIn (p : Position Float) (closing row : PositionRow) : PositionRow :=
  if row.positionId = p.id then PositionRow.withClosing row closing else row

/-- A journal after the row of a position was written into it: the row takes the next number, and
stands for itself unless the identifier has a row. -/
def withRow (j : Journal) (p : Position Float) (row : PositionRow) : Journal :=
  { j with
    lastPosition := j.lastPosition + 1
    positions :=
      if p.id ∈ j.positions.map (·.positionId) then j.positions.map (closeIn p row)
      else j.positions ++ [row] }

/-- A position that cannot be recorded leaves the journal as it is; any other one gets a row. -/
theorem recordPosition_cases (j : Journal) (p : Position Float) :
    (admits p = false ∧ ∃ fault, j.recordPosition p = (.error fault, j)) ∨
      admits p = true ∧ ∃ id entry, stored p.entry = some entry ∧
        j.recordPosition p = (.ok id, j.withRow p (positionRow (j.lastPosition + 1) p entry)) := by
  unfold recordPosition admits
  split
  case isFalse large => exact .inl ⟨by simp [large], _, rfl⟩
  case isTrue fits =>
    cases priced : stored p.entry with
    | none => exact .inl ⟨by simp, _, rfl⟩
    | some entry =>
      refine .inr ⟨by simp [fits], ?_⟩
      cases found : j.position? p.id with
      | some old =>
        refine ⟨old.id, entry, rfl, ?_⟩
        rw [withRow, if_pos (mem_map_of_find? found)]
        simp only [beq_iff_eq]
        rfl
      | none =>
        refine ⟨j.lastPosition + 1, entry, rfl, ?_⟩
        rw [withRow, if_neg (find?_eq_none_iff.mp found)]

/-- A position that is recorded gets the last row, or replaces the closing in its row. -/
theorem written_of_recordPosition {id : Nat} (records : j.recordPosition p = (.ok id, after)) :
    ∃ entry, stored p.entry = some entry ∧
      after = j.withRow p (positionRow (j.lastPosition + 1) p entry) := by
  rcases j.recordPosition_cases p with ⟨-, fault, refuses⟩ | ⟨-, id', entry, priced, writes⟩
  · cases refuses.symm.trans records
  · cases writes.symm.trans records
    exact ⟨entry, priced, rfl⟩

/-- The row of a position tells it. -/
theorem tells_positionRow (number : Nat) (p : Position Float) :
    (positionRow number p p.entry).Tells p :=
  ⟨⟨rfl, rfl, rfl, rfl, rfl, rfl, rfl⟩, ⟨rfl, rfl, rfl, rfl, rfl⟩⟩

/-- A row with another closing tells the position that was closed so. -/
theorem tells_withClosing (tells : row.Tells q) (same : q.asOpened = p.asOpened)
    (told : closing.Tells p) : (PositionRow.withClosing row closing).Tells p := by
  have opening := tells.opening
  exact
    { opening :=
        { positionId := opening.positionId.trans (congrArg Position.id same :)
          signalId := opening.signalId.trans (congrArg Position.signalId same :)
          instrument := opening.instrument.trans (congrArg Position.instrument same :)
          direction := opening.direction.trans (congrArg (·.direction.text) same :)
          quantity := opening.quantity.trans (congrArg Position.quantity same :)
          entry := opening.entry.trans (congrArg Position.entry same :)
          openedAt := opening.openedAt.trans (congrArg (·.openedAt.text) same :) }
      closing := ⟨told.closing.exit, told.closing.realized, told.closing.closeReason,
        told.closing.closeDetail, told.closing.closedAt⟩ }

theorem ids_of_tells (tells : List.Forall₂ PositionRow.Tells rows listed) :
    rows.map (·.positionId) = listed.map (·.id) := by
  induction tells with
  | nil => rfl
  | cons here _ ih => rw [List.map_cons, List.map_cons, here.opening.positionId, ih]

/-- Rows with the closing of a position in the place of its own tell the list with the position in
that place. -/
theorem tells_replaced (told : closing.Tells p)
    (same : ∀ q ∈ listed, q.id = p.id → q.asOpened = p.asOpened)
    (tells : List.Forall₂ PositionRow.Tells rows listed) :
    List.Forall₂ PositionRow.Tells
      (rows.map (closeIn p closing)) (listed.map fun q => if q.id = p.id then p else q) := by
  induction tells with
  | nil => exact .nil
  | @cons row q rows listed here _ ih =>
    refine .cons ?_ (ih fun other inside => same other (.tail _ inside))
    dsimp only
    rw [closeIn, here.opening.positionId]
    split
    · rename_i named
      exact tells_withClosing here (same q (.head _) named) told
    · exact here

/-- Recording a position of which no other opening is listed writes it into the list. -/
theorem tells_recordPosition {id : Nat} (records : j.recordPosition p = (.ok id, after))
    (number : stored p.entry = some p.entry)
    (same : ∀ q ∈ listed, q.id = p.id → q.asOpened = p.asOpened)
    (tells : List.Forall₂ PositionRow.Tells j.positions listed) :
    List.Forall₂ PositionRow.Tells after.positions (put listed p) := by
  obtain ⟨entry, priced, rfl⟩ := written_of_recordPosition records
  obtain rfl : p.entry = entry := Option.some.inj (number.symm.trans priced)
  have told := tells_positionRow (j.lastPosition + 1) p
  rw [withRow, ids_of_tells tells, put]
  split
  · exact tells_replaced told same tells
  · exact List.rel_append tells (.cons told .nil)

/-- No two of the positions have one identifier and different openings. -/
def Consistent (positions : List (Position Float)) : Prop :=
  ∀ p ∈ positions, ∀ q ∈ positions, p.id = q.id → p.asOpened = q.asOpened

theorem tells_recordPositions {ids : List Nat}
    (records : j.recordPositions positions = (.ok ids, after))
    (numbers : ∀ p ∈ positions, stored p.entry = some p.entry)
    (consistent : Consistent (listed ++ positions))
    (tells : List.Forall₂ PositionRow.Tells j.positions listed) :
    after.signals = j.signals ∧
      List.Forall₂ PositionRow.Tells after.positions (positions.foldl put listed) := by
  unfold recordPositions at records
  induction positions generalizing j listed ids with
  | nil =>
    obtain rfl := recordEach_nil_eq_ok records
    exact ⟨rfl, tells⟩
  | cons p rest ih =>
    obtain ⟨id, others, middle, first, later⟩ := recordEach_cons_eq_ok records
    have frame : middle.signals = j.signals := by
      obtain ⟨entry, -, rfl⟩ := written_of_recordPosition first
      rfl
    have written := tells_recordPosition first (numbers p (.head _))
      (fun q inside => consistent q (by simp [inside]) p (by simp)) tells
    -- What is listed after the first writing was listed or written before.
    have fewer : put listed p ++ rest ⊆ listed ++ p :: rest := by
      intro q inside
      rcases List.mem_append.mp inside with listed' | unwritten
      · rcases mem_put listed' with rfl | ⟨old, -⟩
        · simp
        · simp [old]
      · simp [unwritten]
    obtain ⟨still, told⟩ := ih later (fun q inside => numbers q (.tail _ inside))
      (fun q there r here => consistent q (fewer there) r (fewer here)) written
    exact ⟨still.trans frame, told⟩

end Positions

end Journal

end VolatilityDesk
