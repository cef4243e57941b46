import VolatilityDesk.Proofs.Journal.Recording
import VolatilityDesk.Proofs.Time.Order
/-!
# The last closed positions

A journal into which positions were recorded has one row for each of them, numbered in the order of
their first recording, with the closing that was recorded last. Asked for the last closed positions
it sorts the rows by the texts of their closing times. So closings come in the order of what the
clocks showed and, where these showed the same, of the offsets as they are written; that is the
order of the instants among closings that were recorded with one offset, and not in general.

* `last_closed_by_reading` — which closings are listed, and in which order.
* `not_always_latest_first` — the order is not that of the instants.
* `keepsLast_ofPositions` — the rows of a journal that positions were recorded in.
-/

namespace VolatilityDesk.Journal

/-! ### What a journal keeps of positions -/

/-- A journal into which positions were recorded one after the other. One that cannot be recorded
leaves it as it is. -/
def ofPositions (positions : List (Position Float)) : Journal :=
  positions.foldl (fun j p => (j.recordPosition p).2) {}

/-- The position that was recorded last with an identifier. -/
def lastRecorded? (positions : List (Position Float)) (positionId : String) :
    Option (Position Float) :=
  positions.reverse.find? fun p => admits p && p.id == positionId

/-- When the position of a row was closed, as recorded last. -/
def closingOf? (positions : List (Position Float)) (row : PositionRow) : Option Timestamp :=
  (lastRecorded? positions row.positionId).bind (·.closedAt)

/-- The rows are one for each position that was recorded, with ascending numbers and with the
closing that was recorded last. -/
structure KeepsLast (j : Journal) (positions : List (Position Float)) : Prop where
  once : (j.positions.map (·.positionId)).Nodup
  ascending : j.positions.Pairwise fun a b => a.id < b.id
  below : ∀ row ∈ j.positions, row.id ≤ j.lastPosition
  present : ∀ p ∈ positions, admits p = true → p.id ∈ j.positions.map (·.positionId)
  closing : ∀ row ∈ j.positions,
    ∃ p, lastRecorded? positions row.positionId = some p ∧ row.TellsClosing p

section Recording

variable {j : Journal} {p : Position Float} {positions : List (Position Float)}

section Closing

variable {closing row : PositionRow}

theorem frame_closeIn (p : Position Float) (closing row : PositionRow) :
    (closeIn p closing row).id = row.id ∧
      (closeIn p closing row).positionId = row.positionId := by
  unfold closeIn
  split
  · exact ⟨rfl, rfl⟩
  · exact ⟨rfl, rfl⟩

theorem tellsClosing_closeIn (told : closing.TellsClosing p) (same : row.positionId = p.id) :
    (closeIn p closing row).TellsClosing p := by
  rw [closeIn, if_pos same]
  exact ⟨told.exit, told.realized, told.closeReason, told.closeDetail, told.closedAt⟩

end Closing

theorem lastRecorded?_append (positions : List (Position Float)) (p : Position Float)
    (positionId : String) : lastRecorded? (positions ++ [p]) positionId =
      if admits p = true ∧ p.id = positionId then some p
      else lastRecorded? positions positionId := by
  rw [lastRecorded?, List.reverse_append, List.reverse_singleton, List.singleton_append,
    List.find?_cons]
  by_cases last : admits p = true ∧ p.id = positionId
  · simp [last]
  · have other : (admits p && p.id == positionId) = false := by simpa using last
    rw [other, if_neg last]
    rfl

theorem KeepsLast.nil : KeepsLast {} [] := by
  constructor <;> simp

/-- A position that cannot be recorded changes nothing. -/
theorem KeepsLast.refuse (keeps : j.KeepsLast positions) (refused : admits p = false) :
    j.KeepsLast (positions ++ [p]) where
  once := keeps.once
  ascending := keeps.ascending
  below := keeps.below
  present := by
    intro q inside admitted
    rcases List.mem_append.mp inside with old | new
    · exact keeps.present q old admitted
    · obtain rfl := List.mem_singleton.mp new
      cases refused.symm.trans admitted
  closing := by
    intro row inside
    have same : ¬ (admits p = true ∧ p.id = row.positionId) := by simp [refused]
    rw [lastRecorded?_append, if_neg same]
    exact keeps.closing row inside

/-- What is recorded again gets the closing that is recorded last. -/
theorem KeepsLast.replace {closing : PositionRow} (keeps : j.KeepsLast positions)
    (admitted : admits p = true) (told : closing.TellsClosing p)
    (there : p.id ∈ j.positions.map (·.positionId)) :
    KeepsLast { j with
      lastPosition := j.lastPosition + 1
      positions := j.positions.map (closeIn p closing) } (positions ++ [p]) := by
  have frame := frame_closeIn p closing
  have names : (j.positions.map (closeIn p closing)).map (·.positionId) =
      j.positions.map (·.positionId) := by
    rw [List.map_map]
    exact List.map_congr_left fun row _ => (frame row).2
  refine
    { once := names ▸ keeps.once
      ascending := ?ascending
      below := ?below
      present := ?present
      closing := ?closing }
  case ascending =>
    refine List.pairwise_map.mpr (keeps.ascending.imp ?_)
    intro a b less
    rw [(frame a).1, (frame b).1]
    exact less
  case below =>
    intro row inside
    obtain ⟨old, there, rfl⟩ := List.mem_map.mp inside
    rw [(frame old).1]
    exact Nat.le_succ_of_le (keeps.below old there)
  case present =>
    intro q inside admitted'
    rw [names]
    rcases List.mem_append.mp inside with old | new
    · exact keeps.present q old admitted'
    · obtain rfl := List.mem_singleton.mp new
      exact there
  case closing =>
    intro row inside
    obtain ⟨old, there, rfl⟩ := List.mem_map.mp inside
    rw [lastRecorded?_append, (frame old).2]
    by_cases same : old.positionId = p.id
    · rw [if_pos ⟨admitted, same.symm⟩]
      exact ⟨p, rfl, tellsClosing_closeIn told same⟩
    · have untouched : closeIn p closing old = old := if_neg same
      rw [if_neg fun both => same both.2.symm, untouched]
      exact keeps.closing old there

/-- What is recorded for the first time gets a row with the next number. -/
theorem KeepsLast.append {row : PositionRow} (keeps : j.KeepsLast positions)
    (admitted : admits p = true) (numbered : row.id = j.lastPosition + 1)
    (named : row.positionId = p.id) (told : row.TellsClosing p)
    (absent : p.id ∉ j.positions.map (·.positionId)) :
    KeepsLast { j with
      lastPosition := j.lastPosition + 1
      positions := j.positions ++ [row] } (positions ++ [p]) := by
  refine
    { once := ?once
      ascending := ?ascending
      below := ?below
      present := ?present
      closing := ?closing }
  case once =>
    rw [List.map_append, List.map_singleton, named, (List.perm_append_singleton _ _).nodup_iff,
      List.nodup_cons]
    exact ⟨absent, keeps.once⟩
  case ascending =>
    refine List.pairwise_append.mpr ⟨keeps.ascending, List.pairwise_singleton _ _, ?_⟩
    intro a old b new
    obtain rfl := List.mem_singleton.mp new
    rw [numbered]
    exact Nat.lt_succ_of_le (keeps.below a old)
  case below =>
    intro other inside
    rcases List.mem_append.mp inside with old | new
    · exact Nat.le_succ_of_le (keeps.below other old)
    · obtain rfl := List.mem_singleton.mp new
      exact Nat.le_of_eq numbered
  case present =>
    intro q inside admitted'
    rw [List.map_append, List.map_singleton, named]
    rcases List.mem_append.mp inside with old | new
    · exact List.mem_append_left _ (keeps.present q old admitted')
    · obtain rfl := List.mem_singleton.mp new
      exact List.mem_append_right _ (List.mem_singleton_self _)
  case closing =>
    intro other inside
    rw [lastRecorded?_append]
    rcases List.mem_append.mp inside with old | new
    · have apart : p.id ≠ other.positionId := by
        intro same
        exact absent (same ▸ List.mem_map_of_mem old)
      rw [if_neg fun both => apart both.2]
      exact keeps.closing other old
    · obtain rfl := List.mem_singleton.mp new
      rw [if_pos ⟨admitted, named.symm⟩]
      exact ⟨p, rfl, told⟩

theorem KeepsLast.admit {row : PositionRow} (keeps : j.KeepsLast positions)
    (admitted : admits p = true) (numbered : row.id = j.lastPosition + 1)
    (named : row.positionId = p.id) (told : row.TellsClosing p) :
    (j.withRow p row).KeepsLast (positions ++ [p]) := by
  unfold withRow
  split
  · rename_i there
    exact keeps.replace admitted told there
  · rename_i absent
    exact keeps.append admitted numbered named told absent

theorem KeepsLast.recordPosition (keeps : j.KeepsLast positions) (p : Position Float) :
    (j.recordPosition p).2.KeepsLast (positions ++ [p]) := by
  rcases j.recordPosition_cases p with ⟨refused, fault, refuses⟩ | ⟨admitted, id, entry, -, writes⟩
  · rw [refuses]
    exact keeps.refuse refused
  · rw [writes]
    exact keeps.admit admitted rfl rfl ⟨rfl, rfl, rfl, rfl, rfl⟩

/-- What a journal keeps of positions that were recorded one after the other. -/
theorem keepsLast_ofPositions (positions : List (Position Float)) :
    (ofPositions positions).KeepsLast positions := by
  induction positions using List.reverseRecOn with
  | nil => exact .nil
  | append_singleton earlier p ih =>
    rw [ofPositions, List.foldl_append]
    exact ih.recordPosition p

end Recording

/-! ### The order of the rows -/

section Order

variable {a b : PositionRow} {s t : Timestamp} {rows : List PositionRow}

theorem closedLater_iff : closedLater a b = true ↔
    b.closedAt.getD "" < a.closedAt.getD "" ∨
      b.closedAt.getD "" = a.closedAt.getD "" ∧ b.id ≤ a.id := by
  unfold closedLater
  split
  · rename_i same
    simp [same]
  · rename_i apart
    rw [decide_eq_true_iff, le_iff_lt_or_eq]
    simp [Ne.symm apart]

/-- The rows are sorted, and none of them is lost or listed twice. -/
theorem pairwise_closedLater (rows : List PositionRow) :
    (rows.mergeSort closedLater).Pairwise fun a b => closedLater a b = true := by
  apply List.pairwise_mergeSort
  · intro a b c first second
    rw [closedLater_iff] at first second ⊢
    rcases first with first | ⟨first, number⟩
    · rcases second with second | ⟨second, -⟩
      · exact .inl (lt_trans second first)
      · exact .inl (second ▸ first)
    · rcases second with second | ⟨second, number'⟩
      · exact .inl (first ▸ second)
      · exact .inr ⟨second.trans first, Nat.le_trans number' number⟩
  · intro a b
    rw [Bool.or_eq_true, closedLater_iff, closedLater_iff]
    rcases lt_trichotomy (b.closedAt.getD "") (a.closedAt.getD "") with before | same | after
    · exact .inl (.inl before)
    · rcases Nat.le_total b.id a.id with below | above
      · exact .inl (.inr ⟨same, below⟩)
      · exact .inr (.inr ⟨same.symm, above⟩)
    · exact .inr (.inl after)

/-- The closing of a row comes before that of another one: the clock showed more at it, or as much
and its offset has the later text, or the two have one text and its row has the higher number. -/
def Precedes (s t : Timestamp) (a b : PositionRow) : Prop :=
  t.wall < s.wall ∨ t.wall = s.wall ∧
    (t.zoneText < s.zoneText ∨ t.zoneText = s.zoneText ∧ b.id < a.id)

theorem precedes_of_closedLater (left : Timestamp.inRange s.wall = true)
    (right : Timestamp.inRange t.wall = true) (first : a.closedAt = some s.text)
    (second : b.closedAt = some t.text) (apart : a.id ≠ b.id) (later : closedLater a b = true) :
    Precedes s t a b := by
  rw [closedLater_iff, first, second, Option.getD_some, Option.getD_some,
    Timestamp.text_lt_iff right left, Timestamp.text_eq_iff right left] at later
  rcases later with (shown | ⟨shown, zones⟩) | ⟨⟨shown, zones⟩, number⟩
  · exact .inl shown
  · exact .inr ⟨shown, .inl zones⟩
  · exact .inr ⟨shown, .inr ⟨zones, Nat.lt_of_le_of_ne number apart.symm⟩⟩

/-- On clocks of one offset the closing that comes first is the later one, or its row has the higher
number. -/
theorem Precedes.instant_le (precedes : Precedes s t a b) (same : s.offset = t.offset) :
    t.instant < s.instant ∨ t.instant = s.instant ∧ b.id < a.id := by
  have zones : t.zoneText = s.zoneText := by rw [Timestamp.zoneText, Timestamp.zoneText, same]
  rw [Timestamp.instant, Timestamp.instant, same]
  rcases precedes with shown | ⟨shown, less | ⟨-, number⟩⟩
  · exact .inl (by omega)
  · exact absurd zones (ne_of_lt less)
  · exact .inr ⟨by omega, number⟩

end Order

/-! ### Answers -/

/-- The rows of all closed positions, or of those of one instrument, in the order of their
closings. -/
structure Listing (positions : List (Position Float)) (instrument : String)
    (rows : List PositionRow) : Prop where
  once : (rows.map (·.positionId)).Nodup
  mem_iff : ∀ row, row ∈ rows ↔ row ∈ (ofPositions positions).positions ∧
    (closingOf? positions row).isSome = true ∧ (instrument = "" ∨ row.instrument = instrument)
  ordered : rows.Pairwise fun a b => ∃ s t, closingOf? positions a = some s ∧
    closingOf? positions b = some t ∧ Precedes s t a b

section Answers

variable {positions : List (Position Float)} {instrument : String} {row : PositionRow}

theorem KeepsLast.closedAt_eq {j : Journal} (keeps : j.KeepsLast positions)
    (inside : row ∈ j.positions) :
    row.closedAt = (closingOf? positions row).map Timestamp.text := by
  obtain ⟨p, last, told⟩ := keeps.closing row inside
  rw [told.closedAt, closingOf?, last]
  rfl

/-- The closing time of a row was recorded. -/
theorem exists_of_closingOf? {t : Timestamp} (closed : closingOf? positions row = some t) :
    ∃ p ∈ positions, p.closedAt = some t := by
  obtain ⟨p, last, same⟩ := Option.bind_eq_some_iff.mp closed
  exact ⟨p, List.mem_reverse.mp (List.mem_of_find?_eq_some last), same⟩

/-- The closed rows of an instrument, or all, as they stand in a journal. -/
def closedRowsOf (j : Journal) (instrument : String) : List PositionRow :=
  j.closedRows.filter fun r => instrument.isEmpty || r.instrument == instrument

theorem lastClosed_eq {limit : Nat} (fits : Word.holds64 limit = true) (j : Journal)
    (instrument : String) : j.lastClosed instrument limit =
      .ok (((j.closedRowsOf instrument).mergeSort closedLater).take limit) := by
  have positive : ¬ ((limit : Int) < 0) := by omega
  unfold lastClosed
  rw [if_pos fits]
  simp only [if_neg positive, Int.toNat_natCast]
  rfl

theorem sublist_closedRowsOf (j : Journal) (instrument : String) :
    (j.closedRowsOf instrument).Sublist j.positions :=
  List.filter_sublist.trans List.filter_sublist

theorem KeepsLast.mem_closedRowsOf_iff {j : Journal} (keeps : j.KeepsLast positions) :
    row ∈ j.closedRowsOf instrument ↔ row ∈ j.positions ∧
      (closingOf? positions row).isSome = true ∧
      (instrument = "" ∨ row.instrument = instrument) := by
  have closed (inside : row ∈ j.positions) :
      row.closedAt.isSome = (closingOf? positions row).isSome := by
    rw [keeps.closedAt_eq inside, Option.isSome_map]
  rw [closedRowsOf, closedRows, List.mem_filter, List.mem_filter, Bool.or_eq_true,
    String.isEmpty_iff, beq_iff_eq, and_assoc]
  constructor
  · rintro ⟨inside, some_time, named⟩
    exact ⟨inside, closed inside ▸ some_time, named⟩
  · rintro ⟨inside, some_time, named⟩
    exact ⟨inside, (closed inside).trans some_time, named⟩

/-- The closed rows sorted by the texts of their times stand in the order of their closings. -/
theorem listing_mergeSort
    (calendar : ∀ p ∈ positions, ∀ t ∈ p.closedAt, Timestamp.inRange t.wall = true)
    (instrument : String) :
    Listing positions instrument
      (((ofPositions positions).closedRowsOf instrument).mergeSort closedLater) := by
  have keeps := keepsLast_ofPositions positions
  have part := sublist_closedRowsOf (ofPositions positions) instrument
  have perm := List.mergeSort_perm ((ofPositions positions).closedRowsOf instrument) closedLater
  have numbers : (((ofPositions positions).closedRowsOf instrument).map (·.id)).Nodup :=
    List.pairwise_map.mpr ((keeps.ascending.sublist part).imp Nat.ne_of_lt)
  have apart := List.pairwise_map.mp ((perm.map (·.id)).nodup_iff.mpr numbers)
  have member (row : PositionRow) := (perm.mem_iff (a := row)).trans keeps.mem_closedRowsOf_iff
  refine
    { once := ?once
      mem_iff := member
      ordered := ?ordered }
  case once => exact (perm.map _).nodup_iff.mpr (keeps.once.sublist (part.map _))
  case ordered =>
    refine ((pairwise_closedLater _).and apart).imp_of_mem ?_
    rintro a b first second ⟨later, other⟩
    obtain ⟨here, closed, -⟩ := (member a).mp first
    obtain ⟨here', closed', -⟩ := (member b).mp second
    obtain ⟨s, closing⟩ := Option.isSome_iff_exists.mp closed
    obtain ⟨t, closing'⟩ := Option.isSome_iff_exists.mp closed'
    obtain ⟨p, inside, at_s⟩ := exists_of_closingOf? closing
    obtain ⟨q, inside', at_t⟩ := exists_of_closingOf? closing'
    have text := keeps.closedAt_eq here
    have text' := keeps.closedAt_eq here'
    rw [closing] at text
    rw [closing'] at text'
    exact ⟨s, t, closing, closing', precedes_of_closedLater (calendar p inside s at_s)
      (calendar q inside' t at_t) text text' other later⟩

/-- **The last closed positions.** A journal into which positions were recorded, closed at times in
the calendar, keeps a row for each with the closing that was recorded last. Within the range of the
machine's numbers a limit gives that many of the closed rows, of one instrument or of all, from the
front of their listing: the rows come in the order of what the clocks showed at the closings, then
of the texts of the offsets, and then of their numbers. Closings on clocks of one offset come from
the latest instant to the earliest, those of one instant with the higher number first. -/
theorem last_closed_by_reading
    (calendar : ∀ p ∈ positions, ∀ t ∈ p.closedAt, Timestamp.inRange t.wall = true)
    (instrument : String) (limit : Nat) :
    (ofPositions positions).KeepsLast positions ∧
      (Word.holds64 limit = false →
        (ofPositions positions).lastClosed instrument limit = .error .numberTooLarge) ∧
      (Word.holds64 limit = true → ∃ rows, Listing positions instrument rows ∧
        (ofPositions positions).lastClosed instrument limit = .ok (rows.take limit) ∧
        rows.Pairwise fun a b => ∀ s ∈ closingOf? positions a, ∀ t ∈ closingOf? positions b,
          s.offset = t.offset → t.instant < s.instant ∨ t.instant = s.instant ∧ b.id < a.id) := by
  refine ⟨keepsLast_ofPositions positions, ?large, ?within⟩
  case large =>
    intro large
    rw [lastClosed, large]
    rfl
  case within =>
    intro fits
    have listing := listing_mergeSort calendar instrument
    refine ⟨_, listing, lastClosed_eq fits _ _, listing.ordered.imp ?_⟩
    rintro a b ⟨s, t, first, second, precedes⟩ s' closed t' closed' offsets
    obtain rfl : s = s' := Option.some.inj (first.symm.trans closed)
    obtain rfl : t = t' := Option.some.inj (second.symm.trans closed')
    exact precedes.instant_le offsets

end Answers

/-! ### Positions to compute with -/

/-- A position of one share that was closed at a time of a summer day, given in microseconds since
midnight on a clock with an offset. -/
def sampleClosed (id : String) (timeOfDay offset : Int) : Position Float where
  id := id
  instrument := "AAPL"
  direction := .buy
  quantity := 1
  entry := 100.0
  openedAt := ⟨739446 * Micros.perDay, some offset⟩
  status := .closed
  closedAt := some ⟨739446 * Micros.perDay + timeOfDay, some offset⟩

/-- Rows that stand in the order of their closings are answered as they stand. -/
theorem lastClosed_of_pairwise {j : Journal} {limit : Nat} (fits : Word.holds64 limit = true)
    (sorted : (j.closedRowsOf "").Pairwise fun a b => closedLater a b = true) :
    j.lastClosed "" limit = .ok ((j.closedRowsOf "").take limit) := by
  rw [lastClosed_eq fits, List.mergeSort_of_pairwise sorted]

/-- Half a second past noon, and noon, two hours east. -/
def sampleNoons : List (Position Float) :=
  [sampleClosed "A" (12 * Micros.perHour + 500000) (2 * Micros.perHour),
    sampleClosed "B" (12 * Micros.perHour) (2 * Micros.perHour)]

/-- Of two closings on one clock the later one is answered. -/
theorem last_closed_past_noon : ∃ rows, Listing sampleNoons "" rows ∧
    (ofPositions sampleNoons).lastClosed "" 1 = .ok (rows.take 1) ∧
    (rows.take 1).map (·.positionId) = ["A"] := by
  have calendar : ∀ p ∈ sampleNoons, ∀ t ∈ p.closedAt, Timestamp.inRange t.wall = true := by decide
  have sorted : ((ofPositions sampleNoons).closedRowsOf "").Pairwise
      fun a b => closedLater a b = true := by decide +kernel
  have first : (((ofPositions sampleNoons).closedRowsOf "").take 1).map (·.positionId) = ["A"] := by
    decide +kernel
  obtain ⟨-, -, answers⟩ := last_closed_by_reading calendar "" 1
  obtain ⟨rows, listing, answer, -⟩ := answers (by decide)
  have same := Except.ok.inj (answer.symm.trans (lastClosed_of_pairwise (by decide) sorted))
  exact ⟨rows, listing, answer, same ▸ first⟩

/-- Noon two hours east, and eleven in universal time, which is an hour later. -/
def sampleOffsets : List (Position Float) :=
  [sampleClosed "A" (12 * Micros.perHour) (2 * Micros.perHour),
    sampleClosed "B" (11 * Micros.perHour) 0]

/-- Closings on clocks of several offsets are not answered from the latest to the earliest. -/
theorem not_always_latest_first :
    ¬ ∀ (positions : List (Position Float)) (limit : Nat) (rows : List PositionRow),
        (∀ p ∈ positions, ∀ t ∈ p.closedAt,
          Timestamp.inRange t.wall = true ∧ t.offset.isSome = true) →
        (ofPositions positions).lastClosed "" limit = .ok rows →
        rows.Pairwise fun a b => ∀ s ∈ closingOf? positions a, ∀ t ∈ closingOf? positions b,
          t.instant ≤ s.instant := by
  intro claim
  have sorted : ((ofPositions sampleOffsets).closedRowsOf "").Pairwise
      fun a b => closedLater a b = true := by decide +kernel
  have instants := claim sampleOffsets 2 _ (by decide) (lastClosed_of_pairwise (by decide) sorted)
  revert instants
  decide +kernel

end VolatilityDesk.Journal
