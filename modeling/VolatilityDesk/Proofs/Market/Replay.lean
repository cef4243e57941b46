import VolatilityDesk.Market.Feed
import VolatilityDesk.Proofs.Lookup
import VolatilityDesk.Proofs.PriceFile.Times
/-!
# Fetches from a replay

All series of a replay go by one cursor. It counts the fetches, whatever they ask for, until the
longest series is used up. So what a fetch shows depends on its number and on nothing that was
fetched before: of every series the samples up to that number, as far as there are so many, or the
last few of these.

* `gives_fetch_after` — what a fetch shows after a number of others.
* `exists_later_of_mem_lastTimes` — the times that a fetch shows do not go back at the next.
-/

namespace VolatilityDesk

/-! ### Samples of a series -/

namespace Series

/-- A series has the samples of another one from one place up to before another. -/
structure Shows {α : Type} (shown s : Series α) (start stop : Nat) : Prop where
  prices (i : Nat) : shown.prices[i]? = if start + i < stop then s.prices[start + i]? else none
  volumes (i : Nat) : shown.volumes[i]? = if start + i < stop then s.volumes[start + i]? else none
  timestamps (i : Nat) :
    shown.timestamps[i]? = if start + i < stop then s.timestamps[start + i]? else none

/-- Samples of a series under a name. -/
def part {α : Type} (s : Series α) (name : String) (start stop : Nat) : Series α :=
  { s.slice start stop with instrument := name }

theorem shows_part {α : Type} (s : Series α) (name : String) (start stop : Nat) :
    (s.part name start stop).Shows s start stop where
  prices i := by simp [part, slice, List.getElem?_take]
  volumes i := by simp [part, slice, List.getElem?_take]
  timestamps i := by simp [part, slice, List.getElem?_take]

theorem latestTimestamp?_part {α : Type} (s : Series α) (name : String) {start stop : Nat}
    (some_shown : start < stop) (within : stop ≤ s.timestamps.length) :
    (s.part name start stop).latestTimestamp? = s.timestamps[stop - 1]? := by
  have kept : ¬ (s.timestamps.take stop).length ≤ start := by
    rw [List.length_take]
    omega
  simp only [latestTimestamp?, part, slice, List.getLast?_drop, if_neg kept]
  rw [List.getLast?_eq_getElem?, List.length_take, Nat.min_eq_left within,
    List.getElem?_take_of_lt (by omega)]

theorem Chronicle.instant_le {s : Series Float} (chronicle : s.Chronicle) {i j : Nat}
    (before : i ≤ j) {t u : Timestamp} (first : s.timestamps[i]? = some t)
    (second : s.timestamps[j]? = some u) : t.instant ≤ u.instant := by
  obtain ⟨inside, rfl⟩ := List.getElem?_eq_some_iff.mp first
  obtain ⟨inside', rfl⟩ := List.getElem?_eq_some_iff.mp second
  rcases Nat.eq_or_lt_of_le before with rfl | before
  · exact Int.le_refl _
  · exact List.pairwise_iff_getElem.mp chronicle.ordered i j inside inside' before

end Series

namespace Replay

variable {r r' : Replay} {names : List String} {name : String} {s : Series Float}

/-! ### The cursor -/

theorem advance_eq (r : Replay) :
    r.advance = { r with cursor := max r.cursor (min (r.cursor + 1) r.length) } := by
  unfold advance
  split
  case isTrue used =>
    have used : r.length ≤ r.cursor := by simpa [exhausted] using used
    have stays : max r.cursor (min (r.cursor + 1) r.length) = r.cursor := by omega
    rw [stays]
  case isFalse unused =>
    have unused : r.cursor < r.length := by simpa [exhausted] using unused
    have moves : max r.cursor (min (r.cursor + 1) r.length) = r.cursor + 1 := by omega
    rw [moves]

theorem recorded_advance : r.advance.recorded = r.recorded := by rw [advance_eq]

theorem window_advance : r.advance.window = r.window := by rw [advance_eq]

/-- A replay after fetches, each of some instruments. -/
def after (r : Replay) (requests : List (List String)) : Replay :=
  requests.foldl (fun r names => (r.fetch names).2) r

theorem after_eq (r : Replay) (requests : List (List String)) :
    r.after requests =
      { r with cursor := max r.cursor (min (r.cursor + requests.length) r.length) } := by
  induction requests generalizing r with
  | nil =>
    have stays : max r.cursor (min (r.cursor + 0) r.length) = r.cursor := by omega
    rw [List.length_nil, stays]
    rfl
  | cons names requests ih =>
    have next : r.after (names :: requests) = r.advance.after requests := rfl
    have same : length { r with cursor := max r.cursor (min (r.cursor + 1) r.length) } = r.length :=
      rfl
    rw [next, ih, advance_eq, same]
    dsimp only
    congr 1
    rw [List.length_cons]
    omega

/-- Fetches from the beginning use one sample each, as long as there are any. -/
theorem after_of_fresh (fresh : r.cursor = 0) (requests : List (List String)) :
    r.after requests = { r with cursor := min requests.length r.length } := by
  rw [after_eq, fresh, Nat.zero_add, Nat.zero_max]

theorem advance_after (r : Replay) (requests : List (List String)) (names : List String) :
    (r.after requests).advance = r.after (requests ++ [names]) := by
  rw [after, after, List.foldl_append]
  rfl

theorem exhausted_after_iff (fresh : r.cursor = 0) (requests : List (List String)) :
    (r.after requests).exhausted = true ↔ r.length ≤ requests.length := by
  have same : (r.after requests).exhausted = decide (r.length ≤ min requests.length r.length) := by
    rw [after_of_fresh fresh]
    rfl
  rw [same, decide_eq_true_iff]
  omega

/-! ### Recorded series -/

theorem le_foldl_size (entries : Snapshot Float) (n : Nat) :
    n ≤ entries.foldl (fun n (_, s) => max n s.size) n ∧
      ∀ entry ∈ entries, entry.2.size ≤ entries.foldl (fun n (_, s) => max n s.size) n := by
  induction entries generalizing n with
  | nil => exact ⟨Nat.le_refl n, nofun⟩
  | cons entry rest ih =>
    obtain ⟨start, each⟩ := ih (max n entry.2.size)
    refine ⟨Nat.le_trans (Nat.le_max_left _ _) start, ?_⟩
    intro other listed
    rcases List.mem_cons.mp listed with rfl | later
    · exact Nat.le_trans (Nat.le_max_right _ _) start
    · exact each other later

theorem mem_of_lookup (found : r.recorded.lookup name = some s) : (name, s) ∈ r.recorded := by
  obtain ⟨before, behind, same, -⟩ := List.lookup_eq_some_iff.mp found
  rw [same]
  exact List.mem_append_right _ (List.mem_cons_self ..)

/-- The longest series is as long as any. -/
theorem size_le_length (found : r.recorded.lookup name = some s) : s.size ≤ r.length :=
  (le_foldl_size r.recorded 0).2 _ (mem_of_lookup found)

theorem mem_instruments_iff : name ∈ r.instruments ↔ ∃ s, r.recorded.lookup name = some s := by
  rw [← Option.isSome_iff_exists, List.lookup_isSome_iff, instruments, List.mem_map]
  simp only [beq_iff_eq, eq_comm (b := name)]

/-- Chronicles, handed out whole or in a window that is not empty. -/
structure OfChronicles (r : Replay) : Prop where
  chronicle : ∀ entry ∈ r.recorded, entry.2.Chronicle
  positive : ∀ size ∈ r.window, 0 < size

theorem OfChronicles.of_lookup (chronicles : r.OfChronicles)
    (found : r.recorded.lookup name = some s) : s.Chronicle :=
  chronicles.chronicle _ (mem_of_lookup found)

/-! ### What a fetch shows -/

/-- The place of the first sample that a window leaves of those before another place. -/
def firstShown (window : Option Int) (stop : Nat) : Nat :=
  match window with
  | none => 0
  | some size => stop - size.toNat

theorem windowStart_eq {window : Option Int} (positive : ∀ size ∈ window, 0 < size) (stop : Nat) :
    windowStart window stop = firstShown window stop := by
  cases window with
  | none => rfl
  | some size =>
    have := positive size rfl
    rw [windowStart, if_neg (by omega), firstShown]
    omega

theorem firstShown_lt {window : Option Int} (positive : ∀ size ∈ window, 0 < size) {stop : Nat}
    (some_shown : 0 < stop) : firstShown window stop < stop := by
  cases window with
  | none => exact some_shown
  | some size =>
    have := positive size rfl
    rw [firstShown]
    omega

/-- The place up to which the next fetch shows a series. -/
def nextStop (r : Replay) (s : Series Float) : Nat := min r.advance.cursor s.size

/-- What the next fetch shows of a series. -/
def nextPart (r : Replay) (name : String) (s : Series Float) : Series Float :=
  s.part name (firstShown r.window (r.nextStop s)) (r.nextStop s)

/-- No series is left out, since the first fetch reaches the first sample of each. -/
theorem nextStop_pos (chronicles : r.OfChronicles) (found : r.recorded.lookup name = some s) :
    0 < r.nextStop s := by
  have filled : 0 < s.size := (chronicles.of_lookup found).filled
  have within : s.size ≤ r.length := size_le_length found
  rw [nextStop, advance_eq]
  dsimp only
  omega

theorem visible?_advance (chronicles : r.OfChronicles) (name : String) :
    r.advance.visible? name =
      (r.recorded.lookup name).map fun s => (name, r.nextPart name s) := by
  rw [visible?, recorded_advance, window_advance]
  cases found : r.recorded.lookup name with
  | none => rfl
  | some s =>
    have some_shown : min r.advance.cursor s.size ≠ 0 :=
      Nat.ne_of_gt (nextStop_pos chronicles found)
    simp only [if_neg some_shown, windowStart_eq chronicles.positive]
    rfl

theorem mem_fetch_iff (chronicles : r.OfChronicles) {shown : Series Float} :
    (name, shown) ∈ (r.fetch names).1 ↔
      name ∈ names ∧ ∃ s, r.recorded.lookup name = some s ∧ shown = r.nextPart name s := by
  simp only [fetch, List.mem_filterMap, mem_distinct, visible?_advance chronicles,
    Option.map_eq_some_iff, Prod.mk.injEq]
  constructor
  · rintro ⟨_, wanted, s, found, rfl, rfl⟩
    exact ⟨wanted, s, found, rfl⟩
  · rintro ⟨wanted, s, found, rfl⟩
    exact ⟨name, wanted, s, found, rfl, rfl⟩

theorem keys_fetch (chronicles : r.OfChronicles) (names : List String) :
    (r.fetch names).1.map (·.1) = (distinct names).filter (r.instruments.contains ·) := by
  have keyed (name : String) : (r.advance.visible? name).map (·.1) =
      Option.guard (r.instruments.contains ·) name := by
    have known : r.instruments.contains name = (r.recorded.lookup name).isSome := by
      rw [Bool.eq_iff_iff, List.contains_iff_mem, mem_instruments_iff, Option.isSome_iff_exists]
    rw [visible?_advance chronicles, Option.guard, known]
    cases r.recorded.lookup name with
    | none => rfl
    | some s => rfl
  rw [fetch, List.map_filterMap, ← List.filterMap_eq_filter]
  exact List.filterMap_congr fun name _ => keyed name

/-- What the fetch with a number, counted from one, gives: every recorded instrument that is asked
for, and of its series the samples up to that number, or the window of the last ones. -/
structure Gives (r : Replay) (number : Nat) (names : List String) (snapshot : Snapshot Float) :
    Prop where
  keys : snapshot.map (·.1) = (distinct names).filter (r.instruments.contains ·)
  shown : ∀ name shown, (name, shown) ∈ snapshot →
    ∃ s stop, r.recorded.lookup name = some s ∧ stop = min number (min r.length s.size) ∧
      shown.instrument = name ∧ shown.Shows s (firstShown r.window stop) stop

theorem gives_fetch_after (fresh : r.cursor = 0) (chronicles : r.OfChronicles)
    (requests : List (List String)) (names : List String) :
    r.Gives (requests.length + 1) names ((r.after requests).fetch names).1 := by
  have same : r.after requests = { r with cursor := min requests.length r.length } :=
    after_of_fresh fresh requests
  have chronicles' : (r.after requests).OfChronicles := by
    rw [same]
    exact ⟨chronicles.chronicle, chronicles.positive⟩
  have place : (r.after requests).advance.cursor = min (requests.length + 1) r.length := by
    rw [advance_after r requests names, after_of_fresh fresh, List.length_append,
      List.length_singleton]
  refine ⟨?keys, ?shown⟩
  case keys =>
    rw [keys_fetch chronicles', same]
    rfl
  case shown =>
    intro name shown member
    obtain ⟨-, s, found, rfl⟩ := (mem_fetch_iff chronicles').mp member
    have stop : (r.after requests).nextStop s =
        min (requests.length + 1) (min r.length s.size) := by
      rw [nextStop, place, Nat.min_assoc]
    rw [same] at found
    have width : (r.after requests).window = r.window := by rw [same]
    refine ⟨s, _, found, stop, rfl, ?_⟩
    rw [nextPart, width]
    exact s.shows_part name _ _

/-! ### The last samples shown -/

/-- The times of the last samples that the next fetch shows. -/
def lastTimes (r : Replay) (names : List String) : List Timestamp :=
  (r.fetch names).1.filterMap fun (_, s) => s.latestTimestamp?

theorem mem_lastTimes_iff (chronicles : r.OfChronicles) {t : Timestamp} :
    t ∈ r.lastTimes names ↔ ∃ name ∈ names, ∃ s, r.recorded.lookup name = some s ∧
      s.timestamps[r.nextStop s - 1]? = some t := by
  have last {name : String} {s : Series Float} (found : r.recorded.lookup name = some s) :
      (r.nextPart name s).latestTimestamp? = s.timestamps[r.nextStop s - 1]? := by
    have some_shown := firstShown_lt chronicles.positive (nextStop_pos chronicles found)
    have within : r.nextStop s ≤ s.timestamps.length :=
      (chronicles.of_lookup found).timed ▸ Nat.min_le_right _ _
    exact s.latestTimestamp?_part name some_shown within
  simp only [lastTimes, List.mem_filterMap, Prod.exists, mem_fetch_iff chronicles]
  constructor
  · rintro ⟨name, _, ⟨wanted, s, found, rfl⟩, shown⟩
    exact ⟨name, wanted, s, found, (last found).symm.trans shown⟩
  · rintro ⟨name, wanted, s, found, place⟩
    exact ⟨name, _, ⟨wanted, s, found, rfl⟩, (last found).trans place⟩

/-- Every recorded instrument that is asked for shows a time. -/
theorem exists_mem_lastTimes (chronicles : r.OfChronicles) (wanted : name ∈ names)
    (found : r.recorded.lookup name = some s) :
    ∃ t ∈ r.lastTimes names, s.timestamps[r.nextStop s - 1]? = some t := by
  have timed : s.timestamps.length = s.size := (chronicles.of_lookup found).timed
  have begun := nextStop_pos chronicles found
  have within : r.nextStop s ≤ s.size := Nat.min_le_right _ _
  have inside : r.nextStop s - 1 < s.timestamps.length := by omega
  have place := List.getElem?_eq_getElem inside
  exact ⟨_, (mem_lastTimes_iff chronicles).mpr ⟨name, wanted, s, found, place⟩, place⟩

theorem universal_of_mem_lastTimes (chronicles : r.OfChronicles) {t : Timestamp}
    (shown : t ∈ r.lastTimes names) : t.offset.isSome = true := by
  obtain ⟨name, -, s, found, place⟩ := (mem_lastTimes_iff chronicles).mp shown
  exact (chronicles.of_lookup found).universal t (List.mem_of_getElem? place)

/-- Further on, the same fetch shows a time that is no earlier. -/
theorem exists_later_of_mem_lastTimes (chronicles : r.OfChronicles) (chronicles' : r'.OfChronicles)
    (same : r'.recorded = r.recorded) (further : r.cursor ≤ r'.cursor) {t : Timestamp}
    (shown : t ∈ r.lastTimes names) : ∃ t' ∈ r'.lastTimes names, t.instant ≤ t'.instant := by
  obtain ⟨name, wanted, s, found, place⟩ := (mem_lastTimes_iff chronicles).mp shown
  obtain ⟨t', shown', place'⟩ := exists_mem_lastTimes chronicles' wanted (same ▸ found)
  have length : r'.length = r.length := by rw [Replay.length, same, Replay.length]
  have before : r.nextStop s ≤ r'.nextStop s := by
    rw [nextStop, nextStop, advance_eq, advance_eq, length]
    dsimp only
    omega
  exact ⟨t', shown', (chronicles.of_lookup found).instant_le (by omega) place place'⟩

end Replay

end VolatilityDesk
