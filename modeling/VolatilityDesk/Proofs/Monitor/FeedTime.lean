import VolatilityDesk.Proofs.Market.Replay
import VolatilityDesk.Proofs.Monitor.Step
/-!
# Times of a replay

A monitor that goes by its feed dates a tick by the latest time in the snapshot. On a replay of a
price file there always is one once an instrument of the file is watched, and it does not go back:
the cursor does not, the samples of a series stand in the order of their times, and every series
that has a sample at one fetch has one at the next.

* `replayed_forward` — what the fetches of a replay show, and how its ticks are dated.
* `Timed.ascends` — the times of ticks do not go back, whatever is done between them.
-/

namespace VolatilityDesk

/-! ### The latest of times -/

namespace Timestamp

theorem isBefore_eq {s t : Timestamp} (known : s.offset.isSome = true)
    (known' : t.offset.isSome = true) : s.isBefore t = .ok (decide (s.instant < t.instant)) := by
  obtain ⟨a, known⟩ := Option.isSome_iff_exists.mp known
  obtain ⟨b, known'⟩ := Option.isSome_iff_exists.mp known'
  simp [isBefore, instant, known, known']

theorem latest_cons_cons {s t : Timestamp} (known : s.offset.isSome = true)
    (known' : t.offset.isSome = true) (rest : List Timestamp) :
    latest (s :: t :: rest) = latest ((if s.instant < t.instant then t else s) :: rest) := by
  by_cases before : s.instant < t.instant
  · simp only [latest, List.foldlM_cons, isBefore_eq known known', before]
    rfl
  · simp only [latest, List.foldlM_cons, isBefore_eq known known', before]
    rfl

/-- The latest of times with known offsets is one of them, and none of them is later. -/
theorem exists_latest {times : List Timestamp} (universal : ∀ t ∈ times, t.offset.isSome = true)
    (present : times ≠ []) :
    ∃ last, latest times = .ok (some last) ∧ last ∈ times ∧
      ∀ t ∈ times, t.instant ≤ last.instant := by
  obtain ⟨first, rest, rfl⟩ := List.exists_cons_of_ne_nil present
  induction rest generalizing first with
  | nil => exact ⟨first, rfl, List.mem_singleton_self _, by simp⟩
  | cons second rest ih =>
    simp only [List.forall_mem_cons] at universal
    obtain ⟨known, known', rest_known⟩ := universal
    rw [latest_cons_cons known known']
    by_cases before : first.instant < second.instant
    · rw [if_pos before]
      obtain ⟨last, found, member, above⟩ :=
        ih second (List.forall_mem_cons.mpr ⟨known', rest_known⟩) (List.cons_ne_nil _ _)
      have above_second := above second (List.mem_cons_self ..)
      refine ⟨last, found, List.mem_cons_of_mem _ member, ?_⟩
      exact List.forall_mem_cons.mpr ⟨by omega, above⟩
    · rw [if_neg before]
      obtain ⟨last, found, member, above⟩ :=
        ih first (List.forall_mem_cons.mpr ⟨known, rest_known⟩) (List.cons_ne_nil _ _)
      obtain ⟨above_first, above_rest⟩ := List.forall_mem_cons.mp above
      have above_second : second.instant ≤ last.instant := by omega
      refine ⟨last, found, ?_, ?_⟩
      · exact List.mem_cons.mpr ((List.mem_cons.mp member).imp_right (List.mem_cons_of_mem _))
      · simp only [List.forall_mem_cons]
        exact ⟨above_first, above_second, above_rest⟩

end Timestamp

namespace Monitor

/-! ### Runs on a replay -/

/-- What a monitor keeps of its settings and of its replay, which only goes on. -/
structure Continues (start m : Monitor Replay) : Prop where
  settings : m.settings = start.settings
  usesFeedTime : m.usesFeedTime = start.usesFeedTime
  recorded : m.feed.recorded = start.feed.recorded
  window : m.feed.window = start.feed.window
  cursor : start.feed.cursor ≤ m.feed.cursor

theorem Continues.trans {start m last : Monitor Replay} (first : start.Continues m)
    (second : m.Continues last) : start.Continues last where
  settings := second.settings.trans first.settings
  usesFeedTime := second.usesFeedTime.trans first.usesFeedTime
  recorded := second.recorded.trans first.recorded
  window := second.window.trans first.window
  cursor := first.cursor.trans second.cursor

theorem feed_tick (m : Monitor Replay) (o : Outlets) (given : Option Timestamp)
    (clock : Timestamp) : (m.tick o given clock).2.1.feed = m.feed.advance := by
  obtain ⟨desk, history, same⟩ := m.observe_frame given clock
  rw [monitor_tick, same]
  rfl

theorem continues_tick (m : Monitor Replay) (o : Outlets) (given : Option Timestamp)
    (clock : Timestamp) : m.Continues (m.tick o given clock).2.1 := by
  obtain ⟨desk, history, same⟩ := m.observe_frame given clock
  have feed := m.feed_tick o given clock
  refine ⟨?settings, ?usesFeedTime, ?recorded, ?window, ?cursor⟩
  case settings =>
    rw [monitor_tick, same]
    rfl
  case usesFeedTime =>
    rw [monitor_tick, same]
    rfl
  case recorded => rw [feed, Replay.recorded_advance]
  case window => rw [feed, Replay.window_advance]
  case cursor =>
    rw [feed, Replay.advance_eq]
    exact Nat.le_max_left _ _

theorem continues_count (m : Monitor Replay) (o : Outlets) (clock : Timestamp) :
    m.Continues (m.count o clock).1 := by
  have ticked := m.continues_tick o none clock
  exact ⟨ticked.settings, ticked.usesFeedTime, ticked.recorded, ticked.window, ticked.cursor⟩

theorem continues_stop (m : Monitor Replay) : m.Continues m.stop :=
  ⟨rfl, rfl, rfl, rfl, Nat.le_refl _⟩

theorem continues_pause (m : Monitor Replay) : m.Continues m.pause := by
  unfold pause
  split
  · exact ⟨rfl, rfl, rfl, rfl, Nat.le_refl _⟩
  · exact ⟨rfl, rfl, rfl, rfl, Nat.le_refl _⟩

theorem Later.continues {start last : Monitor Replay × Outlets} (later : Later start last) :
    start.1.Continues last.1 := by
  induction later with
  | refl => exact ⟨rfl, rfl, rfl, rfl, Nat.le_refl _⟩
  | @tick m o given clock _ ih => exact ih.trans (m.continues_tick o given clock)
  | @count m o clock _ ih => exact ih.trans (m.continues_count o clock)
  | @pause m o _ ih => exact ih.trans m.continues_pause
  | @stop m o _ ih => exact ih.trans m.continues_stop

/-! ### Times of ticks -/

/-- The times that a monitor finds for its ticks, first to last, while it ticks, waits and is told
to stop. A tick that is given a time has none to find. -/
inductive Timed {φ : Type} [PriceFeed φ] (start : Monitor φ × Outlets) :
    List Timestamp → Monitor φ × Outlets → Prop where
  | refl : Timed start [] start
  | tick {times : List Timestamp} {m : Monitor φ} {o : Outlets} {clock now : Timestamp}
      {snapshot : Snapshot Float} (run : Timed start times (m, o))
      (sees : m.Sees none clock snapshot now) :
      Timed start (times ++ [now]) (m.tick o none clock).2
  | count {times : List Timestamp} {m : Monitor φ} {o : Outlets} {clock now : Timestamp}
      {snapshot : Snapshot Float} (run : Timed start times (m, o))
      (sees : m.Sees none clock snapshot now) : Timed start (times ++ [now]) (m.count o clock)
  | given {times : List Timestamp} {m : Monitor φ} {o : Outlets} (now clock : Timestamp)
      (run : Timed start times (m, o)) : Timed start times (m.tick o (some now) clock).2
  | pause {times : List Timestamp} {m : Monitor φ} {o : Outlets}
      (run : Timed start times (m, o)) : Timed start times (m.pause, o)
  | stop {times : List Timestamp} {m : Monitor φ} {o : Outlets}
      (run : Timed start times (m, o)) : Timed start times (m.stop, o)

/-- A monitor goes by the times of a replay of chronicles, and watches one of them. -/
structure GoesByReplay (m : Monitor Replay) : Prop where
  usesFeedTime : m.usesFeedTime = true
  chronicles : m.feed.OfChronicles
  watched : ∃ name ∈ m.settings.watchlist, name ∈ m.feed.instruments

theorem GoesByReplay.continues {m m' : Monitor Replay} (goes : m.GoesByReplay)
    (continues : m.Continues m') : m'.GoesByReplay where
  usesFeedTime := continues.usesFeedTime.trans goes.usesFeedTime
  chronicles := by
    refine ⟨?_, ?_⟩
    · rw [continues.recorded]
      exact goes.chronicles.chronicle
    · rw [continues.window]
      exact goes.chronicles.positive
  watched := by
    rw [continues.settings, Replay.instruments, continues.recorded]
    exact goes.watched

/-- The times of the last samples that the next tick sees. -/
def nextTimes (m : Monitor Replay) : List Timestamp := m.feed.lastTimes m.settings.watchlist

theorem GoesByReplay.exists_latest {m : Monitor Replay} (goes : m.GoesByReplay) :
    ∃ last, Timestamp.latest m.nextTimes = .ok (some last) ∧ last ∈ m.nextTimes ∧
      ∀ t ∈ m.nextTimes, t.instant ≤ last.instant := by
  obtain ⟨name, wanted, known⟩ := goes.watched
  obtain ⟨s, found⟩ := Replay.mem_instruments_iff.mp known
  obtain ⟨t, shown, -⟩ := Replay.exists_mem_lastTimes goes.chronicles wanted found
  exact Timestamp.exists_latest (fun t => Replay.universal_of_mem_lastTimes goes.chronicles)
    (List.ne_nil_of_mem shown)

theorem GoesByReplay.sees_iff {m : Monitor Replay} (goes : m.GoesByReplay) {last : Timestamp}
    (latest : Timestamp.latest m.nextTimes = .ok (some last)) {clock now : Timestamp}
    {snapshot : Snapshot Float} :
    m.Sees none clock snapshot now ↔
      snapshot = (m.feed.fetch m.settings.watchlist).1 ∧ now = last := by
  have dated : m.tickTime (m.feed.fetch m.settings.watchlist).1 none clock = .ok last := by
    have found : (m.feed.fetch m.settings.watchlist).1.latestTime = .ok (some last) := latest
    simp only [tickTime, goes.usesFeedTime, found]
    rfl
  constructor
  · rintro ⟨fetched, found⟩
    obtain rfl := Except.ok.inj fetched
    exact ⟨rfl, Except.ok.inj (found.symm.trans dated)⟩
  · rintro ⟨rfl, rfl⟩
    exact ⟨rfl, dated⟩

/-- Times that do not go back, and go no further than what the next tick sees. -/
structure Ascends (times : List Timestamp) (m : Monitor Replay) : Prop where
  goes : m.GoesByReplay
  ordered : times.Pairwise fun earlier later => later.isBefore earlier = .ok false
  universal : ∀ t ∈ times, t.offset.isSome = true
  behind : ∀ t ∈ times, ∃ t' ∈ m.nextTimes, t.instant ≤ t'.instant

theorem Ascends.continues {times : List Timestamp} {m m' : Monitor Replay}
    (ascends : Ascends times m) (continues : m.Continues m') : Ascends times m' where
  goes := ascends.goes.continues continues
  ordered := ascends.ordered
  universal := ascends.universal
  behind := by
    intro t member
    obtain ⟨t', shown, below⟩ := ascends.behind t member
    obtain ⟨later, shown, above⟩ := Replay.exists_later_of_mem_lastTimes ascends.goes.chronicles
      (ascends.goes.continues continues).chronicles continues.recorded continues.cursor shown
    refine ⟨later, ?_, below.trans above⟩
    rw [nextTimes, continues.settings]
    exact shown

/-- The time of the next tick is not before any of the times behind it. -/
theorem Ascends.append {times : List Timestamp} {m : Monitor Replay} (ascends : Ascends times m)
    {clock now : Timestamp} {snapshot : Snapshot Float} (sees : m.Sees none clock snapshot now) :
    Ascends (times ++ [now]) m := by
  obtain ⟨last, latest, shown, above⟩ := ascends.goes.exists_latest
  obtain ⟨-, rfl⟩ := (ascends.goes.sees_iff latest).mp sees
  have known : now.offset.isSome = true :=
    Replay.universal_of_mem_lastTimes ascends.goes.chronicles shown
  refine ⟨ascends.goes, ?ordered, ?universal, ?behind⟩
  case ordered =>
    refine List.pairwise_append.mpr ⟨ascends.ordered, List.pairwise_singleton _ _, ?_⟩
    intro t member u newest
    obtain rfl := List.mem_singleton.mp newest
    obtain ⟨t', shown', below⟩ := ascends.behind t member
    have order : ¬ u.instant < t.instant := by
      have := above t' shown'
      omega
    rw [Timestamp.isBefore_eq known (ascends.universal t member), decide_eq_false order]
  case universal =>
    simp only [List.mem_append, List.mem_singleton]
    rintro t (member | rfl)
    · exact ascends.universal t member
    · exact known
  case behind =>
    simp only [List.mem_append, List.mem_singleton]
    rintro t (member | rfl)
    · exact ascends.behind t member
    · exact ⟨t, shown, Int.le_refl _⟩

theorem Timed.ascends {start last : Monitor Replay × Outlets} {times : List Timestamp}
    (timed : Timed start times last) (goes : start.1.GoesByReplay) : Ascends times last.1 := by
  induction timed with
  | refl => exact ⟨goes, .nil, nofun, nofun⟩
  | @tick times m o clock now snapshot _ sees ih =>
    exact (ih.append sees).continues (m.continues_tick o none clock)
  | @count times m o clock now snapshot _ sees ih =>
    exact (ih.append sees).continues (m.continues_count o clock)
  | @given times m o now clock _ ih => exact ih.continues (m.continues_tick o (some now) clock)
  | @pause times m o _ ih => exact ih.continues m.continues_pause
  | @stop times m o _ ih => exact ih.continues m.continues_stop

/-- **A replay only goes forward.** On a replay of a price file every series has a time for each of
its samples, in order. With no window or a positive one, the fetch with a number, counted from one,
gives of every recorded instrument that it asks for the samples up to that number, as far as the
file has them, or the window of the last of these, prices, volumes and times side by side, and it
gives nothing else; after as many fetches as the longest series has samples, and no fewer, the
replay is exhausted. A monitor that goes by the times of such a replay, and watches an instrument of
the file, finds a time for each of its ticks whatever the clock says, and these times never go
back. -/
theorem replayed_forward {file : String} {bytes : List Nat} {r : Replay}
    (loaded : PriceFile.read file bytes = .ok r.recorded) (positive : ∀ size ∈ r.window, 0 < size) :
    (∀ entry ∈ r.recorded, entry.2.Chronicle) ∧
      (r.cursor = 0 → ∀ requests names,
        r.Gives (requests.length + 1) names ((r.after requests).fetch names).1 ∧
          ((r.after requests).exhausted = true ↔ r.length ≤ requests.length)) ∧
      ∀ m : Monitor Replay, m.feed = r → m.usesFeedTime = true →
        (∃ name ∈ m.settings.watchlist, name ∈ r.instruments) → ∀ o,
          (∀ last, Later (m, o) last →
            ∃ snapshot now, ∀ clock, last.1.Sees none clock snapshot now) ∧
          ∀ times last, Timed (m, o) times last →
            times.Pairwise fun earlier later => later.isBefore earlier = .ok false := by
  have chronicles : r.OfChronicles :=
    ⟨fun entry member => PriceFile.chronicle_of_read loaded member, positive⟩
  refine ⟨chronicles.chronicle, ?fetches, ?ticks⟩
  case fetches =>
    intro fresh requests names
    exact ⟨Replay.gives_fetch_after fresh chronicles requests names,
      Replay.exhausted_after_iff fresh requests⟩
  case ticks =>
    rintro m rfl usesFeedTime watched o
    have goes : m.GoesByReplay := ⟨usesFeedTime, chronicles, watched⟩
    constructor
    · intro last later
      have still := goes.continues later.continues
      obtain ⟨now, latest, -⟩ := still.exists_latest
      exact ⟨_, now, fun clock => (still.sees_iff latest).mpr ⟨rfl, rfl⟩⟩
    · intro times last timed
      exact (timed.ascends goes).ordered

/-! ### A replay to compute with -/

/-- A monitor that goes by a replay, with one instrument of it and one that it lacks. -/
def sampleByFeed (r : Replay) : Monitor Replay where
  settings := { Settings.defaults with watchlist := ["AAPL", "TSLA"] }
  feed := r
  desk := RiskDesk.sample
  usesFeedTime := true

/-- On a file whose records are out of order: the second fetch, after one of another instrument, and
two ticks, the second of which is counted. -/
theorem replayed_forward_unsorted :
    ∃ r : Replay, PriceFile.read "prices.csv" PriceFile.unsortedFile = .ok r.recorded ∧
      r.Gives 2 ["AAPL", "TSLA"] ((r.after [["MSFT"]]).fetch ["AAPL", "TSLA"]).1 ∧
      ∃ first second last, Timed (sampleByFeed r, {}) [first, second] last ∧
        second.isBefore first = .ok false := by
  have succeeds : (PriceFile.read "prices.csv" PriceFile.unsortedFile).isOk = true := by
    decide +kernel
  obtain ⟨recorded, loaded⟩ := Fallible.isOk_iff.mp succeeds
  have holds : PriceFile.Holds PriceFile.unsortedFile PriceFile.usualHeadings
      PriceFile.unsortedRecords := ⟨by decide +kernel, by decide +kernel⟩
  have known : "AAPL" ∈ recorded.map (·.1) := by
    refine PriceFile.mem_keys_of_read loaded holds
      (List.mem_cons_of_mem _ (List.mem_cons_self ..)) ⟨"Aapl", ?_, ?_⟩
    · decide +kernel
    · decide +kernel
  let r : Replay := { recorded := recorded, window := some 1 }
  have positive : ∀ size ∈ r.window, 0 < size := by
    rintro _ ⟨⟩
    decide
  obtain ⟨-, fetches, ticks⟩ := replayed_forward (r := r) loaded positive
  obtain ⟨dated, ascending⟩ := ticks (sampleByFeed r) rfl rfl
    ⟨"AAPL", List.mem_cons_self .., known⟩ {}
  obtain ⟨_, first, sees⟩ := dated _ .refl
  have start : Timed (sampleByFeed r, {}) [] (sampleByFeed r, {}) := .refl
  have ticked := start.tick (sees (RiskDesk.noon 739446))
  obtain ⟨_, second, sees'⟩ := dated _ (Later.refl.tick none (RiskDesk.noon 739446))
  have counted := ticked.count (sees' (RiskDesk.noon 739446))
  have ordered := ascending _ _ counted
  exact ⟨r, loaded, (fetches rfl [["MSFT"]] ["AAPL", "TSLA"]).1, first, second, _, counted,
    List.rel_of_pairwise_cons ordered (List.mem_singleton_self second)⟩

end Monitor

end VolatilityDesk
