import VolatilityDesk.Proofs.Monitor.History
import VolatilityDesk.Proofs.PriceFile.Gathering
import VolatilityDesk.Proofs.PriceFile.Refusals
/-!
# The number of signals of a replay

At its end a replay prints the number of signals. It takes the number from the history of its
monitor, so it is the number of signals that the ticks reported only as long as the history has room
for all of them; a longer replay prints the size of the history.

* `generated_within_history` — which number is printed, and when it is the number of signals.
* `not_every_signal_counted` — a replay in which it is not.
-/

namespace VolatilityDesk

/-! ### Replays -/

namespace Command

variable {w after : Workplace} {path : String} {journal notify : Bool} {feed : Replay}
  {s : Settings} {m : Monitor Replay}

/-- What a replay works with: the prices of its file, the settings, and a fresh monitor. -/
structure Prepared (w : Workplace) (path : String) (feed : Replay) (s : Settings)
    (m : Monitor Replay) : Prop where
  read : ∃ snapshot, Work.PricesRead w path snapshot ∧ feed = { recorded := snapshot }
  loads : w.settings = .ok s
  setup : Monitor.ofSettings w.zones (replaySettings feed s) w.serial true feed = .ok m

/-- The outlets for the ticks of a replay, which has announced itself on the console. -/
def tickOutlets (w : Workplace) (journal notify : Bool) (feed : Replay) (s : Settings) : Outlets :=
  let line := s!"[bold]Replaying {feed.length} tick(s) for {feed.instruments.length} "
    ++ "instrument(s)...[/bold]"
  replayOutlets { w with printed := w.printed ++ [.line line] } (replaySettings feed s) journal
    notify

/-- The signals that the ticks of a replay report. -/
def replayedSignals (w : Workplace) (journal notify : Bool) (feed : Replay) (s : Settings)
    (m : Monitor Replay) : List (Signal Float) :=
  m.reported (fun _ => w.clock) (max 1 feed.length) (tickOutlets w journal notify feed s)

/-- A monitor that is set up has no signals yet, is not stopped, and has room for as many signals as
its settings say. -/
theorem Prepared.fresh (prepared : Prepared w path feed s m) :
    m.history = [] ∧ m.stopped = false ∧ (m.room : Int) = s.historySize := by
  have setup := prepared.setup
  rw [Monitor.ofSettings] at setup
  split at setup
  · cases setup
  · split at setup
    · cases setup
    · split at setup
      · cases setup
      · rename_i _ _ _ _ positive
        cases setup
        exact ⟨rfl, rfl, Int.toNat_of_nonneg (Int.not_lt.mp positive)⟩

/-- A replay never tells its monitor to stop. -/
theorem stopsAfter_replay (m : Monitor Replay) (n : Nat) : m.stopsAfter n = false := rfl

/-- The history behind the ticks of a replay is the end of the signals reported. -/
theorem Prepared.history_run (prepared : Prepared w path feed s m) (journal notify : Bool) :
    (m.run (tickOutlets w journal notify feed s) (fun _ => w.clock) feed.length).2.1.history =
      lastItems m.room (replayedSignals w journal notify feed s m) := by
  obtain ⟨empty, running, -⟩ := prepared.fresh
  exact Monitor.history_run running empty _ _ fun i _ => stopsAfter_replay m i

/-- The report at the end of a replay starts with the number of signals in the history. -/
theorem exists_printed_of_replayReport {u : Unit} (done : (replayReport m).run w = (.ok u, after)) :
    ∃ later, after.printed = w.printed ++ .line (generatedLine m.history.length) :: later := by
  rw [replayReport] at done
  obtain ⟨time, -, told⟩ := Work.exists_of_run_orFail_bind done
  rw [Work.run_bind_ok Work.run_get] at told
  have tabled := Work.run_of_run_print_bind told
  obtain ⟨table, -, shown⟩ := Work.exists_of_run_orFail_bind tabled
  have reported := Work.run_of_run_print_bind shown
  obtain ⟨text, -, last⟩ := Work.exists_of_run_orFail_bind reported
  rw [Work.eq_of_run_print last, List.append_assoc, List.append_assoc]
  exact ⟨_, rfl⟩

/-- A replay that comes to its end has run its monitor and reported. -/
theorem exists_prepared_of_runReplay
    (done : (runReplay path journal notify).run w = (.ok (), after)) :
    ∃ feed s m, Prepared w path feed s m ∧
      let ran := (m.run (tickOutlets w journal notify feed s) (fun _ => w.clock) feed.length).2
      ∃ later, after.printed =
        ran.2.printed ++ .line (generatedLine ran.1.history.length) :: later := by
  rw [runReplay] at done
  obtain ⟨snapshot, read, settled⟩ := Work.exists_of_run_prices_bind done
  obtain ⟨s, loads, begun⟩ := Work.exists_of_run_settings_bind settled
  rw [Work.run_bind_ok Work.run_get] at begun
  obtain ⟨m, setup, running⟩ := Work.exists_of_run_orFail_bind begun
  replace running := Work.run_of_run_print_bind running
  rw [Work.run_bind_ok Work.run_get] at running
  obtain ⟨_, left, placed, reporting⟩ := Work.exists_of_run_bind running
  cases placed
  exact ⟨{ recorded := snapshot }, s, m, ⟨⟨snapshot, read, rfl⟩, loads, setup⟩,
    exists_printed_of_replayReport reporting⟩

/-- **The number of signals of a replay.** A replay that comes to its end has read its prices and
its settings and run a fresh monitor over the prices. Behind what the ticks printed stands the
number of signals in the history: the number of signals that the ticks reported, or the size of the
history if that is less. So the number is right exactly when the history has room for all signals
of the replay. -/
theorem generated_within_history
    (done : (run (.replay path journal notify)).run w = (.ok (), after)) :
    ∃ feed s m, Prepared w path feed s m ∧ 0 ≤ s.historySize ∧
      let total := (replayedSignals w journal notify feed s m).length
      let shown := min s.historySize.toNat total
      let ran := (m.run (tickOutlets w journal notify feed s) (fun _ => w.clock) feed.length).2
      (∃ later, after.printed = ran.2.printed ++ .line (generatedLine shown) :: later) ∧
        (shown = total ↔ (total : Int) ≤ s.historySize) := by
  obtain ⟨feed, s, m, prepared, later, printed⟩ := exists_prepared_of_runReplay done
  obtain ⟨-, -, room⟩ := prepared.fresh
  have size : m.room = s.historySize.toNat := by omega
  have counted : (m.run (tickOutlets w journal notify feed s) (fun _ => w.clock)
      feed.length).2.1.history.length =
        min s.historySize.toNat (replayedSignals w journal notify feed s m).length := by
    rw [prepared.history_run, length_lastItems, size]
  refine ⟨feed, s, m, prepared, by omega, ⟨later, ?_⟩, by omega⟩
  rw [printed, counted]

/-! ### A replay to compute with -/

open Fallible
open PriceFile (rowsOf sortedNames entriesOf readEntries)

/-- What a replay works with is settled by its workplace and the path. -/
theorem Prepared.unique {feed' : Replay} {s' : Settings} {m' : Monitor Replay}
    (prepared : Prepared w path feed s m) (prepared' : Prepared w path feed' s' m') :
    feed = feed' ∧ s = s' ∧ m = m' := by
  obtain ⟨snapshot, read, rfl⟩ := prepared.read
  obtain ⟨snapshot', read', rfl⟩ := prepared'.read
  obtain rfl : snapshot = snapshot' := Except.ok.inj (read.symm.trans read')
  obtain rfl : s = s' := Except.ok.inj (prepared.loads.symm.trans prepared'.loads)
  obtain rfl : m = m' := Except.ok.inj (prepared.setup.symm.trans prepared'.setup)
  exact ⟨rfl, rfl, rfl⟩

/-- The settings and the monitor of a replay of some prices. -/
def prepare? (w : Workplace) (feed : Replay) : Option (Settings × Monitor Replay) :=
  match w.settings with
  | .error _ => none
  | .ok s =>
    match Monitor.ofSettings w.zones (replaySettings feed s) w.serial true feed with
    | .error _ => none
    | .ok m => some (s, m)

theorem prepared_of_prepare? {snapshot : Snapshot Float} (read : Work.PricesRead w path snapshot)
    (made : prepare? w { recorded := snapshot } = some (s, m)) :
    Prepared w path { recorded := snapshot } s m := by
  unfold prepare? at made
  split at made
  · cases made
  · rename_i loads
    split at made
    · cases made
    · rename_i setup
      cases made
      exact ⟨⟨snapshot, read, rfl⟩, loads, setup⟩

/-- A price that goes up and down, with a signal in the last minute but one and in the last. -/
def zigzagFile : List Nat :=
  PriceFile.bytesOf ("timestamp,instrument,price,volume\n"
    ++ "2025-07-15T15:00:00Z,AAPL,100,1\n2025-07-15T15:01:00Z,AAPL,101,1\n"
    ++ "2025-07-15T15:02:00Z,AAPL,100,1\n2025-07-15T15:03:00Z,AAPL,101,1\n"
    ++ "2025-07-15T15:04:00Z,AAPL,100,1\n")

/-- A workplace with short periods and a history of one signal. -/
def narrowDesk : Workplace :=
  { deskWith zigzagFile with
    around := { environment := [("SIGNAL_HISTORY_SIZE", "1"), ("BOLLINGER_PERIOD", "2"),
      ("RSI_PERIOD", "3"), ("VOLUME_PERIOD", "2"), ("MIN_EXPECTED_ROI", "0.1"),
      ("CONFIDENCE_THRESHOLD", "0.1")] } }

def zigzagSamples : List (String × Sample) :=
  ((readEntries "prices.csv" (entriesOf zigzagFile)).toOption).getD []

def zigzag : Replay :=
  { recorded := [("AAPL", PriceFile.seriesOf "AAPL" (rowsOf "AAPL" zigzagSamples))] }

theorem read_zigzagFile : Work.PricesRead narrowDesk "prices.csv" zigzag.recorded := by
  have found : narrowDesk.files.find? "prices.csv" = some ("prices.csv", zigzagFile) := by
    decide +kernel
  have text : (Text.Utf8.decode zigzagFile).fault = none := by decide +kernel
  obtain ⟨reads, names, ordered⟩ : (readEntries "prices.csv" (entriesOf zigzagFile)).isOk = true ∧
      sortedNames zigzagSamples = ["AAPL"] ∧ (rowsOf "AAPL" zigzagSamples).Pairwise
        fun a b => PriceFile.instantOf a ≤ PriceFile.instantOf b := by decide +kernel
  obtain ⟨samples, entries⟩ := isOk_iff.mp reads
  have same : zigzagSamples = samples := by
    rw [zigzagSamples, entries]
    rfl
  have gathered : PriceFile.gather samples = zigzag.recorded := by
    rw [← same, PriceFile.gather_eq, names, List.map_singleton,
      PriceFile.samplesOf_of_ordered ordered]
    rfl
  have whole : entriesOf zigzagFile = Csv.entries (Text.Utf8.decode zigzagFile).text := by
    simp only [entriesOf, text, Option.isNone_none, if_true]
  rw [Work.PricesRead, found, Option.getD_some, PriceFile.read_eq_of_text text, ← whole, entries,
    ← gathered]
  rfl

/-- How the replay ends, and the workplace after it. -/
def narrowEnd : Except EarlyEnd Unit × Workplace :=
  (run (.replay "prices.csv" false false)).run narrowDesk

theorem shown_narrowEnd : narrowEnd.1.isOk = true ∧
    .line (generatedLine 1) ∈ narrowEnd.2.printed ∧
    .line (generatedLine 2) ∉ narrowEnd.2.printed := by
  rw [narrowEnd, run, runReplay, Work.run_bind_ok (Work.run_prices read_zigzagFile)]
  decide +kernel

theorem run_narrowDesk :
    (run (.replay "prices.csv" false false)).run narrowDesk = (.ok (), narrowEnd.2) :=
  Work.eq_of_isOk shown_narrowEnd.1

/-- The ticks of the replay report two signals. -/
theorem exists_prepared_narrowDesk : ∃ s m, Prepared narrowDesk "prices.csv" zigzag s m ∧
    (replayedSignals narrowDesk false false zigzag s m).length = 2 ∧ s.historySize = 1 := by
  have counted : (prepare? narrowDesk zigzag).map (fun (s, m) =>
      ((replayedSignals narrowDesk false false zigzag s m).length, s.historySize)) =
        some (2, 1) := by decide +kernel
  obtain ⟨⟨s, m⟩, made, same⟩ := Option.map_eq_some_iff.mp counted
  obtain ⟨total, size⟩ := Prod.mk.inj same
  exact ⟨s, m, prepared_of_prepare? read_zigzagFile made, total, size⟩

/-- Of two signals a history of one has the last. -/
theorem generated_within_history_of_one : ∃ after feed s m,
    (run (.replay "prices.csv" false false)).run narrowDesk = (.ok (), after) ∧
      Prepared narrowDesk "prices.csv" feed s m ∧
      (replayedSignals narrowDesk false false feed s m).length = 2 ∧
      ∃ earlier later, after.printed = earlier ++ .line (generatedLine 1) :: later := by
  obtain ⟨feed, s, m, prepared, -, ⟨later, printed⟩, -⟩ := generated_within_history run_narrowDesk
  obtain ⟨s', m', prepared', total, size⟩ := exists_prepared_narrowDesk
  obtain ⟨rfl, rfl, rfl⟩ := prepared.unique prepared'
  rw [total, size] at printed
  exact ⟨_, _, _, _, run_narrowDesk, prepared, total, _, later, printed⟩

/-- The number is not the number of all signals. -/
theorem not_every_signal_counted :
    ¬ ∀ (w after : Workplace) (path : String) (journal notify : Bool) (feed : Replay) (s : Settings)
        (m : Monitor Replay), Prepared w path feed s m →
        (run (.replay path journal notify)).run w = (.ok (), after) →
        .line (generatedLine (replayedSignals w journal notify feed s m).length) ∈
          after.printed := by
  intro claim
  obtain ⟨s, m, prepared, total, -⟩ := exists_prepared_narrowDesk
  have told := claim narrowDesk narrowEnd.2 "prices.csv" false false zigzag s m prepared
    run_narrowDesk
  rw [total] at told
  exact shown_narrowEnd.2.2 told

end Command

end VolatilityDesk
