import VolatilityDesk.Proofs.Journal.Mirror
import VolatilityDesk.Proofs.Monitor.Closing
import VolatilityDesk.Proofs.Tick.Accounts
/-!
# Journaled ticks

A monitor with an empty journal and a fresh book makes ticks, each of which completes and is written
in full. After every tick the journal mirrors the book, and keeps the first of the signals with each
identifier.

A number without a value is the one thing that the journal does not keep: a position can be closed
at such a price before the end of the session, and its row then has no exit.

* `journal_mirrors_book` — the journal after ticks that are written in full.
* `journal_mirrors_book_after_run` — the journal after a run of such ticks.
* `not_every_exit_journaled` — an exit that the journal does not keep.
-/

namespace VolatilityDesk

namespace Journal

/-- Every write of a report succeeds. -/
def Takes (j : Journal) (r : TickReport Float) : Prop :=
  (j.recordSignals r.signals).1.isOk ∧
    ((j.recordSignals r.signals).2.recordPositions (r.opened ++ r.closed)).1.isOk

instance (j : Journal) (r : TickReport Float) : Decidable (j.Takes r) :=
  inferInstanceAs (Decidable (_ ∧ _))

/-- The journal after all writes of a report. -/
theorem Takes.exists_recordTick {j : Journal} {r : TickReport Float} (takes : j.Takes r) :
    ∃ ids middle ids' after, j.recordSignals r.signals = (.ok ids, middle) ∧
      middle.recordPositions (r.opened ++ r.closed) = (.ok ids', after) ∧
      j.recordTick r = (.ok (), after) := by
  obtain ⟨first, second⟩ := takes
  rcases signals : j.recordSignals r.signals with ⟨out, middle⟩
  rw [signals] at first second
  cases out with
  | error fault => cases first
  | ok ids =>
    rcases positions : middle.recordPositions (r.opened ++ r.closed) with ⟨out, after⟩
    rw [positions] at second
    cases out with
    | error fault => cases second
    | ok ids' =>
      refine ⟨ids, middle, ids', after, rfl, positions, ?_⟩
      simp [recordTick, signals, positions, settled]

end Journal

/-- A sound book that is recordable stays so behind a desk. -/
theorem RiskDesk.recordable_book_after {d : RiskDesk Float} (sound : d.book.Sound)
    (recordable : d.book.Recordable) (operations : List (Operation Float)) :
    (d.after operations).book.Recordable := by
  have both : (d.after operations).book.Sound ∧ (d.after operations).book.Recordable := by
    apply book_after_induction (motive := fun b => b.Sound ∧ b.Recordable) ⟨sound, recordable⟩
    rintro b after o step ⟨sound, recordable⟩
    exact ⟨sound.step step, recordable.step step sound⟩
  exact both.2

/-! ### Outlets that leave the journal alone -/

namespace Outlets

theorem journal_announce (o : Outlets) (r : TickReport Float) :
    (o.announce r).2.journal = o.journal := by
  unfold announce
  split
  · rfl
  · rfl

theorem journal_display (o : Outlets) (r : TickReport Float) :
    (o.display r).2.journal = o.journal := by
  unfold display
  split
  · rfl
  · rfl

end Outlets

namespace Monitor

variable {φ : Type} [PriceFeed φ]

/-! ### The journal after a tick -/

section Tick

variable {m : Monitor φ} {o : Outlets} {given : Option Timestamp} {clock : Timestamp}
  {report : TickReport Float} {j after : Journal}

theorem outlets_of_tick (completes : (m.tick o given clock).1 = .ok report) :
    (m.tick o given clock).2.2 = (publish o report).2 := by
  have answered := observed_of_tick completes
  unfold tick
  rcases observed : m.observe given clock with ⟨out, last⟩
  rw [observed] at answered
  obtain rfl : out = .ok report := answered
  rfl

/-- A report is journaled before anyone else hears of it, and no one else touches the journal. -/
theorem journal_publish (told : report.skipped = false) (ready : o.journal = some (.ready j))
    (records : j.recordTick report = (.ok (), after)) :
    (publish o report).2.journal = some (.ready after) := by
  have recorded : o.record report = (.ok (), { o with journal := some (.ready after) }) := by
    simp [Outlets.record, ready, JournalStore.recordTick, records]
  have kept := Outlets.journal_announce { o with journal := some (.ready after) } report
  simp only [publish, told, Outlets.publish, recorded]
  rcases heard : Outlets.announce { o with journal := some (.ready after) } report with ⟨out, last⟩
  rw [heard] at kept
  cases out with
  | error fault => exact kept
  | ok done =>
    have shown := last.journal_display report
    dsimp only at kept ⊢
    rw [← kept, ← shown]
    rcases last.display report with ⟨out, final⟩
    cases out with
    | error fault => rfl
    | ok done => rfl

end Tick

/-! ### Runs -/

/-- Ticks that complete, with their reports in order, all of which the journal takes; in between
anything may be done that leaves the desk and the journal alone, such as to wait or to count the
ticks. -/
inductive Journaled (start : Monitor φ × Outlets) :
    List (TickReport Float) → Monitor φ × Outlets → Prop where
  | refl : Journaled start [] start
  | tick {m : Monitor φ} {o : Outlets} {reports : List (TickReport Float)}
      {given : Option Timestamp} {clock : Timestamp} {report : TickReport Float} {j : Journal}
      (run : Journaled start reports (m, o))
      (completes : (m.tick o given clock).1 = .ok report)
      (ready : o.journal = some (.ready j)) (takes : j.Takes report) :
      Journaled start (reports ++ [report]) (m.tick o given clock).2
  | meanwhile {m m' : Monitor φ} {o o' : Outlets} {reports : List (TickReport Float)}
      (run : Journaled start reports (m, o)) (desk : m'.desk = m.desk)
      (journal : o'.journal = o.journal) : Journaled start reports (m', o')

/-- A tick completes and is written in full. -/
def written (m : Monitor φ) (o : Outlets) (given : Option Timestamp) (clock : Timestamp) : Bool :=
  match (m.tick o given clock).1, o.journal with
  | .ok report, some (.ready j) => decide (j.Takes report)
  | _, _ => false

theorem Journaled.exists_tick {start last : Monitor φ × Outlets}
    {reports : List (TickReport Float)} {given : Option Timestamp} {clock : Timestamp}
    (run : Journaled start reports last) (whole : last.1.written last.2 given clock = true) :
    ∃ report, Journaled start (reports ++ [report]) (last.1.tick last.2 given clock).2 := by
  unfold written at whole
  split at whole
  · rename_i report j completes ready
    exact ⟨report, run.tick completes ready (of_decide_eq_true whole)⟩
  · cases whole

/-- All ticks of a run complete and are written in full. -/
def allWritten (clock : Nat → Timestamp) : Nat → Monitor φ → Outlets → Bool
  | 0, _, _ => true
  | left + 1, m, o =>
    m.stopped || (m.written o none (clock m.ticks) &&
      let (m, o) := m.count o (clock m.ticks)
      allWritten clock left m.pause o)

/-- A run whose ticks are all written is journaled, with their reports. -/
theorem Journaled.exists_runFor {start : Monitor φ × Outlets} {reports : List (TickReport Float)}
    (clock : Nat → Timestamp) (left : Nat) {m : Monitor φ} {o : Outlets}
    (run : Journaled start reports (m, o)) (whole : allWritten clock left m o = true) :
    ∃ more, Journaled start (reports ++ more) (runFor clock left m o) := by
  induction left generalizing m o reports with
  | zero => exact ⟨[], by rwa [List.append_nil]⟩
  | succ left ih =>
    rw [runFor]
    split
    · exact ⟨[], by rwa [List.append_nil]⟩
    · rename_i going
      have both : m.written o none (clock m.ticks) = true ∧
          allWritten clock left (m.count o (clock m.ticks)).1.pause
            (m.count o (clock m.ticks)).2 = true := by
        simpa [allWritten, going] using whole
      obtain ⟨report, ticked⟩ := run.exists_tick both.1
      -- Counting the tick and waiting for the next one leave the desk and the journal alone.
      have counted : Journaled start (reports ++ [report]) (m.count o (clock m.ticks)) :=
        ticked.meanwhile rfl rfl
      dsimp only
      split
      · exact ⟨[report], counted⟩
      · obtain ⟨more, later⟩ := ih (counted.meanwhile (desk_pause _) rfl) both.2
        exact ⟨report :: more, by rwa [List.append_assoc] at later⟩

/-- The journal mirrors the book and keeps the first signals, and the book is as books of runs
are. -/
structure Mirrored (book : Book Float) (store : Option JournalStore)
    (seen : List (Signal Float)) : Prop where
  sound : book.Sound
  recordable : book.Recordable
  mirror : ∃ j : Journal, store = some (.ready j) ∧ j.Mirrors book ∧ j.KeepsFirst seen

section Runs

variable {m : Monitor φ} {o : Outlets} {given : Option Timestamp} {clock : Timestamp}
  {report : TickReport Float} {seen : List (Signal Float)}

/-- A tick that completes and is written in full keeps the mirror. -/
theorem Mirrored.tick {j : Journal} (mirrored : Mirrored m.desk.book o.journal seen)
    (completes : (m.tick o given clock).1 = .ok report) (ready : o.journal = some (.ready j))
    (takes : j.Takes report) :
    Mirrored (m.tick o given clock).2.1.desk.book (m.tick o given clock).2.2.journal
      (seen ++ report.signals) := by
  obtain ⟨snapshot, now, sees⟩ := exists_sees_of_tick completes
  have evaluated := sees.evaluated
  rw [observed_of_tick completes, ← monitor_tick (o := o)] at evaluated
  rw [outlets_of_tick completes]
  generalize (m.tick o given clock).2.1.desk = after at evaluated ⊢
  cases evaluated with
  | skipped closed => simpa [publish] using mirrored
  | reported isOpen returns =>
    have ticked := RiskDesk.ticked_of_runTick returns
    obtain ⟨traded, sound⟩ := ticked.traded mirrored.sound
    have recordable : after.book.Recordable := by
      obtain ⟨operations, same, -⟩ := m.desk.exists_after_eq_runTick m.settings.rules snapshot now
      rw [returns] at same
      obtain rfl : m.desk.after operations = after := same
      exact RiskDesk.recordable_book_after mirrored.sound mirrored.recordable operations
    have told : report.skipped = false := by cases ticked <;> rfl
    obtain ⟨j', ready', mirrors, keeps⟩ := mirrored.mirror
    obtain rfl : j = j' := by simpa [ready] using ready'
    obtain ⟨ids, middle, ids', last, signals, positions, records⟩ := takes.exists_recordTick
    -- Recording signals leaves the rows of positions alone, and the other way round.
    obtain ⟨kept, untouched⟩ := keeps.recordSignals signals
    obtain ⟨frame, later⟩ :=
      (mirrors.congr untouched).traded traded sound recordable positions
    exact ⟨sound, recordable, last, journal_publish told ready records, later, kept.congr frame⟩

/-- Journaled ticks of a monitor with a fresh book and an empty journal keep the mirror. -/
theorem mirrored_of_journaled {start last : Monitor φ × Outlets} {l : Limits Float} {serial : Nat}
    {j : Journal} {reports : List (TickReport Float)}
    (fresh : start.1.desk.book = Book.ofLimits l serial)
    (ready : start.2.journal = some (.ready j))
    (empty : j.signals = [] ∧ j.positions = []) (run : Journaled start reports last) :
    Mirrored last.1.desk.book last.2.journal (reports.flatMap (·.signals)) := by
  induction run with
  | refl =>
    rw [fresh]
    exact
      { sound := Book.sound_ofLimits l serial
        recordable := .ofLimits l serial
        mirror := ⟨j, ready, .ofLimits empty.2 l serial, .nil empty.1⟩ }
  | tick run completes ready takes ih =>
    rw [List.flatMap_append, List.flatMap_singleton]
    exact ih.tick completes ready takes
  | meanwhile run desk journal ih =>
    dsimp only
    rw [desk, journal]
    exact ih

end Runs

/-- **The journal mirrors the book.** A monitor with a fresh book and an empty journal makes ticks
that complete and are written in full. After each of them the rows of positions tell the positions
of the book, open and closed, one row for each: what was recorded at the opening; what was recorded
at the closing, in which a number without a value is left out and a zero has no sign; and of an open
position nothing of a closing. The rows of signals are one for each identifier that the reports
have, with the content of the first signal that had it. -/
theorem journal_mirrors_book {start last : Monitor φ × Outlets} {l : Limits Float} {serial : Nat}
    {j : Journal} {reports : List (TickReport Float)}
    (fresh : start.1.desk.book = Book.ofLimits l serial)
    (ready : start.2.journal = some (.ready j))
    (empty : j.signals = [] ∧ j.positions = []) (run : Journaled start reports last) :
    ∃ after, last.2.journal = some (.ready after) ∧ after.Mirrors last.1.desk.book ∧
      after.KeepsFirst (reports.flatMap (·.signals)) := by
  exact (mirrored_of_journaled fresh ready empty run).mirror

/-- So does the journal after a run of the monitor all of whose ticks are written. -/
theorem journal_mirrors_book_after_run {m : Monitor φ} {o : Outlets} {l : Limits Float}
    {serial : Nat} {j : Journal} (fresh : m.desk.book = Book.ofLimits l serial)
    (ready : o.journal = some (.ready j)) (empty : j.signals = [] ∧ j.positions = [])
    (clock : Nat → Timestamp) (limit : Int)
    (whole : allWritten clock (ticksWithin limit) m o = true) :
    ∃ after, (m.run o clock limit).2.2.journal = some (.ready after) ∧
      after.Mirrors (m.run o clock limit).2.1.desk.book := by
  obtain ⟨reports, run⟩ := Journaled.refl.exists_runFor clock (ticksWithin limit) whole
  obtain ⟨after, left, mirrors, -⟩ := (mirrored_of_journaled fresh ready empty run).mirror
  exact ⟨after, left, mirrors⟩

/-! ### A run to compute with -/

open RiskDesk (sampleSeries sampleRules noon)

/-- A price rises at noon, and is another one three minutes before the close. -/
def sampleStart (price : Float) : Monitor Script × Outlets :=
  ({ settings := { Settings.defaults with watchlist := ["MSFT"], rules := sampleRules }
     feed := ⟨[{ series := .ok [("MSFT", sampleSeries "MSFT" [100.0, 101.0, 100.0, 101.0])] },
       { series := .ok [("MSFT", sampleSeries "MSFT" [price])] }]⟩
     desk := RiskDesk.sample },
    { journal := some (.ready {}) })

/-- After the tick at noon, which buys. -/
def sampleBought (price : Float) : Monitor Script × Outlets :=
  ((sampleStart price).1.tick (sampleStart price).2 none (noon 739446)).2

/-- After the tick before the close, which sells at the other price. -/
def sampleSold (price : Float) : Monitor Script × Outlets :=
  ((sampleBought price).1.tick (sampleBought price).2 none (pastNoon 237)).2

/-- The exits in the rows of positions, with the identifiers of the positions. -/
def exits (o : Outlets) : Option (List (String × Option Float)) :=
  (o.journal.bind (·.journal?)).map fun j => j.positions.map fun r => (r.positionId, r.exit)

theorem exists_of_exits {o : Outlets} {rows : List (String × Option Float)}
    (shown : exits o = some rows) : ∃ j, o.journal = some (.ready j) ∧
      j.positions.map (fun r => (r.positionId, r.exit)) = rows := by
  obtain ⟨j, found, same⟩ := Option.map_eq_some_iff.mp shown
  obtain ⟨store, there, here⟩ := Option.bind_eq_some_iff.mp found
  cases store with
  | ready journal =>
    obtain rfl := Option.some.inj here
    exact ⟨journal, there, same⟩
  | blocked fault => cases here

theorem exists_journaled {price : Float}
    (bought : (sampleStart price).1.written (sampleStart price).2 none (noon 739446) = true)
    (sold : (sampleBought price).1.written (sampleBought price).2 none (pastNoon 237) = true) :
    ∃ reports, Journaled (sampleStart price) reports (sampleSold price) := by
  have start : Journaled (sampleStart price) [] (sampleStart price) := .refl
  obtain ⟨first, run⟩ := start.exists_tick bought
  have middle : Journaled (sampleStart price) _ (sampleBought price) := run
  obtain ⟨second, run⟩ := middle.exists_tick sold
  exact ⟨_, run⟩

/-- What was bought and sold has one row, with its exit. -/
theorem journal_mirrors_book_sold :
    ∃ reports j, Journaled (sampleStart 103.0) reports (sampleSold 103.0) ∧
      (sampleSold 103.0).2.journal = some (.ready j) ∧
      j.Mirrors (sampleSold 103.0).1.desk.book ∧ j.KeepsFirst (reports.flatMap (·.signals)) ∧
      j.positions.map (fun r => (r.positionId, r.exit)) = [("MSFT-000000000001", some 103.0)] := by
  have shown : exits (sampleSold 103.0).2 = some [("MSFT-000000000001", some 103.0)] := by
    decide +kernel
  have fresh : (sampleStart 103.0).1.desk.book = Book.ofLimits Settings.defaults.limits 0 := rfl
  obtain ⟨reports, run⟩ : ∃ reports, Journaled (sampleStart 103.0) reports (sampleSold 103.0) :=
    exists_journaled (by decide +kernel) (by decide +kernel)
  obtain ⟨j, ready, mirrors, keeps⟩ := journal_mirrors_book fresh rfl ⟨rfl, rfl⟩ run
  obtain ⟨j', ready', rows⟩ := exists_of_exits shown
  obtain rfl : j = j' := by simpa [ready] using ready'
  exact ⟨reports, j, run, ready, mirrors, keeps, rows⟩

/-- What is sold at a price without a value has an exit on the book, and none in its row. -/
theorem not_every_exit_journaled :
    ¬ ∀ (start last : Monitor Script × Outlets) (l : Limits Float) (serial : Nat) (j : Journal)
        (reports : List (TickReport Float)), start.1.desk.book = Book.ofLimits l serial →
        start.2.journal = some (.ready j) → j.signals = [] ∧ j.positions = [] →
        Journaled start reports last →
        ∃ after, last.2.journal = some (.ready after) ∧
          ∀ p ∈ last.1.desk.book.closed,
            ∃ row ∈ after.positions, row.positionId = p.id ∧ row.exit = p.exit := by
  intro claim
  have shown : exits (sampleSold (0.0 / 0.0)).2 = some [("MSFT-000000000001", none)] := by
    decide +kernel
  have closed : (sampleSold (0.0 / 0.0)).1.desk.book.closed.map
      (fun p => p.exit.isSome) = [true] := by decide +kernel
  have fresh : (sampleStart (0.0 / 0.0)).1.desk.book = Book.ofLimits Settings.defaults.limits 0 :=
    rfl
  obtain ⟨reports, run⟩ :
      ∃ reports, Journaled (sampleStart (0.0 / 0.0)) reports (sampleSold (0.0 / 0.0)) :=
    exists_journaled (by decide +kernel) (by decide +kernel)
  obtain ⟨j, ready, same⟩ := claim _ _ _ _ _ _ fresh rfl ⟨rfl, rfl⟩ run
  obtain ⟨j', ready', rows⟩ := exists_of_exits shown
  obtain rfl : j = j' := by simpa [ready] using ready'
  obtain ⟨p, inside, exit⟩ := List.mem_map.mp (closed ▸ List.mem_singleton_self _)
  obtain ⟨row, there, -, equal⟩ := same p inside
  have listed := List.mem_map_of_mem (f := fun r => (r.positionId, r.exit)) there
  rw [rows, List.mem_singleton] at listed
  have missing : row.exit = none := (Prod.mk.inj listed).2
  simp [← equal, missing] at exit

end Monitor

end VolatilityDesk
