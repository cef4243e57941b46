import VolatilityDesk.Command.Workplace
/-!
# Replaying a price file

A replay runs a monitor over a price file, one tick for each sample of the longest series, and then
reports: the number of signals, the positions, and the risk at the last prices.
-/

namespace VolatilityDesk

namespace Command

/-- The settings of a replay: all instruments of the file are watched, and ticks follow each other
at once. -/
def replaySettings (feed : Replay) (s : Settings) : Settings :=
  { s with watchlist := feed.instruments, pollSeconds := 0 }

/-- The messenger that settings describe. -/
def messengerOf (s : Settings) : Messenger where
  token := s.chat.token
  chat := s.chat.chat
  timeout := .ok s.httpTimeout

/-- The outlets of a replay. -/
def replayOutlets (w : Workplace) (s : Settings) (journal notify : Bool) : Outlets where
  journal := if journal then some (.atPath w.files s.journalPath w.journal) else none
  messenger := if notify || s.chat.enabled then some (messengerOf s) else none
  wire := w.wire
  console := some w.terminal
  printed := w.printed

/-- The workplace after a monitor has worked there. -/
def workplaceAfter (w : Workplace) (m : Monitor Replay) (o : Outlets) : Workplace :=
  { w with
    journal := (o.journal.bind JournalStore.journal?).getD w.journal
    wire := o.wire
    serial := m.desk.book.serial
    printed := o.printed }

/-- The line with the number of signals. -/
def generatedLine (count : Nat) : String :=
  s!"\n[bold]Generated [green]{count}[/green] signal(s)[/bold]"

/-- The report at the end of a replay. -/
def replayReport (m : Monitor Replay) : Work Unit := do
  let (final, _) := m.feed.fetch m.feed.instruments
  let prices := final.latestPrices
  let stop := (← Work.orFail .time final.latestTime).getD (← get).clock
  Work.say (generatedLine m.history.length)
  let all := m.desk.book.closed ++ m.desk.book.active
  Work.print (← Work.orFail .trading (Position.table "Replay Positions" prices all))
  Work.print [.plain (← Work.orFail .trading (m.desk.report prices stop).1)]

/-- Replays a price file through signals, trades and risk. -/
def runReplay (path : String) (journal notify : Bool) : Work Unit := do
  let feed : Replay := { recorded := ← Work.prices path }
  let s := replaySettings feed (← Work.settings)
  let w ← get
  let monitor ← Work.orFail .setup (Monitor.ofSettings w.zones s w.serial true feed)
  Work.say (s!"[bold]Replaying {feed.length} tick(s) for {feed.instruments.length} "
    ++ "instrument(s)...[/bold]")
  let w ← get
  let (_, monitor, outlets) :=
    monitor.run (replayOutlets w s journal notify) (fun _ => w.clock) feed.length
  set (workplaceAfter w monitor outlets)
  replayReport monitor

end Command

end VolatilityDesk
