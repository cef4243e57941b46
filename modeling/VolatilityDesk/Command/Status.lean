import VolatilityDesk.Command.Workplace
/-!
# Commands about the state of things

One shows the trading session and whether it is open, the other what the journal knows.
-/

namespace VolatilityDesk

namespace Command

/-! ### The session -/

/-- The line about the session's hours. -/
def hoursLine (plan : SessionPlan) : String :=
  s!"  Session:       {plan.start}-{plan.stop} {plan.timezone}"
    ++ if plan.weekends then " (weekends included)" else ""

/-- The line about the clock of the session's zone. -/
def localLine (here : Timestamp) : String :=
  s!"  Local time:    {here.date.weekdayName} {here.dayMinuteText}"

/-- The line about the state of the session: the whole minutes to the close while it is open. -/
def statusLine (remaining : Option Int) : String :=
  match remaining with
  | some micros =>
    s!"  Status:        [green]OPEN[/green] ({micros / Micros.perMinute} min to close)"
  | none => "  Status:        [yellow]CLOSED[/yellow]"

/-- Shows the trading session. -/
def runWindow : Work Unit := do
  let s ← Work.settings
  let session ← Work.orFail .session (Session.ofPlan (← get).zones s.session)
  let now := (← get).clock
  let here ← Work.orFail .time (session.toLocal now)
  Work.say "[bold]Trading Window[/bold]"
  Work.say (hoursLine s.session)
  Work.say (localLine here)
  Work.say (statusLine (← Work.orFail .time (session.timeToClose now)))
  if ← Work.orFail .time (session.shouldFlatten now) then
    Work.say (s!"  [red]Within {s.session.flattenMinutes} min of close: "
      ++ "flattening positions[/red]")

/-! ### The journal -/

/-- The row of an instrument, none if it has no total. -/
def instrumentRow? (i : InstrumentSummary) : Option (List String) :=
  i.total.map fun total => [i.instrument, toString i.closed, toString i.wins, signedDollars total]

/-- The lines about all closed positions. -/
def performanceLines (p : Performance) : List String :=
  ["[bold]Performance Summary[/bold]",
    s!"  Total signals logged: {p.signals}",
    s!"  Closed positions:     {p.closed}",
    match p.winRate with
      | some rate => s!"  Win rate:             {FixedFormat.tenths.percent rate}"
      | none => "  Win rate:             N/A (no closed positions)",
    s!"  Total P&L:            {signedDollars p.total}"]
    ++ match p.averageReturn with
      | some average => [s!"  Avg return:           {FixedFormat.signedCents.text average}%"]
      | none => []

/-- Shows what the journal knows. -/
def runStats : Work Unit := do
  let s ← Work.settings
  let w ← get
  let store := JournalStore.atPath w.files s.journalPath w.journal
  let p ← Work.orFail .store store.performance
  Work.print ((performanceLines p).map .line)
  if !p.byInstrument.isEmpty then
    match p.byInstrument.mapM instrumentRow? with
    | some rows =>
      Work.print [.table
        { title := "By Instrument", columns := ["Symbol", "Closed", "Wins", "P&L"], rows := rows }]
    | none => throw (.fault .noTotal)

end Command

end VolatilityDesk
