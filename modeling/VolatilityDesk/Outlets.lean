import VolatilityDesk.Journal.Store
import VolatilityDesk.Notify.Messenger
/-!
# Who hears about a tick

What a tick did goes to the journal, then to the chat, then to the console; each of them may be
missing. A fault at one of them keeps the tick from those behind it.
-/

namespace VolatilityDesk

/-- The outlets for the reports of ticks. -/
structure Outlets where
  journal : Option JournalStore := none
  messenger : Option Messenger := none
  wire : Wire := { replies := [] }
  /-- Where reports are printed. -/
  console : Option Terminal := none
  /-- What was printed. -/
  printed : List Printed := []

/-- A fault at an outlet. -/
inductive OutletFault where
  | journal (fault : JournalFault)
  | messenger (fault : MessengerFault)
  | console (fault : MarkupFault)

/-! ### Lines of a tick -/

/-- The line about a signal. -/
def Signal.tickLine (time : Timestamp) (s : Signal Float) : String :=
  s!"  {time.dayMinuteText} [bold]{s.direction.text}[/bold] {s.instrument} @ {dollars s.entry} "
    ++ s!"(ROI {FixedFormat.cents.text s.expectedReturn}%, "
    ++ s!"conf {FixedFormat.whole.percent s.confidence})"

/-- The line about a closed position. -/
def Position.tickLine (time : Timestamp) (p : Position Float) : String :=
  let reason := (p.closeReason.map CloseReason.text).getD ""
  let amount := FixedFormat.signedAmount.text (p.realized.getD 0.0)
  s!"  {time.dayMinuteText} closed {p.instrument} ({reason}) "
    ++ coloured (gainColour (orZero p.realized)) amount

/-- The lines about a tick: its signals, then the positions closed in it. -/
def TickReport.lines (r : TickReport Float) : List String :=
  r.signals.map (·.tickLine r.time) ++ r.closed.map (·.tickLine r.time)

namespace Outlets

/-- Records a report. -/
def record (o : Outlets) (r : TickReport Float) : Except JournalFault Unit × Outlets :=
  match o.journal with
  | none => (.ok (), o)
  | some store =>
    let (out, store) := store.recordTick r
    (out, { o with journal := some store })

/-- Announces a report. -/
def announce (o : Outlets) (r : TickReport Float) : Except MessengerFault Unit × Outlets :=
  match o.messenger with
  | none => (.ok (), o)
  | some m =>
    let (out, wire) := m.notify r.time r.signals r.closed false o.wire
    (out.map fun _ => (), { o with wire := wire })

/-- Prints a report, if there is a console. -/
def display (o : Outlets) (r : TickReport Float) : Except MarkupFault Unit × Outlets :=
  match o.console with
  | none => (.ok (), o)
  | some terminal =>
    let (out, printed) := terminal.print o.printed (r.lines.map .line)
    (out, { o with printed := printed })

/-- Hands a report to all outlets. -/
def publish (o : Outlets) (r : TickReport Float) : Except OutletFault Unit × Outlets :=
  match o.record r with
  | (.error fault, o) => (.error (.journal fault), o)
  | (.ok (), o) =>
    match o.announce r with
    | (.error fault, o) => (.error (.messenger fault), o)
    | (.ok (), o) =>
      match o.display r with
      | (.error fault, o) => (.error (.console fault), o)
      | (.ok (), o) => (.ok (), o)

/-- The outlets after what was printed and sent was looked at. -/
def looked (o : Outlets) : Outlets := { o with printed := [], wire := o.wire.looked }

end Outlets

end VolatilityDesk
