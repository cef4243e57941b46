import VolatilityDesk.Command.Call
import VolatilityDesk.Market.PriceFile
import VolatilityDesk.Monitor
/-!
# Where commands work

A command finds settings, files, clocks, zone data, a journal, a line to the outside and a terminal
at its workplace, and leaves what it prints there. It ends well, or early: its call was wrong, its
input was refused, or it failed, also because the terminal refuses what it prints. What was printed
before an early end stays printed.
-/

namespace VolatilityDesk

/-- What commands work on. -/
structure Workplace where
  around : Surroundings
  files : Files := []
  clock : Timestamp
  /-- The zone of the machine's clock. -/
  localZone : Zone := .universal
  /-- The machine's data of the zones of sessions. -/
  zones : ZoneDatabase := .tables
  journal : Journal := {}
  wire : Wire := { replies := [] }
  /-- The number of positions opened so far. -/
  serial : Nat := 0
  terminal : Terminal := .lenient
  printed : List Printed := []

/-- The settings that hold at a workplace. -/
def Workplace.settings (w : Workplace) : Except SettingsFault Settings := do
  return (← Settings.load [] w.around).onClock w.localZone

/-- Why a command fails. -/
inductive CommandFault where
  | settings (fault : SettingsFault)
  /-- No such level of logging. -/
  | level (name : String)
  | file (fault : PriceFileFault)
  | time (fault : TimeFault)
  | session (fault : SessionFault)
  | setup (fault : MonitorSetupFault)
  | trading (fault : TradingFault)
  | store (fault : StoreFault)
  /-- The terminal refuses what is to be printed. -/
  | console (fault : MarkupFault)
  /-- An instrument's positions have no total that could be shown. -/
  | noTotal

/-- What is said about the fault. -/
def CommandFault.message : CommandFault → String
  | settings fault => fault.message
  | level name => "Unknown level: " ++ Text.quoted name
  | file fault => fault.message
  | time fault => fault.message
  | session fault => fault.message
  | setup fault => fault.message
  | trading fault => fault.message
  | store fault => fault.message
  | console fault => fault.message
  | noTotal => "unsupported format string passed to NoneType.__format__"

/-- How a command ends early. -/
inductive EarlyEnd where
  | call (reason : CallEnd)
  /-- The input was refused, and the reason printed. -/
  | refused
  | fault (reason : CommandFault)

/-- Work that prints and may end early. -/
abbrev Work (α : Type) := ExceptT EarlyEnd (StateM Workplace) α

namespace Work

/-- Ends the work with a fault where there is no result. -/
def orFail {ε α : Type} (wrap : ε → CommandFault) (result : Except ε α) : Work α :=
  match result with
  | .ok x => pure x
  | .error fault => throw (.fault (wrap fault))

/-- Prints things, as far as the terminal takes them. -/
def print (things : List Printed) : Work Unit := do
  let w ← get
  let (out, printed) := w.terminal.print w.printed things
  set { w with printed := printed }
  orFail .console out

/-- Prints a line. -/
def say (text : String) : Work Unit := print [.line text]

/-- The settings as they are now. -/
def settings : Work Settings := do orFail .settings (← get).settings

/-- Reads a price file; one that is bad is refused. -/
def prices (path : String) : Work (Snapshot Float) := do
  let (name, bytes) := ((← get).files.find? path).getD (path, [])
  match PriceFile.read name bytes with
  | .ok snapshot => return snapshot
  | .error fault =>
    if fault.isBadFile then
      say s!"[red]{fault.message}[/red]"
      throw .refused
    else throw (.fault (.file fault))

end Work

end VolatilityDesk
