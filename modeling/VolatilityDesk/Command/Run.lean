import VolatilityDesk.Command.Prices
import VolatilityDesk.Command.Replaying
import VolatilityDesk.Command.Status
/-!
# The command line

A call goes through three gates: its front must name a command, the settings must hold a level of
logging unless the call is verbose, and the command's own arguments must be in order. Then the
command runs.
-/

namespace VolatilityDesk

namespace Command

/-- The levels of logging. -/
def levels : List String :=
  ["CRITICAL", "FATAL", "ERROR", "WARN", "WARNING", "INFO", "DEBUG", "NOTSET"]

/-- The level of logging must be known. -/
def checkLevel : Work Unit := do
  let level := Text.upperCase (← Work.settings).logLevel
  if !levels.contains level then throw (.fault (.level level))

/-- Does what a command asks for. -/
def run : Command → Work Unit
  | scan path output minReturn => runScan path output minReturn
  | indicators path => runIndicators path
  | replay path journal notify => runReplay path journal notify
  | window => runWindow
  | stats => runStats

/-- A call that does not lead to a command ends the work. -/
def orEnd {α : Type} (result : Except CallEnd α) : Work α :=
  match result with
  | .ok x => pure x
  | .error reason => throw (.call reason)

/-- Runs the command that arguments call. -/
def runArguments (arguments : List String) : Work Unit := do
  let call ← orEnd (Call.front arguments)
  if !call.verbose then checkLevel
  run (← orEnd (call.command (← get).files))

end Command

/-- The exit code of a command. -/
def exitCode : Except EarlyEnd Unit → Nat
  | .ok () => 0
  | .error (.call .help) => 0
  | .error (.call .usage) => 2
  | .error .refused => 1
  | .error (.fault _) => 1

/-- Runs a call at a workplace: how it ends, and the workplace after it. -/
def Workplace.call (w : Workplace) (arguments : List String) : Except EarlyEnd Unit × Workplace :=
  (Command.runArguments arguments).run w

end VolatilityDesk
