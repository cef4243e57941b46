import VolatilityDesk.Command.Arguments
import VolatilityDesk.Decimal.Reader
import VolatilityDesk.Files
/-!
# Calls of commands

A call names a command, behind options that concern all commands and before the command's own
arguments. The options in front are read first, and the command is found by its name; the command's
arguments are read when everything in front is in order. To ask for help ends a call, unless an
option is wrong.
-/

namespace VolatilityDesk

/-- Why a call does not lead to a command. -/
inductive CallEnd where
  /-- Help was asked for. -/
  | help
  /-- The call is wrong. -/
  | usage
  deriving DecidableEq, Repr

/-- The tasks of the command line. -/
inductive Task where
  | scan
  | indicators
  | replay
  | window
  | stats
  deriving DecidableEq, Repr

/-- What a command is asked to do. -/
inductive Command where
  /-- Give signals on the latest windows of a price file, perhaps with another least return. -/
  | scan (path output : String) (minReturn : Option Float)
  /-- Show the indicators of a price file. -/
  | indicators (path : String)
  /-- Replay a price file through signals, trades and risk. -/
  | replay (path : String) (journal notify : Bool)
  /-- Show the trading session. -/
  | window
  /-- Show what the journal knows. -/
  | stats

/-- The front of a call. -/
structure Call where
  verbose : Bool
  task : Task
  /-- The arguments of the task. -/
  rest : List String

/-- The option that asks for help. -/
def helpRule : OptionRule := .flag "help" "yes" ["--help"]

namespace Task

/-- The name of the command of a task. -/
def text : Task → String
  | scan => "scan"
  | indicators => "indicators"
  | replay => "replay"
  | window => "window"
  | stats => "stats"

/-- All tasks. -/
def all : List Task := [scan, indicators, replay, window, stats]

/-- The task with a command's name. -/
def ofText? (name : String) : Option Task := all.find? (·.text == name)

theorem ofText?_text (t : Task) : ofText? t.text = some t := by cases t <;> decide

/-- The options of a task. -/
def rules : Task → List OptionRule
  | scan => [.valued "output" ["--output", "-o"], .valued "min_roi" ["--min-roi"], helpRule]
  | replay =>
    [.flag "journal" "yes" ["--journal"], .flag "journal" "no" ["--no-journal"],
      .flag "notify" "yes" ["--notify", "-n"], helpRule]
  | _ => [helpRule]

/-- The only positional argument, which must lead to a file. -/
def filePath (files : Files) (a : Arguments) : Except CallEnd String :=
  match a.positional with
  | [path] => if (files.find? path).isSome then .ok path else .error .usage
  | _ => .error .usage

/-- A command without positional arguments. -/
def alone (command : Command) (a : Arguments) : Except CallEnd Command :=
  if a.positional.isEmpty then .ok command else .error .usage

/-- The least return, if one is given. -/
def minReturn (a : Arguments) : Except CallEnd (Option Float) :=
  match a.value? "min_roi" with
  | none => .ok none
  | some text =>
    match Decimal.floatOfText? text with
    | some x => .ok (some x)
    | none => .error .usage

/-- The command that arguments describe. -/
def command (task : Task) (files : Files) (a : Arguments) : Except CallEnd Command :=
  match task with
  | scan => do
    let path ← filePath files a
    return .scan path ((a.value? "output").getD "table") (← minReturn a)
  | indicators => do return .indicators (← filePath files a)
  | replay => do
    let path ← filePath files a
    return .replay path (a.value? "journal" != some "no") (a.has "notify")
  | window => alone .window a
  | stats => alone .stats a

end Task

namespace Call

/-- The options in front of a command. -/
def rules : List OptionRule := [.flag "verbose" "yes" ["--verbose", "-v"], helpRule]

/-- The front of a call. An unknown command that looks like an option is read as one, for the sake
of help alone. -/
def front (arguments : List String) : Except CallEnd Call :=
  match Arguments.read rules false arguments with
  | none => .error .usage
  | some a =>
    if a.has "help" then .error .help
    else match a.positional with
      | [] => .error .usage
      | name :: rest =>
        match Task.ofText? name with
        | some task => .ok { verbose := a.has "verbose", task := task, rest := rest }
        | none =>
          match Arguments.read rules false (name :: rest) with
          | some a => .error (if a.has "help" then .help else .usage)
          | none => .error .usage

/-- The command of a call. -/
def command (c : Call) (files : Files) : Except CallEnd Command :=
  match Arguments.read c.task.rules true c.rest with
  | none => .error .usage
  | some a => if a.has "help" then .error .help else c.task.command files a

end Call

end VolatilityDesk
