import Std.Time.DateTime.Timestamp
import VolatilityDesk.Command.Run
/-!
# The program

The outer layer of the command line: it gathers the environment, the clock and the files that the
arguments name, runs the call, and shows what was printed. The journal lasts as long as the
program; requests to the chat are shown on the error stream instead of being sent.
-/

open VolatilityDesk

/-- The environment under the names of the settings, in either letter case. -/
def readEnvironment : IO (List (String × String)) := do
  let names := Field.names.flatMap fun name => [name, Text.upperCase name]
  let found ← names.mapM fun name => return (← IO.getEnv name).map (name, ·)
  return found.filterMap id

/-- The zone of the machine's clock: the one that the environment names, if there is data of it. -/
def readLocalZone : IO Zone := do
  let name := (← IO.getEnv "TZ").getD Zone.universal.name
  return (Zone.ofName .tables name).toOption.getD .universal

/-- A file by its name, if it can be read. -/
def readFile? (name : String) : IO (Option (List Nat)) := do
  try
    return some ((← IO.FS.readBinFile name).toList.map UInt8.toNat)
  catch _ => return none

/-- The time now. -/
def readClock : IO Timestamp := do
  let nanos := (← Std.Time.Timestamp.now).toNanosecondsSinceUnixEpoch.val
  return .ofInstant (Zone.epoch * Micros.perSecond + nanos / 1000)

/-- The files of the working directory that the arguments name. -/
def readFiles (names : List String) : IO Files := do
  let found ← names.mapM fun name => return (← readFile? name).map (name, ·)
  return found.filterMap id

/-- Reads what the command needs, runs it, writes what it leaves behind, and ends with its code. -/
def main (arguments : List String) : IO UInt32 := do
  let assignments := (← readFile? ".env").map fun bytes =>
    String.ofList (Text.Utf8.decode bytes).text
  let place : Workplace := {
    around := { environment := ← readEnvironment, file := assignments }
    files := ← readFiles arguments
    clock := ← readClock
    localZone := ← readLocalZone }
  let (ending, place) := place.call arguments
  for line in place.printed.flatMap Printed.lines do
    IO.println line
  for request in place.wire.requests do
    IO.eprintln (request.url ++ " " ++ request.body.line)
  match ending with
  | .error (.fault fault) => IO.eprintln fault.message
  | _ => pure ()
  return UInt32.ofNat (exitCode ending)
