/- # The command line

Reads the environment and the wall clock, carries out the command, and prints, writes and ends as its
outcome says.
-/
import SchemaScript.Command.Execution
import Std.Time.DateTime.Timestamp

namespace SchemaScript.Command

/-- The variables of the environment that the program looks at. -/
def environmentVariables : List String :=
  ["DATASYNC_SCHEMA_LABEL", "DATASYNC_BACKEND_LABEL", "DATASYNC_ENCRYPTED_COMMENT",
    "DATASYNC_TRIGGER_FUNCTION", "DATASYNC_AUTHENTICATED_ROLE", "LOG_LEVEL",
    LogSettings.layoutVariable]

/-- The environment, as far as the program looks at it. -/
def readEnvironment : IO Environment :=
  environmentVariables.filterMapM fun name => do
    return (← IO.getEnv name).map fun text => (.ofString name, .ofString text)

/-- The time of the wall clock. -/
def readClock : IO Instant := do
  let time ← Std.Time.Timestamp.now
  return .ofEpoch (time.toNanosecondsSinceUnixEpoch.val.toNat / 1000)

/-- Prints the lines of a log. -/
def printLog (log : Log) : IO Unit := log.lines.forM fun line => IO.eprintln line.shown

end SchemaScript.Command

open SchemaScript

/-- Carries out a command line. -/
def main (arguments : List String) : IO UInt32 := do
  let environment ← Command.readEnvironment
  let time ← Command.readClock
  let words := arguments.map Text.ofString
  let (outcome, log) := Command.run words environment ⟨time, []⟩ time (fun _ => .ok ()) Command.utf8Output
  match outcome with
  | .helped =>
    IO.print Command.helpText
    return 0
  | .misused fault =>
    IO.eprintln ("generate_schema.py: error: " ++ fault.message.shown)
    return 2
  | .failed (.threshold fault) =>
    IO.eprintln fault.message
    return 1
  | .failed (.statement fault) =>
    Command.printLog log
    IO.eprintln fault.message
    return 1
  | .failed .noPart =>
    Command.printLog log
    IO.eprintln Command.noPart
    return 1
  | .failed (.content halves) | .failed (.output halves) =>
    Command.printLog log
    IO.eprintln halves.message
    return 1
  | .unwritten fault =>
    Command.printLog log
    IO.eprintln fault.message
    return 1
  | .ended effect =>
    if let some (path, text) := effect.file then
      try
        IO.FS.writeFile path.shown text.shown
      catch e =>
        IO.eprintln (toString e)
        return 1
    Command.printLog log
    IO.print effect.stdout.shown
    return effect.exit.toUInt32
