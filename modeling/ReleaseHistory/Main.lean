/-
# ReleaseHistory.Main -- the program

Runs one command on an empty history and prints its lines.  Words that make no
command end the program with code 2, other failures with code 1.
-/
import ReleaseHistory.CommandLine.Run
import Std.Time.DateTime.Timestamp

namespace ReleaseHistory.CommandLine

set_option autoImplicit false

/-- The variables that the settings are read from. -/
def variableNames : List String :=
  [Settings.pathVariable, Settings.logLevelVariable, Settings.busyTimeoutVariable,
    Settings.batchSizeVariable, Settings.retentionVariable, Settings.defaultPageSizeVariable,
    Settings.maxPageSizeVariable]

/-- The variables that are set. -/
def readEnvironment : IO Environment :=
  variableNames.filterMapM fun name => do
    return (← IO.getEnv name).map fun value => (name, value)

/-- The point in time a number of nanoseconds after the start of 1970. -/
def epochTime? (nanos : Nat) : Option DateTime := do
  let start ← Date.ofParts? 1970 1 1
  DateTime.ofClock? (some 0) (start.dayNumber * microsPerDay + nanos / 1000 : Nat)

/-- Print the lines of a run, or why it failed, and give the exit code. -/
def finish : Except Failure (List String) → IO UInt32
  | .ok lines => do
      for line in lines do IO.println line
      return 0
  | .error .usage => do
      IO.eprintln "Usage: release-guard [--version] releases COMMAND [OPTIONS] [ARGS]"
      return 2
  | .error (.reported message) => do
      IO.eprintln ("Error: " ++ message)
      return 1
  | .error (.fault f) => do
      IO.eprintln f.message
      return 1

end ReleaseHistory.CommandLine

open ReleaseHistory ReleaseHistory.CommandLine in
/-- Run the command that the arguments spell. -/
def main (args : List String) : IO UInt32 := do
  let environment ← readEnvironment
  match epochTime? (← Std.Time.Timestamp.now).toNanosecondsSinceUnixEpoch.val.toNat with
  | none => return 1
  | some clock => finish (run {} { clock, environment } args).1
