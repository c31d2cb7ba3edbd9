import HourlySnapshots.CommandLine

/-!
# The command line

`trigger [seconds]` is the program that triggers a single cycle, and `serve` the one that serves
the web interface.
-/

namespace HourlySnapshots

/-- The variables that are set, of those that settings are read from. -/
def readEnvironment : IO Environment := do
  let found ← Settings.variableNames.mapM fun name => do
    return (← IO.getEnv name).map fun value => (name, value)
  return found.filterMap id

/-- Starts a program; it ends where it would connect to the database. -/
def launch (program : Program) (arguments : List String) : IO UInt32 := do
  match Launch.prepare program arguments (← readEnvironment) with
  | .error e => IO.eprintln e.line
  | .ok _ => IO.eprintln "Error: the database cannot be reached"
  return 1

end HourlySnapshots

/-- The entry of the command line. -/
def main (arguments : List String) : IO UInt32 := do
  match arguments with
  | "trigger" :: rest => HourlySnapshots.launch .triggerOnce rest
  | "serve" :: rest => HourlySnapshots.launch .service rest
  | _ =>
    IO.eprintln "usage: trigger [seconds] | serve"
    return 2
