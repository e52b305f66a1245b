import Refbook.Command

namespace Refbook
namespace Command

/-!
# The program

Reads the command line, runs it and prints what it reports: its lines on
standard output, and a failure on standard error with exit code 1.

The store is held in memory and lives only as long as the command, with the
standard settings and no migration scripts.  A configuration file named on the
command line must exist, but the settings stay the standard ones.  None of
the times the store records is ever printed, so its clock stands at the
start of the Unix epoch.
-/

/-- The instant the store's clock stands at. -/
def epoch : Temporal.Timestamp :=
  { date := { year := 1970, month := 1, day := 1 }, hour := 0, minute := 0, second := 0, nano := 0 }

end Command
end Refbook

open Refbook in
def main (args : List String) : IO UInt32 := do
  let line := Command.Line.parse args
  let outcome ← match line.config with
    | none => pure (Command.start Settings.standard Command.epoch line.request [])
    | some file =>
      match ← (IO.FS.readFile file).toBaseIO with
      | .error _ => pure { failure := some (Command.configMissing file) }
      | .ok _ => pure (Command.start Settings.standard Command.epoch line.request [])
  for text in outcome.lines do
    IO.println text
  match outcome.failure with
  | none => pure 0
  | some e =>
    IO.eprintln e.message
    pure 1
