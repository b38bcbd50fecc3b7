import LoginGate.CommandLine.Usage
import LoginGate.Service.Startup
import LoginGate.Telemetry.Exporter

/-!
# The command line

Reads the arguments and the environment, checks that a service can be set up
from them, and shows what it starts with. Listening, and the way to the stores,
are up to whoever gives the service its surroundings (`Setup.start`).
-/

namespace LoginGate

/-- The values of some variables of the environment. -/
def environmentOf (names : List String) : IO (List (String × String)) :=
  names.filterMapM fun name => do return (← IO.getEnv name).map (name, ·)

/-- What the environment says about the export of traces. -/
def telemetrySettings : IO Telemetry.Settings := do
  return {
    endpoint := ← IO.getEnv "OTEL_EXPORTER_OTLP_ENDPOINT"
    headers := ← IO.getEnv "OTEL_EXPORTER_OTLP_HEADERS"
    protocol := ← IO.getEnv "OTEL_EXPORTER_OTLP_PROTOCOL" }

/-- Prints log lines. -/
def printLog (verbosity : Nat) (lines : List LogLine) : IO Unit :=
  (shownLines verbosity lines).forM fun l => IO.println l.text

/-- Prints a complaint, and gives the code of a failure. -/
def complain (message : String) : IO UInt32 := do
  IO.eprintln ("Error: " ++ message)
  return 1

/-- Sets the service up and shows what it starts with. -/
def run (g : Given) : IO UInt32 := do
  let verbosity := givenVerbosity g
  let (exporter, lines) := (← telemetrySettings).exporter
  printLog verbosity lines
  match exporter, Setup.ofGiven g with
  | .error e, _ => complain e.message
  | .ok _, .error e => complain e.message
  | .ok _, .ok setup =>
    printLog verbosity [setup.startupLine]
    return 0

end LoginGate

open LoginGate in
/-- Runs the program. -/
def main (args : List String) : IO UInt32 := do
  let environment ← environmentOf (Setting.all.map Setting.variableName)
  match CommandLine.read (fun name => environment.lookup name) args with
  | .ok g => run g
  | .error stop =>
    if stop.isAnswer then
      IO.println stop.message
      return 0
    else
      IO.eprintln stop.message
      return 2
