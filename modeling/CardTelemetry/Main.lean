import CardTelemetry.Agent.Program
import CardTelemetry.Files.Manifest

/-!
# The command line program

The tree to be looked at is given on standard input as a manifest. Variables come from
the environment, and the host's name from `HOSTNAME`.
-/

namespace CardTelemetry.Main

/-- The variables that the program looks at. -/
def watchedVariables : List String :=
  Program.filterVariable :: Setting.all.filterMap Setting.environmentName?

def readEnvironment : IO Environment := do
  let mut env : Environment := []
  for name in watchedVariables do
    if let some value ← IO.getEnv name then
      env := env ++ [(name, value)]
  return env

/-- The lines of standard input up to its end. -/
partial def readLines (input : IO.FS.Stream) (read : List String) : IO (List String) := do
  let line ← input.getLine
  if line.isEmpty then return read.reverse
  else
    let text := line.toList
    let text := if text.getLast? = some '\n' then text.dropLast else text
    readLines input (String.ofList text :: read)

/-- Runs the collectors again and again, at the interval that is set. -/
partial def poll (settings : Settings) (env : Environment) (host : Host)
    (gatherers : List Gatherer) : IO UInt32 := do
  let round := Session.runAll settings host gatherers
  (← IO.getStderr).putStr (Program.logText settings env host round.events)
  IO.print round.output
  (← IO.getStdout).flush
  IO.sleep (UInt32.ofNat settings.interval.millis)
  poll settings env host gatherers

end CardTelemetry.Main

def main (arguments : List String) : IO UInt32 := do
  let env ← CardTelemetry.Main.readEnvironment
  let began ← IO.monoMsNow
  let lines ← CardTelemetry.Main.readLines (← IO.getStdin) []
  let name ← IO.getEnv "HOSTNAME"
  let ended ← IO.monoMsNow
  let host : CardTelemetry.Host :=
    ⟨name.getD "unknown-agent", ended.repr ++ "ms", 1000 * (ended - began)⟩
  let view := (CardTelemetry.Files.Manifest.read lines).view
  match CardTelemetry.Program.run arguments env host view with
  | .ended outcome =>
    IO.print outcome.output
    (← IO.getStderr).putStr outcome.errors
    return UInt32.ofNat outcome.exit
  | .polling settings gatherers errors =>
    (← IO.getStderr).putStr errors
    CardTelemetry.Main.poll settings env host gatherers
