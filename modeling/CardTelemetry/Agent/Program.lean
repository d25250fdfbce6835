import CardTelemetry.Agent.Session
import CardTelemetry.Log.Filter
import CardTelemetry.Log.Line
import CardTelemetry.Settings.CommandLine

/-!
# The program

From arguments, environment and a view of the file system to what the program writes and
the code it exits with. Samples and help go to the output; log lines, complaints and the
reason of a failure go to the errors. Without `--once` the program does not end by
itself, and hands over the collectors that are to be run in turn.
-/

namespace CardTelemetry

open Files (View)

/-- What a program that has ended leaves behind. -/
structure Outcome where
  exit : Nat
  output : String
  errors : String
deriving DecidableEq

namespace Program

def filterVariable : String := "RUST_LOG"

def logLine (settings : Settings) (host : Host) (e : Log.Event) : String :=
  if settings.jsonLogs then Log.jsonLine host.time e else Log.textLine host.time e

/-- The lines of the events that the filter lets through. -/
def logText (settings : Settings) (env : Environment) (host : Host) (events : List Log.Event) :
    String :=
  let filter := Log.Filter.ofText (env.lookup filterVariable)
  String.join ((events.filter filter.allows).map fun e => logLine settings host e ++ "\n")

def conclude (settings : Settings) (env : Environment) (host : Host) (s : Session) : Outcome :=
  let logged := logText settings env host s.events
  match s.failure with
  | none => ⟨0, s.output, logged⟩
  | some f => ⟨1, s.output, logged ++ f.text⟩

/-- The end of a program whose arguments give no settings. -/
def stop (env : Environment) : Halt → Outcome
  | .complaint c => ⟨2, "", c.text⟩
  | .help true => ⟨0, Help.long env, ""⟩
  | .help false => ⟨0, Help.short env, ""⟩
  | .version => ⟨0, Help.programLine ++ "\n", ""⟩

inductive Course where
  | ended (outcome : Outcome)
  /-- The program goes on; its errors so far are given. -/
  | polling (settings : Settings) (gatherers : List Gatherer) (errors : String)

def run (arguments : List String) (env : Environment) (host : Host) (v : View) : Course :=
  match Settings.read arguments env with
  | .error halt => .ended (stop env halt)
  | .ok settings =>
    if settings.once then .ended (conclude settings env host (Session.run settings host v))
    else
      let opening := Session.openingEvents settings host v
      match Session.gatherers settings v with
      | .error f => .ended (conclude settings env host ⟨opening, "", some f⟩)
      | .ok gs => .polling settings gs (logText settings env host opening)

end Program

end CardTelemetry
