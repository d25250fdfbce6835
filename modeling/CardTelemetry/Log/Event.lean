import CardTelemetry.Fault

/-!
# Events

What the agent reports about its own work. An event has a level, the part of the
agent that speaks, a message and named values.
-/

namespace CardTelemetry.Log

inductive Level where
  | error
  | warn
  | info
  | debug
  | trace
deriving DecidableEq

/-- How much a level lets through: `error` least, `trace` most. -/
def Level.rank : Level → Nat
  | .error => 1
  | .warn => 2
  | .info => 3
  | .debug => 4
  | .trace => 5

def Level.name : Level → String
  | .error => "ERROR"
  | .warn => "WARN"
  | .info => "INFO"
  | .debug => "DEBUG"
  | .trace => "TRACE"

/-- A value beside a message: a text shown as it is, a text shown in quotes, or a number. -/
inductive Value where
  | shown (text : String)
  | quoted (text : String)
  | number (n : Nat)
deriving DecidableEq

inductive Event where
  | starting (agent sysPath : String)
  | enabled (collector : String)
  | disabled (collector : String)
  /-- An attribute that is there cannot be read, and counts as absent. -/
  | unreadableAttribute (path : String) (cause : Files.Failure)
  /-- A record of a card that the listing of cards does not have. -/
  | unlistedCard (card : String)
  | collected (collector : String) (samples : Nat)
  | finished (collector : String) (samples latency : Nat)
  | failed (collector : String) (fault : Fault)
deriving DecidableEq

namespace Event

def level : Event → Level
  | .starting .. | .enabled _ => .info
  | .failed .. => .warn
  | _ => .debug

def target : Event → String
  | .starting .. | .finished .. | .failed .. => "drm_agent"
  | .enabled _ | .disabled _ => "drm_agent::collectors"
  | .unreadableAttribute .. => "drm_agent::sysfs"
  | .unlistedCard _ | .collected .. => "drm_agent::collectors::drm"

def message : Event → String
  | .starting .. => "starting drm agent"
  | .enabled _ => "collector enabled"
  | .disabled _ => "collector disabled"
  | .unreadableAttribute .. => "unreadable attribute, treating as absent"
  | .unlistedCard _ => "no generic record for card"
  | .collected .. => "collected drm samples"
  | .finished .. => "collection finished"
  | .failed .. => "collection failed"

def fields : Event → List (String × Value)
  | .starting agent sysPath => [("agent_id", .shown agent), ("sys_path", .shown sysPath)]
  | .enabled collector => [("collector", .quoted collector)]
  | .disabled collector => [("collector", .quoted collector)]
  | .unreadableAttribute path cause => [("path", .shown path), ("error", .shown cause.text)]
  | .unlistedCard card => [("card", .shown card)]
  | .collected collector samples =>
    [("collector", .quoted collector), ("samples", .number samples)]
  | .finished collector samples latency =>
    [("collector", .quoted collector), ("samples", .number samples),
      ("latency_us", .number latency)]
  | .failed collector fault =>
    [("collector", .quoted collector), ("error", .shown fault.message)]

/-- The names of all that an event says; the message counts as a field. -/
def fieldNames (e : Event) : List String := "message" :: e.fields.map Prod.fst

end Event

end CardTelemetry.Log
