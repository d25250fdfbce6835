import CardTelemetry.Agent.Registry
import CardTelemetry.Metric.Exposition
import CardTelemetry.Metric.Record

/-!
# Sessions of the agent

A session builds the collectors and runs each of them once. The samples of a collector
are printed when all of them have come and not before, so a collector that fails prints
nothing. What a session prints and how it ends do not depend on how its events are
logged. A collector can also be run in rounds: each has a time at which it is due, in
milliseconds, and is not begun before the round before it is over.
-/

namespace CardTelemetry

open Files (View)

/-- What the machine says of itself: its name, and what its clocks show. -/
structure Host where
  name : String
  time : String
  latency : Nat

inductive Failure where
  | fault (f : Fault)
  | noCollectors
  | failed (count : Nat)
deriving DecidableEq

namespace Failure

def message : Failure → String
  | .fault f => f.message
  | .noCollectors => "no collectors enabled"
  | .failed n => n.repr ++ " collector(s) failed"

/-- The failure as the user is told. -/
def text (f : Failure) : String :=
  let cause :=
    match f with
    | .fault f =>
      match f.source with
      | some source => "\nCaused by:\n    " ++ source.text ++ "\n"
      | none => ""
    | _ => ""
  "Error: " ++ f.message ++ "\n" ++ cause

end Failure

namespace Session

def report (agent : String) (host : Host) (c : Collection) : Json :=
  .object [("agent_id", .text agent), ("collector", .text c.collector),
    ("collected_at", .text host.time), ("latency_us", .natural host.latency),
    ("samples", Sample.jsonList c.samples)]

def printed (settings : Settings) (host : Host) (c : Collection) : String :=
  match settings.format with
  | .text => expose c.samples
  | .json => (report (settings.agentName host.name) host c).render ++ "\n"

/-- What a round of running the collectors came to. -/
structure Round where
  events : List Log.Event
  output : String
  failures : Nat

def runOne (settings : Settings) (host : Host) (g : Gatherer) : Round :=
  let job := g.collectWithin settings.timeout
  match job.outcome with
  | .ok c =>
    ⟨job.events ++ [.finished g.name c.samples.length host.latency], printed settings host c, 0⟩
  | .error f => ⟨job.events ++ [.failed g.name f], "", 1⟩

def runAll (settings : Settings) (host : Host) : List Gatherer → Round
  | [] => ⟨[], "", 0⟩
  | g :: rest =>
    let first := runOne settings host g
    let others := runAll settings host rest
    ⟨first.events ++ others.events, first.output ++ others.output,
      first.failures + others.failures⟩

/-- A round that a collector is to make: when it is due, and how long it may take. -/
structure Turn where
  due : Nat
  timeout : Span

/-- A round that a collector has made: when it was begun, when it ended and what it came to. -/
structure Polled where
  begun : Nat
  ended : Nat
  outcome : Except Fault Collection

/-- A round of a collector that is free from a time on. A round that is late begins at once. -/
def poll (source : Nat → Source) (free : Nat) (t : Turn) : Polled :=
  let begun := max free t.due
  let g := Gatherer.ofSource (source begun)
  let run := Job.runAt begun t.timeout.millis g.collect
  ⟨begun, run.1, run.2.map fun samples => ⟨g.name, samples⟩⟩

/-- When a collector that has made some rounds is free again. -/
def freeAfter (start : Nat) (past : List Polled) : Nat :=
  (past.getLast?.map Polled.ended).getD start

/-- Adds one round to those that a collector has made. What the source does in it may depend on
these and on the time. -/
def pollNext (source : List Polled → Nat → Source) (start : Nat) (past : List Polled) (t : Turn) :
    List Polled :=
  past ++ [poll (source past) (freeAfter start past) t]

/-- The rounds of one collector, one after the other. -/
def polls (source : List Polled → Nat → Source) (start : Nat) (turns : List Turn) : List Polled :=
  turns.foldl (pollNext source start) []

/-- The collectors of a session; there has to be one. -/
def gatherers (settings : Settings) (v : View) : Except Failure (List Gatherer) :=
  match (Registry.assemble settings v).outcome with
  | .error f => .error (.fault f)
  | .ok [] => .error .noCollectors
  | .ok gs => .ok gs

/-- The events up to where the collectors are there. -/
def openingEvents (settings : Settings) (host : Host) (v : View) : List Log.Event :=
  .starting (settings.agentName host.name) settings.sysPath ::
    (Registry.assemble settings v).events

end Session

/-- What a session noted and printed, and why it failed if it did. -/
structure Session where
  events : List Log.Event
  output : String
  failure : Option Failure

def Session.run (settings : Settings) (host : Host) (v : View) : Session :=
  let opening := openingEvents settings host v
  match gatherers settings v with
  | .error f => ⟨opening, "", some f⟩
  | .ok gs =>
    let round := runAll settings host gs
    ⟨opening ++ round.events, round.output,
      if round.failures = 0 then none else some (.failed round.failures)⟩

end CardTelemetry
