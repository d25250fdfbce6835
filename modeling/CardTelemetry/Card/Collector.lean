import CardTelemetry.Card.Basic
import CardTelemetry.Card.Schema
import CardTelemetry.Job

/-!
# The card collector

A source answers two questions, for the cards and for their further records. The
collector asks the first, takes the readings of the cards and of all connectors, asks the
second and takes the readings of all records. A record takes its driver from the first
card of its name. Each reading becomes a sample as it is taken, and one with a wrong count
of label values would end the survey.
-/

namespace CardTelemetry

structure Source where
  cards : Job (List Card)
  stats : Job (List CardStats)

/-- A reading of a metric whose label values are not counted yet. -/
structure Reading where
  metric : Metric
  value : Binary64
  labelValues : List String
deriving DecidableEq

namespace Reading

def sample (r : Reading) : Except Fault Sample :=
  Sample.ofValues r.metric r.value r.labelValues

/-- Adds the samples of some readings to those so far. -/
def push (out : List Sample) : List Reading → Except Fault (List Sample)
  | [] => .ok out
  | r :: rest => r.sample.bind fun s => push (out ++ [s]) rest

end Reading

namespace Collector

/-- The collector's name in reports and on the command line. -/
def name : String := "drm"

def enableReading (c : Card) : Reading := ⟨Schema.cardEnable, .ofBool c.enabled, [c.name]⟩

def connectorReadings (c : Connector) : List Reading :=
  [⟨Schema.connectorStatus, c.status.gauge, [c.card, c.localName]⟩,
    ⟨Schema.connectorEnabled, c.enabled.gauge, [c.card, c.localName]⟩,
    ⟨Schema.connectorDpms, c.dpms.gauge, [c.card, c.localName]⟩]

def cardReadings (cards : List Card) : List Reading :=
  cards.map enableReading ++ (cards.flatMap Card.connectors).flatMap connectorReadings

/-- The driver of the first card of a name, or nothing if no card has it. -/
def driverOf (cards : List Card) (name : String) : String :=
  match cards.find? fun c => c.name = name with
  | some c => c.driver
  | none => ""

def infoReading (cards : List Card) (s : CardStats) : Reading :=
  ⟨Schema.cardInfo, .one,
    [s.name, driverOf cards s.name, s.vramVendor, s.performanceLevel, s.uniqueId, "amd"]⟩

def gaugeReadings (s : CardStats) : List Reading :=
  [⟨Schema.busyPercent, .ofWord s.busyPercent, [s.name]⟩,
    ⟨Schema.gttSize, .ofWord s.gttSize, [s.name]⟩,
    ⟨Schema.gttUsed, .ofWord s.gttUsed, [s.name]⟩,
    ⟨Schema.vramSize, .ofWord s.vramSize, [s.name]⟩,
    ⟨Schema.vramUsed, .ofWord s.vramUsed, [s.name]⟩,
    ⟨Schema.visibleVramSize, .ofWord s.visibleVramSize, [s.name]⟩,
    ⟨Schema.visibleVramUsed, .ofWord s.visibleVramUsed, [s.name]⟩]

/-- An event if no card has the name of a record. -/
def noteUnlisted (cards : List Card) (s : CardStats) : Job Unit :=
  if cards.any fun c => c.name = s.name then .done () else Job.note (.unlistedCard s.name)

/-- Adds the samples of some records to those so far. -/
def pushStats (cards : List Card) (out : List Sample) : List CardStats → Job (List Sample)
  | [] => .done out
  | s :: rest =>
    (noteUnlisted cards s).andThen fun _ =>
      (Job.ofExcept (Reading.push out (infoReading cards s :: gaugeReadings s))).andThen
        fun out => pushStats cards out rest

/-- All samples of one look at a source, or the first failure. -/
def survey (source : Source) : Job (List Sample) := do
  Job.ask .cards
  let cards ← source.cards
  let samples ← Job.ofExcept (Reading.push [] (cardReadings cards))
  Job.ask .stats
  let stats ← source.stats
  pushStats cards samples stats

/-- `survey`, with an event for its success. -/
def collect (source : Source) : Job (List Sample) := do
  let samples ← survey source
  Job.note (.collected name samples.length)
  return samples

end Collector

end CardTelemetry
