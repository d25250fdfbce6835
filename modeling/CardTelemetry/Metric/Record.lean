import CardTelemetry.Json.Basic
import CardTelemetry.Metric.Basic
import CardTelemetry.Text.Order

/-!
# Samples as JSON

A sample is an object of its name, its labels and its gauge. The labels are an
object with sorted keys; of a repeated label name it keeps the last value.
-/

namespace CardTelemetry.Sample

/-- Sets a key in a list sorted by key. -/
def put (key value : String) : List (String × String) → List (String × String)
  | [] => [(key, value)]
  | (k, v) :: rest =>
    if key = k then (key, value) :: rest
    else if Text.before key k then (key, value) :: (k, v) :: rest
    else (k, v) :: put key value rest

/-- The labels sorted by name, each with its last value. -/
def labelObject (s : Sample) : List (String × String) :=
  s.labels.foldl (fun object label => put label.1 label.2 object) []

def json (s : Sample) : Json :=
  .object [("name", .text s.name),
    ("labels", .object (s.labelObject.map fun label => (label.1, .text label.2))),
    ("value", .real s.value)]

def jsonList (samples : List Sample) : Json := .array (samples.map json)

end CardTelemetry.Sample
