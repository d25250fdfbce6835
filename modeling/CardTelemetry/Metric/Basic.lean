import CardTelemetry.Binary64.Basic
import CardTelemetry.Fault

/-!
# Metrics and samples

A metric has a name, a help text and the names of its labels. A sample is one
reading of a metric: as many label values as the metric has label names, and a
gauge. Label names may repeat, and a look-up by name then finds the first.
-/

namespace CardTelemetry

structure Metric where
  name : String
  help : String
  labelNames : List String
deriving DecidableEq

namespace Metric

/-- What all metric names of the agent begin with. -/
def space : String := "node"

/-- The parts of a name that are not empty, joined by underscores. -/
def joinName (space group name : String) : String :=
  "_".intercalate ([space, group, name].filter fun part => part != "")

/-- A metric of the agent, named within its group. -/
def ofGroup (group name help : String) (labelNames : List String) : Metric :=
  ⟨joinName space group name, help, labelNames⟩

end Metric

structure Sample where
  metric : Metric
  labelValues : List String
  value : Binary64
  aligned : labelValues.length = metric.labelNames.length
deriving DecidableEq

namespace Sample

/-- A reading with label values for all label names, or the fault that their count is wrong. -/
def ofValues (metric : Metric) (value : Binary64) (labelValues : List String) :
    Except Fault Sample :=
  if h : labelValues.length = metric.labelNames.length then .ok ⟨metric, labelValues, value, h⟩
  else .error (.labelCount metric.name metric.labelNames.length labelValues.length)

def name (s : Sample) : String := s.metric.name

/-- Label names with their values, in the metric's order. -/
def labels (s : Sample) : List (String × String) := s.metric.labelNames.zip s.labelValues

/-- The value of the first label of a name. -/
def label? (s : Sample) (name : String) : Option String := s.labels.lookup name

end Sample

end CardTelemetry
