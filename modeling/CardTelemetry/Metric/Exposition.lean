import CardTelemetry.Binary64.Decimal
import CardTelemetry.Metric.Basic

/-!
# Exposition text

Samples are written in families, one for each metric name. A family is a help line,
a type line and a line for each sample; families stand in the order in which their
first samples come, and so do the samples in a family. Escapes keep a label value
inside its quotes and every line on one line.
-/

namespace CardTelemetry

namespace Exposition

/-- A character of a label value. -/
def escapeLabel (c : Char) : List Char :=
  if c = '\\' then ['\\', '\\']
  else if c = '"' then ['\\', '"']
  else if c = '\n' then ['\\', 'n']
  else [c]

def escapeHelp (c : Char) : List Char :=
  if c = '\\' then ['\\', '\\']
  else if c = '\n' then ['\\', 'n']
  else [c]

def labelText (label : String × String) : List Char :=
  label.1.toList ++ '=' :: '"' :: (label.2.toList.flatMap escapeLabel ++ ['"'])

/-- The labels in braces, or nothing if there are none. -/
def labelsText (labels : List (String × String)) : List Char :=
  if labels.isEmpty then []
  else '{' :: ([','].intercalate (labels.map labelText) ++ ['}'])

def line (s : Sample) : List Char :=
  s.name.toList ++ labelsText s.labels ++ ' ' :: s.value.expose

/-- The samples of one metric name; the first of them speaks for the metric. -/
structure Family where
  first : Sample
  others : List Sample

namespace Family

def name (f : Family) : String := f.first.name

def members (f : Family) : List Sample := f.first :: f.others

def helpLine (f : Family) : List Char :=
  "# HELP ".toList ++ f.name.toList ++ ' ' :: f.first.metric.help.toList.flatMap escapeHelp

def typeLine (f : Family) : List Char :=
  "# TYPE ".toList ++ f.name.toList ++ " gauge".toList

def lines (f : Family) : List (List Char) :=
  f.helpLine :: f.typeLine :: f.members.map line

end Family

/-- Adds a sample to its family, or a new family at the end. -/
def enter (s : Sample) : List Family → List Family
  | [] => [⟨s, []⟩]
  | f :: rest =>
    if f.name = s.name then ⟨f.first, f.others ++ [s]⟩ :: rest
    else f :: enter s rest

def families (samples : List Sample) : List Family :=
  samples.foldl (fun fs s => enter s fs) []

/-- Lines, each with its newline. -/
def unlines (ls : List (List Char)) : List Char := ls.flatMap fun l => l ++ ['\n']

def write (samples : List Sample) : List Char :=
  unlines ((families samples).flatMap Family.lines)

end Exposition

def Sample.text (s : Sample) : String := String.ofList (Exposition.line s)

def expose (samples : List Sample) : String := String.ofList (Exposition.write samples)

end CardTelemetry
