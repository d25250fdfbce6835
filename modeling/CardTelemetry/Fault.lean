import CardTelemetry.Files.Failure

/-!
# Faults

Everything that can keep a collector from being built or from delivering its
samples. A fault is a cause; its wording is `message`, and the file failure behind
it, if there is one, is its `source`.
-/

namespace CardTelemetry

open Files (Failure)

inductive Fault where
  /-- The root of the tree could not be looked at. -/
  | unopened (path : String) (source : Failure)
  | notDirectory (path : String)
  | unreadable (path : String) (source : Failure)
  /-- The text of a field is no value of it. -/
  | malformed (path field text : String)
  | labelCount (metric : String) (expected given : Nat)
  | timeout (millis : Nat)
  | unknownCollector (name : String)
deriving DecidableEq

namespace Fault

def message : Fault → String
  | .unopened path source => "failed to open sysfs at " ++ path ++ ": " ++ source.text
  | .notDirectory path => "sysfs root " ++ path ++ " is not a directory"
  | .unreadable path source => "failed to read " ++ path ++ ": " ++ source.text
  | .malformed path field text =>
    "failed to parse " ++ field ++ " from " ++ path ++ ": " ++ text
  | .labelCount metric expected given =>
    "metric " ++ metric ++ " expects " ++ expected.repr ++ " label values, got " ++ given.repr
  | .timeout millis => "collection timed out after " ++ millis.repr ++ "ms"
  | .unknownCollector name => "unknown collector " ++ name

def source : Fault → Option Failure
  | .unopened _ source => some source
  | .unreadable _ source => some source
  | _ => none

end Fault

end CardTelemetry
