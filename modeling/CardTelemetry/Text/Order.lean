import CardTelemetry.Text.Utf8

/-!
# The order of texts

Texts are ordered by their UTF-8 bytes. Names of entries, connectors and labels that are
sorted anywhere are sorted this way.
-/

namespace CardTelemetry.Text

open Utf8 (bytes)

/-- The first text comes strictly before the second. -/
def before (a b : String) : Bool := decide (bytes a < bytes b)

/-- The first text does not come after the second. -/
def notAfter (a b : String) : Bool := decide (bytes a ≤ bytes b)

end CardTelemetry.Text
