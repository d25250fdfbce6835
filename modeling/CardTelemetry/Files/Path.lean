import CardTelemetry.Text.Utf8

/-!
# Paths

A path is bytes, and so is each name in it; names are separated by slashes and hold
none. What a person sees of a path is its lossy text.
-/

namespace CardTelemetry.Files

abbrev Path := List UInt8

abbrev Name := List UInt8

namespace Path

def slash : UInt8 := 0x2F

/-- The name `.`, which stays where it is. -/
def here : Name := [0x2E]

/-- The name `..`, which goes up. -/
def up : Name := [0x2E, 0x2E]

def ofString (s : String) : Path := Text.Utf8.bytes s

def text (p : Path) : String := Text.Utf8.lossy p

/-- A path followed by a name; no slash is added after one. -/
def join (p : Path) (name : Name) : Path :=
  if p = [] ∨ p.getLast? = some slash then p ++ name else p ++ slash :: name

def isAbsolute (p : Path) : Bool := p.head? = some slash

/-- The names that a path leads through. A slash at the end asks for a directory, as
a last step to `.` does. -/
def steps (p : Path) : List Name :=
  let names := p.splitOn slash
  if p.getLast? = some slash then names.filter (fun n => n != []) ++ [here]
  else names.filter fun n => n != []

/-- The last name of a path, past slashes and steps to `.`; a path that ends by going
up, or has no name, has none. -/
def fileName? (p : Path) : Option Name :=
  match ((p.splitOn slash).filter fun n => n != [] && n != here).getLast? with
  | some n => if n = up then none else some n
  | none => none

end Path

end CardTelemetry.Files
