import CardTelemetry.Files.View
import CardTelemetry.Job
import CardTelemetry.Text.Blank
import CardTelemetry.Text.Numeral

/-!
# Attribute files

An attribute is the text of a file without the blanks around it. Some attributes have
to be readable if they are there; of the others every failure counts as absence. A
numeric attribute that is absent or blank is 0, and otherwise has to be a numeral of
64 bits.
-/

namespace CardTelemetry.Sysfs

open Files (Path View)

/-- An attribute that is absent only when its file is. -/
def required (v : View) (p : Path) : Except Fault (Option String) :=
  match v.text p with
  | .ok s => .ok (some (Text.trimmed s))
  | .error f => if f.isNoEntry then .ok none else .error (.unreadable p.text f)

/-- An attribute that counts as absent when it cannot be read; an event tells of every
failure but a missing file. -/
def optional (v : View) (p : Path) : Job (Option String) :=
  match v.text p with
  | .ok s => .done (some (Text.trimmed s))
  | .error f =>
    if f.isNoEntry then .done none
    else ⟨[.noted (.unreadableAttribute p.text f)], .ok none⟩

def number (p : Path) (field : String) : Option String → Except Fault UInt64
  | none => .ok 0
  | some s =>
    if s = "" then .ok 0
    else
      match Text.readWord s.toList with
      | .ok n => .ok n
      | .error _ => .error (.malformed p.text field s)

def requiredNumber (v : View) (p : Path) (field : String) : Except Fault UInt64 :=
  (required v p).bind (number p field)

/-- A number in a file of a directory, absent when unreadable and named after the file. -/
def optionalNumber (v : View) (directory : Path) (file : String) : Job UInt64 := do
  let p := directory.join (Path.ofString file)
  let text ← optional v p
  Job.ofExcept (number p file text)

/-- A text in a file of a directory, empty when unreadable. -/
def optionalText (v : View) (directory : Path) (file : String) : Job String := do
  let text ← optional v (directory.join (Path.ofString file))
  return text.getD ""

end CardTelemetry.Sysfs
