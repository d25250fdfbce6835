import CardTelemetry.Sysfs.Attribute
import CardTelemetry.Text.Lines

/-!
# The driver of a device

A device's directory names its driver in two ways: by the target of the link `driver`
and by a line of the file `uevent`. Of a target only the last name counts, whether or
not anything stands there; of the file only the first line that begins as such a line.
-/

namespace CardTelemetry.Sysfs

open Files (Path View)

def driverMark : List Char := "DRIVER=".toList

def namedDriver? (uevent : String) : Option String :=
  ((Text.lines uevent.toList).findSome? fun line =>
    driverMark.isPrefixOf? (Text.trim line)).map String.ofList

/-- The driver that a device's link names, if it is a link and its target has a name. -/
def linkedDriver (v : View) (device : Path) : Except Fault (Option String) :=
  let p := device.join (Path.ofString "driver")
  match v.target p with
  | .ok target => .ok (target.fileName?.map Text.Utf8.lossy)
  | .error f =>
    if f.isNoEntry || f.isInvalidInput then .ok none else .error (.unreadable p.text f)

def listedDriver (v : View) (device : Path) : Except Fault (Option String) :=
  (required v (device.join (Path.ofString "uevent"))).map fun text => text.bind namedDriver?

/-- The driver of a device: what the link names, else what `uevent` names, else nothing. -/
def driver (v : View) (device : Path) : Except Fault String :=
  (linkedDriver v device).bind fun linked =>
    match linked with
    | some d => .ok d
    | none => (listedDriver v device).map fun listed => listed.getD ""

end CardTelemetry.Sysfs
