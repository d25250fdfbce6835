import CardTelemetry.Card.Collector
import CardTelemetry.Sysfs.Driver
import CardTelemetry.Sysfs.Listing

/-!
# Reading cards from sysfs

Cards and their further records, read from a tree shaped like a mount of sysfs. Paths
in faults are the root as it was given, with the names below it added. A further record
is read only of a card whose `uevent` names the amdgpu driver.
-/

namespace CardTelemetry.Sysfs

open Files (Path View)

def deviceOf (card : Path) : Path := card.join (Path.ofString "device")

/-- A connector in its directory; nothing about its attributes can keep it from being read. -/
def connectorOf (v : View) (card : String) (e : Entry) : Job Connector := do
  let status ← optionalText v e.path "status"
  let enabled ← optionalText v e.path "enabled"
  let dpms ← optionalText v e.path "dpms"
  return ⟨e.name, card, .ofText status, .ofText enabled, .ofText dpms⟩

/-- The connector at an entry, if it is a directory. -/
def connectorAt (v : View) (card : String) (e : Entry) : Job (Option Connector) :=
  match v.isDirectory e.path with
  | .ok true => (connectorOf v card e).andThen fun c => .done (some c)
  | .ok false => .done none
  | .error f => .fail (.unreadable e.path.text f)

def connectorNotAfter (a b : Connector) : Bool := Text.notAfter a.name b.name

def connectorsOf (v : View) (card : Entry) : Job (List Connector) := do
  let es ← Job.ofExcept (entries v card.path)
  let connectors ← Job.each (connectorAt v card.name) (es.filter (belongsTo card.name))
  return (connectors.filterMap id).mergeSort connectorNotAfter

def cardOf (v : View) (e : Entry) : Job Card := do
  let device := deviceOf e.path
  let driver ← Job.ofExcept (driver v device)
  let enable ← Job.ofExcept
    (requiredNumber v (device.join (Path.ofString "enable")) "enable")
  let connectors ← connectorsOf v e
  return ⟨e.name, driver, decide (0 < enable), connectors⟩

/-- The further record of an amdgpu card's device. -/
def deviceStats (v : View) (name : String) (device : Path) : Job CardStats := do
  let busyPercent ← optionalNumber v device "gpu_busy_percent"
  let gttSize ← optionalNumber v device "mem_info_gtt_total"
  let gttUsed ← optionalNumber v device "mem_info_gtt_used"
  let visibleVramSize ← optionalNumber v device "mem_info_vis_vram_total"
  let visibleVramUsed ← optionalNumber v device "mem_info_vis_vram_used"
  let vramSize ← optionalNumber v device "mem_info_vram_total"
  let vramUsed ← optionalNumber v device "mem_info_vram_used"
  let vramVendor ← optionalText v device "mem_info_vram_vendor"
  let performanceLevel ← optionalText v device "power_dpm_force_performance_level"
  let uniqueId ← optionalText v device "unique_id"
  return { name, busyPercent, gttSize, gttUsed, visibleVramSize, visibleVramUsed, vramSize,
           vramUsed, vramVendor, performanceLevel, uniqueId }

def statsOf (v : View) (e : Entry) : Job CardStats := do
  let device := deviceOf e.path
  let listed ← Job.ofExcept (listedDriver v device)
  if listed = some "amdgpu" then deviceStats v e.name device
  else return .nameOnly e.name

def allCards (v : View) (root : Path) : Job (List Card) := do
  let es ← Job.ofExcept (cardEntries v root)
  Job.each (cardOf v) es

def allStats (v : View) (root : Path) : Job (List CardStats) := do
  let es ← Job.ofExcept (cardEntries v root)
  Job.each (statsOf v) es

def source (v : View) (root : Path) : Source := ⟨allCards v root, allStats v root⟩

/-- Checks that a root is there and is a directory. -/
def checkRoot (v : View) (root : Path) : Except Fault Unit :=
  match v.isDirectory root with
  | .ok true => .ok ()
  | .ok false => .error (.notDirectory root.text)
  | .error f => .error (.unopened root.text f)

end CardTelemetry.Sysfs
