import CardTelemetry.Settings.Basic
import CardTelemetry.Sysfs.Source

/-!
# The registry of collectors

The registry lists the collectors there are. Those that are on by default or enabled by
name are built, less those disabled by name; a name that is not in the registry is
refused before anything is built. A collector that has been built can be run again and
again, each time under a deadline.
-/

namespace CardTelemetry

open Files (Path View)

structure Gatherer where
  name : String
  collect : Job (List Sample)

structure Maker where
  name : String
  byDefault : Bool
  make : Settings → View → Except Fault Gatherer

/-- The samples of one run, and whose they are. -/
structure Collection where
  collector : String
  samples : List Sample

def Gatherer.collectWithin (g : Gatherer) (timeout : Span) : Job Collection :=
  (Job.within timeout.millis g.collect).andThen fun samples => .done ⟨g.name, samples⟩

def Gatherer.ofSource (source : Source) : Gatherer := ⟨Collector.name, Collector.collect source⟩

namespace Registry

/-- The card collector over the tree at a root. -/
def openCards (v : View) (root : Path) : Except Fault Gatherer :=
  (Sysfs.checkRoot v root).map fun _ => .ofSource (Sysfs.source v root)

def makers : List Maker :=
  [⟨Collector.name, true, fun settings v => openCards v (Path.ofString settings.sysPath)⟩]

def isKnown (name : String) : Bool := makers.any fun m => m.name = name

/-- The first name in the settings that no collector has. -/
def unknown? (settings : Settings) : Option String :=
  (settings.enable ++ settings.disable).find? fun name => !isKnown name

def wants (settings : Settings) (m : Maker) : Bool :=
  (m.byDefault || settings.enable.contains m.name) && !settings.disable.contains m.name

/-- Builds the collectors that are wanted, in the registry's order. -/
def assembleFrom (settings : Settings) (v : View) : List Maker → Job (List Gatherer)
  | [] => .done []
  | m :: rest =>
    if wants settings m then
      (Job.ofExcept (m.make settings v)).andThen fun g =>
        (Job.note (.enabled m.name)).andThen fun _ =>
          (assembleFrom settings v rest).andThen fun gs => .done (g :: gs)
    else (Job.note (.disabled m.name)).andThen fun _ => assembleFrom settings v rest

def assemble (settings : Settings) (v : View) : Job (List Gatherer) :=
  match unknown? settings with
  | some name => .fail (.unknownCollector name)
  | none => assembleFrom settings v makers

end Registry

end CardTelemetry
