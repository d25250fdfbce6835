import CardTelemetry.Card.Connector

/-!
# Cards

A card as the listing describes it, and the further record that the amdgpu driver
provides. A card of another driver has a record with nothing in it but its name.
-/

namespace CardTelemetry

structure Card where
  name : String
  driver : String
  enabled : Bool
  connectors : List Connector
deriving DecidableEq

structure CardStats where
  name : String
  busyPercent : UInt64
  gttSize : UInt64
  gttUsed : UInt64
  visibleVramSize : UInt64
  visibleVramUsed : UInt64
  vramSize : UInt64
  vramUsed : UInt64
  vramVendor : String
  performanceLevel : String
  uniqueId : String
deriving DecidableEq

/-- The record of a card about which nothing more is known. -/
def CardStats.nameOnly (name : String) : CardStats :=
  ⟨name, 0, 0, 0, 0, 0, 0, 0, "", "", ""⟩

end CardTelemetry
