import CardTelemetry.Binary64.Basic

/-!
# Connectors

A connector is a place on a card where a display can be plugged in. Its three attributes
are free texts of which one word each counts as true; every other text, and none at all,
counts as false.
-/

namespace CardTelemetry

inductive ConnectorStatus where
  | connected
  | disconnected
  | unknown
deriving DecidableEq

inductive ConnectorEnabled where
  | enabled
  | disabled
  | unknown
deriving DecidableEq

/-- The state of display power management signalling. -/
inductive Dpms where
  | on
  | off
  | unknown
deriving DecidableEq

def ConnectorStatus.ofText (text : String) : ConnectorStatus :=
  if text = "connected" then .connected
  else if text = "disconnected" then .disconnected
  else .unknown

def ConnectorStatus.gauge (s : ConnectorStatus) : Binary64 := .ofBool (s = .connected)

def ConnectorEnabled.ofText (text : String) : ConnectorEnabled :=
  if text = "enabled" then .enabled
  else if text = "disabled" then .disabled
  else .unknown

def ConnectorEnabled.gauge (e : ConnectorEnabled) : Binary64 := .ofBool (e = .enabled)

def Dpms.ofText (text : String) : Dpms :=
  if text = "On" then .on
  else if text = "Off" then .off
  else .unknown

def Dpms.gauge (d : Dpms) : Binary64 := .ofBool (d = .on)

structure Connector where
  /-- The name in full, which begins with the card's. -/
  name : String
  card : String
  status : ConnectorStatus
  enabled : ConnectorEnabled
  dpms : Dpms
deriving DecidableEq

/-- The name without the card's name and the dash after it; a name that does not begin so
is kept whole. -/
def Connector.localName (c : Connector) : String :=
  match (c.card.toList ++ ['-']).isPrefixOf? c.name.toList with
  | some rest => String.ofList rest
  | none => c.name

end CardTelemetry
