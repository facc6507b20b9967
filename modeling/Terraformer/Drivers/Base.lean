import Terraformer.Changes.Types

/-!
# Device facts

What a driver reads from a device, and the state a change is rendered and validated against.
Each lookup of `ChangeContext` takes the first fact that matches, as the source does.
-/

namespace Terraformer

open Text

/-- One port, as `show interfaces` reports it. -/
structure InterfaceFacts where
  name : String
  description : Option String := none
  adminUp : Option Bool := none
  operUp : Option Bool := none
  deriving DecidableEq, Repr

/-- One row of the device's VLAN database, with the access ports it lists. -/
structure VlanFacts where
  vlanId : ℤ
  name : String
  status : String
  ports : List String := []
  deriving DecidableEq, Repr

/-- One port's layer-2 configuration, as the device itself reports it. -/
structure SwitchportFacts where
  name : String
  mode : String
  accessVlan : Option ℤ := none
  nativeVlan : Option ℤ := none
  trunkAllowed : Option String := none
  trunkEncapsulation : Option String := none
  deriving DecidableEq, Repr

/-- The port's administrative mode is trunk. -/
def SwitchportFacts.isTrunk (port : SwitchportFacts) : Bool :=
  port.mode == "trunk"

/-- One `ip route` line, split into the parts a change has to compare. -/
structure StaticRouteFacts where
  destination : String
  mask : String
  nextHop : String
  raw : String := ""
  deriving DecidableEq, Repr

/-- The line that configures the route again. -/
def StaticRouteFacts.asCommand (route : StaticRouteFacts) : String :=
  if route.raw ≠ "" then route.raw
  else s!"ip route {route.destination} {route.mask} {route.nextHop}"

/-- One `router` block of the running configuration. -/
structure RoutingProcessFacts where
  name : String
  statements : List String := []
  deriving DecidableEq, Repr

section

variable [UnicodeDatabase]

/-- Some statement of the process is the given one, up to case and spacing. -/
def RoutingProcessFacts.hasStatement (process : RoutingProcessFacts) (statement : String) : Bool :=
  process.statements.any fun line => normalizeStatement line == normalizeStatement statement

/-- The first statement starting with `start`, normalised. -/
def RoutingProcessFacts.findStatement (process : RoutingProcessFacts) (start : String) :
    Option String :=
  (process.statements.map normalizeStatement).find? fun line =>
    startswith line (normalizeStatement start)

end

/-- The device state a change is rendered and validated against. -/
structure ChangeContext where
  interface : Option InterfaceFacts := none
  vlans : List VlanFacts := []
  switchports : List SwitchportFacts := []
  staticRoutes : List StaticRouteFacts := []
  routingProcesses : List RoutingProcessFacts := []
  hostname : Option String := none
  domainLookup : Option Bool := none
  deriving DecidableEq, Repr

namespace ChangeContext

variable [UnicodeDatabase] (context : ChangeContext)

/-- Which VLAN currently holds this access port, per the device. -/
def accessVlanOf (interfaceName : String) : Option VlanFacts :=
  context.vlans.find? fun vlan => vlan.ports.any fun port => sameInterface port interfaceName

/-- The row of a VLAN. -/
def vlan (vlanId : ℤ) : Option VlanFacts :=
  context.vlans.find? fun vlan => vlan.vlanId == vlanId

/-- The first configured route for exactly this prefix. -/
def staticRoute (destination mask : String) : Option StaticRouteFacts :=
  context.staticRoutes.find? fun route => route.destination == destination && route.mask == mask

/-- The process of a name, up to case and spacing. -/
def routingProcess (name : String) : Option RoutingProcessFacts :=
  context.routingProcesses.find? fun process =>
    normalizeStatement process.name == normalizeStatement name

/-- The port's layer-2 configuration, matched on the short or long name. -/
def switchportOf (interfaceName : String) : Option SwitchportFacts :=
  context.switchports.find? fun port => sameInterface port.name interfaceName

end ChangeContext

end Terraformer
