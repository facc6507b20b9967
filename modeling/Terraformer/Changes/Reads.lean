import Terraformer.Device.Reports

/-!
# Reading a device for a change

What the change service reads from a device before and after a change, per change type, and the
context a truthful device and the driver's parsers make of it (`ReadsContext`).  A port that is
not shut down is reported as up only while its link is.
-/

namespace Terraformer

open Text Device

namespace ChangeType

/-- `_needs_vlans`. -/
def needsVlans : ChangeType → Bool
  | .vlanName | .interfaceAccessVlan => true
  | _ => false

/-- `_needs_switchports`. -/
def needsSwitchports : ChangeType → Bool
  | .interfaceTrunkVlans => true
  | _ => false

/-- `_needs_static_routes`. -/
def needsStaticRoutes : ChangeType → Bool
  | .staticRoute => true
  | _ => false

/-- `_needs_routing_processes`. -/
def needsRoutingProcesses : ChangeType → Bool
  | .routerNetwork | .routerNetworkRemove | .routerRipVersion | .bgpNeighbor => true
  | _ => false

/-- `_targets_interface`. -/
def targetsInterface : ChangeType → Bool
  | .interfaceDescription | .interfaceAdminState | .interfaceAccessVlan
  | .interfaceTrunkVlans => true
  | _ => false

end ChangeType

variable {Port : Type*} [UnicodeDatabase]

/-- A configuration a device can hold. -/
structure Config.WellFormed (c : Config Port) : Prop where
  layerTwo : c.LayerTwoWellFormed
  routes : c.RoutesWellFormed
  processes : c.ProcessesWellFormed
  hostname : IsWord c.hostname

/-- The context describes the ports and VLANs of a configuration truthfully, as far as the step
reads them: `up` says which ports have a link. -/
structure ReportsLayerTwo (naming : Naming Port) (c : Config Port) (up : Port → Bool)
    (step : ChangeStepIntent) (context : ChangeContext) : Prop where
  interface : ∀ facts ∈ context.interface, ∃ p, naming.denotes step.target = some p ∧
    facts.description = (c.ports p).description ∧
    facts.adminUp = some (!(c.ports p).shutdown && up p)
  vlans : step.changeType.needsVlans = true → ReportsVlans naming c context
  switchports : step.changeType.needsSwitchports = true → ReportsSwitchports naming c context

/-- The context is what the driver reads from a device for a step: `c` is the configuration of
the device and `up` says which ports have a link.  A part the change type has no use for is not
read. -/
structure ReadsContext (naming : Naming Port) (c : Config Port) (up : Port → Bool)
    (step : ChangeStepIntent) (context : ChangeContext) : Prop where
  interface : ∀ facts ∈ context.interface, ∃ p, step.target = naming.long p ∧
    facts.description = (c.ports p).description ∧
    facts.adminUp = some (!(c.ports p).shutdown && up p)
  interface_listed : step.changeType.targetsInterface = true →
    ∀ p, step.target = naming.long p → context.interface ≠ none
  vlans : step.changeType.needsVlans = true → ReportsVlans naming c context
  switchports : step.changeType.needsSwitchports = true → ReportsSwitchports naming c context
  switchports_listed : step.changeType.needsSwitchports = true →
    ∀ p, (c.ports p).mode = .trunk → ∃ row ∈ context.switchports, row.name = naming.short p
  routes : step.changeType.needsStaticRoutes = true → ReportsRoutes c context
  processes : step.changeType.needsRoutingProcesses = true → ReportsProcesses c context
  hostname : step.changeType = .hostname → context.hostname = some c.hostname
  domainLookup : step.changeType = .domainLookup → context.domainLookup = some c.domainLookup

end Terraformer
