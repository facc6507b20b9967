import Terraformer.Drivers.Base

/-!
# Rendering a change

The command lines the IOS-XE driver sends for a change step, and the lines it sends to undo
them.  A renderer that finds no current value to go back to refuses with
`UnsupportedCapabilityError`; the two `ValueError`s a renderer could raise belong to steps
that validation refuses.
-/

namespace Terraformer

open Text

/-- Why a change is not rendered. -/
inductive RenderError where
  | unsupportedCapability
  | valueError
  deriving DecidableEq, Repr

section

variable [UnicodeDatabase]

/-- One blank between tokens, which is the form IOS stores. -/
def collapse (value : String) : String :=
  join (split value)

/-- The `network` statement of a value. -/
def networkStatement (value : String) : String :=
  "network " ++ collapse value

/-- The address of a peer with its AS. -/
def peerAddress (value : String) : String :=
  headBefore ' ' (lower (collapse value))

/-- The command that restores each administrative mode. -/
def modeCommands : List (String × String) :=
  [("trunk", "switchport mode trunk"),
    ("static access", "switchport mode access"),
    ("dynamic auto", "switchport mode dynamic auto"),
    ("dynamic desirable", "switchport mode dynamic desirable")]

/-- The branch of `render_change` for a description. -/
def renderDescription (step : ChangeStepIntent) (current : InterfaceFacts) : RenderedChange where
  commands := ["interface " ++ step.target, "description " ++ step.desiredValue]
  inverseCommands :=
    match current.description with
    | some value =>
      if value ≠ "" then ["interface " ++ step.target, "description " ++ value]
      else ["interface " ++ step.target, "no description"]
    | none => ["interface " ++ step.target, "no description"]

/-- The branch of `render_change` for an admin state. -/
def renderAdminState (step : ChangeStepIntent) (current : InterfaceFacts) : RenderedChange where
  commands :=
    ["interface " ++ step.target, if step.desiredValue = "up" then "no shutdown" else "shutdown"]
  inverseCommands :=
    ["interface " ++ step.target,
      if current.adminUp = some true then "no shutdown" else "shutdown"]

/-- `_render_domain_lookup`. -/
def renderDomainLookup (step : ChangeStepIntent) (context : ChangeContext) :
    Except RenderError RenderedChange :=
  match context.domainLookup with
  | none => .error .unsupportedCapability
  | some current =>
    .ok {
      commands := [if step.desiredValue = "on" then "ip domain-lookup" else "no ip domain-lookup"]
      inverseCommands := [if current then "ip domain-lookup" else "no ip domain-lookup"] }

/-- `_render_hostname`. -/
def renderHostname (step : ChangeStepIntent) (context : ChangeContext) :
    Except RenderError RenderedChange :=
  match context.hostname with
  | none => .error .unsupportedCapability
  | some previous =>
    if previous = "" then .error .unsupportedCapability
    else
      .ok {
        commands := ["hostname " ++ step.desiredValue]
        inverseCommands := ["hostname " ++ previous] }

/-- `_render_vlan_name`. -/
def renderVlanName (step : ChangeStepIntent) (context : ChangeContext) :
    Except RenderError RenderedChange :=
  match int step.target with
  | none => .error .valueError
  | some vlanId =>
    .ok {
      commands := ["vlan " ++ str vlanId, "name " ++ step.desiredValue]
      inverseCommands :=
        -- naming a VLAN that does not exist creates it, and only that is undone by a delete
        match context.vlan vlanId with
        | some existing => ["vlan " ++ str vlanId, "name " ++ existing.name]
        | none => ["no vlan " ++ str vlanId] }

/-- `_render_access_vlan`. -/
def renderAccessVlan (step : ChangeStepIntent) (context : ChangeContext) :
    Except RenderError RenderedChange :=
  match int step.desiredValue with
  | none => .error .valueError
  | some vlanId =>
    .ok {
      commands :=
        ["interface " ++ step.target, "switchport mode access",
          "switchport access vlan " ++ str vlanId]
      inverseCommands :=
        match context.accessVlanOf step.target with
        | some previous =>
          ["interface " ++ step.target, "switchport access vlan " ++ str previous.vlanId]
        | none => ["interface " ++ step.target, "no switchport access vlan"] }

/-- The line that restores an allowed list: the default is not a settable list. -/
def restoreAllowed (trunkAllowed : Option String) : String :=
  let previous := strip (trunkAllowed.getD "")
  if previous ≠ "" ∧ upper previous ∉ ["ALL", "NONE"] then
    "switchport trunk allowed vlan " ++ previous
  else "no switchport trunk allowed vlan"

/-- `_render_trunk_vlans`. -/
def renderTrunkVlans (step : ChangeStepIntent) (context : ChangeContext) :
    Except RenderError RenderedChange :=
  match context.switchportOf step.target with
  | none => .error .unsupportedCapability
  | some port =>
    match modeCommands.lookup port.mode with
    | none => .error .unsupportedCapability
    | some modeCommand =>
      .ok {
        commands :=
          ["interface " ++ step.target] ++
          -- a platform that also speaks ISL refuses trunk mode until one is chosen
          (if port.isTrunk = false ∧ port.trunkEncapsulation = some "negotiate" then
            ["switchport trunk encapsulation dot1q"] else []) ++
          (if port.isTrunk = false then ["switchport mode trunk"] else []) ++
          ["switchport trunk allowed vlan " ++ strip step.desiredValue]
        inverseCommands :=
          ["interface " ++ step.target, restoreAllowed port.trunkAllowed] ++
          (if port.isTrunk = false then [modeCommand] else []) }

/-- `_render_static_route`. -/
def renderStaticRoute (step : ChangeStepIntent) (context : ChangeContext) :
    Except RenderError RenderedChange :=
  match prefixParts step.target with
  | none => .error .valueError
  | some (destination, mask) =>
    let added := "ip route " ++ destination ++ " " ++ mask ++ " " ++ step.desiredValue
    match context.staticRoute destination mask with
    | none => .ok { commands := [added], inverseCommands := ["no " ++ added] }
    -- two lines for one prefix are alternatives, so the old one is withdrawn
    | some existing =>
      .ok {
        commands := ["no " ++ existing.asCommand, added]
        inverseCommands := ["no " ++ added, existing.asCommand] }

/-- `_render_router_network`. -/
def renderRouterNetwork (step : ChangeStepIntent) (context : ChangeContext) : RenderedChange :=
  let process := strip step.target
  let statement := networkStatement step.desiredValue
  match context.routingProcess process with
  | none =>
    { commands := ["router " ++ process, statement]
      inverseCommands := ["no router " ++ process] }
  | some _ =>
    { commands := ["router " ++ process, statement]
      inverseCommands := ["router " ++ process, "no " ++ statement] }

/-- `_render_router_network_remove`. -/
def renderRouterNetworkRemove (step : ChangeStepIntent) : RenderedChange :=
  let process := strip step.target
  let statement := networkStatement step.desiredValue
  { commands := ["router " ++ process, "no " ++ statement]
    inverseCommands := ["router " ++ process, statement] }

/-- `_render_rip_version`. -/
def renderRipVersion (step : ChangeStepIntent) (context : ChangeContext) : RenderedChange :=
  let commands := ["router rip", "version " ++ strip step.desiredValue]
  match context.routingProcess "rip" with
  | none => { commands, inverseCommands := ["no router rip"] }
  | some existing =>
    -- a process without a version line is at the default, restored by the negation
    { commands
      inverseCommands := ["router rip", (existing.findStatement "version ").getD "no version"] }

/-- `_render_bgp_neighbor`. -/
def renderBgpNeighbor (step : ChangeStepIntent) (context : ChangeContext) : RenderedChange :=
  let process := lower (strip step.target)
  let peer := peerAddress step.desiredValue
  let statement := "neighbor " ++ collapse step.desiredValue
  match context.routingProcess process with
  | none =>
    { commands := ["router " ++ process, statement]
      inverseCommands := ["no router " ++ process] }
  | some existing =>
    match existing.findStatement ("neighbor " ++ peer ++ " remote-as ") with
    | none =>
      { commands := ["router " ++ process, statement]
        inverseCommands := ["router " ++ process, "no neighbor " ++ peer] }
    -- IOS holds one remote AS for a neighbour, so the old one is withdrawn first
    | some previous =>
      { commands := ["router " ++ process, "no neighbor " ++ peer, statement]
        inverseCommands := ["router " ++ process, "no neighbor " ++ peer, previous] }

/-- The command lines of a change step and the lines that undo them. -/
def renderChange (step : ChangeStepIntent) (context : ChangeContext) :
    Except RenderError RenderedChange :=
  match step.changeType with
  | .hostname => renderHostname step context
  | .domainLookup => renderDomainLookup step context
  | .vlanName => renderVlanName step context
  | .interfaceAccessVlan => renderAccessVlan step context
  | .interfaceTrunkVlans => renderTrunkVlans step context
  | .staticRoute => renderStaticRoute step context
  | .routerNetwork => .ok (renderRouterNetwork step context)
  | .routerNetworkRemove => .ok (renderRouterNetworkRemove step)
  | .routerRipVersion => .ok (renderRipVersion step context)
  | .bgpNeighbor => .ok (renderBgpNeighbor step context)
  | .interfaceDescription =>
    match context.interface with
    | none => .error .unsupportedCapability
    | some current => .ok (renderDescription step current)
  | .interfaceAdminState =>
    match context.interface with
    | none => .error .unsupportedCapability
    | some current => .ok (renderAdminState step current)

end

end Terraformer
