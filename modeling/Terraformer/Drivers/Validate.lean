import Terraformer.Drivers.Render

/-!
# Validating a change

What the IOS-XE driver finds wrong with a change step before it renders it, with the texts
an operator is shown.  A step is accepted when the list of issues is empty.
-/

namespace Terraformer

open Text

section

variable [UnicodeDatabase]

/-- `_DESCRIPTION_MAX_LENGTH`. -/
def descriptionMaxLength : ℕ := 240

/-- `_VLAN_NAME_MAX_LENGTH`. -/
def vlanNameMaxLength : ℕ := 32

/-- `_HOSTNAME_MAX_LENGTH`. -/
def hostnameMaxLength : ℕ := 63

/-- `[A-Za-z]`. -/
def letter : Pattern :=
  .char fun c => c.isAlpha

/-- `[A-Za-z][A-Za-z0-9./:_-]*`. -/
def interfaceName : Pattern :=
  .seq letter (.star (.char fun c => c.isAlphanum || c ∈ ['.', '/', ':', '_', '-']))

/-- `^[A-Za-z][A-Za-z0-9./:_-]*$`. -/
def nextHopInterface : Pattern :=
  .seq interfaceName .lineEnd

/-- `^[A-Za-z][A-Za-z0-9-]*$`. -/
def hostnamePattern : Pattern :=
  .seq (.seq letter (.star (.char fun c => c.isAlphanum || c == '-'))) .lineEnd

/-- `[A-Za-z0-9_\-]+`. -/
def vlanNamePattern : Pattern :=
  .plus (.char fun c => c.isAlphanum || c == '_' || c == '-')

/-- The text is an IPv4 address. -/
def isIpv4 (value : String) : Bool :=
  (Ipv4.ofText value).isSome

/-- What is wrong with a VLAN id. -/
def vlanIdIssues (raw field : String) : List String :=
  match int raw with
  | none => [s!"{field} must be a number"]
  | some vlanId =>
    if ¬(vlanIdMin ≤ vlanId ∧ vlanId ≤ vlanIdMax) then
      [field ++ " must be between " ++ str vlanIdMin ++ " and " ++ str vlanIdMax]
    -- reserved by IOS for legacy FDDI and Token Ring
    else if 1002 ≤ vlanId ∧ vlanId ≤ 1005 then
      [field ++ " " ++ str vlanId ++ " is reserved by IOS"]
    else []

/-- A text longer than a bound. -/
def lengthIssues (value field : String) (maxLength : ℕ) : List String :=
  if maxLength < value.toList.length then
    [field ++ " must be " ++ str maxLength ++ " characters or fewer"]
  else []

/-- `_validate_hostname`. -/
def validateHostname (step : ChangeStepIntent) : List String :=
  lengthIssues step.desiredValue "hostname" hostnameMaxLength ++
    match hostnamePattern.match step.desiredValue with
    | some _ => []
    | none =>
      ["hostname must start with a letter and contain only letters, digits and hyphens"]

/-- `_validate_vlan_name`. -/
def validateVlanName (step : ChangeStepIntent) : List String :=
  vlanIdIssues step.target "VLAN id" ++
    lengthIssues step.desiredValue "VLAN name" vlanNameMaxLength ++
    if strip step.desiredValue = "" then ["VLAN name must not be empty"]
    else
      match vlanNamePattern.fullmatch step.desiredValue with
      | some _ => []
      | none => ["VLAN name may only contain letters, digits, hyphen and underscore"]

/-- `_validate_access_vlan`. -/
def validateAccessVlan (step : ChangeStepIntent) (context : ChangeContext) : List String :=
  match vlanIdIssues step.desiredValue "access VLAN" with
  | issue :: issues => issue :: issues
  | [] =>
    -- a port in a VLAN the switch does not have is black-holed
    if context.vlans ≠ [] ∧ (int step.desiredValue).bind context.vlan = none then
      [s!"VLAN {step.desiredValue} does not exist on this device; " ++
        "create it first with a VLAN name change"]
    else []

/-- `_validate_trunk_vlans`. -/
def validateTrunkVlans (step : ChangeStepIntent) (context : ChangeContext) : List String :=
  match vlanListIssues step.desiredValue "allowed VLAN list" with
  | issue :: issues => issue :: issues
  | [] =>
    match context.switchportOf step.target with
    | none => [s!"{step.target} reported no switchport configuration on this device"]
    | some port =>
      if (modeCommands.lookup port.mode).isSome then []
      else
        [s!"{step.target} is in an unrecognised switchport mode " ++
          "(" ++ (if port.mode = "" then "none reported" else port.mode) ++
          "), so this change has no inverse to roll back to"]

/-- `_validate_static_route`. -/
def validateStaticRoute (step : ChangeStepIntent) : List String :=
  let nextHop := strip step.desiredValue
  prefixIssues step.target ++
    if nextHop = "" then ["next hop must not be empty"]
    else if isIpv4 nextHop = false ∧ nextHopInterface.match nextHop = none then
      ["next hop must be an IPv4 address or an exit interface name, with no spaces"]
    else []

/-- What both changes of a `network` statement refuse alike. -/
def routerNetworkIssues (step : ChangeStepIntent) : List String :=
  match routingProcessIssues step.target with
  | issue :: issues => issue :: issues
  | [] => networkStatementIssues step.target step.desiredValue

/-- `_validate_router_network`. -/
def validateRouterNetwork (step : ChangeStepIntent) (context : ChangeContext) : List String :=
  match routerNetworkIssues step with
  | issue :: issues => issue :: issues
  | [] =>
    let statement := networkStatement step.desiredValue
    match context.routingProcess (strip step.target) with
    | some existing =>
      if existing.hasStatement statement then
        [strip step.target ++ " already has '" ++ statement ++ "'"]
      else []
    | none => []

/-- `_validate_router_network_remove`. -/
def validateRouterNetworkRemove (step : ChangeStepIntent) (context : ChangeContext) :
    List String :=
  match routerNetworkIssues step with
  | issue :: issues => issue :: issues
  | [] =>
    let process := strip step.target
    let statement := networkStatement step.desiredValue
    match context.routingProcess process with
    | none => [s!"{process} is not configured on this device"]
    | some existing =>
      if existing.hasStatement statement then []
      else [s!"{process} does not have '{statement}'"]

/-- `_validate_rip_version`. -/
def validateRipVersion (step : ChangeStepIntent) (context : ChangeContext) : List String :=
  if lower (strip step.target) ≠ "rip" then
    ["the RIP version change targets 'rip'; there is only one RIP process"]
  else
    match ripVersionIssues step.desiredValue with
    | issue :: issues => issue :: issues
    | [] =>
      match (context.routingProcess "rip").bind fun rip => rip.findStatement "version " with
      | some current =>
        if current = "version " ++ strip step.desiredValue then [s!"RIP is already at {current}"]
        else []
      | none => []

/-- The BGP process the device runs. -/
def runningBgp (context : ChangeContext) : Option RoutingProcessFacts :=
  context.routingProcesses.find? fun item => (bgpProcess.match (lower item.name)).isSome

/-- `_validate_bgp_neighbor`. -/
def validateBgpNeighbor (step : ChangeStepIntent) (context : ChangeContext) : List String :=
  match bgpProcessIssues step.target with
  | issue :: issues => issue :: issues
  | [] =>
    match bgpNeighborIssues step.desiredValue with
    | issue :: issues => issue :: issues
    | [] =>
      let process := lower (strip step.target)
      let statement := "neighbor " ++ collapse step.desiredValue
      match runningBgp context with
      | none => []
      | some running =>
        if lower running.name ≠ process then
          [s!"this device already runs router {running.name}, and IOS allows one BGP " ++
            "process, so the local AS cannot be changed by adding a neighbour"]
        else if running.hasStatement statement then [s!"{process} already has '{statement}'"]
        else []

/-- The branch of `validate_change` for a description. -/
def validateDescription (step : ChangeStepIntent) : List String :=
  lengthIssues step.desiredValue "description" descriptionMaxLength ++
    if isprintable step.desiredValue = false then
      ["description must be a single line of printable characters"]
    else if strip step.desiredValue = "" then
      ["description must not be empty; clear it with a separate change instead"]
    else []

/-- What is wrong with a change step; nothing when it is accepted. -/
def validateChange (step : ChangeStepIntent) (context : ChangeContext) : List String :=
  match step.changeType with
  | .hostname => validateHostname step
  | .domainLookup =>
    if step.desiredValue = "on" ∨ step.desiredValue = "off" then []
    else ["domain lookup must be 'on' or 'off'"]
  | .vlanName => validateVlanName step
  | .interfaceAccessVlan => validateAccessVlan step context
  | .interfaceTrunkVlans => validateTrunkVlans step context
  | .staticRoute => validateStaticRoute step
  | .routerNetwork => validateRouterNetwork step context
  | .routerNetworkRemove => validateRouterNetworkRemove step context
  | .routerRipVersion => validateRipVersion step context
  | .bgpNeighbor => validateBgpNeighbor step context
  | .interfaceDescription => validateDescription step
  | .interfaceAdminState =>
    if step.desiredValue = "up" ∨ step.desiredValue = "down" then []
    else ["admin state must be 'up' or 'down'"]

/-- A change that is accepted against what was read of the device, and what it renders to. -/
structure AcceptedChange (context : ChangeContext) where
  step : ChangeStepIntent
  rendered : RenderedChange
  valid : validateChange step context = []
  renders : renderChange step context = .ok rendered

end

end Terraformer
