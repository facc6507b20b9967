import Terraformer.Changes.LayerTwo
import Terraformer.Changes.RoutingProcesses
import Terraformer.Changes.StaticRoutes

/-!
# Undoing a change of any type

When the inverse commands of an accepted step undo its commands: on the configuration that its
context reports (`reverts_iff`), and where the table that the step needs is empty because it could
not be read (`reverts_unread_iff`).
-/

namespace Terraformer

open Text Compensation Device

/-- The context describes a configuration truthfully, as far as the step reads it. -/
structure ReportsStep {Port : Type*} [UnicodeDatabase] (naming : Naming Port) (c : Config Port)
    (up : Port → Bool) (step : ChangeStepIntent) (context : ChangeContext) : Prop
    extends ReportsLayerTwo naming c up step context where
  routes : step.changeType.needsStaticRoutes = true → ReportsRoutes c context
  processes : step.changeType.needsRoutingProcesses = true → ReportsProcesses c context
  hostname : ∀ name ∈ context.hostname, name = c.hostname
  domainLookup : ∀ enabled ∈ context.domainLookup, enabled = c.domainLookup

section

variable {Port : Type*} [DecidableEq Port] [UnicodeDatabase] {naming : Naming Port}
  {c : Config Port} {up : Port → Bool} {step : ChangeStepIntent} {context : ChangeContext}
  {rendered : RenderedChange}

/-! ## Host name and name resolution -/

/-- A setting is undone by the line that sets it to what it was. -/
lemma reverts_setting {α : Type*} (set : α → Config Port) {old : α} (new : α)
    {line undo : String} (hold : set old = c)
    (hline : ∀ v, executeLine naming ⟨set v, .global⟩ line = some ⟨set new, .global⟩)
    (hundo : ∀ v, executeLine naming ⟨set v, .global⟩ undo = some ⟨set old, .global⟩) :
    Reverts naming c ⟨[line], [undo]⟩ := by
  refine undoes_of_frame (fun s => ∃ v, s = ⟨set v, .global⟩) ⟨old, by rw [hold]⟩ ?_ ?_
  · rintro i hi s t ⟨v, rfl⟩ hexec
    obtain rfl := List.mem_singleton.mp hi
    exact ⟨new, Option.some.inj (hexec.symm.trans (hline v))⟩
  · rintro s ⟨v, rfl⟩
    rw [send, execute_cons_of_some (hundo v), execute_nil, hold]

/-- A host name is undone by the name that the device had. -/
lemma reverts_hostname (hc : IsWord c.hostname)
    (hctx : ∀ name ∈ context.hostname, name = c.hostname)
    (hv : validateHostname step = []) (hr : renderHostname step context = .ok rendered) :
    Reverts naming c rendered := by
  have hread {text word : String} (hword : split text = [word]) :
      readCommand ("hostname " ++ text) = some (.hostname word) := by
    rw [readCommand, split_append (by decide), hword,
      show split "hostname " = ["hostname"] by decide]
    rfl
  unfold renderHostname at hr
  cases hname : context.hostname with
  | none => simp [hname] at hr
  | some previous =>
    obtain rfl : previous = c.hostname := hctx previous hname
    simp only [hname] at hr
    split_ifs at hr
    obtain rfl := Except.ok.inj hr
    refine reverts_setting (fun name => { c with hostname := name }) (strip step.desiredValue) rfl
      (fun v => ?_) fun v => ?_
    · exact executeLine_of_isGlobal naming _ (hread (hostname_of_validateHostname hv)) rfl
    · exact executeLine_of_isGlobal naming _ (hread (split_eq_singleton hc)) rfl

/-- Name resolution is undone by what it was. -/
lemma reverts_domainLookup (hctx : ∀ enabled ∈ context.domainLookup, enabled = c.domainLookup)
    (hr : renderDomainLookup step context = .ok rendered) : Reverts naming c rendered := by
  have hread (enabled : Prop) [Decidable enabled] :
      readCommand (if enabled then "ip domain-lookup" else "no ip domain-lookup") =
        some (.domainLookup (decide enabled)) := by
    by_cases h : enabled
    · simp only [h, if_true]
      decide
    · simp only [h, if_false]
      decide
  unfold renderDomainLookup at hr
  cases hlookup : context.domainLookup with
  | none => simp [hlookup] at hr
  | some current =>
    obtain rfl : current = c.domainLookup := hctx current hlookup
    simp only [hlookup, Except.ok.injEq] at hr
    subst hr
    refine reverts_setting (fun enabled => { c with domainLookup := enabled })
      (decide (step.desiredValue = "on")) rfl (fun v => ?_) fun v => ?_
    · exact executeLine_of_isGlobal naming _ (hread _) rfl
    · rw [executeLine_of_isGlobal naming _ (hread _) rfl]
      simp [executeGlobal]

/-! ## On what the context reports -/

/-- What a change needs to be undone on the configuration that its context reports. -/
def StepReverts (naming : Naming Port) (c : Config Port) (up : Port → Bool)
    (step : ChangeStepIntent) (context : ChangeContext) : Prop :=
  match step.changeType with
  | .interfaceAdminState => AdminStateReverts naming c up step
  | .interfaceAccessVlan => AccessVlanReverts naming c step context
  | .interfaceTrunkVlans => TrunkVlansReverts naming c step
  | .staticRoute => StaticRouteReverts c step context
  | .bgpNeighbor => PeerHasOnlyRemoteAs c step
  | .interfaceDescription | .vlanName | .routerNetwork | .routerNetworkRemove | .routerRipVersion
  | .hostname | .domainLookup => True

/-- The inverse commands of an accepted step undo its commands on the configuration that the
context reports exactly when the step meets the condition of its type. -/
theorem reverts_iff (hc : c.WellFormed) (hctx : ReportsStep naming c up step context)
    (hv : validateChange step context = []) (hr : renderChange step context = .ok rendered) :
    Reverts naming c rendered ↔ StepReverts naming c up step context := by
  unfold validateChange at hv
  unfold renderChange at hr
  unfold StepReverts
  have hvlans := hctx.vlans
  have hswitchports := hctx.switchports
  have hroutes := hctx.routes
  have hprocesses := hctx.processes
  cases ht : step.changeType with
  | interfaceDescription =>
    simp only [ht] at hv hr ⊢
    cases hi : context.interface with
    | none => simp [hi] at hr
    | some current =>
      simp only [hi, Except.ok.injEq] at hr
      subst hr
      obtain ⟨p, hp, hdesc, -⟩ := hctx.interface current hi
      exact iff_of_true (reverts_description hc.layerTwo hp hdesc hv) trivial
  | interfaceAdminState =>
    simp only [ht] at hv hr ⊢
    cases hi : context.interface with
    | none => simp [hi] at hr
    | some current =>
      simp only [hi, Except.ok.injEq] at hr
      subst hr
      obtain ⟨p, hp, -, hadmin⟩ := hctx.interface current hi
      exact reverts_adminState_iff hp hadmin
  | vlanName =>
    simp only [ht] at hv hr hvlans ⊢
    exact iff_of_true (reverts_vlanName hc.layerTwo (hvlans rfl) hv hr) trivial
  | interfaceAccessVlan =>
    simp only [ht] at hv hr hvlans ⊢
    exact reverts_accessVlan_iff hc.layerTwo (hvlans rfl).vlan_row hv hr
  | interfaceTrunkVlans =>
    simp only [ht] at hv hr hswitchports ⊢
    exact reverts_trunkVlans_iff (hswitchports rfl) hv hr
  | staticRoute =>
    simp only [ht] at hv hr hroutes ⊢
    exact reverts_routeChange_iff hc.routes (hroutes rfl) hv hr
  | routerNetwork =>
    simp only [ht, Except.ok.injEq] at hv hr hprocesses ⊢
    subst hr
    exact iff_of_true (reverts_routerNetwork (hprocesses rfl) hv) trivial
  | routerNetworkRemove =>
    simp only [ht, Except.ok.injEq] at hv hr hprocesses ⊢
    subst hr
    exact iff_of_true (reverts_routerNetworkRemove hc.processes (hprocesses rfl) hv) trivial
  | routerRipVersion =>
    simp only [ht, Except.ok.injEq] at hv hr hprocesses ⊢
    subst hr
    exact iff_of_true (reverts_ripVersion hc.processes (hprocesses rfl) hv) trivial
  | bgpNeighbor =>
    simp only [ht, Except.ok.injEq] at hv hr hprocesses ⊢
    subst hr
    exact reverts_bgpNeighbor_iff hc.processes (hprocesses rfl) hv
  | hostname =>
    simp only [ht] at hv hr ⊢
    exact iff_of_true (reverts_hostname hc.hostname hctx.hostname hv hr) trivial
  | domainLookup =>
    simp only [ht] at hr ⊢
    exact iff_of_true (reverts_domainLookup hctx.domainLookup hr) trivial

/-! ## On what could not be read -/

/-- The table that the step needs is empty in the context. -/
def Unread (step : ChangeStepIntent) (context : ChangeContext) : Prop :=
  match step.changeType with
  | .vlanName | .interfaceAccessVlan => context.vlans = []
  | .interfaceTrunkVlans => context.switchports = []
  | .staticRoute => context.staticRoutes = []
  | .routerNetwork | .routerNetworkRemove | .routerRipVersion | .bgpNeighbor =>
    context.routingProcesses = []
  | .interfaceDescription | .interfaceAdminState | .hostname | .domainLookup => False

/-- The device has nothing of what the step names, so that an empty table says no wrong of it.  A
port is in access mode and in the default VLAN, and the VLAN that it moves to exists. -/
def Absent (naming : Naming Port) (c : Config Port) (step : ChangeStepIntent) : Prop :=
  match step.changeType with
  | .vlanName => ∀ n : ℕ, int step.target = some (n : ℤ) → c.vlans n = none
  | .interfaceAccessVlan => ∀ p, naming.denotes step.target = some p →
    (c.ports p).mode = .staticAccess ∧ (c.ports p).accessVlan = 1 ∧
      ∀ n : ℕ, int step.desiredValue = some (n : ℤ) → c.vlans n ≠ none
  | .staticRoute => ∀ destination mask : Ipv4,
    prefixParts step.target = some (destination.text, mask.text) →
      c.routes ⟨destination, mask, strip step.desiredValue⟩ = none
  | .routerNetwork | .bgpNeighbor => c.processes (normalizeStatement step.target) = none
  | .routerRipVersion => c.processes (normalizeStatement "rip") = none
  | .interfaceTrunkVlans | .routerNetworkRemove | .interfaceDescription | .interfaceAdminState
  | .hostname | .domainLookup => True

/-- An inverse of one line leaves a configuration on which no command was executed as it is. -/
lemma eq_of_reverts_single {commands : List String} {undo : String} {d : Config Port}
    (hundo : executeLine naming ⟨c, .global⟩ undo = some ⟨d, .global⟩)
    (h : Reverts naming c ⟨commands, [undo]⟩) : d = c := by
  have h0 := h 0
  rw [List.take_zero] at h0
  rw [← h0, send, send, execute_nil, execute_cons_of_some hundo, execute_nil]

/-- A VLAN that is removed to undo its name was not there. -/
lemma reverts_namedVlan_iff {n : ℕ} {name : String} (h1 : 1 ≤ n) (h2 : n ≤ 4094)
    (hname : IsWord name) :
    Reverts naming c ⟨["vlan " ++ str n, "name " ++ name], ["no vlan " ++ str n]⟩ ↔
      c.vlans n = none := by
  refine ⟨fun h => ?_, reverts_create h1 h2 hname⟩
  rw [← eq_of_reverts_single (executeLine_noVlan naming _ h1 h2) h]
  simp

/-- A route that is withdrawn to undo it was not there. -/
lemma reverts_addRoute_iff {key : RouteKey} {options : List String} {add withdraw : String}
    (hadd : ∀ s, executeLine naming s add =
      some ⟨s.config.setRoute key (some options), .global⟩)
    (hwithdraw : ∀ s, executeLine naming s withdraw =
      some ⟨s.config.setRoute key none, .global⟩) :
    Reverts naming c ⟨[add], [withdraw]⟩ ↔ c.routes key = none := by
  refine ⟨fun h => ?_, reverts_addRoute hadd hwithdraw⟩
  rw [← eq_of_reverts_single (hwithdraw _) h]
  simp

/-- A process that is removed to undo one of its statements was not running. -/
lemma reverts_startProcess_iff {process line : String} (hname : split process ≠ [])
    (hline : IsStatementLine line) :
    Reverts naming c ⟨["router " ++ process, line], ["no router " ++ process]⟩ ↔
      c.processes (normalizeStatement process) = none := by
  refine ⟨fun h => ?_, fun h => reverts_startProcess process hname h hline⟩
  rw [← eq_of_reverts_single (executeLine_noRouter naming _ hname) h]
  simp

/-- A network statement of a process that could not be read is undone exactly when the process was
not running. -/
lemma reverts_unread_routerNetwork_iff (hunread : context.routingProcesses = [])
    (hv : validateRouterNetwork step context = []) :
    Reverts naming c (renderRouterNetwork step context) ↔
      c.processes (normalizeStatement step.target) = none := by
  have hnone : context.routingProcess (strip step.target) = none := by
    simp [ChangeContext.routingProcess, hunread]
  obtain ⟨hname, -⟩ := routerNetwork_of_validateRouterNetwork hv
  have hsplit : split (strip step.target) ≠ [] := by
    rw [split_strip]
    exact hname.split_ne_nil
  have hline := readCommand_statement (split_networkStatement step.desiredValue) (by decide)
  simp only [renderRouterNetwork, hnone]
  rw [reverts_startProcess_iff hsplit (isStatementLine_of_statement hline),
    normalizeStatement_strip]

/-- The version of a RIP process that could not be read is undone exactly when RIP was not
running. -/
lemma reverts_unread_ripVersion_iff (hunread : context.routingProcesses = []) :
    Reverts naming c (renderRipVersion step context) ↔
      c.processes (normalizeStatement "rip") = none := by
  have hnone : context.routingProcess "rip" = none := by
    simp [ChangeContext.routingProcess, hunread]
  have hwords : split ("version " ++ strip step.desiredValue) =
      "version" :: split (strip step.desiredValue) := by
    rw [split_append (by decide), show split "version " = ["version"] by decide,
      List.singleton_append]
  have hsplit : split "rip" ≠ [] := by decide
  simp only [renderRipVersion, hnone]
  exact reverts_startProcess_iff hsplit
    (isStatementLine_of_statement (readCommand_statement hwords (by decide)))

/-- A peer of a BGP process that could not be read is undone exactly when the process was not
running. -/
lemma reverts_unread_bgpNeighbor_iff (hunread : context.routingProcesses = [])
    (hv : validateBgpNeighbor step context = []) :
    Reverts naming c (renderBgpNeighbor step context) ↔
      c.processes (normalizeStatement step.target) = none := by
  have hnone : context.routingProcess (lower (strip step.target)) = none := by
    simp [ChangeContext.routingProcess, hunread]
  obtain ⟨hname, -⟩ := bgpNeighbor_of_validateBgpNeighbor hv
  have hsplit : split (lower (strip step.target)) ≠ [] := by
    rw [split_lower, split_strip]
    simpa using hname.split_ne_nil
  have hline := readCommand_statement (split_neighbor step.desiredValue) (by decide)
  simp only [renderBgpNeighbor, hnone]
  rw [reverts_startProcess_iff hsplit (isStatementLine_of_statement hline),
    normalizeStatement_lower, normalizeStatement_strip]

/-- Where the table of a step could not be read, the inverse commands undo its commands exactly
when the device has nothing of what the step names. -/
theorem reverts_unread_iff (hc : c.WellFormed) (hunread : Unread step context)
    (hv : validateChange step context = []) (hr : renderChange step context = .ok rendered) :
    Reverts naming c rendered ↔ Absent naming c step := by
  unfold validateChange at hv
  unfold renderChange at hr
  unfold Unread at hunread
  unfold Absent
  cases ht : step.changeType with
  | vlanName =>
    simp only [ht] at hv hr hunread ⊢
    obtain ⟨hname, n, hn, h1, h2⟩ := vlanName_of_validateVlanName hv
    simp only [renderVlanName, hn, ChangeContext.vlan, hunread, List.find?_nil,
      Except.ok.injEq] at hr
    subst hr
    rw [reverts_namedVlan_iff h1 h2 hname]
    simp [hn]
  | interfaceAccessVlan =>
    simp only [ht] at hv hr hunread ⊢
    have hrow : context.accessVlanOf step.target = none := by
      simp [ChangeContext.accessVlanOf, hunread]
    rw [reverts_accessVlan_iff hc.layerTwo (by simp [hunread]) hv hr, AccessVlanReverts]
    simp [hrow]
  | interfaceTrunkVlans =>
    simp only [ht] at hv hunread
    obtain ⟨-, row, hrow, -⟩ := trunkVlans_of_validateTrunkVlans hv
    simp [ChangeContext.switchportOf, hunread] at hrow
  | staticRoute =>
    simp only [ht] at hv hr hunread ⊢
    have hnone : ∀ destination mask, context.staticRoute destination mask = none := by
      simp [ChangeContext.staticRoute, hunread]
    obtain ⟨destination, mask, add, remove, hparts, hadd, hremove, ⟨-, rfl⟩ | hfound⟩ :=
      staticRoute_cases naming hc.routes (fun d m h => absurd (hnone d m) h) hv hr
    · rw [reverts_addRoute_iff hadd hremove]
      refine ⟨fun h d m hdm => ?_, fun h => h destination mask hparts⟩
      rw [hparts, Option.some.injEq, Prod.mk.injEq] at hdm
      obtain rfl := Ipv4.text_injective hdm.1
      obtain rfl := Ipv4.text_injective hdm.2
      exact h
    · obtain ⟨nextHop, options, _, _, -, hfound, -⟩ := hfound
      rw [hnone] at hfound
      cases hfound
  | routerNetwork =>
    simp only [ht, Except.ok.injEq] at hv hr hunread ⊢
    subst hr
    exact reverts_unread_routerNetwork_iff hunread hv
  | routerNetworkRemove =>
    simp only [ht] at hv hunread
    obtain ⟨-, existing, hprocess, -⟩ := routerNetworkRemove_of_validateRouterNetworkRemove hv
    simp [ChangeContext.routingProcess, hunread] at hprocess
  | routerRipVersion =>
    simp only [ht, Except.ok.injEq] at hv hr hunread ⊢
    subst hr
    exact reverts_unread_ripVersion_iff hunread
  | bgpNeighbor =>
    simp only [ht, Except.ok.injEq] at hv hr hunread ⊢
    subst hr
    exact reverts_unread_bgpNeighbor_iff hunread hv
  | interfaceDescription | interfaceAdminState | hostname | domainLookup =>
    simp only [ht] at hunread

end

end Terraformer
