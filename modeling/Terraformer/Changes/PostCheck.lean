import Terraformer.Changes.LayerTwo
import Terraformer.Changes.Reads
import Terraformer.Changes.RoutingProcesses
import Terraformer.Device.VlanLists

/-!
# The post-check

After the commands the service reads the device back and compares it with what the step asked
for (`postCheckOk`).  The check should pass whenever the device executed the commands, and
should mean that the device is as asked.

It does mean that, but for two readings: a port that is not shut down and has no link is taken
to be administratively down, and a port in dynamic mode is taken to be an access port while it is
listed under its VLAN (`PostCheckSound`).  And it passes after an executed change, but for five
kinds of steps that validation accepts: `PostCheckAccepts` says which.
-/

namespace Terraformer

open Text Compensation Device

section

variable [UnicodeDatabase]

/-- `_post_check_ok`. -/
def postCheckOk (step : ChangeStepIntent) (context : ChangeContext) : Except RenderError Bool :=
  match step.changeType with
  | .hostname => .ok (context.hostname == some step.desiredValue)
  | .domainLookup => .ok (context.domainLookup == some (step.desiredValue == "on"))
  | .vlanName =>
    match int step.target with
    | none => .error .valueError
    | some vlanId =>
      match context.vlan vlanId with
      | none => .ok false
      | some vlan => .ok (vlan.name == step.desiredValue)
  | .interfaceAccessVlan =>
    match context.accessVlanOf step.target with
    | none => .ok false
    | some assigned =>
      match int step.desiredValue with
      | none => .error .valueError
      | some vlanId => .ok (assigned.vlanId == vlanId)
  | .interfaceTrunkVlans =>
    match context.switchportOf step.target with
    | none => .ok false
    | some port =>
      -- compared as sets: IOS reorders and re-ranges what it is given
      .ok (port.isTrunk &&
        decide (expandVlanList (port.trunkAllowed.getD "") = expandVlanList step.desiredValue))
  | .staticRoute =>
    match prefixParts step.target with
    | none => .error .valueError
    | some (destination, mask) =>
      match context.staticRoute destination mask with
      | none => .ok false
      | some route => .ok (route.nextHop == strip step.desiredValue)
  | .routerNetwork =>
    match context.routingProcess step.target with
    | none => .ok false
    | some process => .ok (process.hasStatement (networkStatement step.desiredValue))
  | .routerNetworkRemove =>
    match context.routingProcess step.target with
    -- a process that is gone entirely also no longer carries the statement
    | none => .ok true
    | some process => .ok (!process.hasStatement (networkStatement step.desiredValue))
  | .routerRipVersion =>
    match context.routingProcess "rip" with
    | none => .ok false
    | some rip =>
      .ok (rip.findStatement "version " == some ("version " ++ strip step.desiredValue))
  | .bgpNeighbor =>
    match context.routingProcess step.target with
    | none => .ok false
    | some bgp => .ok (bgp.hasStatement ("neighbor " ++ lower (collapse step.desiredValue)))
  | .interfaceDescription =>
    match context.interface with
    | none => .ok false
    | some interface => .ok (interface.description == some step.desiredValue)
  | .interfaceAdminState =>
    match context.interface with
    | none => .ok false
    | some interface => .ok (interface.adminUp == some (step.desiredValue == "up"))

variable {Port : Type*}

/-! ## What a step asks for -/

/-- The routing process of a name has a statement, up to case and spacing. -/
def HasStatement (c : Config Port) (process line : String) : Prop :=
  ∃ statements, c.processes (normalizeStatement process) = some statements ∧
    ∃ s ∈ statements, normalizeStatement s = normalizeStatement line

/-- The configuration is what the step asks for. -/
def Asked (naming : Naming Port) (c : Config Port) (step : ChangeStepIntent) : Prop :=
  match step.changeType with
  | .hostname => c.hostname = strip step.desiredValue
  | .domainLookup => c.domainLookup = (step.desiredValue == "on")
  | .vlanName => ∃ n : ℕ, int step.target = some (n : ℤ) ∧ c.vlans n = some step.desiredValue
  | .interfaceAccessVlan => ∃ p, naming.denotes step.target = some p ∧
      (c.ports p).mode = .staticAccess ∧ int step.desiredValue = some ((c.ports p).accessVlan : ℤ)
  | .interfaceTrunkVlans => ∃ p, naming.denotes step.target = some p ∧ (c.ports p).mode = .trunk ∧
      (c.ports p).allowed.image (fun n : ℕ => (n : ℤ)) = expandVlanList step.desiredValue
  | .staticRoute => ∃ destination mask : Ipv4,
      prefixParts step.target = some (destination.text, mask.text) ∧
        c.routes ⟨destination, mask, strip step.desiredValue⟩ ≠ none
  | .routerNetwork => HasStatement c step.target (networkStatement step.desiredValue)
  | .routerNetworkRemove => ¬HasStatement c step.target (networkStatement step.desiredValue)
  | .routerRipVersion => HasStatement c "rip" ("version " ++ strip step.desiredValue)
  | .bgpNeighbor => HasStatement c step.target ("neighbor " ++ collapse step.desiredValue)
  | .interfaceDescription => ∃ p, naming.denotes step.target = some p ∧
      (c.ports p).description = some (strip step.desiredValue)
  | .interfaceAdminState => ∃ p, naming.denotes step.target = some p ∧
      (c.ports p).shutdown = !(step.desiredValue == "up")

/-- The accepted steps whose executed change the post-check accepts, `c` being the configuration
before the change and `up` the links after it. -/
def PostCheckAccepts (naming : Naming Port) (c : Config Port) (up : Port → Bool)
    (step : ChangeStepIntent) (context : ChangeContext) : Prop :=
  match step.changeType with
  -- the device reads the name without the newline that the pattern lets pass
  | .hostname => strip step.desiredValue = step.desiredValue
  -- device and parser trim the text
  | .interfaceDescription => strip step.desiredValue = step.desiredValue
  -- a port without a link is reported down
  | .interfaceAdminState => step.desiredValue = "up" →
      ∀ p, naming.denotes step.target = some p → up p = true
  -- the port is looked for among the short names of the VLAN table
  | .interfaceAccessVlan => ∀ p, naming.denotes step.target = some p →
      sameInterface (naming.short p) step.target = true
  -- only the first line of a prefix is compared, and only the one found before was withdrawn
  | .staticRoute => ∀ (destination mask : Ipv4) (nextHop : String),
      prefixParts step.target = some (destination.text, mask.text) →
      c.routes ⟨destination, mask, nextHop⟩ ≠ none →
        nextHop = strip step.desiredValue ∨
          ∃ existing ∈ context.staticRoute destination.text mask.text, existing.nextHop = nextHop
  | _ => True

/-- The configurations whose accepted post-check means that they are as asked. -/
def PostCheckSound (naming : Naming Port) (c : Config Port) (up : Port → Bool)
    (step : ChangeStepIntent) : Prop :=
  match step.changeType with
  -- a port that is not shut down and has no link is reported down
  | .interfaceAdminState => step.desiredValue ≠ "up" →
      ∀ p, step.target = naming.long p → (c.ports p).shutdown = true ∨ up p = true
  -- a port that never left dynamic mode may be listed under its VLAN
  | .interfaceAccessVlan => ∀ p, naming.denotes step.target = some p →
      sameInterface (naming.short p) step.target = true → (c.ports p).mode ≠ .trunk →
        int step.desiredValue = some ((c.ports p).accessVlan : ℤ) →
          c.vlans (c.ports p).accessVlan ≠ none → (c.ports p).mode = .staticAccess
  | _ => True

/-! ## An accepted check means that the device is as asked -/

variable {naming : Naming Port} {c d : Config Port} {up : Port → Bool} {step : ChangeStepIntent}
  {context back : ChangeContext}

/-- A process of the context has a statement when the configuration's process has it. -/
lemma hasStatement_iff_of_reports (h : ReportsProcesses c context) (process line : String) :
    HasStatement c process line ↔ ∃ facts, context.routingProcess process = some facts ∧
      facts.hasStatement line = true := by
  constructor
  · rintro ⟨statements, hstatements, hs⟩
    cases hfacts : context.routingProcess process with
    | none =>
      rw [h.routingProcess_none hfacts] at hstatements
      cases hstatements
    | some facts =>
      obtain ⟨t, ht, hsame⟩ := h.routingProcess hfacts
      obtain rfl : t = statements := Option.some.inj (ht.symm.trans hstatements)
      exact ⟨facts, rfl, (hasStatement_iff hsame line).mpr hs⟩
  · rintro ⟨facts, hfacts, hhas⟩
    obtain ⟨statements, hstatements, hsame⟩ := h.routingProcess hfacts
    exact ⟨statements, hstatements, (hasStatement_iff hsame line).mp hhas⟩

/-- Lower-casing a line does not matter to having it. -/
lemma hasStatement_lower (facts : RoutingProcessFacts) (value : String) :
    facts.hasStatement ("neighbor " ++ lower (collapse value)) =
      facts.hasStatement ("neighbor " ++ collapse value) := by
  have hline : normalizeStatement ("neighbor " ++ lower (collapse value)) =
      normalizeStatement ("neighbor " ++ collapse value) := by
    rw [normalizeStatement_eq_iff, split_append (by decide), split_append (by decide), split_lower]
    simp [Function.comp_def]
  simp only [RoutingProcessFacts.hasStatement, hline]

/-- The allowed list of a report, as a set. -/
lemma expandVlanList_of_reportsAllowed {text : Option String} {allowed : Finset ℕ}
    (h : ReportsAllowed text allowed) :
    expandVlanList (text.getD "") = allowed.image fun n : ℕ => (n : ℤ) := by
  unfold ReportsAllowed at h
  split at h
  · rename_i hall
    have hword : upper (strip "ALL") = "ALL" := by
      rw [show strip "ALL" = "ALL" by decide]
      exact upper_eq_self (by decide)
    rw [h, hall, allVlans, image_Icc, Option.getD_some, expandVlanList]
    simp [hword, vlanIdMin, vlanIdMax]
  · split at h
    · rename_i hempty
      have hword : upper (strip "NONE") = "NONE" := by
        rw [show strip "NONE" = "NONE" by decide]
        exact upper_eq_self (by decide)
      rw [h, hempty, Option.getD_some, expandVlanList]
      simp [hword]
    · obtain ⟨list, rfl, hlist⟩ := h
      exact expandVlanList_of_readVlanList hlist

omit [UnicodeDatabase] in
/-- A mode is read as trunk exactly when it is trunk. -/
lemma text_eq_trunk_iff (mode : PortMode) : mode.text = "trunk" ↔ mode = .trunk := by
  cases mode <;> decide

/-- The port of a context's interface. -/
lemma ReadsContext.interface_iff (h : ReadsContext naming c up step context)
    (htype : step.changeType.targetsInterface = true) {p : Port}
    (hp : step.target = naming.long p) : ∃ facts, context.interface = some facts ∧
      facts.description = (c.ports p).description ∧
      facts.adminUp = some (!(c.ports p).shutdown && up p) := by
  obtain ⟨facts, hfacts⟩ := Option.ne_none_iff_exists'.mp (h.interface_listed htype p hp)
  obtain ⟨q, hq, hdescription, hadmin⟩ := h.interface facts hfacts
  -- the device reads back the names it prints, so a name is that of one port
  have hpq : some q = some p := by
    rw [← naming.resolve_long q, ← hq, hp, naming.resolve_long p]
  obtain rfl : q = p := Option.some.inj hpq
  exact ⟨facts, hfacts, hdescription, hadmin⟩

/-- A name that the device prints denotes its port. -/
lemma denotes_of_eq_long {target : String} {p : Port} (h : target = naming.long p) :
    naming.denotes target = some p := by
  rw [Naming.denotes, h, naming.resolve_long]

/-- The port under which a row is found is listed there by a name recognised as the target. -/
lemma sameInterface_of_accessVlanOf (h : ∀ row ∈ context.vlans, IsVlanRow naming c row)
    {name : String} {row : VlanFacts} (hrow : context.accessVlanOf name = some row) {p : Port}
    (hp : naming.denotes name = some p) : sameInterface (naming.short p) name = true := by
  have hport := List.find?_some hrow
  obtain ⟨text, htext, hsame⟩ := List.any_eq_true.mp hport
  obtain ⟨n, -, -, hports⟩ := h row (List.mem_of_find?_eq_some hrow)
  obtain ⟨q, rfl, -, -⟩ := hports text htext
  have hq := naming.resolve_of_sameInterface q _ hsame
  obtain rfl : q = p := Option.some.inj (hq.symm.trans hp)
  exact hsame

section Asked

variable (hback : ReadsContext naming c up step back) (hok : postCheckOk step back = .ok true)

include hback hok

/-- The VLAN that the check found has the name. -/
lemma asked_vlanName (ht : step.changeType = .vlanName) : Asked naming c step := by
  have hvlans := hback.vlans (by rw [ht]; rfl)
  simp only [postCheckOk, Asked, ht] at hok ⊢
  cases hid : int step.target with
  | none => simp [hid] at hok
  | some vlanId =>
    cases hrow : back.vlan vlanId with
    | none => simp [hid, hrow] at hok
    | some row =>
      simp only [hid, hrow, Except.ok.injEq, beq_iff_eq] at hok
      obtain ⟨n, hn, hname, -⟩ := hvlans.vlan_row row (List.mem_of_find?_eq_some hrow)
      have hrowid : row.vlanId = vlanId := by simpa using List.find?_some hrow
      exact ⟨n, by rw [← hrowid, hn], by rw [hname, hok]⟩

/-- The port that the check found under the VLAN is in access mode, unless it is dynamic. -/
lemma asked_accessVlan (ht : step.changeType = .interfaceAccessVlan)
    (hsound : PostCheckSound naming c up step) : Asked naming c step := by
  have hvlans := hback.vlans (by rw [ht]; rfl)
  simp only [postCheckOk, Asked, PostCheckSound, ht] at hok hsound ⊢
  cases hrow : back.accessVlanOf step.target with
  | none => simp [hrow] at hok
  | some row =>
    cases hid : int step.desiredValue with
    | none => simp [hrow, hid] at hok
    | some vlanId =>
      simp only [hrow, hid, Except.ok.injEq, beq_iff_eq] at hok
      obtain ⟨p, hp, hmode, hvlan, hname⟩ := accessVlanOf_of_isVlanRow hvlans.vlan_row hrow
      have hdesired : int step.desiredValue = some ((c.ports p).accessVlan : ℤ) := by
        rw [hid, ← hok, hvlan]
      have hsame := sameInterface_of_accessVlanOf hvlans.vlan_row hrow hp
      exact ⟨p, hp, hsound p hp hsame hmode hdesired (by simp [hname]), hid ▸ hdesired⟩

/-- The port that the check found trunks, with the list. -/
lemma asked_trunkVlans (ht : step.changeType = .interfaceTrunkVlans) : Asked naming c step := by
  have hswitchports := hback.switchports (by rw [ht]; rfl)
  simp only [postCheckOk, Asked, ht] at hok ⊢
  cases hrow : back.switchportOf step.target with
  | none => simp [hrow] at hok
  | some row =>
    simp only [hrow, Except.ok.injEq, Bool.and_eq_true, decide_eq_true_eq,
      SwitchportFacts.isTrunk, beq_iff_eq] at hok
    obtain ⟨p, hp, hmode, -, hallowed⟩ := hswitchports.switchportOf hrow
    refine ⟨p, hp, (text_eq_trunk_iff _).mp (hmode ▸ hok.1), ?_⟩
    rw [← expandVlanList_of_reportsAllowed hallowed, hok.2]

/-- The route that the check found has the next hop. -/
lemma asked_staticRoute (hc : c.RoutesWellFormed) (ht : step.changeType = .staticRoute) :
    Asked naming c step := by
  have hroutes := hback.routes (by rw [ht]; rfl)
  simp only [postCheckOk, Asked, ht] at hok ⊢
  cases hparts : prefixParts step.target with
  | none => simp [hparts] at hok
  | some parts =>
    obtain ⟨d, m⟩ := parts
    obtain ⟨destination, mask, rfl, rfl⟩ := exists_of_prefixParts hparts
    cases hfound : back.staticRoute destination.text mask.text with
    | none => simp [hparts, hfound] at hok
    | some route =>
      simp only [hparts, hfound, Except.ok.injEq, beq_iff_eq] at hok
      obtain ⟨nextHop, options, hroute, rfl⟩ := hroutes.staticRoute hc hfound
      refine ⟨destination, mask, rfl, ?_⟩
      rw [← hok]
      exact fun hnone => by simp [routeFacts, hroute] at hnone

/-- The process that the check found has the network. -/
lemma asked_routerNetwork (ht : step.changeType = .routerNetwork) : Asked naming c step := by
  have hprocesses := hback.processes (by rw [ht]; rfl)
  simp only [postCheckOk, Asked, ht] at hok ⊢
  rw [hasStatement_iff_of_reports hprocesses]
  cases hprocess : back.routingProcess step.target with
  | none => simp [hprocess] at hok
  | some facts => exact ⟨facts, rfl, by simpa [hprocess] using hok⟩

/-- No process that the check found has the network. -/
lemma asked_routerNetworkRemove (ht : step.changeType = .routerNetworkRemove) :
    Asked naming c step := by
  have hprocesses := hback.processes (by rw [ht]; rfl)
  simp only [postCheckOk, Asked, ht] at hok ⊢
  rw [hasStatement_iff_of_reports hprocesses]
  rintro ⟨facts, hfacts, hhas⟩
  simp [hfacts, hhas] at hok

/-- The version that the check found is among the statements of RIP. -/
lemma asked_ripVersion (ht : step.changeType = .routerRipVersion) : Asked naming c step := by
  have hprocesses := hback.processes (by rw [ht]; rfl)
  simp only [postCheckOk, Asked, ht] at hok ⊢
  cases hprocess : back.routingProcess "rip" with
  | none => simp [hprocess] at hok
  | some facts =>
    simp only [hprocess, Except.ok.injEq, beq_iff_eq] at hok
    obtain ⟨statements, hstatements, hsame⟩ := hprocesses.routingProcess hprocess
    obtain ⟨-, s, hs, hline⟩ := exists_of_findStatement hsame hok
    exact ⟨statements, hstatements, s, hs, by
      rw [← hline, normalizeStatement_normalizeStatement]⟩

/-- The process that the check found has the neighbour, in small letters or not. -/
lemma asked_bgpNeighbor (ht : step.changeType = .bgpNeighbor) : Asked naming c step := by
  have hprocesses := hback.processes (by rw [ht]; rfl)
  simp only [postCheckOk, Asked, ht] at hok ⊢
  rw [hasStatement_iff_of_reports hprocesses]
  cases hprocess : back.routingProcess step.target with
  | none => simp [hprocess] at hok
  | some facts =>
    refine ⟨facts, rfl, ?_⟩
    rw [← hasStatement_lower]
    simpa [hprocess] using hok

/-- The port that the check found has the description. -/
lemma asked_description (hc : c.LayerTwoWellFormed) (ht : step.changeType = .interfaceDescription) :
    Asked naming c step := by
  simp only [postCheckOk, Asked, ht] at hok ⊢
  cases hfacts : back.interface with
  | none => simp [hfacts] at hok
  | some facts =>
    simp only [hfacts, Except.ok.injEq, beq_iff_eq] at hok
    obtain ⟨p, hp, hdescription, -⟩ := hback.interface facts hfacts
    rw [hdescription] at hok
    refine ⟨p, denotes_of_eq_long hp, ?_⟩
    rw [hok, (hc.description_trimmed p _ hok).1]

/-- The port that the check found is in the state, unless it is only without a link. -/
lemma asked_adminState (ht : step.changeType = .interfaceAdminState)
    (hsound : PostCheckSound naming c up step) : Asked naming c step := by
  simp only [postCheckOk, Asked, PostCheckSound, ht] at hok hsound ⊢
  cases hfacts : back.interface with
  | none => simp [hfacts] at hok
  | some facts =>
    simp only [hfacts, Except.ok.injEq, beq_iff_eq] at hok
    obtain ⟨p, hp, -, hadmin⟩ := hback.interface facts hfacts
    rw [hadmin, Option.some.injEq] at hok
    refine ⟨p, denotes_of_eq_long hp, ?_⟩
    by_cases hup : step.desiredValue = "up"
    · simp only [hup, beq_self_eq_true, Bool.and_eq_true, Bool.not_eq_true'] at hok ⊢
      exact hok.1
    · have hdown : (step.desiredValue == "up") = false := beq_eq_false_iff_ne.mpr hup
      rw [hdown] at hok ⊢
      rcases hsound hup p hp with h | h
      · exact h
      · simpa [h] using hok

/-- A check that passed means that the device is as asked, but for a port without a link that
is to be shut down and for a dynamic port that is to be an access port. -/
lemma asked_of_postCheckOk (hc : c.WellFormed) (hsound : PostCheckSound naming c up step) :
    Asked naming c step := by
  cases ht : step.changeType with
  | hostname =>
    simp only [postCheckOk, Asked, ht, hback.hostname ht, Except.ok.injEq, beq_iff_eq,
      Option.some.injEq] at hok ⊢
    rw [← hok, strip_eq_self hc.hostname]
  | domainLookup =>
    simpa only [postCheckOk, Asked, ht, hback.domainLookup ht, Except.ok.injEq, beq_iff_eq,
      Option.some.injEq] using hok
  | vlanName => exact asked_vlanName hback hok ht
  | interfaceAccessVlan => exact asked_accessVlan hback hok ht hsound
  | interfaceTrunkVlans => exact asked_trunkVlans hback hok ht
  | staticRoute => exact asked_staticRoute hback hok hc.routes ht
  | routerNetwork => exact asked_routerNetwork hback hok ht
  | routerNetworkRemove => exact asked_routerNetworkRemove hback hok ht
  | routerRipVersion => exact asked_ripVersion hback hok ht
  | bgpNeighbor => exact asked_bgpNeighbor hback hok ht
  | interfaceDescription => exact asked_description hback hok hc.layerTwo ht
  | interfaceAdminState => exact asked_adminState hback hok ht hsound

end Asked

/-- A port without a link that is to be shut down and is not passes the check. -/
lemma postCheckOk_without_link (hback : ReadsContext naming c up step back)
    (ht : step.changeType = .interfaceAdminState) (hdown : step.desiredValue ≠ "up") {p : Port}
    (hp : step.target = naming.long p) (hshut : (c.ports p).shutdown = false)
    (hlink : up p = false) : postCheckOk step back = .ok true := by
  obtain ⟨facts, hfacts, -, hadmin⟩ := hback.interface_iff (by rw [ht]; rfl) hp
  have hdown : (step.desiredValue == "up") = false := beq_eq_false_iff_ne.mpr hdown
  simp [postCheckOk, ht, hfacts, hadmin, hshut, hlink, hdown]

/-- What is read of a device that lists a port under its VLAN. -/
def listing (naming : Naming Port) (c : Config Port) (p : Port) (context : ChangeContext) :
    ChangeContext :=
  { context with
    vlans := context.vlans.map fun row =>
      if row.vlanId = ((c.ports p).accessVlan : ℤ) then
        { row with ports := row.ports ++ [naming.short p] }
      else row }

/-- A port that does not trunk may be listed under its VLAN, whatever its mode. -/
lemma reportsVlans_listing (h : ReportsVlans naming c context) {p : Port}
    (hmode : (c.ports p).mode ≠ .trunk) : ReportsVlans naming c (listing naming c p context) where
  vlan_row := by
    intro row hrow
    obtain ⟨row, hmem, rfl⟩ := List.mem_map.mp hrow
    obtain ⟨n, hn, hname, hports⟩ := h.vlan_row row hmem
    split
    · next hid =>
      refine ⟨n, hn, hname, fun text htext => ?_⟩
      rcases List.mem_append.mp htext with htext | htext
      · exact hports text htext
      · exact ⟨p, List.mem_singleton.mp htext, hmode, by rw [hid] at hn; omega⟩
    · exact ⟨n, hn, hname, hports⟩
  vlan_listed := by
    intro n hn
    obtain ⟨row, hmem, hid, hlisted⟩ := h.vlan_listed n hn
    refine ⟨_, List.mem_map_of_mem hmem, ?_, fun q hq hvlan => ?_⟩
    · split <;> exact hid
    · split
      · exact List.mem_append_left _ (hlisted q hq hvlan)
      · exact hlisted q hq hvlan

/-- A port that is listed under its VLAN by a recognised name is found there. -/
lemma exists_accessVlanOf_listing (h : ReportsVlans naming c context) {p : Port} {name : String}
    (hp : naming.denotes name = some p) (hsame : sameInterface (naming.short p) name = true)
    (hmode : (c.ports p).mode ≠ .trunk) (hvlan : c.vlans (c.ports p).accessVlan ≠ none) :
    ∃ row, (listing naming c p context).accessVlanOf name = some row ∧
      row.vlanId = (c.ports p).accessVlan := by
  obtain ⟨row, hmem, hid, -⟩ := h.vlan_listed _ hvlan
  have hlisted : { row with ports := row.ports ++ [naming.short p] } ∈
      (listing naming c p context).vlans := List.mem_map.mpr ⟨row, hmem, if_pos hid⟩
  cases hfound : (listing naming c p context).accessVlanOf name with
  | none =>
    refine absurd ?_ (List.find?_eq_none.mp hfound _ hlisted)
    exact List.any_eq_true.mpr ⟨_, List.mem_append_right _ (List.mem_singleton_self _), hsame⟩
  | some found =>
    obtain ⟨q, hq, -, hidq, -⟩ :=
      accessVlanOf_of_isVlanRow (reportsVlans_listing h hmode).vlan_row hfound
    obtain rfl : q = p := Option.some.inj (hq.symm.trans hp)
    exact ⟨found, rfl, hidq⟩

/-- A check that passes only when the device is as asked meets neither a port without a link that
is to be shut down and is not, nor a dynamic port in the VLAN of an access port. -/
lemma postCheckSound_of_asked (hread : ∃ back, ReadsContext naming c up step back)
    (h : ∀ back, ReadsContext naming c up step back → postCheckOk step back = .ok true →
      Asked naming c step) : PostCheckSound naming c up step := by
  obtain ⟨back, hback⟩ := hread
  unfold PostCheckSound
  split
  · next ht =>
    intro hdown p hp
    by_contra hno
    rw [not_or, Bool.not_eq_true, Bool.not_eq_true] at hno
    have hasked := h back hback (postCheckOk_without_link hback ht hdown hp hno.1 hno.2)
    have hdownb : (step.desiredValue == "up") = false := beq_eq_false_iff_ne.mpr hdown
    simp only [Asked, ht, hdownb] at hasked
    obtain ⟨q, hq, hshut⟩ := hasked
    rw [denotes_of_eq_long hp, Option.some.injEq] at hq
    subst hq
    rw [hno.1] at hshut
    cases hshut
  · next ht =>
    intro p hp hsame hmode hdesired hvlan
    have hvlans := hback.vlans (by rw [ht]; rfl)
    obtain ⟨row, hrow, hid⟩ := exists_accessVlanOf_listing hvlans hp hsame hmode hvlan
    have hback' : ReadsContext naming c up step (listing naming c p back) :=
      { hback with
        vlans := fun _ => reportsVlans_listing hvlans hmode
        routes := fun h => by rw [ht] at h; cases h
        processes := fun h => by rw [ht] at h; cases h }
    have hasked := h _ hback' (by simp [postCheckOk, ht, hrow, hdesired, hid])
    simp only [Asked, ht] at hasked
    obtain ⟨q, hq, hstatic, -⟩ := hasked
    rw [hp, Option.some.injEq] at hq
    exact hq ▸ hstatic
  · trivial

/-! ## What execution leaves -/

variable [DecidableEq Port] {rendered : RenderedChange}

/-- After the commands the device has the desired name. -/
lemma hostname_of_executes (hv : validateHostname step = [])
    (hr : renderHostname step context = .ok rendered)
    (hexec : Executes naming c rendered.commands d) : d.hostname = strip step.desiredValue := by
  have hread : readCommand ("hostname " ++ step.desiredValue) =
      some (.hostname (strip step.desiredValue)) := by
    rw [readCommand, split_append (by decide), hostname_of_validateHostname hv,
      show split "hostname " = ["hostname"] by decide]
    rfl
  have hcommands : rendered.commands = ["hostname " ++ step.desiredValue] := by
    unfold renderHostname at hr
    cases hname : context.hostname with
    | none => simp [hname] at hr
    | some previous =>
      simp only [hname] at hr
      split at hr
      · cases hr
      · cases hr
        rfl
  rw [hcommands] at hexec
  obtain ⟨s, hline, rfl⟩ := hexec.single
  rw [executeLine_of_isGlobal naming _ hread rfl] at hline
  cases hline
  rfl

/-- After the commands the lookup is as desired. -/
lemma domainLookup_of_executes (hr : renderDomainLookup step context = .ok rendered)
    (hexec : Executes naming c rendered.commands d) :
    d.domainLookup = (step.desiredValue == "on") := by
  have hon : readCommand "ip domain-lookup" = some (.domainLookup true) := by decide
  have hoff : readCommand "no ip domain-lookup" = some (.domainLookup false) := by decide
  have hcommands : rendered.commands =
      [if step.desiredValue = "on" then "ip domain-lookup" else "no ip domain-lookup"] := by
    unfold renderDomainLookup at hr
    cases hlookup : context.domainLookup with
    | none => simp [hlookup] at hr
    | some current =>
      simp only [hlookup, Except.ok.injEq] at hr
      rw [← hr]
  rw [hcommands] at hexec
  obtain ⟨s, hline, rfl⟩ := hexec.single
  by_cases hdesired : step.desiredValue = "on"
  · rw [if_pos hdesired, executeLine_of_isGlobal naming _ hon rfl] at hline
    cases hline
    simp [hdesired]
  · rw [if_neg hdesired, executeLine_of_isGlobal naming _ hoff rfl] at hline
    cases hline
    simp [hdesired]

/-- After the commands the VLAN has the desired name. -/
lemma vlanName_of_executes (hv : validateVlanName step = [])
    (hr : renderVlanName step context = .ok rendered)
    (hexec : Executes naming c rendered.commands d) :
    ∃ n : ℕ, int step.target = some (n : ℤ) ∧ d.vlans n = some step.desiredValue := by
  obtain ⟨hword, n, hn, h1, h2⟩ := vlanName_of_validateVlanName hv
  simp only [renderVlanName, hn, Except.ok.injEq] at hr
  subst hr
  obtain ⟨s, hexec, rfl⟩ := hexec
  rw [foldlM_of_executeLine (executeLine_vlan naming _ h1 h2),
    foldlM_of_executeLine (executeLine_name naming _ _ hword), List.foldlM_nil] at hexec
  cases hexec
  exact ⟨n, hn, by simp⟩

/-- The commands of a port that were executed, for a change of an access VLAN. -/
lemma accessVlan_of_executes (hv : validateAccessVlan step context = [])
    (hr : renderAccessVlan step context = .ok rendered)
    (hexec : Executes naming c rendered.commands d) :
    ∃ p, ∃ n : ℕ, naming.denotes step.target = some p ∧ int step.desiredValue = some (n : ℤ) ∧
      (d.ports p).mode = .staticAccess ∧ (d.ports p).accessVlan = n ∧ d.vlans n ≠ none := by
  obtain ⟨n, hn, h1, h2, -⟩ := accessVlan_of_validateAccessVlan hv
  have hmode : readCommand "switchport mode access" = some (.mode .staticAccess) := by decide
  have haccess := readCommand_accessVlan h1 h2
  simp only [renderAccessVlan, hn, Except.ok.injEq] at hr
  subst hr
  obtain ⟨p, hp, hport⟩ := hexec.port [.mode .staticAccess, .accessVlan n]
    (by simp [hmode, haccess]) (by simp [Command.isGlobal])
  have hd : { c.ports p with mode := .staticAccess, accessVlan := n } = d.ports p := by
    simpa [portEffect] using hport
  refine ⟨p, n, hp, hn, by rw [← hd], by rw [← hd], ?_⟩
  -- the last line leaves its VLAN in the database
  obtain ⟨s, hexec, rfl⟩ := hexec
  simp only [List.foldlM_cons, List.foldlM_nil] at hexec
  obtain ⟨s₁, -, hexec⟩ := Option.bind_eq_some_iff.mp hexec
  obtain ⟨s₂, -, hexec⟩ := Option.bind_eq_some_iff.mp hexec
  obtain ⟨s₃, hlast, hexec⟩ := Option.bind_eq_some_iff.mp hexec
  cases hexec
  exact vlans_of_executeLine_accessVlan haccess hlast

/-- After the commands the trunk allows the desired VLANs. -/
lemma trunkVlans_of_executes (hctx : ReportsSwitchports naming c context)
    (hv : validateTrunkVlans step context = [])
    (hr : renderTrunkVlans step context = .ok rendered)
    (hexec : Executes naming c rendered.commands d) :
    ∃ p ids, naming.denotes step.target = some p ∧
      sameInterface (naming.short p) step.target = true ∧ (d.ports p).mode = .trunk ∧
      readVlanList (strip step.desiredValue) = some ids ∧ (d.ports p).allowed = ids := by
  obtain ⟨hword, row, hrow, modeCommand, hlookup⟩ := trunkVlans_of_validateTrunkVlans hv
  obtain ⟨p, hname, hmode, -⟩ := hctx row (List.mem_of_find?_eq_some hrow)
  have hsame := List.find?_some hrow
  rw [hname] at hsame
  have hp := naming.resolve_of_sameInterface p _ hsame
  simp only [renderTrunkVlans, hrow, hlookup, Except.ok.injEq] at hr
  subst hr
  have hencap : readCommand "switchport trunk encapsulation dot1q" =
      some (.encapsulation .dot1q) := by decide
  have htrunk : readCommand "switchport mode trunk" = some (.mode .trunk) := by decide
  have hallowed := readCommand_allowed hword
  -- a list that the device does not read is not executed
  obtain ⟨ids, hids⟩ : ∃ ids, readVlanList (strip step.desiredValue) = some ids := by
    obtain ⟨s, hexec, -⟩ := hexec
    have hread := readCommand_ne_none_of_foldlM hexec
      ("switchport trunk allowed vlan " ++ strip step.desiredValue) (by simp)
    rw [hallowed] at hread
    exact Option.ne_none_iff_exists'.mp fun hnone => hread (by rw [hnone]; rfl)
  rw [hids, Option.map_some] at hallowed
  refine ⟨p, ids, hp, hsame, ?_⟩
  have hisTrunk : row.isTrunk = true ↔ (c.ports p).mode = .trunk := by
    rw [SwitchportFacts.isTrunk, hmode, beq_iff_eq, text_eq_trunk_iff]
  have hport := hexec.port
    ((if row.isTrunk = false ∧ row.trunkEncapsulation = some "negotiate" then
      [.encapsulation .dot1q] else []) ++
      (if row.isTrunk = false then [.mode .trunk] else []) ++ [.allowed ids])
    (by split <;> split <;> simp [hencap, htrunk, hallowed])
    (by split <;> split <;> simp [Command.isGlobal])
  obtain ⟨q, hq, hport⟩ := hport
  obtain rfl : q = p := Option.some.inj (hq.symm.trans hp)
  have hports : (d.ports q).mode = .trunk ∧ (d.ports q).allowed = ids := by
    cases ht : row.isTrunk with
    | true =>
      have hd : { c.ports q with allowed := ids } = d.ports q := by simpa [ht, portEffect] using hport
      rw [← hd]
      exact ⟨hisTrunk.mp ht, rfl⟩
    | false =>
      by_cases hneg : row.trunkEncapsulation = some "negotiate"
      · have hd : { c.ports q with encapsulation := .dot1q, mode := .trunk, allowed := ids } =
            d.ports q := by simpa [ht, hneg, portEffect] using hport
        rw [← hd]
        exact ⟨rfl, rfl⟩
      · by_cases hc : (c.ports q).encapsulation = .negotiate
        · simp [ht, hneg, portEffect, hc] at hport
        · have hd : { c.ports q with mode := .trunk, allowed := ids } = d.ports q := by
            simpa [ht, hneg, portEffect, hc] using hport
          rw [← hd]
          exact ⟨rfl, rfl⟩
  exact ⟨hports.1, hids, hports.2⟩

/-- After the commands the port has the desired description. -/
lemma description_of_executes {current : InterfaceFacts} (hv : validateDescription step = [])
    (hexec : Executes naming c (renderDescription step current).commands d) :
    ∃ p, naming.denotes step.target = some p ∧
      (d.ports p).description = some (strip step.desiredValue) := by
  have hread := readCommand_description (description_of_validateDescription hv).2
  obtain ⟨p, hp, hport⟩ := hexec.port [.description (strip step.desiredValue)]
    (by simp [hread]) (by simp [Command.isGlobal])
  have hd : { c.ports p with description := some (strip step.desiredValue) } = d.ports p := by
    simpa [portEffect] using hport
  exact ⟨p, hp, by rw [← hd]⟩

/-- After the commands the port is shut down, or not, as desired. -/
lemma adminState_of_executes {current : InterfaceFacts}
    (hexec : Executes naming c (renderAdminState step current).commands d) :
    ∃ p, naming.denotes step.target = some p ∧
      (d.ports p).shutdown = !(step.desiredValue == "up") := by
  have hup : readCommand "no shutdown" = some (.shutdown false) := by decide
  have hdown : readCommand "shutdown" = some (.shutdown true) := by decide
  obtain ⟨p, hp, hport⟩ := hexec.port [.shutdown (!(step.desiredValue == "up"))]
    (by by_cases h : step.desiredValue = "up" <;> simp [h, hup, hdown]) (by simp [Command.isGlobal])
  have hd : { c.ports p with shutdown := !(step.desiredValue == "up") } = d.ports p := by
    simpa [portEffect] using hport
  exact ⟨p, hp, by rw [← hd]⟩

/-- The routes after an executed route change: without the line found for the prefix, and with
the desired one. -/
lemma staticRoute_of_executes (hc : c.RoutesWellFormed) (hctx : ReportsRoutes c context)
    (hv : validateStaticRoute step = []) (hr : renderStaticRoute step context = .ok rendered)
    (hexec : Executes naming c rendered.commands d) :
    ∃ destination mask : Ipv4, prefixParts step.target = some (destination.text, mask.text) ∧
      d.routes ⟨destination, mask, strip step.desiredValue⟩ = some [] ∧
      (∀ nextHop, nextHop ≠ strip step.desiredValue →
        d.routes ⟨destination, mask, nextHop⟩ =
          if ∃ existing ∈ context.staticRoute destination.text mask.text,
            existing.nextHop = nextHop then none
          else c.routes ⟨destination, mask, nextHop⟩) ∧
      ∀ key, ¬(key.destination = destination ∧ key.mask = mask) → d.routes key = c.routes key := by
  obtain ⟨hhop, destination, mask, hparts⟩ := staticRoute_of_validateStaticRoute hv
  have hsplit : split step.desiredValue = [strip step.desiredValue] := by
    rw [← split_strip, split_eq_singleton hhop]
  have hadd := fun s => executeLine_route destination mask naming s hsplit
  have hother : ∀ nextHop : String, nextHop ≠ strip step.desiredValue →
      (⟨destination, mask, nextHop⟩ : RouteKey) ≠ ⟨destination, mask, strip step.desiredValue⟩ :=
    fun nextHop hne heq => hne (congrArg RouteKey.nextHop heq)
  have hpart : ∀ key : RouteKey, ¬(key.destination = destination ∧ key.mask = mask) →
      ∀ nextHop, key ≠ ⟨destination, mask, nextHop⟩ := by
    rintro key hkey nextHop rfl
    exact hkey ⟨rfl, rfl⟩
  refine ⟨destination, mask, hparts, ?_⟩
  unfold renderStaticRoute at hr
  simp only [hparts] at hr
  cases hfound : context.staticRoute destination.text mask.text with
  | none =>
    simp only [hfound, Except.ok.injEq] at hr
    subst hr
    obtain ⟨s, hexec, rfl⟩ := hexec
    rw [foldlM_of_executeLine (hadd _), List.foldlM_nil] at hexec
    cases hexec
    refine ⟨by simp, fun nextHop hne => ?_, fun key hkey => ?_⟩
    · simp [Config.setRoute, Function.update_of_ne (hother nextHop hne)]
    · simp [Config.setRoute, Function.update_of_ne (hpart key hkey _)]
  | some existing =>
    simp only [hfound, Except.ok.injEq] at hr
    subst hr
    obtain ⟨old, options, hroute, rfl⟩ := hctx.staticRoute hc hfound
    obtain ⟨hnext, hoptions⟩ := hc _ _ hroute
    have hwords : split (join (old :: options)) = old :: options :=
      split_join fun w hw => (List.mem_cons.mp hw).elim (· ▸ hnext) (hoptions w)
    have hwithdraw := fun s => executeLine_noRoute destination mask naming s hwords
    obtain ⟨s, hexec, rfl⟩ := hexec
    rw [asCommand_routeFacts hnext hoptions, routeLine, routeText_eq_append,
      foldlM_of_executeLine (hwithdraw _), foldlM_of_executeLine (hadd _),
      List.foldlM_nil] at hexec
    cases hexec
    refine ⟨by simp, fun nextHop hne => ?_, fun key hkey => ?_⟩
    · simp only [Config.setRoute, Function.update_of_ne (hother nextHop hne)]
      by_cases hold : old = nextHop
      · rw [if_pos ⟨_, rfl, hold⟩, hold, Function.update_self]
      · have hkey : (⟨destination, mask, nextHop⟩ : RouteKey) ≠ ⟨destination, mask, old⟩ :=
          fun heq => hold (congrArg RouteKey.nextHop heq).symm
        rw [Function.update_of_ne hkey, if_neg]
        rintro ⟨existing, hexisting, hnextHop⟩
        obtain rfl := Option.some.inj hexisting
        exact hold hnextHop
    · simp [Config.setRoute, Function.update_of_ne (hpart key hkey _)]

/-- A process has the statement that was executed last. -/
lemma hasStatement_of_executes {process line : String} {lines : List String}
    (commands : List Command) (hname : split process ≠ [])
    (hread : lines.map readCommand = commands.map some)
    (hglobal : ∀ command ∈ commands, command.isGlobal = false)
    (hline : readCommand line = some (.statement (join (split line))))
    (hexec : Executes naming c (("router " ++ process) :: (lines ++ [line])) d) :
    HasStatement d process line := by
  obtain ⟨u, hu, hd⟩ := hexec.process (commands ++ [.statement (join (split line))])
    hname (by simp [hread, hline]) (by
      intro command hcommand
      rcases List.mem_append.mp hcommand with h | h
      · exact hglobal command h
      · obtain rfl := List.mem_singleton.mp h
        rfl)
  rw [List.foldlM_append] at hu
  obtain ⟨statements, -, hu⟩ := Option.bind_eq_some_iff.mp hu
  simp only [List.foldlM_cons, List.foldlM_nil, statementEffect, Option.bind_eq_bind,
    Option.bind_some, Option.pure_def, Option.some.injEq] at hu
  subst hu
  have hmem := exists_mem_addStatement statements (join (split line))
  rw [normalizeStatement_join_split] at hmem
  exact ⟨_, hd, hmem⟩

omit [DecidableEq Port] in
/-- A statement is found under every spelling of its process. -/
lemma HasStatement.congr {process process' line : String} (h : HasStatement c process line)
    (hname : normalizeStatement process = normalizeStatement process') :
    HasStatement c process' line := by
  rwa [HasStatement, ← hname]

/-- After the commands the process has the network statement. -/
lemma routerNetwork_of_executes (hv : validateRouterNetwork step context = [])
    (hexec : Executes naming c (renderRouterNetwork step context).commands d) :
    HasStatement d step.target (networkStatement step.desiredValue) := by
  obtain ⟨hname, -⟩ := routerNetwork_of_validateRouterNetwork hv
  have hsplit : split (strip step.target) ≠ [] := by
    rw [split_strip]
    exact hname.split_ne_nil
  have hline := readCommand_statement (split_networkStatement step.desiredValue) (by decide)
  have hcommands : (renderRouterNetwork step context).commands =
      ("router " ++ strip step.target) :: ([] ++ [networkStatement step.desiredValue]) := by
    unfold renderRouterNetwork
    cases hp : context.routingProcess (strip step.target) <;> simp [hp]
  rw [hcommands] at hexec
  exact (hasStatement_of_executes [] hsplit rfl (by simp) hline hexec).congr
    (normalizeStatement_strip _)

/-- After the commands the process has the network statement no more. -/
lemma routerNetworkRemove_of_executes (hv : validateRouterNetworkRemove step context = [])
    (hexec : Executes naming c (renderRouterNetworkRemove step).commands d) :
    ¬HasStatement d step.target (networkStatement step.desiredValue) := by
  obtain ⟨hname, -⟩ := routerNetworkRemove_of_validateRouterNetworkRemove hv
  have hsplit : split (strip step.target) ≠ [] := by
    rw [split_strip]
    exact hname.split_ne_nil
  have hno := readCommand_noStatement (split_networkStatement step.desiredValue) (by decide)
  obtain ⟨u, hu, hd⟩ := hexec.process
    [.noStatement (join (split (networkStatement step.desiredValue)))] hsplit
    (by simp [hno]) (by simp [Command.isGlobal])
  simp only [List.foldlM_cons, List.foldlM_nil, statementEffect, Option.bind_eq_bind,
    Option.bind_some, Option.pure_def, Option.some.injEq] at hu
  subst hu
  rintro ⟨statements, hstatements, s, hs, heq⟩
  rw [normalizeStatement_strip] at hd
  obtain rfl := Option.some.inj (hd.symm.trans hstatements)
  have hwords : split (normalizeStatement (join (split (networkStatement step.desiredValue)))) =
      "network" :: (split step.desiredValue).map lower := by
    rw [normalizeStatement_join_split, split_normalizeStatement_network]
  rw [removeStatement_network _ hwords] at hs
  rw [Finset.mem_filter, normalizeStatement_join_split] at hs
  exact hs.2 heq

/-- After an executed change of the RIP version, the version is the only statement of RIP that
starts like one. -/
lemma ripVersion_of_executes (hc : c.ProcessesWellFormed)
    (hv : validateRipVersion step context = [])
    (hexec : Executes naming c (renderRipVersion step context).commands d) :
    ∃ statements, d.processes (normalizeStatement "rip") = some statements ∧
      (∃ s ∈ statements, normalizeStatement s = "version " ++ strip step.desiredValue) ∧
      ∀ s ∈ statements, startswith (normalizeStatement s) "version" = true →
        normalizeStatement s = "version " ++ strip step.desiredValue := by
  obtain ⟨hversion, -⟩ := ripVersion_of_validateRipVersion hv
  obtain ⟨line, hline⟩ : ∃ line, line = "version " ++ strip step.desiredValue := ⟨_, rfl⟩
  have hcases : line = "version 1" ∨ line = "version 2" := by
    rw [hline]
    exact hversion.imp (fun h => by rw [h]; rfl) fun h => by rw [h]; rfl
  have hsplit : ∃ word, split line = ["version", word] ∧ lower word = word := by
    rcases hcases with rfl | rfl
    · exact ⟨"1", by decide, lower_eq_self (by decide)⟩
    · exact ⟨"2", by decide, lower_eq_self (by decide)⟩
  have hjoin : join (split line) = line := by
    rcases hcases with rfl | rfl <;> decide
  obtain ⟨word, hsplit, hword⟩ := hsplit
  have hread := readCommand_statement hsplit (by decide)
  have hnormal : split (normalizeStatement line) = ["version", word] := by
    rw [split_normalizeStatement, hsplit]
    simp [hword, lower_eq_self (show ∀ c ∈ "version".toList, _ by decide)]
  have hself : normalizeStatement line = line := by
    rw [← join_split_normalizeStatement, hnormal, ← hsplit, hjoin]
  rw [hjoin] at hread
  rw [← hline]
  have hcommands : (renderRipVersion step context).commands = ("router " ++ "rip") :: [line] := by
    rw [hline]
    unfold renderRipVersion
    cases hp : context.routingProcess "rip" <;> rfl
  rw [hcommands] at hexec
  obtain ⟨u, hu, hd⟩ := hexec.process [.statement line] (by decide)
    (by simp [hread]) (by simp [Command.isGlobal])
  simp only [List.foldlM_cons, List.foldlM_nil, statementEffect, Option.bind_eq_bind,
    Option.bind_some, Option.pure_def, Option.some.injEq] at hu
  subst hu
  rw [addStatement_version _ hnormal, hself] at hd
  refine ⟨_, hd, ⟨line, Finset.mem_insert_self _ _, hself⟩, fun s hs hstart => ?_⟩
  rcases Finset.mem_insert.mp hs with rfl | hs
  · exact hself
  · -- every other version was replaced
    obtain ⟨hs, hnot⟩ := Finset.mem_filter.mp hs
    cases hrip : c.processes (normalizeStatement "rip") with
    | none => simp [hrip] at hs
    | some statements =>
      rw [hrip, Option.getD_some] at hs
      rw [((hc _ _ hrip).version s hs hstart).1] at hnot
      cases hnot

/-- After the commands the process has the neighbour. -/
lemma bgpNeighbor_of_executes (hv : validateBgpNeighbor step context = [])
    (hexec : Executes naming c (renderBgpNeighbor step context).commands d) :
    HasStatement d step.target ("neighbor " ++ collapse step.desiredValue) := by
  obtain ⟨hname, hissues, -⟩ := bgpNeighbor_of_validateBgpNeighbor hv
  have hsplit : split (lower (strip step.target)) ≠ [] := by
    rw [split_lower, split_strip]
    simpa using hname.split_ne_nil
  have hkey : normalizeStatement (lower (strip step.target)) = normalizeStatement step.target := by
    rw [normalizeStatement_lower, normalizeStatement_strip]
  have hline := readCommand_statement (split_neighbor step.desiredValue) (by decide)
  have hpeer := (peerAddress_of_bgpNeighborIssues hissues).1
  have hno : readCommand ("no neighbor " ++ peerAddress step.desiredValue) =
      some (.noStatement (join (split ("neighbor " ++ peerAddress step.desiredValue)))) := by
    rw [← readCommand_noStatement (split_append_word (by decide) hpeer) (by decide),
      ← String.append_assoc, show "no " ++ "neighbor " = "no neighbor " from rfl]
  have hcommands : (renderBgpNeighbor step context).commands =
      ("router " ++ lower (strip step.target)) :: ([] ++ ["neighbor " ++
        collapse step.desiredValue]) ∨
      (renderBgpNeighbor step context).commands =
      ("router " ++ lower (strip step.target)) :: (["no neighbor " ++
        peerAddress step.desiredValue] ++ ["neighbor " ++ collapse step.desiredValue]) := by
    unfold renderBgpNeighbor
    cases hp : context.routingProcess (lower (strip step.target)) with
    | none => simp [hp]
    | some existing =>
      cases hf : existing.findStatement
        ("neighbor " ++ peerAddress step.desiredValue ++ " remote-as ") <;> simp [hp, hf]
  rcases hcommands with hcommands | hcommands <;> rw [hcommands] at hexec
  · exact (hasStatement_of_executes [] hsplit rfl (by simp) hline hexec).congr hkey
  · exact (hasStatement_of_executes [.noStatement _] hsplit
      (by rw [List.map_singleton, hno]; rfl) (by simp [Command.isGlobal]) hline hexec).congr hkey

/-! ## An executed change passes the check -/

omit [DecidableEq Port] in
/-- A static route that is not the only one of its prefix may be read back behind another. -/
lemma exists_read_with_first (hroutes : ReportsRoutes d back) (hd : d.RoutesWellFormed)
    {destination mask : Ipv4} {nextHop : String} {options : List String}
    (hroute : d.routes ⟨destination, mask, nextHop⟩ = some options) :
    ∃ routes, ReportsRoutes d { back with staticRoutes := routes } ∧
      ({ back with staticRoutes := routes } : ChangeContext).staticRoute destination.text mask.text =
        some (routeFacts (⟨destination, mask, nextHop⟩, options)) := by
  obtain ⟨routes, hmem, -⟩ := hroutes
  have hmem' : ∀ key o, (key, o) ∈ (⟨destination, mask, nextHop⟩, options) :: routes ↔
      d.routes key = some o := by
    intro key o
    rw [List.mem_cons, hmem, Prod.mk.injEq]
    constructor
    · rintro (⟨rfl, rfl⟩ | h)
      · exact hroute
      · exact h
    · exact Or.inr
  have hparse := parseStaticRoutes_joinLines fun route hr =>
    hd route.1 route.2 ((hmem' _ _).mp hr)
  refine ⟨_, ⟨_, hmem', hparse.symm⟩, ?_⟩
  rw [ChangeContext.staticRoute, List.find?_cons_of_pos]
  simp [routeFacts]

/-- The check of an executed route change passes on every read-back exactly when the line found
before was the only route of the prefix with another next hop. -/
lemma postCheck_staticRoute_iff (ht : step.changeType = .staticRoute) (hc : c.RoutesWellFormed)
    (hctx : ReportsRoutes c context) (hv : validateStaticRoute step = [])
    (hr : renderStaticRoute step context = .ok rendered)
    (hexec : Executes naming c rendered.commands d) (hd : d.RoutesWellFormed)
    (hread : ∃ back, ReadsContext naming d up step back) :
    (∀ back, ReadsContext naming d up step back → postCheckOk step back = .ok true) ↔
      PostCheckAccepts naming c up step context := by
  obtain ⟨destination, mask, hparts, hdesired, hothers, -⟩ :=
    staticRoute_of_executes hc hctx hv hr hexec
  unfold PostCheckAccepts
  simp only [ht]
  constructor
  · intro h dest m nextHop hdm hroute
    rw [hparts, Option.some.injEq, Prod.mk.injEq] at hdm
    obtain rfl := Ipv4.text_injective hdm.1
    obtain rfl := Ipv4.text_injective hdm.2
    by_contra hno
    rw [not_or] at hno
    obtain ⟨back, hback⟩ := hread
    -- the other route is still there, and may be listed first
    have hleft := hothers nextHop hno.1
    rw [if_neg hno.2] at hleft
    obtain ⟨options, hoptions⟩ := Option.ne_none_iff_exists'.mp hroute
    obtain ⟨routes, hreports, hfirst⟩ :=
      exists_read_with_first (hback.routes (by rw [ht]; rfl)) hd (hleft.trans hoptions)
    have hback' : ReadsContext naming d up step { back with staticRoutes := routes } :=
      { hback with
        vlans := fun h => by rw [ht] at h; cases h
        switchports := fun h => by rw [ht] at h; cases h
        processes := fun h => by rw [ht] at h; cases h
        routes := fun _ => hreports }
    have hok := h _ hback'
    simp only [postCheckOk, ht, hparts, hfirst, Except.ok.injEq, beq_iff_eq] at hok
    exact hno.1 hok
  · intro h back hback
    have hroutes := hback.routes (by rw [ht]; rfl)
    cases hfound : back.staticRoute destination.text mask.text with
    | none =>
      rw [hroutes.staticRoute_none hd hfound] at hdesired
      cases hdesired
    | some route =>
      obtain ⟨nextHop, options, hroute, rfl⟩ := hroutes.staticRoute hd hfound
      have hhop : nextHop = strip step.desiredValue := by
        by_contra hne
        have hother := hothers nextHop hne
        split at hother
        · rw [hother] at hroute
          cases hroute
        · rename_i hnot
          rw [hother] at hroute
          exact ((h destination mask nextHop hparts (by simp [hroute])).resolve_left hne
            |> hnot).elim
      simp [postCheckOk, ht, hparts, hfound, routeFacts, hhop]

/-- The check of an executed assignment of a VLAN passes exactly when the port's short name is
recognised as the target. -/
lemma postCheck_accessVlan_iff (ht : step.changeType = .interfaceAccessVlan)
    (hv : validateAccessVlan step context = [])
    (hr : renderAccessVlan step context = .ok rendered)
    (hexec : Executes naming c rendered.commands d) (hback : ReadsContext naming d up step back) :
    postCheckOk step back = .ok true ↔ PostCheckAccepts naming c up step context := by
  obtain ⟨p, n, hp, hn, hmode, hvlan, hexists⟩ := accessVlan_of_executes hv hr hexec
  have hvlans := hback.vlans (by rw [ht]; rfl)
  have haccepts : PostCheckAccepts naming c up step context ↔
      sameInterface (naming.short p) step.target = true := by
    unfold PostCheckAccepts
    simp [ht, hp]
  rw [haccepts]
  constructor
  · intro hok
    cases hrow : back.accessVlanOf step.target with
    | none => simp [postCheckOk, ht, hrow] at hok
    | some row => exact sameInterface_of_accessVlanOf hvlans.vlan_row hrow hp
  · intro hsame
    obtain ⟨row, hrow, hid, hlisted⟩ := hvlans.vlan_listed n hexists
    cases hfound : back.accessVlanOf step.target with
    | none =>
      have hany : (row.ports.any fun port => sameInterface port step.target) = true :=
        List.any_eq_true.mpr ⟨_, hlisted p hmode hvlan, hsame⟩
      exact absurd hany (List.find?_eq_none.mp hfound row hrow)
    | some found =>
      obtain ⟨q, hq, -, hidq, -⟩ := accessVlanOf_of_isVlanRow hvlans.vlan_row hfound
      obtain rfl : q = p := Option.some.inj (hq.symm.trans hp)
      simp [postCheckOk, ht, hfound, hn, hidq, hvlan]

/-- The routes after an executed route change are words of lines, as those before it. -/
lemma routesWellFormed_of_executes (hc : c.RoutesWellFormed) (hctx : ReportsRoutes c context)
    (hv : validateStaticRoute step = []) (hr : renderStaticRoute step context = .ok rendered)
    (hexec : Executes naming c rendered.commands d) : d.RoutesWellFormed := by
  obtain ⟨hhop, -⟩ := staticRoute_of_validateStaticRoute hv
  obtain ⟨destination, mask, -, hdesired, hothers, hpart⟩ :=
    staticRoute_of_executes hc hctx hv hr hexec
  intro key options hkey
  by_cases hp : key.destination = destination ∧ key.mask = mask
  · obtain ⟨dest, m, nextHop⟩ := key
    obtain ⟨rfl, rfl⟩ := hp
    by_cases hhops : nextHop = strip step.desiredValue
    · subst hhops
      rw [hdesired, Option.some.injEq] at hkey
      subst hkey
      exact ⟨hhop, by simp⟩
    · rw [hothers nextHop hhops] at hkey
      split at hkey
      · cases hkey
      · exact hc _ _ hkey
  · rw [hpart key hp] at hkey
    exact hc _ _ hkey

/-- The check of an executed VLAN name passes. -/
lemma postCheck_vlanName (ht : step.changeType = .vlanName) (hv : validateVlanName step = [])
    (hr : renderVlanName step context = .ok rendered)
    (hexec : Executes naming c rendered.commands d) (hback : ReadsContext naming d up step back) :
    postCheckOk step back = .ok true := by
  obtain ⟨n, hn, hd⟩ := vlanName_of_executes hv hr hexec
  have hrow := (hback.vlans (by rw [ht]; rfl)).vlan n
  rw [hd] at hrow
  obtain ⟨row, hrow, hname⟩ := Option.map_eq_some_iff.mp hrow
  simp [postCheckOk, ht, hn, hrow, hname]

/-- The check of an executed trunk change passes: the list read back is the desired set. -/
lemma postCheck_trunkVlans (ht : step.changeType = .interfaceTrunkVlans)
    (hctx : ReportsSwitchports naming c context) (hv : validateTrunkVlans step context = [])
    (hr : renderTrunkVlans step context = .ok rendered)
    (hexec : Executes naming c rendered.commands d) (hback : ReadsContext naming d up step back) :
    postCheckOk step back = .ok true := by
  obtain ⟨p, ids, hp, hsame, hmode, hids, hallowed⟩ := trunkVlans_of_executes hctx hv hr hexec
  have hswitchports := hback.switchports (by rw [ht]; rfl)
  obtain ⟨row, hrow, hname⟩ := hback.switchports_listed (by rw [ht]; rfl) p hmode
  cases hfound : back.switchportOf step.target with
  | none =>
    have hno := List.find?_eq_none.mp hfound row hrow
    rw [hname] at hno
    exact absurd hsame hno
  | some found =>
    obtain ⟨q, hq, hmodeq, -, hreports⟩ := hswitchports.switchportOf hfound
    obtain rfl : q = p := Option.some.inj (hq.symm.trans hp)
    have hdesired : expandVlanList step.desiredValue = ids.image fun n : ℕ => (n : ℤ) := by
      rw [← expandVlanList_of_readVlanList hids, expandVlanList, expandVlanList, strip_strip]
    have htrunk : found.mode = "trunk" := by rw [hmodeq, hmode]; rfl
    simp [postCheckOk, ht, hfound, SwitchportFacts.isTrunk, htrunk,
      expandVlanList_of_reportsAllowed hreports, hallowed, hdesired]

/-- The check of an executed network passes. -/
lemma postCheck_routerNetwork (ht : step.changeType = .routerNetwork)
    (hv : validateRouterNetwork step context = [])
    (hexec : Executes naming c (renderRouterNetwork step context).commands d)
    (hback : ReadsContext naming d up step back) : postCheckOk step back = .ok true := by
  obtain ⟨facts, hfacts, hhas⟩ := (hasStatement_iff_of_reports
    (hback.processes (by rw [ht]; rfl)) _ _).mp (routerNetwork_of_executes hv hexec)
  simp [postCheckOk, ht, hfacts, hhas]

/-- The check of an executed removal of a network passes. -/
lemma postCheck_routerNetworkRemove (ht : step.changeType = .routerNetworkRemove)
    (hv : validateRouterNetworkRemove step context = [])
    (hexec : Executes naming c (renderRouterNetworkRemove step).commands d)
    (hback : ReadsContext naming d up step back) : postCheckOk step back = .ok true := by
  have hd := routerNetworkRemove_of_executes hv hexec
  rw [hasStatement_iff_of_reports (hback.processes (by rw [ht]; rfl))] at hd
  cases hfacts : back.routingProcess step.target with
  | none => simp [postCheckOk, ht, hfacts]
  | some facts =>
    have hhas : facts.hasStatement (networkStatement step.desiredValue) = false := by
      by_contra hhas
      exact hd ⟨facts, hfacts, by simpa using hhas⟩
    simp [postCheckOk, ht, hfacts, hhas]

/-- The check of an executed RIP version passes: no other version is left to be found first. -/
lemma postCheck_ripVersion (ht : step.changeType = .routerRipVersion)
    (hc : c.ProcessesWellFormed) (hv : validateRipVersion step context = [])
    (hexec : Executes naming c (renderRipVersion step context).commands d)
    (hback : ReadsContext naming d up step back) : postCheckOk step back = .ok true := by
  obtain ⟨statements, hstatements, ⟨s, hs, hversion⟩, honly⟩ := ripVersion_of_executes hc hv hexec
  have hprocesses := hback.processes (by rw [ht]; rfl)
  cases hfacts : back.routingProcess "rip" with
  | none =>
    rw [hprocesses.routingProcess_none hfacts] at hstatements
    cases hstatements
  | some facts =>
    obtain ⟨t, ht', hsame⟩ := hprocesses.routingProcess hfacts
    obtain rfl : t = statements := Option.some.inj (ht'.symm.trans hstatements)
    have hfind : facts.findStatement "version " = some ("version " ++ strip step.desiredValue) := by
      cases hf : facts.findStatement "version " with
      | none =>
        have hno := not_startswith_of_findStatement hsame hf s hs
        rw [normalizeStatement_version, hversion, show "version " = "version" ++ " " from rfl,
          String.append_assoc, startswith_append] at hno
        cases hno
      | some line =>
        obtain ⟨hstart, r, hr, hline⟩ := exists_of_findStatement hsame hf
        rw [normalizeStatement_version, ← hline] at hstart
        rw [← hline, honly r hr hstart]
    simp [postCheckOk, ht, hfacts, hfind]

/-- The check of an executed neighbour passes, in whatever case it was desired. -/
lemma postCheck_bgpNeighbor (ht : step.changeType = .bgpNeighbor)
    (hv : validateBgpNeighbor step context = [])
    (hexec : Executes naming c (renderBgpNeighbor step context).commands d)
    (hback : ReadsContext naming d up step back) : postCheckOk step back = .ok true := by
  obtain ⟨facts, hfacts, hhas⟩ := (hasStatement_iff_of_reports
    (hback.processes (by rw [ht]; rfl)) _ _).mp (bgpNeighbor_of_executes hv hexec)
  rw [← hasStatement_lower] at hhas
  simp [postCheckOk, ht, hfacts, hhas]

/-- The check of an executed description passes exactly when the description was trimmed. -/
lemma postCheck_description_iff (ht : step.changeType = .interfaceDescription)
    {current : InterfaceFacts} {p : Port} (htarget : step.target = naming.long p)
    (hv : validateDescription step = [])
    (hexec : Executes naming c (renderDescription step current).commands d)
    (hback : ReadsContext naming d up step back) :
    postCheckOk step back = .ok true ↔ PostCheckAccepts naming c up step context := by
  obtain ⟨q, hq, hd⟩ := description_of_executes hv hexec
  obtain rfl : p = q := Option.some.inj ((denotes_of_eq_long htarget).symm.trans hq)
  obtain ⟨facts, hfacts, hdescription, -⟩ := hback.interface_iff (by rw [ht]; rfl) htarget
  simp [postCheckOk, PostCheckAccepts, ht, hfacts, hdescription, hd]

/-- The check of an executed admin state passes exactly when the port is to be shut down or has a
link. -/
lemma postCheck_adminState_iff (ht : step.changeType = .interfaceAdminState)
    {current : InterfaceFacts} {p : Port} (htarget : step.target = naming.long p)
    (hexec : Executes naming c (renderAdminState step current).commands d)
    (hback : ReadsContext naming d up step back) :
    postCheckOk step back = .ok true ↔ PostCheckAccepts naming c up step context := by
  obtain ⟨q, hq, hd⟩ := adminState_of_executes hexec
  obtain rfl : p = q := Option.some.inj ((denotes_of_eq_long htarget).symm.trans hq)
  obtain ⟨facts, hfacts, -, hadmin⟩ := hback.interface_iff (by rw [ht]; rfl) htarget
  by_cases hup : step.desiredValue = "up"
  · simp [postCheckOk, PostCheckAccepts, ht, hfacts, hadmin, hd, hup, hq]
  · have hdown : (step.desiredValue == "up") = false := beq_eq_false_iff_ne.mpr hup
    simp [postCheckOk, PostCheckAccepts, ht, hfacts, hadmin, hd, hup, hdown]

omit [DecidableEq Port] in
/-- Where one read-back decides what every read-back says, all of them say it together. -/
lemma forall_reads_iff (hread : ∃ back, ReadsContext naming d up step back) {accepts : Prop}
    (h : ∀ back, ReadsContext naming d up step back →
      (postCheckOk step back = .ok true ↔ accepts)) :
    (∀ back, ReadsContext naming d up step back → postCheckOk step back = .ok true) ↔ accepts := by
  obtain ⟨back, hback⟩ := hread
  exact ⟨fun hall => (h back hback).mp (hall back hback), fun haccepts b hb => (h b hb).mpr haccepts⟩

/-- An executed change passes the check on every read-back exactly when the check accepts such
steps. -/
lemma postCheckOk_iff_accepts {up₀ : Port → Bool} (hc : c.WellFormed)
    (hctx : ReadsContext naming c up₀ step context) (hv : validateChange step context = [])
    (hr : renderChange step context = .ok rendered)
    (hexec : Executes naming c rendered.commands d)
    (hread : ∃ back, ReadsContext naming d up step back) :
    (∀ back, ReadsContext naming d up step back → postCheckOk step back = .ok true) ↔
      PostCheckAccepts naming c up step context := by
  unfold validateChange at hv
  unfold renderChange at hr
  -- the checks of most types always pass
  have hpasses : PostCheckAccepts naming c up step context →
      (∀ back, ReadsContext naming d up step back → postCheckOk step back = .ok true) →
      ((∀ back, ReadsContext naming d up step back → postCheckOk step back = .ok true) ↔
        PostCheckAccepts naming c up step context) := fun haccepts hall =>
    iff_of_true hall haccepts
  cases ht : step.changeType with
  | hostname =>
    simp only [ht] at hv hr
    have hd := hostname_of_executes hv hr hexec
    refine forall_reads_iff hread fun back hback => ?_
    simp [postCheckOk, PostCheckAccepts, ht, hback.hostname ht, hd]
  | domainLookup =>
    simp only [ht] at hv hr
    have hd := domainLookup_of_executes hr hexec
    refine forall_reads_iff hread fun back hback => ?_
    simp [postCheckOk, PostCheckAccepts, ht, hback.domainLookup ht, hd]
  | vlanName =>
    simp only [ht] at hv hr
    exact hpasses (by simp [PostCheckAccepts, ht]) fun back hback =>
      postCheck_vlanName ht hv hr hexec hback
  | interfaceAccessVlan =>
    simp only [ht] at hv hr
    exact forall_reads_iff hread fun back hback => postCheck_accessVlan_iff ht hv hr hexec hback
  | interfaceTrunkVlans =>
    simp only [ht] at hv hr
    exact hpasses (by simp [PostCheckAccepts, ht]) fun back hback =>
      postCheck_trunkVlans ht (hctx.switchports (by rw [ht]; rfl)) hv hr hexec hback
  | staticRoute =>
    simp only [ht] at hv hr
    have hroutes := hctx.routes (by rw [ht]; rfl)
    exact postCheck_staticRoute_iff ht hc.routes hroutes hv hr hexec
      (routesWellFormed_of_executes hc.routes hroutes hv hr hexec) hread
  | routerNetwork =>
    simp only [ht, Except.ok.injEq] at hv hr
    subst hr
    exact hpasses (by simp [PostCheckAccepts, ht]) fun back hback =>
      postCheck_routerNetwork ht hv hexec hback
  | routerNetworkRemove =>
    simp only [ht, Except.ok.injEq] at hv hr
    subst hr
    exact hpasses (by simp [PostCheckAccepts, ht]) fun back hback =>
      postCheck_routerNetworkRemove ht hv hexec hback
  | routerRipVersion =>
    simp only [ht, Except.ok.injEq] at hv hr
    subst hr
    exact hpasses (by simp [PostCheckAccepts, ht]) fun back hback =>
      postCheck_ripVersion ht hc.processes hv hexec hback
  | bgpNeighbor =>
    simp only [ht, Except.ok.injEq] at hv hr
    subst hr
    exact hpasses (by simp [PostCheckAccepts, ht]) fun back hback =>
      postCheck_bgpNeighbor ht hv hexec hback
  | interfaceDescription =>
    simp only [ht] at hv hr
    cases hcurrent : context.interface with
    | none => simp [hcurrent] at hr
    | some current =>
      simp only [hcurrent, Except.ok.injEq] at hr
      subst hr
      obtain ⟨p, htarget, -⟩ := hctx.interface current hcurrent
      exact forall_reads_iff hread fun back hback =>
        postCheck_description_iff ht htarget hv hexec hback
  | interfaceAdminState =>
    simp only [ht] at hv hr
    cases hcurrent : context.interface with
    | none => simp [hcurrent] at hr
    | some current =>
      simp only [hcurrent, Except.ok.injEq] at hr
      subst hr
      obtain ⟨p, htarget, -⟩ := hctx.interface current hcurrent
      exact forall_reads_iff hread fun back hback =>
        postCheck_adminState_iff ht htarget hexec hback

/-- The post-check passes an executed change on every read-back exactly when the step is of a
kind that the check accepts; and it means of a configuration that it is as asked exactly when the
port to be shut down is shut down there, or has a link, and the port of an access VLAN is not a
dynamic one that may be listed under it. -/
theorem postCheck_iff {e : Config Port} {up₀ up' : Port → Bool} (hc : c.WellFormed)
    (hctx : ReadsContext naming c up₀ step context) (hv : validateChange step context = [])
    (hr : renderChange step context = .ok rendered)
    (hexec : Executes naming c rendered.commands d)
    (hread : ∃ back, ReadsContext naming d up step back) (he : e.WellFormed)
    (hread' : ∃ back, ReadsContext naming e up' step back) :
    ((∀ back, ReadsContext naming d up step back → postCheckOk step back = .ok true) ↔
      PostCheckAccepts naming c up step context) ∧
    ((∀ back, ReadsContext naming e up' step back → postCheckOk step back = .ok true →
      Asked naming e step) ↔ PostCheckSound naming e up' step) :=
  ⟨postCheckOk_iff_accepts hc hctx hv hr hexec hread,
    postCheckSound_of_asked hread',
    fun hsound _ hback hok => asked_of_postCheckOk hback hok he hsound⟩

/-- The device executes the lines of a description. -/
lemma executes_description {target : String} (text : String) {p : Port}
    (hp : naming.denotes target = some p) (htext : strip text ≠ "") :
    Executes naming c ["interface " ++ target, "description " ++ text]
      (c.setPort p { c.ports p with description := some (strip text) }) := by
  have hline : executeLine naming ⟨c, .interface p⟩ ("description " ++ text) =
      some ⟨c.setPort p { c.ports p with description := some (strip text) }, .interface p⟩ := by
    rw [executeLine, readCommand_description htext]
    rfl
  refine ⟨⟨_, .interface p⟩, ?_, rfl⟩
  rw [foldlM_of_executeLine (t := ⟨c, .interface p⟩) (by rw [executeLine_interface, hp]; rfl),
    foldlM_of_executeLine hline, List.foldlM_nil]
  rfl

end

/-! ## A sample port -/

/-- What is read from the sample switch for a description. -/
@[reducible] def samplePort (description : Option String) : ChangeContext where
  interface := some { name := "GigabitEthernet1/0/1", description, adminUp := some true }

/-- The sample switch with a description on its port. -/
@[reducible] def describedSwitch (description : Option String) : Config Unit :=
  (sampleSwitch .staticAccess).setPort ()
    { (sampleSwitch .staticAccess).ports () with description }

/-- The described switch is well formed. -/
lemma describedSwitch_wellFormed :
    letI := asciiDatabase
    (describedSwitch none).WellFormed := by
  let _ := asciiDatabase
  have hself : describedSwitch none = sampleSwitch .staticAccess := Config.setPort_self _ _
  rw [hself]
  exact {
    layerTwo := sampleSwitch_wellFormed _
    routes := fun _ _ h => by cases h
    processes := fun _ _ h => by cases h
    hostname := by decide }

/-- The reads report the described switch. -/
lemma describedSwitch_reads (description : Option String) (desired : String) :
    letI := asciiDatabase
    ReadsContext sampleNaming (describedSwitch description) (fun _ => true)
      ⟨.interfaceDescription, "GigabitEthernet1/0/1", desired⟩ (samplePort description) := by
  let _ := asciiDatabase
  constructor
  · rintro facts hfacts
    cases hfacts
    exact ⟨(), rfl, by simp, by simp⟩
  all_goals first | (intro h; cases h; done) | simp

/-- Describing the sample port. -/
@[reducible] def describePort : @AcceptedChange asciiDatabase (samplePort none) :=
  letI := asciiDatabase
  ⟨⟨.interfaceDescription, "GigabitEthernet1/0/1", "uplink"⟩,
    ⟨["interface GigabitEthernet1/0/1", "description uplink"],
      ["interface GigabitEthernet1/0/1", "no description"]⟩,
    by decide +kernel, by decide +kernel⟩

/-- Describing the sample port with a blank at the end. -/
@[reducible] def describePortWithBlank : @AcceptedChange asciiDatabase (samplePort none) :=
  letI := asciiDatabase
  ⟨⟨.interfaceDescription, "GigabitEthernet1/0/1", "uplink "⟩,
    ⟨["interface GigabitEthernet1/0/1", "description uplink "],
      ["interface GigabitEthernet1/0/1", "no description"]⟩,
    by decide +kernel, by decide +kernel⟩

/-- A description without blanks around it is set, passes the check, and the check means that
the port has it. -/
theorem postCheck_plain_description :
    letI := asciiDatabase
    let step : ChangeStepIntent := ⟨.interfaceDescription, "GigabitEthernet1/0/1", "uplink"⟩
    (∀ back, ReadsContext sampleNaming (describedSwitch (some "uplink")) (fun _ => true) step back →
        postCheckOk step back = .ok true) ∧
      ∀ back, ReadsContext sampleNaming (describedSwitch none) (fun _ => true) step back →
        postCheckOk step back = .ok true → Asked sampleNaming (describedSwitch none) step := by
  let _ := asciiDatabase
  have hstrip : strip "uplink" = "uplink" := by decide
  have hexec := executes_description (c := describedSwitch none) "uplink"
    (sampleNaming.resolve_long ()) (by decide)
  rw [hstrip, Config.setPort_setPort, Config.setPort_ports] at hexec
  have h := postCheck_iff describedSwitch_wellFormed (describedSwitch_reads none "uplink")
    describePort.valid describePort.renders hexec
    ⟨_, describedSwitch_reads (some "uplink") "uplink"⟩ describedSwitch_wellFormed
    ⟨_, describedSwitch_reads none "uplink"⟩
  exact ⟨h.1.mpr hstrip, h.2.mpr trivial⟩

/-- A description with a blank at its end is accepted, and fails the check after the device has
executed it. -/
theorem postCheck_fails_trailing_blank :
    letI := asciiDatabase
    let step : ChangeStepIntent := ⟨.interfaceDescription, "GigabitEthernet1/0/1", "uplink "⟩
    (describedSwitch none).WellFormed ∧
      ReadsContext sampleNaming (describedSwitch none) (fun _ => true) step (samplePort none) ∧
      validateChange step (samplePort none) = [] ∧
      ∃ rendered, renderChange step (samplePort none) = .ok rendered ∧
        Executes sampleNaming (describedSwitch none) rendered.commands
          (describedSwitch (some "uplink")) ∧
        ∃ back, ReadsContext sampleNaming (describedSwitch (some "uplink")) (fun _ => true) step
          back ∧ postCheckOk step back = .ok false := by
  let _ := asciiDatabase
  refine ⟨describedSwitch_wellFormed, describedSwitch_reads none _, describePortWithBlank.valid, _,
    describePortWithBlank.renders, ?_,
    samplePort (some "uplink"), describedSwitch_reads (some "uplink") _, by decide +kernel⟩
  have hstrip : strip "uplink " = "uplink" := by decide
  have hexec := executes_description (c := describedSwitch none) "uplink "
    (sampleNaming.resolve_long ()) (by decide)
  rw [hstrip, Config.setPort_setPort, Config.setPort_ports] at hexec
  exact hexec

end Terraformer
