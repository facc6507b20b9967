import Terraformer.Changes.Outcomes
import Terraformer.Changes.Undoing

/-!
# Reads that the device rejects

Four of the driver's reads take a rejected command for an empty table.  A preview whose table was
rejected renders an inverse that removes what the step names (`keepsWhatIsThere_iff`): it puts the
device back where there was nothing of the kind (`Absent`), and takes away what there was
otherwise.
-/

namespace Terraformer.Changes

open Text Admission Device Compensation

variable {α β ω τ : Type}

/-! ## Rejected reads -/

/-- What comes of the one command of a session. -/
def reply (outcome : SessionOutcome α) : Except Fault α := do
  outcome.opened
  outcome.answer

/-- The device rejects the command of a session. -/
def rejects (outcome : SessionOutcome α) : Bool :=
  match reply outcome with
  | .error (.app error) => error.code == DriverCommandRejectedError.code
  | _ => false

/-- The table that a change type needs is rejected.  The other reads raise what the device says. -/
def tableRejected (outcomes : ReadOutcomes) : ChangeType → Bool
  | .vlanName | .interfaceAccessVlan => rejects outcomes.vlans
  | .interfaceTrunkVlans => rejects outcomes.switchports
  | .staticRoute => rejects outcomes.staticRoutes
  | .routerNetwork | .routerNetworkRemove | .routerRipVersion | .bgpNeighbor =>
    rejects outcomes.routingProcesses
  | .interfaceDescription | .interfaceAdminState | .hostname | .domainLookup => false

/-- A command ends as the session replies. -/
lemma result_sendCommand (outcome : SessionOutcome String) (line : String) :
    (sendCommand outcome line : DriverRun ω String).result = reply outcome := by
  rw [sendCommand, inSession, reply]
  cases outcome.opened <;> rfl

/-- A table is read from what the device answers, or is empty because the device rejects the
command. -/
lemma table_cases {outcome : SessionOutcome String} {line : String}
    {f : String → DriverRun ω (List τ)} {facts : List τ}
    (hf : ∀ output error, (f output).result ≠ .error (.app error))
    (h : (orRejected [] (do f (← sendCommand outcome line)) : DriverRun ω (List τ)).result =
      .ok facts) :
    (rejects outcome = false ∧
        ∃ output, reply outcome = .ok output ∧ (f output).result = .ok facts) ∨
      (rejects outcome = true ∧ facts = []) := by
  have hsent : (sendCommand outcome line : DriverRun ω String).result = reply outcome :=
    result_sendCommand outcome line
  unfold orRejected Run.orElse at h
  unfold rejects
  cases hreply : reply outcome with
  | ok output =>
    rw [hreply] at hsent
    rw [Run.result_bind_of_ok hsent] at h
    refine Or.inl ⟨rfl, output, rfl, ?_⟩
    cases hresult : (f output).result with
    | ok _ =>
      rw [hresult] at h
      rw [Run.result_bind_of_ok hsent, hresult] at h
      exact h
    | error fault =>
      rw [hresult] at h
      rcases fault with error | - | -
      · exact absurd hresult (hf output error)
      · cases h
      · cases h
  | error fault =>
    rw [hreply] at hsent
    rw [Run.result_bind_of_error hsent] at h
    rcases fault with error | - | -
    · by_cases hcode : error.code = DriverCommandRejectedError.code
      · simp only [hcode, if_true] at h
        exact Or.inr ⟨by simp [hcode], (Except.ok.inj h).symm⟩
      · simp only [hcode, if_false] at h
        cases h
    · cases h
    · cases h

/-- A read that is made where it is needed has read something there, and is empty elsewhere. -/
lemma whenNeeded_cases {needed : Bool} {otherwise facts : α} {run : DriverRun ω α}
    (h : (whenNeeded needed otherwise run).result = .ok facts) :
    (needed = true ∧ run.result = .ok facts) ∨ (needed = false ∧ facts = otherwise) := by
  cases needed with
  | true => exact Or.inl ⟨rfl, h⟩
  | false => exact Or.inr ⟨rfl, (Except.ok.inj h).symm⟩

/-! ## Truthful answers -/

section Reads

variable {Port : Type} [UnicodeDatabase] {isalnum : Char → Bool} {naming : Naming Port}
  {c : Config Port} {up : Port → Bool} {step : ChangeStepIntent} {outcomes : ReadOutcomes}
  {reads : DeviceReads}

variable (isalnum naming c up step outcomes) in
/-- What the device answers is true of its configuration; what it rejects it says nothing of. -/
structure AnswersTruthfully : Prop where
  interfaces : ∀ output records, reply outcomes.interfaces = .ok output →
    parseShowInterfaces isalnum output = some records →
      ∀ facts ∈ ({ interfaces := records } : DeviceReads).interface step.target,
        ∃ p, naming.denotes step.target = some p ∧
          facts.description = (c.ports p).description ∧
          facts.adminUp = some (!(c.ports p).shutdown && up p)
  version : ∀ output, reply outcomes.version = .ok output →
    ∀ name ∈ parseHostname output, name = c.hostname
  domainLookup : ∀ output, reply outcomes.domainLookup = .ok output →
    parseDomainLookup output = c.domainLookup
  vlans : ∀ output, reply outcomes.vlans = .ok output →
    ReportsVlans naming c { vlans := parseShowVlanBrief output }
  switchports : ∀ output facts, reply outcomes.switchports = .ok output →
    parseShowInterfacesSwitchport output = some facts →
      ReportsSwitchports naming c { switchports := facts }
  staticRoutes : ∀ output, reply outcomes.staticRoutes = .ok output →
    ReportsRoutes c { staticRoutes := parseStaticRoutes output }
  routingProcesses : ∀ output, reply outcomes.routingProcesses = .ok output →
    ReportsProcesses c { routingProcesses := parseRoutingProcesses output }

/-- What a step needs of the device, part for part. -/
lemma readDevice_cases
    (h : (readDevice isalnum outcomes step.changeType : DriverRun ω DeviceReads).result =
      .ok reads) :
    (whenNeeded step.changeType.targetsInterface [] (getInterfaces isalnum outcomes) :
        DriverRun ω _).result = .ok reads.interfaces ∧
      (whenNeeded (step.changeType == .hostname) none (getHostname outcomes) :
        DriverRun ω _).result = .ok reads.hostname ∧
      (whenNeeded (step.changeType == .domainLookup) none
        (do pure (some (← getDomainLookup outcomes))) : DriverRun ω _).result =
          .ok reads.domainLookup ∧
      (whenNeeded step.changeType.needsVlans [] (getVlans outcomes) :
        DriverRun ω _).result = .ok reads.vlans ∧
      (whenNeeded step.changeType.needsSwitchports [] (getSwitchports outcomes) :
        DriverRun ω _).result = .ok reads.switchports ∧
      (whenNeeded step.changeType.needsStaticRoutes [] (getStaticRoutes outcomes) :
        DriverRun ω _).result = .ok reads.staticRoutes ∧
      (whenNeeded step.changeType.needsRoutingProcesses [] (getRoutingProcesses outcomes) :
        DriverRun ω _).result = .ok reads.routingProcesses := by
  obtain ⟨interfaces, hinterfaces, h⟩ := Run.result_bind_eq_ok_iff.mp h
  obtain ⟨hostname, hhostname, h⟩ := Run.result_bind_eq_ok_iff.mp h
  obtain ⟨domainLookup, hdomainLookup, h⟩ := Run.result_bind_eq_ok_iff.mp h
  obtain ⟨vlans, hvlans, h⟩ := Run.result_bind_eq_ok_iff.mp h
  obtain ⟨switchports, hswitchports, h⟩ := Run.result_bind_eq_ok_iff.mp h
  obtain ⟨staticRoutes, hstaticRoutes, h⟩ := Run.result_bind_eq_ok_iff.mp h
  obtain ⟨routingProcesses, hroutingProcesses, h⟩ := Run.result_bind_eq_ok_iff.mp h
  obtain rfl := Except.ok.inj h
  exact ⟨hinterfaces, hhostname, hdomainLookup, hvlans, hswitchports, hstaticRoutes,
    hroutingProcesses⟩

omit [UnicodeDatabase] in
/-- A parser raises no error of the application. -/
lemma result_parsed_ne (facts : Option α) (error : AppError) :
    (parsed facts : DriverRun ω α).result ≠ .error (.app error) := by
  cases facts <;> simp [parsed]

omit [UnicodeDatabase] in
/-- What a parser makes of an output. -/
lemma result_parsed_eq_ok_iff {facts : Option α} {a : α} :
    (parsed facts : DriverRun ω α).result = .ok a ↔ facts = some a := by
  cases facts <;> simp [parsed]

/-- The VLANs are those of the device, or none were read. -/
lemma vlans_cases (h : (getVlans outcomes : DriverRun ω _).result = .ok reads.vlans) :
    (rejects outcomes.vlans = false ∧
        ∃ output, reply outcomes.vlans = .ok output ∧ parseShowVlanBrief output = reads.vlans) ∨
      (rejects outcomes.vlans = true ∧ reads.vlans = []) :=
  (table_cases (fun _ _ => by simp) h).imp_left fun ⟨hrejects, output, hreply, hfacts⟩ =>
    ⟨hrejects, output, hreply, Except.ok.inj hfacts⟩

/-- The switchports are those of the device, or none were read. -/
lemma switchports_cases
    (h : (getSwitchports outcomes : DriverRun ω _).result = .ok reads.switchports) :
    (rejects outcomes.switchports = false ∧ ∃ output, reply outcomes.switchports = .ok output ∧
        parseShowInterfacesSwitchport output = some reads.switchports) ∨
      (rejects outcomes.switchports = true ∧ reads.switchports = []) :=
  (table_cases (fun _ _ => result_parsed_ne _ _) h).imp_left
    fun ⟨hrejects, output, hreply, hfacts⟩ =>
      ⟨hrejects, output, hreply, result_parsed_eq_ok_iff.mp hfacts⟩

/-- The static routes are those of the device, or none were read. -/
lemma staticRoutes_cases
    (h : (getStaticRoutes outcomes : DriverRun ω _).result = .ok reads.staticRoutes) :
    (rejects outcomes.staticRoutes = false ∧ ∃ output,
        reply outcomes.staticRoutes = .ok output ∧ parseStaticRoutes output = reads.staticRoutes) ∨
      (rejects outcomes.staticRoutes = true ∧ reads.staticRoutes = []) :=
  (table_cases (fun _ _ => by simp) h).imp_left fun ⟨hrejects, output, hreply, hfacts⟩ =>
    ⟨hrejects, output, hreply, Except.ok.inj hfacts⟩

omit [UnicodeDatabase] in
/-- The routing processes are those of the device, or none were read. -/
lemma routingProcesses_cases
    (h : (getRoutingProcesses outcomes : DriverRun ω _).result = .ok reads.routingProcesses) :
    (rejects outcomes.routingProcesses = false ∧ ∃ output,
        reply outcomes.routingProcesses = .ok output ∧
          parseRoutingProcesses output = reads.routingProcesses) ∨
      (rejects outcomes.routingProcesses = true ∧ reads.routingProcesses = []) :=
  (table_cases (fun _ _ => by simp) h).imp_left fun ⟨hrejects, output, hreply, hfacts⟩ =>
    ⟨hrejects, output, hreply, Except.ok.inj hfacts⟩

/-- The interface of a change is one of the device. -/
lemma interface_of_reads (htruth : AnswersTruthfully isalnum naming c up step outcomes)
    (h : (whenNeeded step.changeType.targetsInterface [] (getInterfaces isalnum outcomes) :
      DriverRun ω _).result = .ok reads.interfaces) :
    ∀ facts ∈ reads.interface step.target, ∃ p, naming.denotes step.target = some p ∧
      facts.description = (c.ports p).description ∧
      facts.adminUp = some (!(c.ports p).shutdown && up p) := by
  rcases whenNeeded_cases h with ⟨-, h⟩ | ⟨-, hempty⟩
  · obtain ⟨output, hsent, hparsed⟩ := Run.result_bind_eq_ok_iff.mp h
    rw [result_sendCommand] at hsent
    exact htruth.interfaces output reads.interfaces hsent (result_parsed_eq_ok_iff.mp hparsed)
  · intro facts hfacts
    simp [DeviceReads.interface, hempty] at hfacts

/-- The host name is that of the device. -/
lemma hostname_of_reads (htruth : AnswersTruthfully isalnum naming c up step outcomes)
    (h : (whenNeeded (step.changeType == .hostname) none (getHostname outcomes) :
      DriverRun ω _).result = .ok reads.hostname) :
    ∀ name ∈ reads.hostname, name = c.hostname := by
  rcases whenNeeded_cases h with ⟨-, h⟩ | ⟨-, hempty⟩
  · obtain ⟨output, hsent, hparsed⟩ := Run.result_bind_eq_ok_iff.mp h
    rw [result_sendCommand] at hsent
    rw [← Except.ok.inj hparsed]
    exact htruth.version output hsent
  · simp [hempty]

/-- The lookup of names is that of the device. -/
lemma domainLookup_of_reads (htruth : AnswersTruthfully isalnum naming c up step outcomes)
    (h : (whenNeeded (step.changeType == .domainLookup) none
      (do pure (some (← getDomainLookup outcomes))) : DriverRun ω _).result =
        .ok reads.domainLookup) :
    ∀ enabled ∈ reads.domainLookup, enabled = c.domainLookup := by
  rcases whenNeeded_cases h with ⟨-, h⟩ | ⟨-, hempty⟩
  · obtain ⟨enabled, hread, hsome⟩ := Run.result_bind_eq_ok_iff.mp h
    obtain ⟨output, hsent, hparsed⟩ := Run.result_bind_eq_ok_iff.mp hread
    rw [result_sendCommand] at hsent
    rw [← Except.ok.inj hsome, ← Except.ok.inj hparsed]
    simp [htruth.domainLookup output hsent]
  · simp [hempty]

omit [UnicodeDatabase] in
/-- A change type needs but one table. -/
lemma tableRejected_eq (outcomes : ReadOutcomes) (changeType : ChangeType) :
    (changeType.needsVlans = true → tableRejected outcomes changeType = rejects outcomes.vlans) ∧
    (changeType.needsSwitchports = true →
      tableRejected outcomes changeType = rejects outcomes.switchports) ∧
    (changeType.needsStaticRoutes = true →
      tableRejected outcomes changeType = rejects outcomes.staticRoutes) ∧
    (changeType.needsRoutingProcesses = true →
      tableRejected outcomes changeType = rejects outcomes.routingProcesses) := by
  cases changeType <;> simp [tableRejected, ChangeType.needsVlans, ChangeType.needsSwitchports,
    ChangeType.needsStaticRoutes, ChangeType.needsRoutingProcesses]

/-- A table that is not rejected is read as the device has it. -/
lemma reportsStep_of_reads (htruth : AnswersTruthfully isalnum naming c up step outcomes)
    (h : (readDevice isalnum outcomes step.changeType : DriverRun ω DeviceReads).result =
      .ok reads) (hrejected : tableRejected outcomes step.changeType = false) :
    ReportsStep naming c up step (reads.context step.target) := by
  obtain ⟨hinterfaces, hhostname, hdomainLookup, hvlans, hswitchports, hroutes, hprocesses⟩ :=
    readDevice_cases h
  obtain ⟨ofVlans, ofSwitchports, ofRoutes, ofProcesses⟩ :=
    tableRejected_eq outcomes step.changeType
  refine ⟨⟨interface_of_reads htruth hinterfaces, fun hneeds => ?_, fun hneeds => ?_⟩,
    fun hneeds => ?_, fun hneeds => ?_, hostname_of_reads htruth hhostname,
    domainLookup_of_reads htruth hdomainLookup⟩
  · rw [hneeds] at hvlans
    rw [ofVlans hneeds] at hrejected
    obtain ⟨-, output, hreply, hfacts⟩ := (vlans_cases hvlans).resolve_right (by simp [hrejected])
    have hreports := htruth.vlans output hreply
    rw [hfacts] at hreports
    exact ⟨hreports.vlan_row, hreports.vlan_listed⟩
  · rw [hneeds] at hswitchports
    rw [ofSwitchports hneeds] at hrejected
    obtain ⟨-, output, hreply, hfacts⟩ :=
      (switchports_cases hswitchports).resolve_right (by simp [hrejected])
    exact htruth.switchports output _ hreply hfacts
  · rw [hneeds] at hroutes
    rw [ofRoutes hneeds] at hrejected
    obtain ⟨-, output, hreply, hfacts⟩ :=
      (staticRoutes_cases hroutes).resolve_right (by simp [hrejected])
    have hreports := htruth.staticRoutes output hreply
    rw [hfacts] at hreports
    exact hreports
  · rw [hneeds] at hprocesses
    rw [ofProcesses hneeds] at hrejected
    obtain ⟨-, output, hreply, hfacts⟩ :=
      (routingProcesses_cases hprocesses).resolve_right (by simp [hrejected])
    have hreports := htruth.routingProcesses output hreply
    rw [hfacts] at hreports
    exact ⟨hreports.listed, hreports.statements⟩

/-- A table that is rejected is read as empty. -/
lemma unread_of_reads
    (h : (readDevice isalnum outcomes step.changeType : DriverRun ω DeviceReads).result =
      .ok reads) (hrejected : tableRejected outcomes step.changeType = true) :
    Unread step (reads.context step.target) := by
  obtain ⟨-, -, -, hvlans, hswitchports, hroutes, hprocesses⟩ := readDevice_cases h
  unfold Unread
  unfold tableRejected at hrejected
  cases ht : step.changeType with
  | vlanName | interfaceAccessVlan =>
    simp only [ht] at hrejected hvlans ⊢
    exact ((vlans_cases hvlans).resolve_left (by simp [hrejected])).2
  | interfaceTrunkVlans =>
    simp only [ht] at hrejected hswitchports ⊢
    exact ((switchports_cases hswitchports).resolve_left (by simp [hrejected])).2
  | staticRoute =>
    simp only [ht] at hrejected hroutes ⊢
    exact ((staticRoutes_cases hroutes).resolve_left (by simp [hrejected])).2
  | routerNetwork | routerNetworkRemove | routerRipVersion | bgpNeighbor =>
    simp only [ht] at hrejected hprocesses ⊢
    exact ((routingProcesses_cases hprocesses).resolve_left (by simp [hrejected])).2
  | interfaceDescription | interfaceAdminState | hostname | domainLookup =>
    simp only [ht] at hrejected
    cases hrejected

end Reads

/-! ## Previews -/

section Previews

variable {Port : Type} [DecidableEq Port] [DecidableEq β] [UnicodeDatabase]
  {isalnum : Char → Bool} {naming : Naming Port} {c : Config Port} {up : Port → Bool}
  {step : ChangeStepIntent} {outcomes : PreviewOutcomes β} {plan : ChangePlan}

variable (isalnum step outcomes plan) in
/-- A preview that stores a plan: what it read of the device, and what it rendered. -/
structure Drafts (reads : DeviceReads) (rendered : RenderedChange) : Prop where
  result : (preview isalnum step outcomes).result = .ok plan
  read : (readDevice isalnum outcomes.reads step.changeType :
    DriverRun ChangeRow DeviceReads).result = .ok reads
  valid : validateChange step (reads.context step.target) = []
  renders : renderChange step (reads.context step.target) = .ok rendered
  stored : ∃ previous, plan.steps =
    [⟨step, previous, joinLines rendered.commands, joinLines rendered.inverseCommands⟩]

/-- A preview that ends has drafted its plan from what it read. -/
lemma exists_drafts (h : (preview isalnum step outcomes).result = .ok plan) :
    ∃ reads rendered, Drafts isalnum step outcomes plan reads rendered := by
  obtain ⟨device, reads, a, rendered, previous, -, hreads, hstep, hcontext, hrenders, -, -, -,
    hsteps, -⟩ := preview_stores isalnum h
  have hvalid := a.valid
  rw [hstep, hcontext] at hvalid
  rw [hcontext] at hrenders
  refine ⟨reads, rendered, h, ?_, hvalid, hrenders, previous, hsteps⟩
  rcases connected_cases outcomes.attempt device .structuredRead
      (readDevice isalnum outcomes.reads step.changeType) with ⟨-, hnone, -⟩ | ⟨-, hbody, -⟩
  · exact absurd hreads (hnone reads)
  · exact hbody reads hreads

variable (naming c up step) in
/-- What a step needs to be undone: where its table was rejected, that the device has nothing of
what it names, and else the condition of its type. -/
def PreviewReverts (outcomes : ReadOutcomes) (context : ChangeContext) : Prop :=
  if tableRejected outcomes step.changeType = true then Absent naming c step
  else StepReverts naming c up step context

/-- The inverse of a drafted change undoes it under the condition that is left by what was
rejected. -/
lemma Drafts.reverts_iff {reads : DeviceReads} {rendered : RenderedChange} (hc : c.WellFormed)
    (htruth : AnswersTruthfully isalnum naming c up step outcomes.reads)
    (h : Drafts isalnum step outcomes plan reads rendered) :
    Reverts naming c rendered ↔
      PreviewReverts naming c up step outcomes.reads (reads.context step.target) := by
  unfold PreviewReverts
  split_ifs with hrejected
  · exact reverts_unread_iff hc (unread_of_reads h.read hrejected) h.valid h.renders
  · rw [Bool.not_eq_true] at hrejected
    exact Terraformer.reverts_iff hc (reportsStep_of_reads htruth h.read hrejected) h.valid
      h.renders

omit [DecidableEq Port] in
/-- A preview reads and renders but once. -/
lemma Drafts.unique {plan' : ChangePlan} {reads reads' : DeviceReads}
    {rendered rendered' : RenderedChange} (h : Drafts isalnum step outcomes plan reads rendered)
    (h' : Drafts isalnum step outcomes plan' reads' rendered') :
    reads = reads' ∧ rendered = rendered' := by
  obtain rfl := Except.ok.inj (h.read.symm.trans h'.read)
  exact ⟨rfl, Except.ok.inj (h.renders.symm.trans h'.renders)⟩

end Previews

/-! ## A table that the device will not show -/

/-- What comes of a preview of a device that will not show its VLANs. -/
def deniedPreview : PreviewOutcomes Unit where
  device := .ok accessSwitch
  registered := .ok ()
  attempt := ⟨openService, ⟨fun _ => none, 0⟩⟩
  reads :=
    ⟨answered "", answered "", ⟨.ok (), .error (.app DriverCommandRejectedError)⟩, answered "",
      answered "", answered "", answered ""⟩
  capture := (answeredApply openService openService openService).capture

/-- The sample switch has a configuration that a device can hold. -/
lemma sampleSwitch_canBeHeld (mode : PortMode) :
    letI := asciiDatabase
    (sampleSwitch mode).WellFormed :=
  let _ := asciiDatabase
  have hname : IsWord "SW1" := by decide +kernel
  ⟨sampleSwitch_wellFormed mode, fun _ _ h => (by cases h), fun _ _ h => (by cases h), hname⟩

end Terraformer.Changes
