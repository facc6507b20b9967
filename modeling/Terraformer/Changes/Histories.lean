import Terraformer.Changes.Rejections
import Terraformer.Transitions

/-!
# Histories of plans

Previews and applies of plans on one device, one after another and in any order.  The inverse of a
plan is rendered when the plan is drafted, and is sent as it is stored: an apply that is rolled back
leaves the device as it found it when its plan is what would be rendered at that moment
(`along_restoresBefore`), as it is while the device has the configuration that the preview read
(`stillRendered_of_preview`).
-/

namespace Terraformer.Changes

open Text Admission Device Compensation

variable {α β : Type} [DecidableEq β]

/-! ## Reads -/

/-- An effect that sends the device no more than a command to read. -/
def IsRead (e : Effect DriverCall ChangeRow) : Prop :=
  ∀ call ∈ driverCall? e, ∃ line, call = .command line

omit [DecidableEq β] in
/-- What sends nothing to the device is a read. -/
lemma isRead_of_silent {e : Effect DriverCall ChangeRow} (h : driverCall? e = none) : IsRead e := by
  intro call hcall
  rw [h] at hcall
  cases hcall

/-- An effect of a connection's own is a read. -/
lemma isRead_of_isOwn {e : Effect DriverCall ChangeRow} (h : isOwn e = true) : IsRead e := by
  refine isRead_of_silent ?_
  cases e with
  | body => cases h
  | _ => rfl

/-- A command is a read. -/
lemma isRead_of_isCommand {e : BodyEffect DriverCall ChangeRow} (h : IsCommand e) :
    IsRead (.body e) := by
  obtain ⟨line, rfl⟩ := h
  exact fun call hcall => ⟨line, (Option.some.inj hcall).symm⟩

section

variable [UnicodeDatabase] (isalnum : Char → Bool)

/-- A preview reads the device. -/
lemma isRead_preview (step : ChangeStepIntent) (outcomes : PreviewOutcomes β) :
    (preview isalnum step outcomes).All IsRead := by
  refine (Run.all_ofExcept _).bind fun device => ?_
  split
  · exact Run.all_raise _
  refine (Run.all_ofExcept _).bind fun _ =>
    (all_connected (fun _ => isRead_of_isOwn) ((commands_readDevice isalnum _ _).mono
      fun _ => isRead_of_isCommand)).bind fun reads => ?_
  dsimp only
  split
  · exact Run.all_raise _
  split
  · exact Run.all_raise _
  have hcapture : (capture outcomes.capture).All IsRead :=
    all_capture _ (fun _ => isRead_of_isOwn) (fun _ => isRead_of_isCommand)
      (fun _ => isRead_of_silent rfl) fun _ => isRead_of_silent rfl
  exact (Run.all_ofExcept _).bind fun _ => hcapture.bind fun _ =>
    (Run.all_ofExcept _).bind fun _ => (Run.all_emit (isRead_of_silent rfl)).bind fun _ =>
    (Run.all_emit (isRead_of_silent rfl)).bind fun _ => Run.all_pure _

end

/-! ## The configuration after what is sent -/

section

variable {Port : Type} [DecidableEq Port] [UnicodeDatabase] (naming : Naming Port)

/-- What is sent in two pieces is sent one piece after the other. -/
lemma configAfter_append (c : Config Port) (front back : List DriverCall) :
    configAfter naming c (front ++ back) = configAfter naming (configAfter naming c front) back :=
  List.foldl_append

/-- Reads leave the configuration as it is. -/
lemma configAfter_of_isRead {effects : List (Effect DriverCall ChangeRow)}
    (h : ∀ e ∈ effects, IsRead e) (c : Config Port) :
    configAfter naming c (driverCalls effects) = c := by
  induction effects with
  | nil => rfl
  | cons e effects ih =>
    have hrest := ih fun e he => h e (List.mem_cons_of_mem _ he)
    cases hcall : driverCall? e with
    | none =>
      rw [driverCalls, List.filterMap_cons_none hcall]
      exact hrest
    | some call =>
      obtain ⟨line, rfl⟩ := h e List.mem_cons_self call hcall
      rw [driverCalls, List.filterMap_cons_some hcall]
      exact hrest

variable (isalnum : Char → Bool)

/-- Behind the guarded block of an apply some of the commands of its step are executed. -/
lemma configAfter_sendAndCheck (c : Config Port) (outcomes : ApplyOutcomes β)
    (device : DeviceRecord) (step : ChangeStep) :
    ∃ k, configAfter naming c (driverCalls (sendAndCheck isalnum outcomes device step).effects) =
      sendConfig naming c ((splitlines step.renderedCommands).take k) := by
  by_cases hreaches : Reaches outcomes device
  · obtain ⟨reading, hreading, hcalls⟩ := driverCalls_sendAndCheck isalnum hreaches step
    refine ⟨outcomes.configured.delivered, ?_⟩
    rw [hcalls]
    refine configAfter_of_isRead naming (fun e he => ?_) _
    obtain ⟨inner, hinner, rfl⟩ := List.mem_map.mp he
    exact isRead_of_isCommand (hreading inner hinner)
  · rw [(sendAndCheck_unreached isalnum hreaches step).1]
    exact ⟨0, rfl⟩

end

/-! ## A rollback -/

/-- A rollback that is answered hands the inverse commands of the step to the device. -/
lemma driverCalls_sendInverse {outcomes : ApplyOutcomes β} {device : DeviceRecord}
    {step : ChangeStep} (h : (sendInverse outcomes device step).result = .ok ()) :
    driverCalls (sendInverse outcomes device step).effects =
      [.rollback (splitlines step.inverseCommands) outcomes.undone.delivered] := by
  rw [sendInverse] at h ⊢
  rcases connected_cases outcomes.backward device .structuredWrite
      (rollback outcomes.undone (splitlines step.inverseCommands)) with
    ⟨-, hnone, -⟩ | ⟨hentered, hbody, -⟩
  · exact absurd h (hnone ())
  · have hrollback := hbody () h
    rw [driverCalls_connected hentered]
    cases hopened : outcomes.undone.opened with
    | error fault =>
      rw [rollback, inSession_of_error hopened] at hrollback
      cases hrollback
    | ok opened =>
      rw [rollback, inSession_of_opened hopened]
      rfl

/-- An effect that does not say that a plan was rolled back. -/
def NotRolledBack (e : Effect DriverCall ChangeRow) : Prop :=
  statusEntry e ≠ some (.write .rolledBack)

omit [DecidableEq β] in
/-- A silent effect does not say that a plan was rolled back. -/
lemma notRolledBack_of_isSilent {e : Effect DriverCall ChangeRow} (h : IsSilent e) :
    NotRolledBack e := by
  rcases h with h | h
  all_goals
    rw [NotRolledBack, h]
    simp

/-- An apply whose post-check passed does not say that its plan was rolled back. -/
lemma notRolledBack_settle (outcomes : ApplyOutcomes β) (step : ChangeStep) (reads : DeviceReads) :
    (settle outcomes step reads).All NotRolledBack := by
  have hemit {e : Effect DriverCall ChangeRow} (h : NotRolledBack e) :
      (Run.emit e : ServiceRun Unit).All NotRolledBack := Run.all_emit h
  refine ((silent_storeInterfaces outcomes step reads).mono fun _ =>
    notRolledBack_of_isSilent).bind fun _ =>
    ((silent_capture outcomes.capture).mono fun _ => notRolledBack_of_isSilent).bind fun _ =>
    (hemit ?_).bind fun _ => (hemit ?_).bind fun _ => (hemit ?_).bind fun _ =>
    (hemit ?_).bind fun _ => Run.all_pure _
  all_goals
    rintro h
    cases h

/-- A rollback that is not answered does not say that the plan was rolled back. -/
lemma notRolledBack_attemptRollback {outcomes : ApplyOutcomes β} {device : DeviceRecord}
    {step : ChangeStep} (h : (sendInverse outcomes device step).result ≠ .ok ())
    (failureCode : String) :
    (attemptRollback outcomes device step failureCode).All NotRolledBack := by
  intro e he
  rw [attemptRollback, Run.effects_attempt_bind] at he
  rcases List.mem_append.mp he with he | he
  · exact notRolledBack_of_isSilent (silent_sendInverse outcomes device step e he)
  · have hfailed : e ∈ [Effect.write (.status .rollbackFailed (some failureCode)), .commit] →
        NotRolledBack e := by
      intro he
      rcases List.mem_pair.mp he with rfl | rfl
      all_goals
        rintro h
        cases h
    rcases hresult : (sendInverse outcomes device step).result with (error | - | -) | done
    · rw [hresult] at he
      exact hfailed he
    · rw [hresult] at he
      exact hfailed he
    · rw [hresult] at he
      cases he
    · exact absurd hresult h

/-- A rollback sends the inverse commands and nothing else. -/
lemma driverCalls_attemptRollback (outcomes : ApplyOutcomes β) (device : DeviceRecord)
    (step : ChangeStep) (failureCode : String) :
    driverCalls (attemptRollback outcomes device step failureCode).effects =
      driverCalls (sendInverse outcomes device step).effects := by
  rw [attemptRollback, Run.effects_attempt_bind, driverCalls_append]
  rcases (sendInverse outcomes device step).result with (error | - | -) | done
  all_goals exact List.append_nil _

section

variable [UnicodeDatabase] (isalnum : Char → Bool)

/-- A step whose plan was rolled back sends its inverse commands behind what the guarded block
sends. -/
lemma driverCalls_of_rolledBack {outcomes : ApplyOutcomes β} {device : DeviceRecord}
    {step : ChangeStep} (h : ¬(applyStep isalnum outcomes device step).All NotRolledBack) :
    driverCalls (applyStep isalnum outcomes device step).effects =
      driverCalls (sendAndCheck isalnum outcomes device step).effects ++
        [.rollback (splitlines step.inverseCommands) outcomes.undone.delivered] := by
  have hsent : (sendAndCheck isalnum outcomes device step).All NotRolledBack :=
    (silent_sendAndCheck isalnum outcomes device step).mono fun _ => notRolledBack_of_isSilent
  have hbehind {run : ServiceRun ChangePlanStatus}
      (heffects : (applyStep isalnum outcomes device step).effects =
        (sendAndCheck isalnum outcomes device step).effects ++ run.effects) :
      ¬run.All NotRolledBack := by
    intro hrun
    refine h fun e he => ?_
    rw [heffects] at he
    exact (List.mem_append.mp he).elim (hsent e) (hrun e)
  have hrolled (failureCode : String)
      (heffects : (applyStep isalnum outcomes device step).effects =
        (sendAndCheck isalnum outcomes device step).effects ++
          (attemptRollback outcomes device step failureCode).effects) :
      driverCalls (applyStep isalnum outcomes device step).effects =
        driverCalls (sendAndCheck isalnum outcomes device step).effects ++
          [.rollback (splitlines step.inverseCommands) outcomes.undone.delivered] := by
    have hanswered : (sendInverse outcomes device step).result = .ok () := by
      by_contra hresult
      exact hbehind heffects (notRolledBack_attemptRollback hresult failureCode)
    rw [heffects, driverCalls_append, driverCalls_attemptRollback,
      driverCalls_sendInverse hanswered]
  rcases hresult : (sendAndCheck isalnum outcomes device step).result with
    (error | - | -) | reads
  · refine hrolled error.code ?_
    rw [applyStep, Run.effects_attempt_bind, hresult]
  · refine hrolled ChangeApplyFailedError.code ?_
    rw [applyStep, Run.effects_attempt_bind, hresult]
  · refine absurd (Run.all_raise .interrupt) (hbehind ?_)
    rw [applyStep, Run.effects_attempt_bind, hresult]
  · refine absurd (notRolledBack_settle outcomes step reads) (hbehind ?_)
    rw [applyStep, Run.effects_attempt_bind, hresult]

omit [DecidableEq β] [UnicodeDatabase] in
/-- A status that a plan has come to was written. -/
lemma write_mem_of_storedStatus {plan : ChangePlan} {status : ChangePlanStatus}
    {effects : List (Effect DriverCall ChangeRow)} (h : storedStatus plan effects = status)
    (hne : plan.status ≠ status) : .write status ∈ statusEntries effects := by
  have hkept : status ∈ keptStatuses effects := by
    have hlast : storedStatus plan effects ∈ plan.status :: keptStatuses effects :=
      List.getLastD_mem_cons
    rw [h] at hlast
    exact (List.mem_cons.mp hlast).resolve_left hne.symm
  rw [keptStatuses_eq] at hkept
  rcases Journal.mem_of_mem_durable_play hkept with hmem | hmem | hmem
  · cases hmem
  · cases hmem
  · exact (List.mem_append.mp hmem).resolve_right (by simp)

/-- A plan that was rolled back sends the commands of its step, as far as they go, and then its
inverse commands; one that is no draft any more sends nothing. -/
lemma configAfter_of_rolledBack {Port : Type} [DecidableEq Port] (naming : Naming Port)
    (c : Config Port) {plan : ChangePlan} {step : ChangeStep} {outcomes : ApplyOutcomes β}
    (hsteps : plan.steps = [step])
    (h : storedStatus plan (apply isalnum (.ok plan) outcomes).effects = .rolledBack) :
    driverCalls (apply isalnum (.ok plan) outcomes).effects = [] ∨
      ∃ front k, driverCalls (apply isalnum (.ok plan) outcomes).effects =
          front ++ [.rollback (splitlines step.inverseCommands) outcomes.undone.delivered] ∧
        configAfter naming c front =
          sendConfig naming c ((splitlines step.renderedCommands).take k) := by
  by_cases hdraft : plan.status = .draft
  · rcases apply_cases isalnum hdraft outcomes with
      ⟨-, heffects⟩ | ⟨device, -, -, ⟨step', hsteps', heffects⟩ | ⟨hmany, -⟩⟩
    · exact Or.inl (by rw [heffects]; rfl)
    · obtain rfl : step = step' := by simpa [hsteps] using hsteps'
      have hrolled : ¬(applyStep isalnum outcomes device step).All NotRolledBack := by
        intro hall
        have hmem := write_mem_of_storedStatus h (by rw [hdraft]; simp)
        have hentries : statusEntries (apply isalnum (.ok plan) outcomes).effects =
            .write .applying :: .commit ::
              statusEntries (applyStep isalnum outcomes device step).effects := by
          rw [heffects]
          rfl
        rw [hentries] at hmem
        obtain ⟨e, he, hwrite⟩ := List.mem_filterMap.mp
          (show .write .rolledBack ∈ statusEntries (applyStep isalnum outcomes device step).effects
            by simpa using hmem)
        exact hall e he hwrite
      have hcalls : driverCalls (apply isalnum (.ok plan) outcomes).effects =
          driverCalls (applyStep isalnum outcomes device step).effects := by
        rw [heffects]
        rfl
      obtain ⟨k, hk⟩ := configAfter_sendAndCheck naming isalnum c outcomes device step
      exact Or.inr ⟨_, k, hcalls.trans (driverCalls_of_rolledBack isalnum hrolled), hk⟩
    · exact absurd hsteps (hmany step)
  · exact Or.inl (by rw [apply_refused isalnum hdraft outcomes]; rfl)

end

/-! ## Histories -/

section Histories

variable [UnicodeDatabase]

variable (isalnum : Char → Bool) (β) in
/-- A stored plan, with the preview that drafted it. -/
structure StoredPlan where
  step : ChangeStepIntent
  outcomes : PreviewOutcomes β
  drafted : ChangePlan
  status : ChangePlanStatus
  drafts : (preview isalnum step outcomes).result = .ok drafted

variable {isalnum : Char → Bool}

/-- The plan as it is stored by now. -/
def StoredPlan.plan (p : StoredPlan β isalnum) : ChangePlan :=
  { p.drafted with status := p.status }

variable (isalnum) in
/-- The plan that a preview stores, if it stores one. -/
def draft (step : ChangeStepIntent) (outcomes : PreviewOutcomes β) :
    Option (StoredPlan β isalnum) :=
  match h : (preview isalnum step outcomes).result with
  | .ok drafted => some ⟨step, outcomes, drafted, drafted.status, h⟩
  | .error _ => none

variable (isalnum β) in
/-- A device, and the plans that are stored for it. -/
structure History (Port : Type) where
  config : Config Port
  plans : List (StoredPlan β isalnum)

variable (β) in
/-- What is done with a device: a step is previewed, or the plan at an index is applied. -/
inductive HistoryAction where
  | preview (step : ChangeStepIntent) (outcomes : PreviewOutcomes β)
  | apply (index : ℕ) (outcomes : ApplyOutcomes β)

variable {Port : Type} [DecidableEq Port] (naming : Naming Port)

/-- What an action does to the device and to the plans. -/
def History.step (s : History β isalnum Port) : HistoryAction β → Option (History β isalnum Port)
  | .preview step outcomes =>
    let effects := (preview isalnum step outcomes).effects
    some
      { config := configAfter naming s.config (driverCalls effects)
        plans := s.plans ++ (draft isalnum step outcomes).toList }
  | .apply index outcomes =>
    s.plans[index]?.map fun p =>
      let effects := (apply isalnum (.ok p.plan) outcomes).effects
      { config := configAfter naming s.config (driverCalls effects)
        plans := s.plans.set index { p with status := storedStatus p.plan effects } }

/-- The device takes the commands of a call: those that are delivered, and all of a rollback. -/
def Takes (c : Config Port) : DriverCall → Prop
  | .command _ => True
  | .applyConfiguration commands delivered =>
    ∃ d, Executes naming c (commands.take delivered) d
  | .rollback commands delivered =>
    commands.length ≤ delivered ∧ ∃ d, Executes naming c commands d

/-- The device takes all that is sent to it. -/
def Accepts : Config Port → List DriverCall → Prop
  | _, [] => True
  | c, call :: calls => Takes naming c call ∧ Accepts (configAfter naming c [call]) calls

/-- The device takes what is sent to it at last. -/
lemma Accepts.last {c : Config Port} {front : List DriverCall} {call : DriverCall}
    (h : Accepts naming c (front ++ [call])) : Takes naming (configAfter naming c front) call := by
  induction front generalizing c with
  | nil => exact h.1
  | cons first front ih => exact ih h.2

/-- A preview leaves the device as it is, and so does the apply of a plan of which the premise
holds, when it ends with the plan rolled back and the device has taken every command. -/
def RestoresBefore (premise : Config Port → StoredPlan β isalnum → Prop)
    (s : History β isalnum Port) (a : HistoryAction β) (t : History β isalnum Port) : Prop :=
  match a with
  | .preview _ _ => t.config = s.config
  | .apply index outcomes =>
    ∀ p, s.plans[index]? = some p →
      let effects := (apply isalnum (.ok p.plan) outcomes).effects
      storedStatus p.plan effects = .rolledBack → Accepts naming s.config (driverCalls effects) →
        premise s.config p → t.config = s.config

/-- On a configuration that a device can hold, a truthful context has the step rendered, to an
inverse that undoes it there. -/
structure RendersTo (c : Config Port) (step : ChangeStepIntent) (rendered : RenderedChange) :
    Prop where
  held : c.WellFormed
  renders : ∃ up context, ReportsStep naming c up step context ∧ validateChange step context = [] ∧
    renderChange step context = .ok rendered ∧ StepReverts naming c up step context

/-- The lines that are stored for a plan are those that its step is rendered to on the
configuration. -/
def StillRendered (c : Config Port) (p : StoredPlan β isalnum) : Prop :=
  ∃ rendered, RendersTo naming c p.step rendered ∧ ∀ stored ∈ p.drafted.steps,
    splitlines stored.renderedCommands = rendered.commands ∧
      splitlines stored.inverseCommands = rendered.inverseCommands

/-- A step is undone where it is rendered. -/
lemma RendersTo.reverts {c : Config Port} {step : ChangeStepIntent} {rendered : RenderedChange}
    (h : RendersTo naming c step rendered) : Reverts naming c rendered := by
  obtain ⟨up, context, hreports, hvalid, hrenders, hreverts⟩ := h.renders
  exact (Terraformer.reverts_iff h.held hreports hvalid hrenders).mpr hreverts

/-- A preview leaves the device as it is. -/
lemma config_of_preview {s t : History β isalnum Port} {step : ChangeStepIntent}
    {outcomes : PreviewOutcomes β} (h : s.step naming (.preview step outcomes) = some t) :
    t.config = s.config := by
  obtain rfl := Option.some.inj h
  exact configAfter_of_isRead naming (isRead_preview isalnum step outcomes) s.config

/-- An apply of a plan that is still what its step is rendered to, when it ends with the plan rolled
back, leaves the device as it found it. -/
lemma configAfter_of_stillRendered {c : Config Port} {p : StoredPlan β isalnum}
    {outcomes : ApplyOutcomes β} (h : StillRendered naming c p)
    (hrolled : storedStatus p.plan (apply isalnum (.ok p.plan) outcomes).effects = .rolledBack)
    (haccepted : Accepts naming c (driverCalls (apply isalnum (.ok p.plan) outcomes).effects)) :
    configAfter naming c (driverCalls (apply isalnum (.ok p.plan) outcomes).effects) = c := by
  obtain ⟨rendered, hrenders, hlines⟩ := h
  obtain ⟨reads, drafted, hdrafts⟩ := exists_drafts p.drafts
  obtain ⟨previous, hsteps⟩ := hdrafts.stored
  obtain ⟨hcommands, hinverse⟩ := hlines _ (hsteps ▸ List.mem_singleton_self _)
  have hplan : p.plan.steps = p.drafted.steps := rfl
  rcases configAfter_of_rolledBack isalnum naming c (hplan.trans hsteps) hrolled with
    hnone | ⟨front, k, hcalls, hfront⟩
  · rw [hnone]
    rfl
  · rw [hcalls] at haccepted ⊢
    obtain ⟨hall, -⟩ := haccepted.last
    rw [configAfter_append, hfront, hcommands]
    show sendConfig naming (sendConfig naming c (rendered.commands.take k)) _ = c
    rw [List.take_of_length_le hall, hinverse]
    exact hrenders.reverts naming k

/-- What an action does keeps to what a rollback owes to the device. -/
lemma restoresBefore_of_step {s t : History β isalnum Port} {a : HistoryAction β}
    (h : s.step naming a = some t) : RestoresBefore naming (StillRendered naming) s a t := by
  cases a with
  | preview step outcomes => exact config_of_preview naming h
  | apply index outcomes =>
    intro p hp effects hrolled haccepted hrendered
    have hnext : t.config = configAfter naming s.config (driverCalls effects) := by
      rw [History.step, hp] at h
      obtain rfl := Option.some.inj h
      rfl
    rw [hnext]
    exact configAfter_of_stillRendered naming hrendered hrolled haccepted

omit [DecidableEq Port] in
/-- A plan whose preview was answered truthfully, and whose step is undone on the configuration that
the preview found, is still what it is rendered to for as long as the device has that
configuration. -/
lemma stillRendered_of_preview {c : Config Port} {up : Port → Bool} {p : StoredPlan β isalnum}
    (hc : c.WellFormed)
    (htruth : AnswersTruthfully isalnum naming c up p.step p.outcomes.reads)
    (hread : tableRejected p.outcomes.reads p.step.changeType = false)
    (hsound : ∀ reads rendered, Drafts isalnum p.step p.outcomes p.drafted reads rendered →
      StepReverts naming c up p.step (reads.context p.step.target) ∧
        splitlines (joinLines rendered.commands) = rendered.commands ∧
        splitlines (joinLines rendered.inverseCommands) = rendered.inverseCommands) :
    StillRendered naming c p := by
  obtain ⟨reads, rendered, hdrafts⟩ := exists_drafts p.drafts
  obtain ⟨hreverts, hcommands, hinverse⟩ := hsound reads rendered hdrafts
  obtain ⟨previous, hsteps⟩ := hdrafts.stored
  refine ⟨rendered, ⟨hc, up, _, reportsStep_of_reads htruth hdrafts.read hread, hdrafts.valid,
    hdrafts.renders, hreverts⟩, fun stored hstored => ?_⟩
  rw [hsteps] at hstored
  obtain rfl := List.mem_singleton.mp hstored
  exact ⟨hcommands, hinverse⟩

/-- In every history of previews and applies, an apply that ends with its plan rolled back leaves
the device as it found it, when the lines of the plan are those that its step is rendered to on
the configuration that it finds. -/
theorem along_restoresBefore (s : History β isalnum Port) (actions : List (HistoryAction β)) :
    Along (History.step naming) (RestoresBefore naming (StillRendered naming)) s actions := by
  have hstep : ∀ (s : History β isalnum Port) a t, True → s.step naming a = some t → True →
      RestoresBefore naming (StillRendered naming) s a t ∧ True :=
    fun s a t _ hstep _ => ⟨restoresBefore_of_step naming hstep, trivial⟩
  exact along_of_inv hstep trivial (along_true s actions)

end Histories

/-! ## Two plans for one VLAN -/

/-- What the sample switch prints of its VLANs, with one VLAN more when it has a name. -/
def vlanTable (added : Option String) : String :=
  joinLines (["VLAN Name      Status    Ports", "---- --------- --------- ---------",
    "1    default   active    Gi1/0/1", "20   USERS     active    "] ++
      added.toList.map fun name => "30   " ++ name ++ "     active    ")

/-- A preview of a device with a table of its VLANs. -/
def previewOf (table : String) : PreviewOutcomes Unit :=
  { deniedPreview with reads := { deniedPreview.reads with vlans := answered table } }

/-- An apply whose sessions are all answered, with a table of the VLANs afterwards. -/
def applyOf (vlans : SessionOutcome String) : ApplyOutcomes Unit :=
  let outcomes := answeredApply openService openService openService
  { outcomes with
    configured := ⟨answered (), 2⟩
    reads := { outcomes.reads with vlans := vlans } }

/-- A name for the VLAN that the plans are about. -/
def name30 (name : String) : ChangeStepIntent where
  changeType := .vlanName
  target := "30"
  desiredValue := name

/-- The sample switch, for which no plan is stored. -/
@[reducible] def sampleHistory : @History Unit _ asciiDatabase Char.isAlphanum Unit :=
  letI := asciiDatabase
  ⟨sampleSwitch .staticAccess, []⟩

/-- Two plans are drafted while the VLAN does not exist, and the first is applied. -/
def twoPlans : List (HistoryAction Unit) :=
  [.preview (name30 "GUEST") (previewOf (vlanTable none)),
    .preview (name30 "STAFF") (previewOf (vlanTable none)),
    .apply 0 (applyOf (answered (vlanTable (some "GUEST"))))]

/-- The second plan is applied, and the connection lost behind its commands. -/
def secondApply : ApplyOutcomes Unit :=
  applyOf ⟨.error (.app { code := "device_connection_lost" }), .ok ""⟩

/-- What the second apply sends. -/
def secondCalls : List DriverCall :=
  [.applyConfiguration ["vlan 30", "name STAFF"] 2, .rollback ["no vlan 30"] 1]

/-- The device takes what the second apply sends, and does not have the VLAN afterwards. -/
lemma accepts_secondCalls (c : Config Unit) :
    letI := asciiDatabase
    Accepts sampleNaming c secondCalls ∧
      (configAfter sampleNaming c secondCalls).vlans 30 = none := by
  let _ := asciiDatabase
  have hvlan : "vlan 30" = "vlan " ++ str 30 := by decide +kernel
  have hno : "no vlan 30" = "no vlan " ++ str 30 := by decide +kernel
  have hname : executeLine sampleNaming ⟨createVlan c 30, .vlan 30⟩ "name STAFF" =
      some ⟨(createVlan c 30).setVlan 30 (some "STAFF"), .vlan 30⟩ :=
    executeLine_name sampleNaming _ 30 (show IsWord "STAFF" by decide)
  have hcreated : executeLine sampleNaming ⟨c, .global⟩ "vlan 30" =
      some ⟨createVlan c 30, .vlan 30⟩ := by
    rw [hvlan]
    exact executeLine_vlan sampleNaming _ (by decide) (by decide)
  have hremoved (d : Config Unit) : executeLine sampleNaming ⟨d, .global⟩ "no vlan 30" =
      some ⟨d.setVlan 30 none, .global⟩ := by
    rw [hno]
    exact executeLine_noVlan sampleNaming _ (by decide) (by decide)
  have htaken : Executes sampleNaming c ["vlan 30", "name STAFF"]
      ((createVlan c 30).setVlan 30 (some "STAFF")) :=
    ⟨⟨(createVlan c 30).setVlan 30 (some "STAFF"), .vlan 30⟩, by simp [hcreated, hname], rfl⟩
  have hundone (d : Config Unit) : Executes sampleNaming d ["no vlan 30"] (d.setVlan 30 none) :=
    ⟨⟨d.setVlan 30 none, .global⟩, by simp [hremoved], rfl⟩
  refine ⟨⟨⟨_, htaken⟩, ⟨le_refl _, _, hundone _⟩, trivial⟩, ?_⟩
  show (sendConfig sampleNaming _ ["no vlan 30"]).vlans 30 = none
  rw [sendConfig, send, execute_cons_of_some (hremoved _), execute_nil]
  simp

/-- A name for the VLAN, while the sample switch does not have it, is rendered to the lines that
create the VLAN and the one that removes it. -/
lemma rendersTo_name30 :
    letI := asciiDatabase
    RendersTo sampleNaming (sampleSwitch .staticAccess) (name30 "STAFF")
      ⟨["vlan 30", "name STAFF"], ["no vlan 30"]⟩ := by
  let _ := asciiDatabase
  have hvlans := (sampleSwitch_reports .staticAccess).vlans rfl
  refine ⟨sampleSwitch_canBeHeld .staticAccess, fun _ => true,
    { vlans := (sampleContext .staticAccess).vlans }, ?_, by decide +kernel, by decide +kernel,
    trivial⟩
  refine ⟨⟨fun _ h => (by cases h), fun _ => ⟨hvlans.vlan_row, hvlans.vlan_listed⟩,
    fun h => (by cases h)⟩, fun h => (by cases h), fun h => (by cases h), fun _ h => (by cases h),
    fun _ h => (by cases h)⟩

/-- The step of the second plan, as it is stored. -/
def staffStep : ChangeStep where
  toChangeStepIntent := name30 "STAFF"
  previousValue := none
  renderedCommands := "vlan 30\nname STAFF"
  inverseCommands := "no vlan 30"

/-- As long as the first plan is not applied the second is what its step is rendered to, and leaves
the switch as it was when it is rolled back. -/
theorem config_of_secondApply :
    letI := asciiDatabase
    (after (History.step sampleNaming) sampleHistory
      (twoPlans.take 2 ++ [.apply 1 secondApply])).map History.config =
        some (sampleSwitch .staticAccess) := by
  let _ := asciiDatabase
  have hreach : (after (History.step sampleNaming) sampleHistory
      (twoPlans.take 2 ++ [.apply 1 secondApply])).isSome = true := by decide +kernel
  obtain ⟨t, ht⟩ := Option.isSome_iff_exists.mp hreach
  rw [ht]
  refine congrArg some ?_
  obtain ⟨s₁, hfirst, ht⟩ := Option.bind_eq_some_iff.mp ht
  obtain ⟨s, hsecond, ht⟩ := Option.bind_eq_some_iff.mp ht
  obtain ⟨t', happly, ht⟩ := Option.bind_eq_some_iff.mp ht
  obtain rfl := Option.some.inj ht
  have hs : after (History.step sampleNaming) sampleHistory (twoPlans.take 2) = some s :=
    Option.bind_eq_some_iff.mpr ⟨s₁, hfirst, Option.bind_eq_some_iff.mpr ⟨s, hsecond, rfl⟩⟩
  have hconfig : s.config = sampleSwitch .staticAccess :=
    (config_of_preview sampleNaming hsecond).trans (config_of_preview sampleNaming hfirst)
  have hfacts : (after (History.step sampleNaming) sampleHistory (twoPlans.take 2)).map
        (fun s => s.plans[1]?.map fun p =>
          let effects := (apply Char.isAlphanum (.ok p.plan) secondApply).effects
          (p.drafted.steps, storedStatus p.plan effects, driverCalls effects)) =
      some (some ([staffStep], .rolledBack, secondCalls)) := by decide +kernel
  rw [hs] at hfacts
  obtain ⟨p, hp, hfacts⟩ := Option.map_eq_some_iff.mp (Option.some.inj hfacts)
  obtain ⟨hsteps, hfacts⟩ := Prod.mk.inj hfacts
  obtain ⟨hrolled, hcalls⟩ := Prod.mk.inj hfacts
  have hstep : p.step = name30 "STAFF" := by
    obtain ⟨reads, rendered, hdrafts⟩ := exists_drafts p.drafts
    obtain ⟨previous, hstored⟩ := hdrafts.stored
    rw [hsteps] at hstored
    exact (congrArg ChangeStep.toChangeStepIntent (List.singleton_inj.mp hstored)).symm
  have hstill : StillRendered sampleNaming s.config p := by
    refine ⟨_, by rw [hconfig, hstep]; exact rendersTo_name30, fun stored hstored => ?_⟩
    rw [hsteps] at hstored
    obtain rfl := List.mem_singleton.mp hstored
    exact ⟨by decide +kernel, by decide +kernel⟩
  have haccepted := (accepts_secondCalls s.config).1
  rw [← hcalls] at haccepted
  rw [← hconfig]
  have hrestores := along_restoresBefore sampleNaming sampleHistory
    (twoPlans.take 2 ++ [.apply 1 secondApply])
  exact hrestores.holds hs happly p hp hrolled haccepted hstill

/-- Both plans remove the VLAN to undo themselves: when the second is rolled back, what the first
did is gone. -/
theorem not_along_restoresBefore :
    letI := asciiDatabase
    ¬Along (History.step sampleNaming) (RestoresBefore sampleNaming fun _ _ => True)
      sampleHistory (twoPlans ++ [.apply 1 secondApply]) := by
  let _ := asciiDatabase
  intro h
  have hfacts : (after (History.step sampleNaming) sampleHistory twoPlans).map
        (fun s => (s.config.vlans 30, s.plans[1]?.map fun p =>
          let effects := (apply Char.isAlphanum (.ok p.plan) secondApply).effects
          (storedStatus p.plan effects, driverCalls effects))) =
      some (some "GUEST", some (.rolledBack, secondCalls)) := by decide +kernel
  obtain ⟨s, hs, hfacts⟩ := Option.map_eq_some_iff.mp hfacts
  obtain ⟨hvlan, hplan⟩ := Prod.mk.inj hfacts
  obtain ⟨p, hp, hfacts⟩ := Option.map_eq_some_iff.mp hplan
  obtain ⟨hrolled, hcalls⟩ := Prod.mk.inj hfacts
  have hlast : s.step sampleNaming (.apply 1 secondApply) = some
      { config := configAfter sampleNaming s.config secondCalls
        plans := s.plans.set 1 { p with status := .rolledBack } } := by
    rw [History.step, hp, Option.map_some]
    simp only [hcalls, hrolled]
  have hconfig := h.holds hs hlast p hp hrolled (hcalls ▸ (accepts_secondCalls s.config).1) trivial
  have hgone := (accepts_secondCalls s.config).2
  rw [show configAfter sampleNaming s.config secondCalls = s.config from hconfig, hvlan] at hgone
  cases hgone

end Terraformer.Changes
