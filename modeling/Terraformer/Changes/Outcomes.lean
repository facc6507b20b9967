import Terraformer.Admission.Endings
import Terraformer.Changes.Service

/-!
# How an apply ends

What an apply leaves stored as the status of its plan (`keptStatuses`), and which of its calls
reach the device (`driverCalls`).  `endsPlan_iff` says when the plan has ended, and
`noUnsentWrite_iff` when the commands that undo a change are sent only behind those of the change.

An apply stores no status but at the places where it says so: everything else in it is silent
(`Silent`), so its statuses are read off its own writes.
-/

namespace Terraformer.Changes

open Text Admission

/-! ## Statuses -/

/-- The status that a row stores. -/
def statusOf : Row ChangeRow → Option ChangePlanStatus
  | .write (.status status _) => some status
  | _ => none

/-- What an effect means to the stored status. -/
def statusEntry (e : Effect DriverCall ChangeRow) : Option (Entry ChangePlanStatus) :=
  e.entry.bind (Journal.part statusOf)

/-- The statuses that are written, and the commits and rollbacks among them. -/
def statusEntries (effects : List (Effect DriverCall ChangeRow)) : List (Entry ChangePlanStatus) :=
  effects.filterMap statusEntry

/-- The statuses that an apply has committed when it returns or raises. -/
def keptStatuses (effects : List (Effect DriverCall ChangeRow)) : List ChangePlanStatus :=
  (keptRows effects).filterMap statusOf

/-- The status of a plan after an apply. -/
def storedStatus (plan : ChangePlan) (effects : List (Effect DriverCall ChangeRow)) :
    ChangePlanStatus :=
  (keptStatuses effects).getLastD plan.status

/-- The statuses in which a plan is left for good. -/
def ChangePlanStatus.isTerminal : ChangePlanStatus → Bool
  | .applied | .failed | .rolledBack | .rollbackFailed => true
  | .draft | .applying => false

/-- The statuses kept over the commits are the last durable one of the journal. -/
lemma keptStatuses_eq (effects : List (Effect DriverCall ChangeRow)) :
    keptStatuses effects = (({} : Journal ChangePlanStatus).play
      (statusEntries effects ++ [.rollback])).durable := by
  have hpart := congrArg Journal.durable
    (Journal.ofPart_play statusOf ({} : Journal (Row ChangeRow)) (entries effects ++ [.rollback]))
  have hentries : (entries effects ++ [Entry.rollback]).filterMap (Journal.part statusOf) =
      statusEntries effects ++ [.rollback] := by
    rw [List.filterMap_append, entries, List.filterMap_filterMap]
    rfl
  rw [hentries] at hpart
  exact hpart

/-- The status entries of two pieces of a run follow each other. -/
lemma statusEntries_append (front back : List (Effect DriverCall ChangeRow)) :
    statusEntries (front ++ back) = statusEntries front ++ statusEntries back :=
  List.filterMap_append

/-- An effect that stores no status. -/
def IsSilent (e : Effect DriverCall ChangeRow) : Prop :=
  statusEntry e = none ∨ statusEntry e = some .commit

/-- A run that stores no status. -/
abbrev Silent {α : Type} (run : ServiceRun α) : Prop := run.All IsSilent

/-- A silent run writes no status. -/
lemma Silent.entries {α : Type} {run : ServiceRun α} (h : Silent run) :
    ∀ e ∈ statusEntries run.effects, e = .commit := by
  intro e he
  obtain ⟨effect, heffect, hentry⟩ := List.mem_filterMap.mp he
  rcases h effect heffect with hnone | hcommit
  · rw [hnone] at hentry
    cases hentry
  · rw [hcommit] at hentry
    exact (Option.some.inj hentry).symm

/-! ## Silent runs -/

/-- An effect of `admitted_connection` itself. -/
def isOwn : Effect DriverCall ChangeRow → Bool
  | .acquire _ | .release _ | .authenticationSucceeded _ | .authenticationFailed _ | .enter _
  | .audit _ | .commit => true
  | _ => false

variable {β α : Type} [DecidableEq β]

/-- A run that is no body of its own. -/
abbrev Own {α : Type} (run : ServiceRun α) : Prop := run.All fun e => isOwn e = true

/-- What a connection does itself writes no status. -/
lemma isSilent_of_isOwn {e : Effect DriverCall ChangeRow} (h : isOwn e = true) : IsSilent e := by
  cases e with
  | commit => exact Or.inr rfl
  | acquire | release | authenticationSucceeded | authenticationFailed | enter | audit =>
    exact Or.inl rfl
  | deleteCandidate | body | write | rollback => cases h

/-- An effect of the connection's own is its own. -/
lemma own_emit {e : Effect DriverCall ChangeRow} (h : isOwn e = true) :
    Own (.emit e : ServiceRun Unit) :=
  Run.all_emit h

/-- A commit is the connection's own. -/
lemma own_commitIf (commit : Bool) : Own (commitIf commit) := by
  rw [commitIf]
  split
  · exact own_emit rfl
  · exact Run.all_pure ()

/-- A call of the gate is the connection's own. -/
lemma own_gateCall {e : Effect DriverCall ChangeRow} (h : isOwn e = true)
    (outcome : Except AppError Unit) : Own (gateCall e outcome) := by
  intro e' he
  rw [List.mem_singleton.mp he]
  exact h

/-- A denial does nothing but what is the connection's own. -/
lemma own_deny (call : AdmissionCall) (veryOld : Bool) (error : AppError) :
    Own (deny call veryOld error : ServiceRun α) :=
  (own_emit (by rfl)).bind fun _ => (own_commitIf _).bind fun _ => Run.all_raise _

/-- The account of a connection does nothing but what is the connection's own. -/
lemma own_account (gate : Gate) (call : AdmissionCall) (result : Except Fault α) :
    Own (account gate call result : ServiceRun α) := by
  rcases result with (error | - | -) | a
  · have hreport : Own (reportFailure gate (targetOf call) error.phase) := by
      rw [reportFailure]
      split_ifs
      · exact own_gateCall rfl _
      · exact own_gateCall rfl _
      · exact Run.all_pure _
    exact hreport.bind fun _ => (own_emit (by rfl)).bind fun _ =>
      (own_commitIf _).bind fun _ => Run.all_raise _
  · exact (own_emit (by rfl)).bind fun _ => (own_commitIf _).bind fun _ => Run.all_raise _
  · exact Run.all_raise _
  · exact (own_gateCall rfl _).bind fun _ => (own_emit (by rfl)).bind fun _ => Run.all_pure _

/-! ## Connections -/

/-- The body of an attempt is entered. -/
def Entered (attempt : Attempt β) (device : DeviceRecord) (operation : ConnectionOperation) :
    Prop :=
  decision attempt.service attempt.moment (connectionCall device operation) = some .allowed ∧
    ∃ material, attempt.service.credentials device.credentialProfileId = .ok material

section Permitted

variable {service : DeviceService β} {moment : Moment β} {gate : Gate} {call : AdmissionCall}
  {knownHosts : String} {body : ConnectionParameters → DriverRun ChangeRow α}

/-- A connection with a permit has the value of what is done behind the gate. -/
lemma result_of_permit {permit : ConnectionPermit}
    (hpolicy : enforceCompatibilityPolicy call.sshCompatibility service.settings
      call.group1RiskAcknowledged call.veryOldRiskAcknowledged = true)
    (hgate : service.gate = some gate)
    (hpinned : pinnedKnownHosts service moment call = .ok knownHosts)
    (hacquire : gate.acquire call.operation (targetOf call) = .ok permit) {a : α}
    (h : (admittedConnection service moment call body).result = .ok a) :
    (connect service gate call knownHosts body : ServiceRun α).result = .ok a := by
  rw [admittedConnection, if_neg (by simp [hpolicy]), hgate] at h
  simp only [hpinned, Except.mapError, Run.ofExcept_ok_bind, hacquire, Run.andFinally] at h
  split at h
  · exact h
  · cases h

omit [DecidableEq β] in
/-- Without credentials nothing is entered. -/
lemma connect_of_error {fault : Fault}
    (h : service.credentials call.credentialProfileId = .error fault) :
    (connect service gate call knownHosts body : ServiceRun α) = .raise fault := by
  rw [connect, h]
  rfl

omit [DecidableEq β] in
/-- With credentials the body is entered, and then accounted for. -/
lemma connect_of_ok {material : CredentialMaterial}
    (h : service.credentials call.credentialProfileId = .ok material) :
    ∃ parameters, (connect service gate call knownHosts body : ServiceRun α) =
      (do
        .emit (.enter parameters)
        let outcome ← (liftBody (body parameters)).attempt
        account gate call outcome) := by
  rw [connect, h]
  exact ⟨_, rfl⟩

end Permitted

/-- A connection is not entered and has no value, or its effects are those of its body and its
own around them. -/
lemma connected_cases (attempt : Attempt β) (device : DeviceRecord)
    (operation : ConnectionOperation) (body : DriverRun ChangeRow α) :
    (¬ Entered attempt device operation ∧
        (∀ a, (connected attempt device operation body).result ≠ .ok a) ∧
        Own (connected attempt device operation body)) ∨
      (Entered attempt device operation ∧
        (∀ a, (connected attempt device operation body).result = .ok a → body.result = .ok a) ∧
        ∃ front back, (connected attempt device operation body).effects =
            front ++ (body.effects.map .body ++ back) ∧
          (∀ e ∈ front, isOwn e = true) ∧ ∀ e ∈ back, isOwn e = true) := by
  rw [connected]
  rcases admittedConnection_cases attempt.service attempt.moment (connectionCall device operation)
      fun _ => body with ⟨veryOld, error, hdecision, heq⟩ | ⟨fault, hdecision, heq⟩ |
        ⟨gate, permit, knownHosts, hdecision, hpolicy, hgate, hpinned, hacquire, heffects⟩
  · left
    rw [heq]
    refine ⟨fun h => ?_, fun a h => ?_, own_deny _ _ _⟩
    · exact absurd (hdecision.symm.trans h.1) (by simp)
    · rw [result_deny] at h
      cases h
  · left
    rw [heq]
    refine ⟨fun h => ?_, fun a h => (by cases h), Run.all_raise _⟩
    exact absurd (hdecision.symm.trans h.1) (by simp)
  rcases hcredentials : attempt.service.credentials device.credentialProfileId with
    fault | material
  · have hconnect : (connect attempt.service gate (connectionCall device operation) knownHosts
        fun _ => body : ServiceRun α) = .raise fault := connect_of_error hcredentials
    left
    refine ⟨fun h => ?_, fun a h => ?_, fun e he => ?_⟩
    · obtain ⟨material, hmaterial⟩ := h.2
      rw [hcredentials] at hmaterial
      cases hmaterial
    · have hvalue := result_of_permit hpolicy hgate hpinned hacquire h
      rw [hconnect] at hvalue
      cases hvalue
    · rw [heffects, hconnect] at he
      simp only [Run.effects_raise, List.cons_append, List.nil_append, List.mem_cons,
        List.not_mem_nil, or_false] at he
      rcases he with rfl | rfl
      · rfl
      · rfl
  · obtain ⟨parameters, hconnect⟩ : ∃ parameters, (connect attempt.service gate
        (connectionCall device operation) knownHosts fun _ => body : ServiceRun α) = _ :=
      connect_of_ok hcredentials
    right
    refine ⟨⟨hdecision, material, hcredentials⟩, fun a h => ?_, ?_⟩
    · have hvalue := result_of_permit hpolicy hgate hpinned hacquire h
      rw [hconnect] at hvalue
      exact (result_account_eq_ok_iff.mp hvalue).1
    · rw [heffects, hconnect]
      refine ⟨[.acquire permit, .enter parameters],
        (account gate (connectionCall device operation) body.result).effects ++
          [.release permit], by simp [liftBody], ?_, ?_⟩
      · intro e he
        simp only [List.mem_cons, List.not_mem_nil, or_false] at he
        rcases he with rfl | rfl
        · rfl
        · rfl
      · intro e he
        rcases List.mem_append.mp he with he | he
        · exact own_account gate (connectionCall device operation) body.result e he
        · rw [List.mem_singleton.mp he]
          rfl

/-- What holds of all that a connection does itself, and of what its body does, holds of the
connection. -/
lemma all_connected {P : Effect DriverCall ChangeRow → Prop} {attempt : Attempt β}
    {device : DeviceRecord} {operation : ConnectionOperation} {body : DriverRun ChangeRow α}
    (hown : ∀ e, isOwn e = true → P e) (hbody : body.All fun e => P (.body e)) :
    (connected attempt device operation body).All P := by
  rcases connected_cases attempt device operation body with
    ⟨-, -, hall⟩ | ⟨-, -, front, back, heffects, hfront, hback⟩
  · exact hall.mono hown
  · intro e he
    rw [heffects] at he
    rcases List.mem_append.mp he with he | he
    · exact hown e (hfront e he)
    · rcases List.mem_append.mp he with he | he
      · obtain ⟨inner, hinner, rfl⟩ := List.mem_map.mp he
        exact hbody inner hinner
      · exact hown e (hback e he)

section Driver

variable {P : BodyEffect DriverCall ChangeRow → Prop}

/-- A session does nothing but its call. -/
lemma all_inSession (outcome : SessionOutcome α) {call : DriverCall} (h : P (.driver call)) :
    (inSession outcome call : DriverRun ChangeRow α).All P :=
  (Run.all_ofExcept _).bind fun _ => (Run.all_emit h).bind fun _ => Run.all_ofExcept _

/-- A run whose rejections are taken does nothing more than the run. -/
lemma all_orRejected {run : DriverRun ChangeRow α} (rejected : α) (h : run.All P) :
    (orRejected rejected run).All P := by
  refine h.orElse fun fault => ?_
  cases fault with
  | app error =>
    dsimp only
    split
    · exact Run.all_pure _
    · exact Run.all_raise _
  | exception => exact Run.all_raise _
  | interrupt => exact Run.all_raise _

/-- A run that may be skipped does nothing more than the run. -/
lemma all_whenNeeded {run : DriverRun ChangeRow α} (needed : Bool) (otherwise : α)
    (h : run.All P) : (whenNeeded needed otherwise run).All P := by
  rw [whenNeeded]
  split
  · exact h
  · exact Run.all_pure _

end Driver

/-- A command by which the driver reads a device. -/
def IsCommand (e : BodyEffect DriverCall ChangeRow) : Prop :=
  ∃ line, e = .driver (.command line)

/-- Reading the running configuration is a command. -/
lemma commands_getRunningConfig (outcome : SessionOutcome String) :
    (getRunningConfig outcome).All IsCommand := by
  refine (all_inSession outcome ⟨_, rfl⟩).bind fun output => ?_
  split
  · exact Run.all_raise _
  · exact Run.all_pure _

/-- The reads of a change are commands. -/
lemma commands_readDevice [UnicodeDatabase] (isalnum : Char → Bool) (outcomes : ReadOutcomes)
    (changeType : ChangeType) :
    (readDevice isalnum outcomes changeType : DriverRun ChangeRow DeviceReads).All IsCommand := by
  have hcommand : ∀ outcome line,
      (sendCommand outcome line : DriverRun ChangeRow String).All IsCommand :=
    fun outcome line => all_inSession outcome ⟨line, rfl⟩
  rw [readDevice]
  refine (all_whenNeeded _ _ ((hcommand _ _).bind fun _ => Run.all_ofExcept _)).bind fun _ => ?_
  refine (all_whenNeeded _ _ ((hcommand _ _).bind fun _ => Run.all_pure _)).bind fun _ => ?_
  refine (all_whenNeeded _ _ (((hcommand _ _).bind fun _ => Run.all_pure _).bind
    fun _ => Run.all_pure _)).bind fun _ => ?_
  refine (all_whenNeeded _ _ (all_orRejected _ ((hcommand _ _).bind
    fun _ => Run.all_pure _))).bind fun _ => ?_
  refine (all_whenNeeded _ _ (all_orRejected _ ((hcommand _ _).bind
    fun _ => Run.all_ofExcept _))).bind fun _ => ?_
  refine (all_whenNeeded _ _ (all_orRejected _ ((hcommand _ _).bind
    fun _ => Run.all_pure _))).bind fun _ => ?_
  refine (all_whenNeeded _ _ (all_orRejected _ ((hcommand _ _).bind
    fun _ => Run.all_pure _))).bind fun _ => ?_
  exact Run.all_pure _

/-- A capture reads the device, and writes a snapshot and an event. -/
lemma all_capture {P : Effect DriverCall ChangeRow → Prop} (outcomes : CaptureOutcomes β)
    (hown : ∀ e, isOwn e = true → P e) (hcommand : ∀ e, IsCommand e → P (.body e))
    (hsnapshot : ∀ id, P (.write (.snapshot id))) (hevent : ∀ kind, P (.write (.event kind))) :
    (capture outcomes).All P := by
  refine (Run.all_ofExcept _).bind fun device => ?_
  refine (all_connected hown ?_).bind fun content => ?_
  · exact (Run.all_ofExcept _).bind fun _ => (commands_getRunningConfig _).mono hcommand
  · exact (Run.all_ofExcept _).bind fun _ => (Run.all_emit (hsnapshot _)).bind fun _ =>
      (Run.all_emit (hevent _)).bind fun _ => (Run.all_emit (hown _ rfl)).bind
        fun _ => Run.all_pure _

/-- A call of the driver stores no status. -/
lemma isSilent_driver (call : DriverCall) : IsSilent (.body (.driver call)) := Or.inl rfl

/-- A silent effect is a silent run. -/
lemma silent_emit {e : Effect DriverCall ChangeRow} (h : IsSilent e) :
    Silent (.emit e : ServiceRun Unit) :=
  Run.all_emit h

/-- The capture writes no status. -/
lemma silent_capture (outcomes : CaptureOutcomes β) : Silent (capture outcomes) :=
  all_capture outcomes (fun _ => isSilent_of_isOwn) (fun _ ⟨_, he⟩ => he ▸ isSilent_driver _)
    (fun _ => Or.inl rfl) fun _ => Or.inl rfl

omit [DecidableEq β] in
/-- Storing the interfaces writes no status. -/
lemma silent_storeInterfaces (outcomes : ApplyOutcomes β) (step : ChangeStep)
    (reads : DeviceReads) : Silent (storeInterfaces outcomes step reads) := by
  rw [storeInterfaces]
  split
  · exact (Run.all_ofExcept _).bind fun _ => silent_emit (Or.inl rfl)
  · exact Run.all_pure _

/-- Sending the inverse writes no status. -/
lemma silent_sendInverse (outcomes : ApplyOutcomes β) (device : DeviceRecord)
    (step : ChangeStep) : Silent (sendInverse outcomes device step) :=
  all_connected (fun _ => isSilent_of_isOwn) (all_inSession _ (isSilent_driver _))

/-! ## Endings -/

/-- Behind what is silent a run stores a status that ends the plan, or none, the former under a
condition. -/
def EndsWhen (condition : Prop) (effects : List (Effect DriverCall ChangeRow)) : Prop :=
  ∃ (ending : Option ChangePlanStatus) (front : List (Entry ChangePlanStatus)),
    (ending.isSome = true ↔ condition) ∧
    (∀ status ∈ ending, status.isTerminal = true ∧ status ≠ .failed) ∧
    (∀ e ∈ front, e = .commit) ∧
    statusEntries effects = front ++ ending.elim [] fun status => [.write status, .commit]

/-- A silent run in front does not matter to how the plan ends. -/
lemma EndsWhen.behind {condition : Prop} {run : ServiceRun α} (hrun : Silent run)
    {effects : List (Effect DriverCall ChangeRow)} (h : EndsWhen condition effects) :
    EndsWhen condition (run.effects ++ effects) := by
  obtain ⟨ending, front, hcondition, hterminal, hfront, hentries⟩ := h
  refine ⟨ending, statusEntries run.effects ++ front, hcondition, hterminal, fun e he => ?_, ?_⟩
  · rcases List.mem_append.mp he with he | he
    · exact hrun.entries e he
    · exact hfront e he
  · rw [statusEntries_append, hentries, List.append_assoc]

/-- What does nothing does not end the plan. -/
lemma endsWhen_nil {condition : Prop} (h : ¬ condition) : EndsWhen condition [] :=
  ⟨none, [], by simpa using h, fun _ hs => (by cases hs), fun _ he => (by cases he), rfl⟩

/-- What is written at last. -/
lemma endsWhen_write {condition : Prop} (h : condition) {status : ChangePlanStatus}
    (hterminal : status.isTerminal = true) (hfailed : status ≠ .failed)
    {effects : List (Effect DriverCall ChangeRow)}
    (heffects : statusEntries effects = [.write status, .commit]) :
    EndsWhen condition effects := by
  refine ⟨some status, [], iff_of_true rfl h, fun s hs => ?_, fun _ he => (by cases he), heffects⟩
  obtain rfl := Option.some.inj hs
  exact ⟨hterminal, hfailed⟩

/-- A rollback ends the plan unless it is interrupted. -/
lemma endsWhen_attemptRollback (outcomes : ApplyOutcomes β) (device : DeviceRecord)
    (step : ChangeStep) (failureCode : String) :
    EndsWhen ((sendInverse outcomes device step).result ≠ .error .interrupt)
      (attemptRollback outcomes device step failureCode).effects := by
  rw [attemptRollback, Run.effects_attempt_bind]
  refine EndsWhen.behind (silent_sendInverse outcomes device step) ?_
  rcases (sendInverse outcomes device step).result with (error | - | -) | -
  · exact endsWhen_write (by simp) rfl (by simp) rfl
  · exact endsWhen_write (by simp) rfl (by simp) rfl
  · exact endsWhen_nil (by simp)
  · exact endsWhen_write (by simp) rfl (by simp) rfl

/-- What a step was read back with is stored, and the device captured. -/
def Stored (outcomes : ApplyOutcomes β) (step : ChangeStep) (reads : DeviceReads) : Prop :=
  (storeInterfaces outcomes step reads).result = .ok () ∧
    ∃ id, (capture outcomes.capture).result = .ok id

/-- A step that passed its post-check ends the plan when what follows goes well. -/
lemma endsWhen_settle (outcomes : ApplyOutcomes β) (step : ChangeStep) (reads : DeviceReads) :
    EndsWhen (Stored outcomes step reads) (settle outcomes step reads).effects := by
  rw [settle, Run.effects_bind]
  refine EndsWhen.behind (silent_storeInterfaces outcomes step reads) ?_
  cases hstored : (storeInterfaces outcomes step reads).result with
  | error fault =>
    refine endsWhen_nil fun h => ?_
    rw [Stored, hstored] at h
    cases h.1
  | ok _ =>
    dsimp only
    rw [Run.effects_bind]
    refine EndsWhen.behind (silent_capture outcomes.capture) ?_
    cases hcapture : (capture outcomes.capture).result with
    | error fault =>
      refine endsWhen_nil fun h => ?_
      obtain ⟨id, hid⟩ := h.2
      rw [hcapture] at hid
      cases hid
    | ok id => exact endsWhen_write ⟨hstored, id, hcapture⟩ rfl (by simp) rfl

section

variable [UnicodeDatabase] (isalnum : Char → Bool)

/-- Sending the commands and reading the device writes no status. -/
lemma silent_sendAndRead (outcomes : ApplyOutcomes β) (device : DeviceRecord)
    (step : ChangeStep) : Silent (sendAndRead isalnum outcomes device step) :=
  all_connected (fun _ => isSilent_of_isOwn) ((all_inSession _ (isSilent_driver _)).bind
    fun _ => (commands_readDevice isalnum _ _).mono fun _ ⟨_, he⟩ => he ▸ isSilent_driver _)

/-- Sending the commands and checking the device writes no status. -/
lemma silent_sendAndCheck (outcomes : ApplyOutcomes β) (device : DeviceRecord)
    (step : ChangeStep) : Silent (sendAndCheck isalnum outcomes device step) :=
  (silent_sendAndRead isalnum outcomes device step).bind fun _ =>
    (Run.all_ofExcept _).bind fun _ => Run.all_pure _

omit isalnum in
/-- The post-check raises no interrupt. -/
lemma postCheck_ne_interrupt (step : ChangeStep) (reads : DeviceReads) :
    postCheck step reads ≠ .error .interrupt := by
  rw [postCheck]
  split
  · simp
  · simp
  · rename_i error _
    cases error with
    | unsupportedCapability => simp [renderFault]
    | valueError => simp [renderFault]

/-- A step comes to an end: once it passed its post-check, by what follows; otherwise by its
rollback, in whatever way that goes, unless the run is interrupted. -/
def StepConcludes (outcomes : ApplyOutcomes β) (device : DeviceRecord) (step : ChangeStep) : Prop :=
  match (sendAndRead isalnum outcomes device step).result with
  | .ok reads =>
    match postCheck step reads with
    | .ok () => Stored outcomes step reads
    | .error _ => (sendInverse outcomes device step).result ≠ .error .interrupt
  | .error .interrupt => False
  | .error _ => (sendInverse outcomes device step).result ≠ .error .interrupt

/-- An applied step ends its plan exactly when it concludes. -/
lemma endsWhen_applyStep (outcomes : ApplyOutcomes β) (device : DeviceRecord)
    (step : ChangeStep) :
    EndsWhen (StepConcludes isalnum outcomes device step)
      (applyStep isalnum outcomes device step).effects := by
  rw [applyStep, Run.effects_attempt_bind]
  refine EndsWhen.behind (silent_sendAndCheck isalnum outcomes device step) ?_
  rw [StepConcludes, sendAndCheck]
  rcases hread : (sendAndRead isalnum outcomes device step).result with (error | - | -) | reads
  · rw [Run.result_bind_of_error hread]
    exact endsWhen_attemptRollback outcomes device step _
  · rw [Run.result_bind_of_error hread]
    exact endsWhen_attemptRollback outcomes device step _
  · rw [Run.result_bind_of_error hread]
    exact endsWhen_nil id
  · rw [Run.result_bind_of_ok hread]
    dsimp only
    rcases hcheck : postCheck step reads with (error | - | -) | -
    · exact endsWhen_attemptRollback outcomes device step _
    · exact endsWhen_attemptRollback outcomes device step _
    · exact absurd hcheck (postCheck_ne_interrupt step reads)
    · exact endsWhen_settle outcomes step reads

/-! ## The end of a plan -/

/-- The plan is stored as being applied, before anything else. -/
def applying (effects : List (Effect DriverCall ChangeRow)) : List (Effect DriverCall ChangeRow) :=
  .write (.status .applying none) :: .commit :: effects

/-- An apply of a draft finds no device or no driver, or one step, or refuses the plan. -/
lemma apply_cases {plan : ChangePlan} (hdraft : plan.status = .draft)
    (outcomes : ApplyOutcomes β) :
    ((∀ device, outcomes.device = .ok device → outcomes.registered ≠ .ok ()) ∧
        (apply isalnum (.ok plan) outcomes).effects = applying []) ∨
      ∃ device, outcomes.device = .ok device ∧ outcomes.registered = .ok () ∧
        ((∃ step, plan.steps = [step] ∧ (apply isalnum (.ok plan) outcomes).effects =
            applying (applyStep isalnum outcomes device step).effects) ∨
          ((∀ step, plan.steps ≠ [step]) ∧ (apply isalnum (.ok plan) outcomes).effects =
            applying [.write (.status .failed (some ChangeApplyFailedError.code)), .commit])) := by
  rw [apply, Run.ofExcept_ok_bind, if_neg (not_not.mpr hdraft), Run.effects_emit_bind,
    Run.effects_emit_bind]
  rcases outcomes.device with fault | device
  · exact Or.inl ⟨fun _ h => (by cases h), rfl⟩
  rcases outcomes.registered with fault | -
  · exact Or.inl ⟨fun _ _ h => (by cases h), rfl⟩
  refine Or.inr ⟨device, rfl, rfl, ?_⟩
  rcases plan.steps with - | ⟨step, - | ⟨second, rest⟩⟩
  · exact Or.inr ⟨by simp, rfl⟩
  · exact Or.inl ⟨step, rfl, rfl⟩
  · exact Or.inr ⟨by simp, rfl⟩

omit [UnicodeDatabase] in
/-- What is kept of an apply is the status it begins with and the one it ends with. -/
lemma EndsWhen.kept {condition : Prop} {effects : List (Effect DriverCall ChangeRow)}
    (h : EndsWhen condition effects) :
    ∃ ending : Option ChangePlanStatus, (ending.isSome = true ↔ condition) ∧
      (∀ status ∈ ending, status.isTerminal = true ∧ status ≠ .failed) ∧
      keptStatuses (applying effects) = .applying :: ending.toList := by
  obtain ⟨ending, front, hcondition, hterminal, hfront, hentries⟩ := h
  refine ⟨ending, hcondition, hterminal, ?_⟩
  have happlying : statusEntries (applying effects) =
      .write .applying :: .commit :: statusEntries effects := rfl
  rw [keptStatuses_eq, happlying, hentries, List.cons_append, List.cons_append,
    Journal.play_cons, Journal.play_cons, List.append_assoc, Journal.play_append,
    Journal.play_commits hfront rfl]
  rcases ending with - | status
  · rfl
  · rfl

/-- The device and its driver are found, and the plan has not one step or a step that comes to
an end. -/
def CanConclude (plan : ChangePlan) (outcomes : ApplyOutcomes β) : Prop :=
  ∃ device, outcomes.device = .ok device ∧ outcomes.registered = .ok () ∧
    ∀ step, plan.steps = [step] → StepConcludes isalnum outcomes device step

/-- An apply of a draft keeps that it began, and how it ended if it came to an end. -/
lemma kept_apply {plan : ChangePlan} (hdraft : plan.status = .draft)
    (outcomes : ApplyOutcomes β) :
    ∃ ending : Option ChangePlanStatus,
      (ending.isSome = true ↔ CanConclude isalnum plan outcomes) ∧
      (∀ status ∈ ending, status.isTerminal = true ∧
        (status = .failed → ∀ step, plan.steps ≠ [step])) ∧
      keptStatuses (apply isalnum (.ok plan) outcomes).effects = .applying :: ending.toList := by
  rcases apply_cases isalnum hdraft outcomes with
    ⟨hmissing, heffects⟩ |
      ⟨device, hdevice, hregistered, ⟨step, hsteps, heffects⟩ | ⟨hsteps, heffects⟩⟩
  · refine ⟨none, ?_, fun _ hs => (by cases hs), ?_⟩
    · refine iff_of_false (by simp) ?_
      rintro ⟨device, hdevice, hregistered, -⟩
      exact hmissing device hdevice hregistered
    · rw [heffects]
      rfl
  · obtain ⟨ending, hcondition, hterminal, hkept⟩ :=
      (endsWhen_applyStep isalnum outcomes device step).kept
    refine ⟨ending, hcondition.trans ⟨fun h => ⟨device, hdevice, hregistered, ?_⟩, ?_⟩,
      fun status hs => ?_, ?_⟩
    · intro step' hstep'
      obtain rfl : step = step' := by simpa [hsteps] using hstep'
      exact h
    · rintro ⟨device', hdevice', -, h⟩
      obtain rfl : device = device' := by simpa [hdevice] using hdevice'
      exact h step hsteps
    · exact ⟨(hterminal status hs).1, fun h => absurd h (hterminal status hs).2⟩
    · rw [heffects, hkept]
  · refine ⟨some .failed, ?_, fun status hs => ?_, ?_⟩
    · exact iff_of_true rfl ⟨device, hdevice, hregistered, fun step h => absurd h (hsteps step)⟩
    · obtain rfl := Option.some.inj hs
      exact ⟨rfl, fun _ => hsteps⟩
    · rw [heffects]
      rfl

/-- An apply ends its plan. -/
structure EndsPlan (plan : ChangePlan) (outcomes : ApplyOutcomes β) : Prop where
  /-- The status that stays stored is one that ends the plan. -/
  ended : (storedStatus plan (apply isalnum (.ok plan) outcomes).effects).isTerminal = true
  /-- It is reached from a draft over the status of an apply that is going on. -/
  moved : ∃ status, status.isTerminal = true ∧
    keptStatuses (apply isalnum (.ok plan) outcomes).effects = [.applying, status]
  /-- A later apply does nothing but refuse. -/
  refused : ∀ later : ApplyOutcomes β,
    let stored := { plan with
      status := storedStatus plan (apply isalnum (.ok plan) outcomes).effects }
    (apply isalnum (.ok stored) later).effects = [] ∧
      (apply isalnum (.ok stored) later).result = .error (.app ChangePlanNotDraftError)

/-- A plan that is no draft is refused. -/
lemma apply_refused {plan : ChangePlan} (h : plan.status ≠ .draft) (outcomes : ApplyOutcomes β) :
    apply isalnum (.ok plan) outcomes = .raise (.app ChangePlanNotDraftError) := by
  rw [apply, Run.ofExcept_ok_bind, if_pos h]

/-- An apply ends its plan exactly when it finds the device and its driver, and neither what
follows a passed post-check raises nor the run is interrupted. -/
theorem endsPlan_iff {plan : ChangePlan} (hdraft : plan.status = .draft)
    (outcomes : ApplyOutcomes β) :
    EndsPlan isalnum plan outcomes ↔ CanConclude isalnum plan outcomes := by
  obtain ⟨ending, hcondition, hterminal, hkept⟩ := kept_apply isalnum hdraft outcomes
  rw [← hcondition]
  constructor
  · intro h
    have hended := h.ended
    rw [storedStatus, hkept] at hended
    rcases ending with - | status
    · cases hended
    · rfl
  · intro h
    obtain ⟨status, rfl⟩ := Option.isSome_iff_exists.mp h
    have hstatus : status.isTerminal = true := (hterminal status rfl).1
    have hstored : storedStatus plan (apply isalnum (.ok plan) outcomes).effects = status := by
      rw [storedStatus, hkept]
      rfl
    refine ⟨by rw [hstored]; exact hstatus, ⟨status, hstatus, hkept⟩, fun later => ?_⟩
    have hrefused : apply isalnum (.ok { plan with status }) later =
        .raise (.app ChangePlanNotDraftError) := by
      refine apply_refused isalnum (fun (h : status = .draft) => ?_) later
      rw [h] at hstatus
      cases hstatus
    rw [hstored]
    dsimp only
    rw [hrefused]
    exact ⟨rfl, rfl⟩

end

/-! ## A run that is left behind -/

/-- The device of the runs below. -/
def accessSwitch : DeviceRecord where
  id := 3
  vendor := .ciscoIosxe
  managementAddress := ⟨"access-2", by decide +kernel⟩
  port := ⟨2022, by decide⟩
  credentialProfileId := 7
  sshCompatibility := .modern

/-- A service whose gate has reached the limit of its connections. -/
def busyService : DeviceService Unit where
  settings := ⟨false, false, false⟩
  gate := some
    { acquire := fun _ _ => .error ⟨"device_connection_limit_reached", none⟩
      authenticationSucceeded := fun _ => .ok ()
      authenticationFailed := fun _ => .ok ()
      release := fun _ => .ok () }
  candidateDigest := fun _ => ()
  hostKeys := fun _ => some ⟨"ssh-ed25519", "ssh-ed25519 AAAA", "SHA256:AAAA"⟩
  credentials := fun _ => .ok ⟨"admin", "secret", none⟩

/-- A session that answers. -/
def answered {α : Type} (answer : α) : SessionOutcome α := ⟨.ok (), .ok answer⟩

/-- An apply at which every session answers, over the services at its three connections. -/
def answeredApply (forward backward captured : DeviceService Unit) : ApplyOutcomes Unit where
  device := .ok accessSwitch
  registered := .ok ()
  forward := ⟨forward, ⟨fun _ => none, 0⟩⟩
  configured := ⟨answered (), 1⟩
  reads := ⟨answered "", answered "", answered "", answered "", answered "", answered "",
    answered ""⟩
  backward := ⟨backward, ⟨fun _ => none, 0⟩⟩
  undone := ⟨answered (), 1⟩
  replaced := .ok ()
  capture :=
    { device := .ok accessSwitch
      attempt := ⟨captured, ⟨fun _ => none, 0⟩⟩
      registered := .ok ()
      runningConfig := answered "hostname access-2"
      stored := fun _ => .ok ()
      snapshotId := 9 }

/-- A plan that turns the lookup of names on. -/
def lookupPlan : ChangePlan where
  deviceId := 3
  risk := .low
  preChangeSnapshotId := 8
  steps :=
    [{ changeType := .domainLookup
       target := "domain-lookup"
       desiredValue := "on"
       previousValue := some "off"
       renderedCommands := "ip domain lookup"
       inverseCommands := "no ip domain lookup" }]

/-- An apply whose connections are all admitted ends its plan. -/
theorem endsPlan_lookupPlan :
    letI := asciiDatabase
    EndsPlan Char.isAlphanum lookupPlan (answeredApply openService openService openService) := by
  let _ := asciiDatabase
  refine (endsPlan_iff Char.isAlphanum rfl _).mpr ⟨accessSwitch, rfl, rfl, fun step hstep => ?_⟩
  obtain rfl := (List.cons.inj hstep).1
  exact ⟨rfl, 9, rfl⟩

/-- The change is on the device and the post-check passed, but the gate lets no connection through
for the snapshot behind it: the plan stays in the status of an apply that is going on. -/
theorem not_endsPlan_busy_capture :
    letI := asciiDatabase
    ¬EndsPlan Char.isAlphanum lookupPlan (answeredApply openService openService busyService) := by
  let _ := asciiDatabase
  intro h
  have hstored : storedStatus lookupPlan (apply Char.isAlphanum (.ok lookupPlan)
      (answeredApply openService openService busyService)).effects = .applying := by
    decide +kernel
  have hended := h.ended
  rw [hstored] at hended
  cases hended

/-! ## What reaches the device -/

/-- What an effect sends to the device. -/
def driverCall? : Effect DriverCall ChangeRow → Option DriverCall
  | .body (.driver call) => some call
  | _ => none

/-- What is sent to the device, in order. -/
def driverCalls (effects : List (Effect DriverCall ChangeRow)) : List DriverCall :=
  effects.filterMap driverCall?

/-- No command of the change is sent. -/
def Unsent (effects : List (Effect DriverCall ChangeRow)) : Prop :=
  ∀ commands delivered, .applyConfiguration commands delivered ∉ driverCalls effects

/-- The driver calls of two pieces of a run follow each other. -/
lemma driverCalls_append (front back : List (Effect DriverCall ChangeRow)) :
    driverCalls (front ++ back) = driverCalls front ++ driverCalls back :=
  List.filterMap_append

/-- What a connection does itself is no driver call. -/
lemma driverCalls_of_own {effects : List (Effect DriverCall ChangeRow)}
    (h : ∀ e ∈ effects, isOwn e = true) : driverCalls effects = [] := by
  refine List.filterMap_eq_nil_iff.mpr fun e he => ?_
  have hown := h e he
  cases e with
  | body => cases hown
  | _ => rfl

/-- An open session makes its one call. -/
lemma inSession_of_opened {outcome : SessionOutcome α} (h : outcome.opened = .ok ())
    (call : DriverCall) : (inSession outcome call : DriverRun ChangeRow α) =
      (do .emit (.driver call); .ofExcept outcome.answer) := by
  rw [inSession, h]
  rfl

/-- A session that cannot be opened makes no call. -/
lemma inSession_of_error {outcome : SessionOutcome α} {fault : Fault}
    (h : outcome.opened = .error fault) (call : DriverCall) :
    (inSession outcome call : DriverRun ChangeRow α) = .raise fault := by
  rw [inSession, h]
  rfl

/-- An entered connection sends what its body sends. -/
lemma driverCalls_connected {attempt : Attempt β} {device : DeviceRecord}
    {operation : ConnectionOperation} (h : Entered attempt device operation)
    (body : DriverRun ChangeRow α) :
    driverCalls (connected attempt device operation body).effects =
      driverCalls (body.effects.map .body) := by
  rcases connected_cases attempt device operation body with
    ⟨hnot, -, -⟩ | ⟨-, -, front, back, heffects, hfront, hback⟩
  · exact absurd h hnot
  · rw [heffects, driverCalls_append, driverCalls_append, driverCalls_of_own hfront,
      driverCalls_of_own hback, List.nil_append, List.append_nil]

/-- A connection that is not entered sends nothing. -/
lemma driverCalls_of_not_entered {attempt : Attempt β} {device : DeviceRecord}
    {operation : ConnectionOperation} (h : ¬ Entered attempt device operation)
    (body : DriverRun ChangeRow α) :
    driverCalls (connected attempt device operation body).effects = [] ∧
      ∀ a, (connected attempt device operation body).result ≠ .ok a := by
  rcases connected_cases attempt device operation body with
    ⟨-, hresult, hown⟩ | ⟨hentered, -⟩
  · exact ⟨driverCalls_of_own hown, hresult⟩
  · exact absurd hentered h

/-- A rollback sends no command of the change. -/
lemma unsent_sendInverse (outcomes : ApplyOutcomes β) (device : DeviceRecord)
    (step : ChangeStep) : Unsent (sendInverse outcomes device step).effects := by
  intro commands delivered hmem
  rw [sendInverse] at hmem
  by_cases hentered : Entered outcomes.backward device .structuredWrite
  · rw [driverCalls_connected hentered, rollback] at hmem
    rcases hopened : outcomes.undone.opened with fault | opened
    · rw [inSession_of_error hopened] at hmem
      cases hmem
    · rw [inSession_of_opened hopened] at hmem
      cases List.mem_singleton.mp hmem
  · rw [(driverCalls_of_not_entered hentered _).1] at hmem
    cases hmem

/-- An attempted rollback sends no command of the change. -/
lemma unsent_attemptRollback (outcomes : ApplyOutcomes β) (device : DeviceRecord)
    (step : ChangeStep) (failureCode : String) :
    Unsent (attemptRollback outcomes device step failureCode).effects := by
  intro commands delivered hmem
  rw [attemptRollback, Run.effects_attempt_bind, driverCalls_append] at hmem
  rcases List.mem_append.mp hmem with hmem | hmem
  · exact unsent_sendInverse outcomes device step commands delivered hmem
  · rcases hundone : (sendInverse outcomes device step).result with (error | - | -) | done
    all_goals
      rw [hundone] at hmem
      exact absurd hmem List.not_mem_nil

/-- The commands of a change are handed to a connected session. -/
def Reaches (outcomes : ApplyOutcomes β) (device : DeviceRecord) : Prop :=
  Entered outcomes.forward device .structuredWrite ∧ outcomes.configured.opened = .ok ()

section

variable [UnicodeDatabase] (isalnum : Char → Bool)

/-- The guarded block sends the commands of a change first, and then reads the device. -/
lemma driverCalls_sendAndCheck {outcomes : ApplyOutcomes β} {device : DeviceRecord}
    (h : Reaches outcomes device) (step : ChangeStep) :
    ∃ reading : DriverRun ChangeRow DeviceReads, reading.All IsCommand ∧
      driverCalls (sendAndCheck isalnum outcomes device step).effects =
        .applyConfiguration (splitlines step.renderedCommands) outcomes.configured.delivered ::
          driverCalls (reading.effects.map .body) := by
  obtain ⟨hentered, hopened⟩ := h
  have hcheck : (sendAndCheck isalnum outcomes device step).effects =
      (sendAndRead isalnum outcomes device step).effects := by
    rw [sendAndCheck, Run.effects_bind]
    cases (sendAndRead isalnum outcomes device step).result with
    | error fault => exact List.append_nil _
    | ok reads =>
      dsimp only
      rw [Run.effects_bind]
      cases postCheck step reads <;> exact List.append_nil _
  refine ⟨.ofExcept outcomes.configured.answer >>=
    fun _ => readDevice isalnum outcomes.reads step.changeType, ?_, ?_⟩
  · exact (Run.all_ofExcept _).bind fun _ => commands_readDevice isalnum _ _
  · rw [hcheck, sendAndRead, driverCalls_connected hentered, applyConfiguration,
      inSession_of_opened hopened]
    cases outcomes.configured.answer with
    | error fault => rfl
    | ok answer => rfl

/-- A change that reaches the device sends its commands first. -/
lemma driverCalls_of_reaches {outcomes : ApplyOutcomes β} {device : DeviceRecord}
    (h : Reaches outcomes device) (step : ChangeStep) :
    ∃ more, driverCalls (applyStep isalnum outcomes device step).effects =
      .applyConfiguration (splitlines step.renderedCommands) outcomes.configured.delivered ::
        more := by
  obtain ⟨reading, -, hcalls⟩ := driverCalls_sendAndCheck isalnum h step
  rw [applyStep, Run.effects_attempt_bind, driverCalls_append, hcalls]
  exact ⟨_, rfl⟩

/-- A change that does not reach the device sends no command, and has no reads. -/
lemma sendAndCheck_unreached {outcomes : ApplyOutcomes β} {device : DeviceRecord}
    (h : ¬ Reaches outcomes device) (step : ChangeStep) :
    driverCalls (sendAndCheck isalnum outcomes device step).effects = [] ∧
      ∀ reads, (sendAndCheck isalnum outcomes device step).result ≠ .ok reads := by
  have hread : driverCalls (sendAndRead isalnum outcomes device step).effects = [] ∧
      ∀ reads, (sendAndRead isalnum outcomes device step).result ≠ .ok reads := by
    rw [sendAndRead]
    by_cases hentered : Entered outcomes.forward device .structuredWrite
    · rcases hopened : outcomes.configured.opened with fault | opened
      · rw [applyConfiguration, inSession_of_error hopened]
        refine ⟨driverCalls_connected hentered _, fun reads hresult => ?_⟩
        rcases connected_cases outcomes.forward device .structuredWrite
            (.raise fault >>= fun _ => readDevice isalnum outcomes.reads step.changeType) with
          ⟨hnot, -⟩ | ⟨-, hvalue, -⟩
        · exact hnot hentered
        · cases hvalue reads hresult
      · exact absurd ⟨hentered, hopened⟩ h
    · exact driverCalls_of_not_entered hentered _
  rcases hresult : (sendAndRead isalnum outcomes device step).result with fault | reads
  · rw [sendAndCheck, Run.effects_bind_of_error hresult, Run.result_bind_of_error hresult]
    exact ⟨hread.1, fun _ h => by cases h⟩
  · exact absurd hresult (hread.2 reads)

/-- A change that does not reach the device sends none of its commands. -/
lemma unsent_of_not_reaches {outcomes : ApplyOutcomes β} {device : DeviceRecord}
    (h : ¬ Reaches outcomes device) (step : ChangeStep) :
    Unsent (applyStep isalnum outcomes device step).effects := by
  obtain ⟨hcalls, hresult⟩ := sendAndCheck_unreached isalnum h step
  intro commands delivered hmem
  rw [applyStep, Run.effects_attempt_bind, driverCalls_append, hcalls, List.nil_append] at hmem
  rcases hcheck : (sendAndCheck isalnum outcomes device step).result with
    (error | - | -) | reads
  · rw [hcheck] at hmem
    exact unsent_attemptRollback outcomes device step _ commands delivered hmem
  · rw [hcheck] at hmem
    exact unsent_attemptRollback outcomes device step _ commands delivered hmem
  · rw [hcheck] at hmem
    cases hmem
  · exact hresult reads hcheck

/-- The configuration of a device after what is sent to it; of a batch the commands that are
delivered count. -/
def configAfter {Port : Type} [DecidableEq Port] (naming : Naming Port) (c : Config Port)
    (calls : List DriverCall) : Config Port :=
  calls.foldl (fun c call =>
    match call with
    | .command _ => c
    | .applyConfiguration commands delivered | .rollback commands delivered =>
      Device.sendConfig naming c (commands.take delivered)) c

/-- An apply sends the commands that undo a change only behind those of the change, and leaves the
device alone when it sends none of those. -/
structure NoUnsentWrite (plan : ChangePlan) (outcomes : ApplyOutcomes β) : Prop where
  behind : ∀ front commands delivered back,
    driverCalls (apply isalnum (.ok plan) outcomes).effects =
        front ++ .rollback commands delivered :: back →
      ∃ sent count, .applyConfiguration sent count ∈ front
  untouched : Unsent (apply isalnum (.ok plan) outcomes).effects →
    storedStatus plan (apply isalnum (.ok plan) outcomes).effects = .failed ∧
      ∀ (Port : Type) [DecidableEq Port] (naming : Naming Port) (c : Config Port),
        configAfter naming c (driverCalls (apply isalnum (.ok plan) outcomes).effects) = c

omit [UnicodeDatabase] in
/-- The device and its driver are found, and the plan has not one step or its commands are handed
to a connected session. -/
def ReachesDevice (plan : ChangePlan) (outcomes : ApplyOutcomes β) : Prop :=
  ∃ device, outcomes.device = .ok device ∧ outcomes.registered = .ok () ∧
    ∀ step, plan.steps = [step] → Reaches outcomes device

/-- An apply of a draft undoes only what it did exactly when the commands of its plan reach a
session: when they do not, the rollback is attempted all the same. -/
theorem noUnsentWrite_iff {plan : ChangePlan} (hdraft : plan.status = .draft)
    (outcomes : ApplyOutcomes β) :
    NoUnsentWrite isalnum plan outcomes ↔ ReachesDevice plan outcomes := by
  rcases apply_cases isalnum hdraft outcomes with
    ⟨hmissing, heffects⟩ |
      ⟨device, hdevice, hregistered, ⟨step, hsteps, heffects⟩ | ⟨hsteps, heffects⟩⟩
  · refine iff_of_false (fun h => ?_) ?_
    · have hstored := (h.untouched (by rw [heffects]; exact fun _ _ => List.not_mem_nil)).1
      rw [heffects] at hstored
      cases hstored
    · rintro ⟨device, hdevice, hregistered, -⟩
      exact hmissing device hdevice hregistered
  · have hcalls : driverCalls (apply isalnum (.ok plan) outcomes).effects =
        driverCalls (applyStep isalnum outcomes device step).effects := by
      rw [heffects]
      rfl
    constructor
    · refine fun h => ⟨device, hdevice, hregistered, fun _ _ => ?_⟩
      by_contra hreaches
      have hunsent : Unsent (apply isalnum (.ok plan) outcomes).effects := by
        rw [Unsent, hcalls]
        exact unsent_of_not_reaches isalnum hreaches step
      have hstored := (h.untouched hunsent).1
      obtain ⟨ending, -, hterminal, hkept⟩ := kept_apply isalnum hdraft outcomes
      rw [storedStatus, hkept] at hstored
      rcases ending with - | status
      · cases hstored
      · exact (hterminal status rfl).2 hstored step hsteps
    · rintro ⟨device', hdevice', -, hreaches⟩
      obtain rfl : device = device' := by simpa [hdevice] using hdevice'
      obtain ⟨more, hmore⟩ := driverCalls_of_reaches isalnum (hreaches step hsteps) step
      refine ⟨fun front commands delivered back hsplit => ?_, fun hunsent => ?_⟩
      · rw [hcalls, hmore] at hsplit
        rcases front with - | ⟨first, front⟩
        · cases (List.cons.inj hsplit).1
        · obtain ⟨rfl, -⟩ := List.cons.inj hsplit
          exact ⟨_, _, List.mem_cons_self⟩
      · rw [Unsent, hcalls, hmore] at hunsent
        exact absurd List.mem_cons_self (hunsent _ _)
  · refine iff_of_true ⟨fun front commands delivered back hsplit => ?_, fun _ => ?_⟩
      ⟨device, hdevice, hregistered, fun step h => absurd h (hsteps step)⟩
    · rw [heffects] at hsplit
      rcases front with - | ⟨first, front⟩
      · cases hsplit
      · cases hsplit
    · rw [heffects]
      exact ⟨rfl, fun _ _ _ _ => rfl⟩

end

/-- An apply whose connections are all admitted undoes only what it did. -/
theorem noUnsentWrite_lookupPlan :
    letI := asciiDatabase
    NoUnsentWrite Char.isAlphanum lookupPlan
      (answeredApply openService openService openService) := by
  let _ := asciiDatabase
  exact (noUnsentWrite_iff Char.isAlphanum rfl _).mpr
    ⟨accessSwitch, rfl, rfl, fun _ _ => ⟨⟨rfl, _, rfl⟩, rfl⟩⟩

/-- A plan that creates a VLAN. -/
def vlanPlan : ChangePlan where
  deviceId := 3
  risk := .low
  preChangeSnapshotId := 8
  steps :=
    [{ changeType := .vlanName
       target := "20"
       desiredValue := "USERS"
       previousValue := some ""
       renderedCommands := "vlan 20\nname USERS"
       inverseCommands := "no vlan 20" }]

/-- The gate denies the connection that is to create a VLAN, and admits the one that is to undo
it: the VLAN, which is there by now, is removed. -/
theorem not_noUnsentWrite_busy :
    letI := asciiDatabase
    let effects := (apply Char.isAlphanum (.ok vlanPlan)
      (answeredApply busyService openService openService)).effects
    ¬NoUnsentWrite Char.isAlphanum vlanPlan (answeredApply busyService openService openService) ∧
      keptStatuses effects = [.applying, .rolledBack] ∧
      (sampleSwitch .staticAccess).vlans 20 = some "USERS" ∧
      (configAfter sampleNaming (sampleSwitch .staticAccess) (driverCalls effects)).vlans 20 =
        none := by
  let _ := asciiDatabase
  have hcalls : driverCalls (apply Char.isAlphanum (.ok vlanPlan)
      (answeredApply busyService openService openService)).effects =
        [.rollback ["no vlan 20"] 1] := by decide +kernel
  refine ⟨fun h => ?_, by decide +kernel, rfl, ?_⟩
  · obtain ⟨sent, count, hmem⟩ := h.behind [] ["no vlan 20"] 1 [] hcalls
    cases hmem
  · rw [hcalls]
    decide +kernel

end Terraformer.Changes
