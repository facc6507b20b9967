import Terraformer.Changes.PostCheck
import Terraformer.Changes.Risk
import Terraformer.Changes.StoredCommands
import Terraformer.Drivers.Reads

/-!
# The change service

`ChangeService.preview` and `ChangeService.apply` as runs over the admitted connections: what they
read and send, what they write and commit, and how they end.  A preview stores a plan with the
commands of its step and the commands that undo it (`preview_stores`); an apply sends the former,
reads the device back, and sends the latter when anything went wrong.

The outcomes of the collaborators (the tables, the connections, the sessions, the snapshots) are
given from outside.
-/

namespace Terraformer.Changes

open Text Admission

/-! ## Plans -/

/-- The statuses of a plan. -/
inductive ChangePlanStatus where
  | draft
  | applying
  | applied
  | failed
  | rolledBack
  | rollbackFailed
  deriving DecidableEq, Repr

/-- A step as it is stored, its commands joined to one text. -/
structure ChangeStep extends ChangeStepIntent where
  previousValue : Option String
  renderedCommands : String
  inverseCommands : String
  deriving DecidableEq

/-- A plan as it is stored. -/
structure ChangePlan where
  deviceId : Uuid
  status : ChangePlanStatus := .draft
  risk : ChangeRisk
  preChangeSnapshotId : Uuid
  steps : List ChangeStep
  deriving DecidableEq

/-- What the service uses of a device. -/
structure DeviceRecord where
  id : Uuid
  vendor : Vendor
  managementAddress : Address
  port : Port
  credentialProfileId : Uuid
  sshCompatibility : SSHCompatibility
  deriving DecidableEq

/-- What the service writes. -/
inductive ChangeRow where
  | plan (plan : ChangePlan)
  | status (status : ChangePlanStatus) (failureCode : Option String)
  | postChangeSnapshot (id : Uuid)
  | appliedAt
  | interfaces (interfaces : List InterfaceRecord)
  | snapshot (id : Uuid)
  | event (eventType : String)

/-! ## Errors -/

/-- No such row. -/
def NotFoundError : AppError := { code := "not_found" }

/-- The vendor of the device has no commands for the change. -/
def ChangeVendorUnsupportedError : AppError := { code := "change_vendor_unsupported" }

/-- A step of the draft is not valid. -/
def ChangeValidationError : AppError := { code := "change_validation_failed" }

/-- The device does not show what the step asked for. -/
def ChangePostCheckFailedError : AppError := { code := "post_check_failed" }

/-- The commands of the step failed. -/
def ChangeApplyFailedError : AppError := { code := "change_apply_failed" }

/-- The plan has been applied already. -/
def ChangePlanNotDraftError : AppError := { code := "change_plan_not_draft" }

/-- The driver does not know the change. -/
def UnsupportedCapabilityError : AppError := { code := "unsupported_capability" }

/-- What a renderer or the post-check raises. -/
def renderFault : RenderError → Fault
  | .unsupportedCapability => .app UnsupportedCapabilityError
  | .valueError => .exception

/-! ## Connections and snapshots -/

variable {β : Type} [DecidableEq β]

/-- A run of the service. -/
abbrev ServiceRun (α : Type) := Run (Effect DriverCall ChangeRow) Fault α

/-- The collaborators of a connection, as they are when it is made. -/
structure Attempt (β : Type) where
  service : DeviceService β
  moment : Moment β

/-- The arguments of `admitted_connection` for a device. -/
def connectionCall (device : DeviceRecord) (operation : ConnectionOperation) : AdmissionCall where
  managementAddress := device.managementAddress
  port := device.port
  vendor := device.vendor
  credentialProfileId := device.credentialProfileId
  sshCompatibility := device.sshCompatibility
  group1RiskAcknowledged := device.sshCompatibility == .ciscoLegacyGroup1
  deviceId := some device.id
  operation := operation

/-- `with self._device_service.admitted_connection(…)`. -/
def connected {α : Type} (attempt : Attempt β) (device : DeviceRecord)
    (operation : ConnectionOperation) (body : DriverRun ChangeRow α) : ServiceRun α :=
  admittedConnection attempt.service attempt.moment (connectionCall device operation) fun _ => body

/-- What comes of a snapshot; `stored` is the store's answer to a content. -/
structure CaptureOutcomes (β : Type) where
  device : Except Fault DeviceRecord
  attempt : Attempt β
  registered : Except Fault Unit
  runningConfig : SessionOutcome String
  stored : String → Except Fault Unit
  snapshotId : Uuid

/-- `get_running_config`. -/
def getRunningConfig (outcome : SessionOutcome String) : DriverRun ChangeRow String := do
  let output ← sendCommand outcome "show running-config"
  if strip output = "" then .raise .exception
  else pure (String.ofList (mergeCrLf output.toList))

/-- `SnapshotService.capture`. -/
def capture (outcomes : CaptureOutcomes β) : ServiceRun Uuid := do
  let device ← .ofExcept outcomes.device
  let content ← connected outcomes.attempt device .structuredRead (do
    .ofExcept outcomes.registered
    getRunningConfig outcomes.runningConfig)
  .ofExcept (outcomes.stored content)
  .emit (.write (.snapshot outcomes.snapshotId))
  .emit (.write (.event "config.snapshot_created"))
  .emit .commit
  pure outcomes.snapshotId

section

variable [UnicodeDatabase] (isalnum : Char → Bool)

/-! ## Preview -/

/-- What comes of the collaborators of a preview. -/
structure PreviewOutcomes (β : Type) where
  device : Except Fault DeviceRecord
  registered : Except Fault Unit
  attempt : Attempt β
  reads : ReadOutcomes
  capture : CaptureOutcomes β

/-- The plan of a step with its commands. -/
def draftPlan (device : DeviceRecord) (step : ChangeStepIntent) (context : ChangeContext)
    (rendered : RenderedChange) (snapshotId : Uuid) (previous : Option String) : ChangePlan where
  deviceId := device.id
  risk := classifyRisk step.changeType (context.interface.bind InterfaceFacts.adminUp)
    (context.interface.bind InterfaceFacts.operUp) step.desiredValue step.target previous
  preChangeSnapshotId := snapshotId
  steps :=
    [{ toChangeStepIntent := step
       previousValue := previous
       renderedCommands := joinLines rendered.commands
       inverseCommands := joinLines rendered.inverseCommands }]

/-- `ChangeService.preview`. -/
def preview (step : ChangeStepIntent) (outcomes : PreviewOutcomes β) : ServiceRun ChangePlan := do
  let device ← .ofExcept outcomes.device
  if device.vendor ≠ .ciscoIosxe then .raise (.app ChangeVendorUnsupportedError)
  else do
    .ofExcept outcomes.registered
    let reads ← connected outcomes.attempt device .structuredRead
      (readDevice isalnum outcomes.reads step.changeType)
    let context := reads.context step.target
    if context.interface = none ∧ step.changeType.targetsInterface = true then
      .raise (.app NotFoundError)
    else if validateChange step context ≠ [] then .raise (.app ChangeValidationError)
    else do
      let rendered ← .ofExcept ((renderChange step context).mapError renderFault)
      let snapshotId ← capture outcomes.capture
      let previous ← .ofExcept
        ((previousValue step.changeType step.target context).elim (.error .exception) .ok)
      let plan := draftPlan device step context rendered snapshotId previous
      .emit (.write (.plan plan))
      .emit .commit
      pure plan

/-- A preview that ends has accepted its step against what it read of the device.  It stores the
step with its old value and the commands rendered for it, and the risk that follows from these, as
the last thing it does. -/
theorem preview_stores {step : ChangeStepIntent} {outcomes : PreviewOutcomes β} {plan : ChangePlan}
    (h : (preview isalnum step outcomes).result = .ok plan) :
    ∃ (device : DeviceRecord) (reads : DeviceReads) (a : AcceptedStep) (rendered : RenderedChange)
      (previous : Option String) (front : List (Effect DriverCall ChangeRow)),
      (connected outcomes.attempt device .structuredRead
        (readDevice isalnum outcomes.reads step.changeType)).result = .ok reads ∧
      a.step = step ∧ a.context = reads.context step.target ∧
      renderChange step a.context = .ok rendered ∧
      a.previous = some previous ∧ a.risk = some plan.risk ∧ plan.status = .draft ∧
      plan.steps = [⟨step, previous, joinLines rendered.commands,
        joinLines rendered.inverseCommands⟩] ∧
      (preview isalnum step outcomes).effects = front ++ [.write (.plan plan), .commit] := by
  obtain ⟨device, -, h, heffects⟩ := Run.exists_of_result_bind_eq_ok h
  rw [preview, heffects]
  split_ifs at h with hvendor
  · cases h
  obtain ⟨_, -, h, heffects⟩ := Run.exists_of_result_bind_eq_ok h
  rw [if_neg hvendor, heffects]
  obtain ⟨reads, hreads, h, heffects⟩ := Run.exists_of_result_bind_eq_ok h
  rw [heffects]
  dsimp only at h ⊢
  split_ifs at h with hfound hvalid
  · cases h
  · cases h
  rw [if_neg hfound, if_neg hvalid]
  obtain ⟨rendered, hrendered, h, heffects⟩ := Run.exists_of_result_bind_eq_ok h
  rw [heffects]
  obtain ⟨snapshotId, -, h, heffects⟩ := Run.exists_of_result_bind_eq_ok h
  rw [heffects]
  obtain ⟨previous, hprevious, h, heffects⟩ := Run.exists_of_result_bind_eq_ok h
  rw [heffects]
  obtain rfl : draftPlan device step (reads.context step.target) rendered snapshotId previous =
      plan := Except.ok.inj h
  have hold : previousValue step.changeType step.target (reads.context step.target) =
      some previous := by
    cases hvalue : previousValue step.changeType step.target (reads.context step.target) with
    | none =>
      rw [hvalue] at hprevious
      cases hprevious
    | some value =>
      rw [hvalue] at hprevious
      exact congrArg some (Except.ok.inj hprevious)
  have hcommands : renderChange step (reads.context step.target) = .ok rendered := by
    cases hrender : renderChange step (reads.context step.target) with
    | error error =>
      rw [hrender] at hrendered
      cases hrendered
    | ok other =>
      rw [hrender] at hrendered
      exact congrArg Except.ok (Except.ok.inj hrendered)
  refine ⟨device, reads, ⟨reads.context step.target, step, not_not.mp hvalid⟩, rendered, previous,
    (connected outcomes.attempt device .structuredRead
      (readDevice isalnum outcomes.reads step.changeType)).effects ++
        (capture outcomes.capture).effects, hreads, rfl, rfl, hcommands, hold, ?_, rfl, rfl, ?_⟩
  · rw [AcceptedStep.risk, AcceptedStep.previous, hold]
    rfl
  · simp

/-! ## Apply -/

/-- What comes of the collaborators of an apply: of its first connection with the commands and the
reads behind them, of a second one with the rollback, and of what follows a success. -/
structure ApplyOutcomes (β : Type) where
  device : Except Fault DeviceRecord
  registered : Except Fault Unit
  forward : Attempt β
  configured : ConfigOutcome
  reads : ReadOutcomes
  backward : Attempt β
  undone : ConfigOutcome
  replaced : Except Fault Unit
  capture : CaptureOutcomes β

/-- The connection that sends the commands and reads the device back. -/
def sendAndRead (outcomes : ApplyOutcomes β) (device : DeviceRecord) (step : ChangeStep) :
    ServiceRun DeviceReads :=
  connected outcomes.forward device .structuredWrite (do
    applyConfiguration outcomes.configured (splitlines step.renderedCommands)
    readDevice isalnum outcomes.reads step.changeType)

/-- The post-check of what was read back. -/
def postCheck (step : ChangeStep) (reads : DeviceReads) : Except Fault Unit :=
  match postCheckOk step.toChangeStepIntent (reads.context step.target) with
  | .ok true => .ok ()
  | .ok false => .error (.app ChangePostCheckFailedError)
  | .error error => .error (renderFault error)

/-- The guarded block of `apply`. -/
def sendAndCheck (outcomes : ApplyOutcomes β) (device : DeviceRecord) (step : ChangeStep) :
    ServiceRun DeviceReads := do
  let reads ← sendAndRead isalnum outcomes device step
  .ofExcept (postCheck step reads)
  pure reads

/-- The connection that sends the commands of the rollback. -/
def sendInverse (outcomes : ApplyOutcomes β) (device : DeviceRecord) (step : ChangeStep) :
    ServiceRun Unit :=
  connected outcomes.backward device .structuredWrite
    (rollback outcomes.undone (splitlines step.inverseCommands))

/-- `_attempt_rollback`. -/
def attemptRollback (outcomes : ApplyOutcomes β) (device : DeviceRecord) (step : ChangeStep)
    (failureCode : String) : ServiceRun ChangePlanStatus := do
  match ← (sendInverse outcomes device step).attempt with
  | .ok () => do
    .emit (.write (.status .rolledBack (some failureCode)))
    .emit .commit
    pure .rolledBack
  | .error .interrupt => .raise .interrupt
  | .error _ => do
    .emit (.write (.status .rollbackFailed (some failureCode)))
    .emit .commit
    pure .rollbackFailed

/-- The stored interfaces are replaced where they were read. -/
def storeInterfaces (outcomes : ApplyOutcomes β) (step : ChangeStep) (reads : DeviceReads) :
    ServiceRun Unit :=
  if step.changeType.targetsInterface = true ∧ reads.interfaces ≠ [] then do
    .ofExcept outcomes.replaced
    .emit (.write (.interfaces reads.interfaces))
  else pure ()

/-- What follows a post-check that passed. -/
def settle (outcomes : ApplyOutcomes β) (step : ChangeStep) (reads : DeviceReads) :
    ServiceRun ChangePlanStatus := do
  storeInterfaces outcomes step reads
  let snapshotId ← capture outcomes.capture
  .emit (.write (.postChangeSnapshot snapshotId))
  .emit (.write (.status .applied none))
  .emit (.write .appliedAt)
  .emit .commit
  pure .applied

/-- The part of `apply` behind its guards. -/
def applyStep (outcomes : ApplyOutcomes β) (device : DeviceRecord) (step : ChangeStep) :
    ServiceRun ChangePlanStatus := do
  match ← (sendAndCheck isalnum outcomes device step).attempt with
  | .ok reads => settle outcomes step reads
  | .error (.app error) => attemptRollback outcomes device step error.code
  | .error .exception => attemptRollback outcomes device step ChangeApplyFailedError.code
  | .error .interrupt => .raise .interrupt

/-- `ChangeService.apply`. -/
def apply (plan : Except Fault ChangePlan) (outcomes : ApplyOutcomes β) :
    ServiceRun ChangePlanStatus := do
  let plan ← .ofExcept plan
  if plan.status ≠ .draft then .raise (.app ChangePlanNotDraftError)
  else do
    .emit (.write (.status .applying none))
    .emit .commit
    let device ← .ofExcept outcomes.device
    .ofExcept outcomes.registered
    match plan.steps with
    | [step] => applyStep isalnum outcomes device step
    -- the service refuses to guess which part of several steps to apply
    | _ => do
      .emit (.write (.status .failed (some ChangeApplyFailedError.code)))
      .emit .commit
      .raise (.app ChangeApplyFailedError)

end

end Terraformer.Changes
