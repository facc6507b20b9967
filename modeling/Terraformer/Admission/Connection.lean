import Terraformer.Journal
import Terraformer.Run
import Terraformer.Text.Basic

/-!
# Admitted connections

`DeviceService.admitted_connection` as a run: the compatibility policy, the choice of the host
key, the permit of the connection gate, the body of the `with` statement, the accounting of how
it ended and the release.  What the database session writes is part of the run, so that the
journal of a run (`rows`) says which of its audit records are committed.

The outcomes of the collaborators (the gate, the credential vault, the body) are given from
outside.
-/

namespace Terraformer.Admission

open Text

/-- A `UUID`. -/
abbrev Uuid := BitVec 128

/-! ## Connection fields -/

/-- The vendors of a device. -/
inductive Vendor where
  | ciscoIosxe
  | fortinetFortios
  | generic
  deriving DecidableEq, Repr

/-- Which algorithms a device's SSH server understands. -/
inductive SSHCompatibility where
  | modern
  | ciscoLegacy
  | ciscoLegacyGroup1
  | veryOldSsh
  deriving DecidableEq, Repr

/-- `_HOST.fullmatch(value)`: letters, digits, dots and hyphens, with a letter or digit at both
ends, at most 253 of them. -/
def matchesHost (value : String) : Bool :=
  let characters := value.toList
  characters.length ≤ 253 &&
    characters.all (fun c => c.isAlphanum || c == '.' || c == '-') &&
    characters.head?.any Char.isAlphanum && characters.getLast?.any Char.isAlphanum

/-- `value.lower()` of a text that matched `_HOST`, which is ASCII. -/
def lowerHost (value : String) : String :=
  String.ofList (value.toList.map Char.toLower)

/-- `DeviceConnectionFields.validate_address`. -/
def validateAddress (value : String) : Option String :=
  let stripped := strip value
  if matchesHost stripped = false ∨ ['.', '.'] <:+: stripped.toList then none
  else some (lowerHost stripped)

/-- An address as the validator leaves it. -/
abbrev Address := { address : String // validateAddress address = some address }

/-- `Field(ge=1, le=65_535)`. -/
abbrev Port := { port : ℕ // 1 ≤ port ∧ port ≤ 65535 }

/-- What a host key is collected for. -/
structure HostKeyCandidateBinding where
  managementAddress : Address
  port : Port
  vendor : Vendor
  credentialProfileId : Uuid
  sshCompatibility : SSHCompatibility
  deriving DecidableEq

/-- The fields of a request that say how to connect to a device. -/
structure DeviceConnectionFields extends HostKeyCandidateBinding where
  group1RiskAcknowledged : Bool := false
  veryOldRiskAcknowledged : Bool := false
  hostKeyCandidateId : Option Uuid := none

/-! ## Errors -/

/-- An `AppError`: its code, and `details.get("phase")`. -/
structure AppError where
  code : String
  phase : Option String := none
  deriving DecidableEq, Repr

/-- What can be raised: an `AppError`, another `Exception`, or what is no `Exception`, such as
`KeyboardInterrupt`. -/
inductive Fault where
  | app (error : AppError)
  | exception
  | interrupt
  deriving DecidableEq, Repr

/-- The legacy mode is not allowed by the policy. -/
def LegacyModeDisabledByPolicyError : AppError :=
  ⟨"legacy_mode_disabled_by_policy", some "authorization"⟩

/-- The first Diffie-Hellman group is not allowed by the policy. -/
def LegacyGroup1DisabledByPolicyError : AppError :=
  ⟨"legacy_group1_disabled_by_policy", some "authorization"⟩

/-- The very old mode is not allowed by the policy. -/
def LegacyVeryOldDisabledByPolicyError : AppError :=
  ⟨"very_old_mode_disabled_by_policy", some "authorization"⟩

/-- The gate cannot be reached. -/
def ConnectionGateUnavailableError : AppError := { code := "connection_gate_unavailable" }

/-- The host key of the device is not known. -/
def DriverHostKeyUnknownError : AppError :=
  ⟨"device_host_key_unknown", some "host_key_verification"⟩

/-- The scanned host key is no longer kept. -/
def HostKeyCandidateExpiredError : AppError := { code := "host_key_candidate_expired" }

/-- The scanned host key was scanned for other settings. -/
def HostKeyCandidateMismatchError : AppError := { code := "host_key_candidate_mismatch" }

/-! ## The compatibility policy -/

/-- The settings of the policy. -/
structure Settings where
  sshLegacyEnabled : Bool
  sshGroup1Enabled : Bool
  sshVeryOldEnabled : Bool

/-- `enforce_compatibility_policy`: whether the mode is authorized. -/
def enforceCompatibilityPolicy (mode : SSHCompatibility) (settings : Settings)
    (group1RiskAcknowledged veryOldRiskAcknowledged : Bool) : Bool :=
  match mode with
  | .modern => true
  | .ciscoLegacy => settings.sshLegacyEnabled
  | .ciscoLegacyGroup1 =>
    settings.sshLegacyEnabled && settings.sshGroup1Enabled && group1RiskAcknowledged
  | .veryOldSsh =>
    settings.sshLegacyEnabled && settings.sshGroup1Enabled && settings.sshVeryOldEnabled &&
      veryOldRiskAcknowledged

/-- The error of a mode that is not authorized. -/
def policyError (mode : SSHCompatibility) (settings : Settings)
    (veryOldRiskAcknowledged : Bool) : AppError :=
  if settings.sshLegacyEnabled = false then LegacyModeDisabledByPolicyError
  else if mode = .veryOldSsh ∧ (settings.sshGroup1Enabled = false ∨
      settings.sshVeryOldEnabled = false ∨ veryOldRiskAcknowledged = false) then
    LegacyVeryOldDisabledByPolicyError
  else LegacyGroup1DisabledByPolicyError

/-! ## The connection gate -/

/-- What a connection is made for. -/
inductive ConnectionOperation where
  | connectionTest
  | structuredRead
  | structuredWrite
  | terminal
  deriving DecidableEq, Repr

/-- What an endpoint is counted under: its address and port with the credential profile, and
the device when it is registered. -/
structure ConnectionTarget where
  host : String
  port : ℕ
  credentialProfileId : Uuid
  deviceId : Option Uuid
  deriving DecidableEq

/-- The permit for one connection. -/
structure ConnectionPermit where
  identifier : Uuid
  operation : ConnectionOperation
  target : ConnectionTarget
  deriving DecidableEq

/-- How the calls of a gate end.  Every error of Redis is an `AppError` by then. -/
structure Gate where
  acquire : ConnectionOperation → ConnectionTarget → Except AppError ConnectionPermit
  authenticationSucceeded : ConnectionTarget → Except AppError Unit
  authenticationFailed : ConnectionTarget → Except AppError Unit
  release : ConnectionPermit → Except AppError Unit

/-! ## Host keys -/

/-- A host key: the pinned one of a device, or the one of a candidate. -/
structure HostKey where
  algorithm : String
  publicKey : String
  fingerprint : String
  deriving DecidableEq, Repr

/-- `known_hosts_line`. -/
def knownHostsLine (host : String) (port : ℕ) (publicKey : String) : String :=
  let endpoint := if port = 22 then host else "[" ++ host ++ "]:" ++ port.repr
  endpoint ++ " " ++ publicKey ++ "\n"

/-- A candidate as it lies in Redis. -/
structure StoredCandidate (δ : Type) where
  binding : δ
  key : HostKey
  expiresAt : ℤ

/-- The scanned host key that a request names. -/
structure ResolvedHostKeyCandidate where
  id : Uuid
  key : HostKey
  knownHosts : String

/-- The candidates that Redis still holds at an instant, and the instant. -/
structure Moment (δ : Type) where
  candidates : Uuid → Option (StoredCandidate δ)
  now : ℤ

/-! ## Effects -/

/-- What the credential profile holds. -/
structure CredentialMaterial where
  username : String
  password : String
  enablePassword : Option String

/-- What is handed to the driver. -/
structure ConnectionParameters where
  host : String
  port : ℕ
  material : CredentialMaterial
  knownHosts : String
  sshCompatibility : SSHCompatibility

/-- The decision of the gate, as it is audited. -/
inductive Decision where
  | allowed
  | denied
  deriving DecidableEq, Repr

/-- The details of an `ssh.connection_admission` event. -/
structure AdmissionAudit where
  deviceId : Option Uuid
  requestedMode : SSHCompatibility
  group1RiskAcknowledged : Bool
  veryOldRiskAcknowledged : Bool := false
  operation : ConnectionOperation
  phase : String
  policyDecision : Decision
  resultCode : String
  deriving DecidableEq

/-- What the body of an admitted connection does: driver calls, and its own part of the
transaction. -/
inductive BodyEffect (δ ω : Type) where
  | driver (call : δ)
  | write (row : ω)
  | commit

/-- What a call does, in order. -/
inductive Effect (δ ω : Type) where
  | acquire (permit : ConnectionPermit)
  | release (permit : ConnectionPermit)
  | authenticationSucceeded (target : ConnectionTarget)
  | authenticationFailed (target : ConnectionTarget)
  /-- A candidate that was used is deleted. -/
  | deleteCandidate (id : Uuid)
  /-- The body is entered with the parameters. -/
  | enter (parameters : ConnectionParameters)
  | body (effect : BodyEffect δ ω)
  | audit (record : AdmissionAudit)
  | write (row : ω)
  | commit
  | rollback

/-- A row of the session: an audit record, or what the callers write. -/
inductive Row (ω : Type) where
  | audit (record : AdmissionAudit)
  | write (row : ω)

variable {δ ω : Type}

/-- What an effect means to the transaction. -/
def Effect.entry : Effect δ ω → Option (Entry (Row ω))
  | .audit record => some (.write (.audit record))
  | .write row | .body (.write row) => some (.write (.write row))
  | .commit | .body .commit => some .commit
  | .rollback => some .rollback
  | _ => none

/-- The entries of a run in the journal of its session. -/
def entries (effects : List (Effect δ ω)) : List (Entry (Row ω)) :=
  effects.filterMap Effect.entry

/-! ## The service -/

/-- The collaborators of `DeviceService`.  `candidateDigest` is the digest under which a candidate
is bound to its connection fields, `hostKeys` the pinned keys the session sees, and `credentials`
the lookup of a profile with its decryption. -/
structure DeviceService (β : Type) where
  settings : Settings
  gate : Option Gate
  candidateDigest : HostKeyCandidateBinding → β
  hostKeys : Uuid → Option HostKey
  credentials : Uuid → Except Fault CredentialMaterial

/-- The arguments of `admitted_connection`. -/
structure AdmissionCall extends DeviceConnectionFields where
  deviceId : Option Uuid
  operation : ConnectionOperation
  commit : Bool := true

variable {β : Type} [DecidableEq β]

/-- `HostKeyCandidateStore.resolve`. -/
def resolveCandidate (service : DeviceService β) (moment : Moment β) (id : Uuid)
    (request : DeviceConnectionFields) : Except AppError ResolvedHostKeyCandidate :=
  match moment.candidates id with
  | none => .error HostKeyCandidateExpiredError
  | some stored =>
    -- The source also deletes an expired candidate, which reads the same as a missing one.
    if stored.expiresAt ≤ moment.now then .error HostKeyCandidateExpiredError
    else if stored.binding ≠ service.candidateDigest request.toHostKeyCandidateBinding then
      .error HostKeyCandidateMismatchError
    else
      .ok ⟨id, stored.key,
        knownHostsLine request.managementAddress.1 request.port.1 stored.key.publicKey⟩

/-- `host.strip().lower()`. -/
def normalizedHost (call : AdmissionCall) : String :=
  lowerHost (strip call.managementAddress.1)

/-- The normalised host is the address in its canonical form. -/
lemma normalizedHost_eq (call : AdmissionCall) :
    normalizedHost call = call.managementAddress.1 := by
  have h := call.managementAddress.2
  simp only [validateAddress] at h
  split at h
  · cases h
  · exact Option.some.inj h

/-- The request against which `admitted_connection` resolves a candidate. -/
def candidateRequest (call : AdmissionCall) : DeviceConnectionFields where
  managementAddress := ⟨normalizedHost call, by
    rw [normalizedHost_eq]; exact call.managementAddress.2⟩
  port := call.port
  vendor := call.vendor
  credentialProfileId := call.credentialProfileId
  sshCompatibility := call.sshCompatibility
  group1RiskAcknowledged := call.group1RiskAcknowledged
  hostKeyCandidateId := call.hostKeyCandidateId

/-- The known hosts a connection is pinned to: those of the candidate for an endpoint that is not
registered, those of the pinned key for a device. -/
def pinnedKnownHosts (service : DeviceService β) (moment : Moment β) (call : AdmissionCall) :
    Except AppError String :=
  match call.deviceId with
  | none =>
    match call.hostKeyCandidateId with
    | none => .error DriverHostKeyUnknownError
    | some id =>
      (resolveCandidate service moment id (candidateRequest call)).map (·.knownHosts)
  | some deviceId =>
    match service.hostKeys deviceId with
    | none => .error DriverHostKeyUnknownError
    | some key => .ok (knownHostsLine (normalizedHost call) call.port.1 key.publicKey)

/-- `ConnectionTarget.from_endpoint`. -/
def targetOf (call : AdmissionCall) : ConnectionTarget where
  host := normalizedHost call
  port := call.port.1
  credentialProfileId := call.credentialProfileId
  deviceId := call.deviceId

/-- `if _commit: self._session.commit()`. -/
def commitIf (commit : Bool) : Run (Effect δ ω) Fault Unit :=
  if commit then .emit .commit else pure ()

/-- A denial is audited and raised. -/
def deny {α : Type} (call : AdmissionCall) (veryOldRiskAcknowledged : Bool) (error : AppError) :
    Run (Effect δ ω) Fault α := do
  .emit (.audit
    { deviceId := call.deviceId
      requestedMode := call.sshCompatibility
      group1RiskAcknowledged := call.group1RiskAcknowledged
      veryOldRiskAcknowledged
      operation := call.operation
      phase := "authorization"
      policyDecision := .denied
      resultCode := error.code })
  commitIf call.commit
  .raise (.app error)

/-- `_AUDIT_PHASES`. -/
def auditPhases : List String :=
  ["authorization", "complete", "tcp_connection", "ssh_negotiation", "host_key_verification",
    "authentication", "pty_creation", "terminal_io"]

/-- `_POST_AUTHENTICATION_PHASES`. -/
def postAuthenticationPhases : List String := ["pty_creation", "terminal_io"]

/-- The audit record of an admitted connection. -/
def allowedAudit (call : AdmissionCall) (phase resultCode : String) : AdmissionAudit where
  deviceId := call.deviceId
  requestedMode := call.sshCompatibility
  group1RiskAcknowledged := call.group1RiskAcknowledged
  veryOldRiskAcknowledged := call.veryOldRiskAcknowledged
  operation := call.operation
  phase := phase
  policyDecision := .allowed
  resultCode := resultCode

/-- A call of the gate: it is made, and may raise. -/
def gateCall (effect : Effect δ ω) (outcome : Except AppError Unit) :
    Run (Effect δ ω) Fault Unit :=
  ⟨[effect], outcome.mapError .app⟩

/-- What is reported to the gate of a body that failed in a phase. -/
def reportFailure (gate : Gate) (target : ConnectionTarget) (phase : Option String) :
    Run (Effect δ ω) Fault Unit :=
  if phase = some "authentication" then
    gateCall (.authenticationFailed target) (gate.authenticationFailed target)
  else if phase.any (postAuthenticationPhases.contains ·) then
    gateCall (.authenticationSucceeded target) (gate.authenticationSucceeded target)
  else pure ()

/-- The phase an audit record names for a failure. -/
def auditPhase (phase : Option String) : String :=
  (phase.filter (auditPhases.contains ·)).getD "complete"

/-- The accounting of how the body ended: the `except` and `else` clauses around the `yield`. -/
def account {α : Type} (gate : Gate) (call : AdmissionCall) :
    Except Fault α → Run (Effect δ ω) Fault α
  | .ok a => do
    gateCall (.authenticationSucceeded (targetOf call))
      (gate.authenticationSucceeded (targetOf call))
    .emit (.audit (allowedAudit call "complete" "success"))
    pure a
  | .error (.app error) => do
    reportFailure gate (targetOf call) error.phase
    .emit (.audit (allowedAudit call (auditPhase error.phase) error.code))
    commitIf call.commit
    .raise (.app error)
  | .error .exception => do
    .emit (.audit (allowedAudit call "complete" "internal_error"))
    commitIf call.commit
    .raise .exception
  | .error .interrupt => .raise .interrupt

/-- A body as a part of the run. -/
def liftBody {α : Type} (body : Run (BodyEffect δ ω) Fault α) : Run (Effect δ ω) Fault α :=
  ⟨body.effects.map .body, body.result⟩

/-- The connection behind the gate: the credentials, the body and its accounting. -/
def connect {α : Type} (service : DeviceService β) (gate : Gate) (call : AdmissionCall)
    (knownHosts : String) (body : ConnectionParameters → Run (BodyEffect δ ω) Fault α) :
    Run (Effect δ ω) Fault α := do
  let material ← .ofExcept (service.credentials call.credentialProfileId)
  let parameters : ConnectionParameters :=
    ⟨normalizedHost call, call.port.1, material, knownHosts, call.sshCompatibility⟩
  .emit (.enter parameters)
  let outcome ← (liftBody (body parameters)).attempt
  account gate call outcome

/-- `with self.admitted_connection(…) as parameters: body`. -/
def admittedConnection {α : Type} (service : DeviceService β) (moment : Moment β)
    (call : AdmissionCall) (body : ConnectionParameters → Run (BodyEffect δ ω) Fault α) :
    Run (Effect δ ω) Fault α :=
  if enforceCompatibilityPolicy call.sshCompatibility service.settings
      call.group1RiskAcknowledged call.veryOldRiskAcknowledged = false then
    deny call call.veryOldRiskAcknowledged
      (policyError call.sshCompatibility service.settings call.veryOldRiskAcknowledged)
  else
    match service.gate with
    | none => deny call false ConnectionGateUnavailableError
    | some gate => do
      let knownHosts ← .ofExcept ((pinnedKnownHosts service moment call).mapError .app)
      match gate.acquire call.operation (targetOf call) with
      | .error error => deny call false error
      | .ok permit =>
        .andFinally
          (do
            .emit (.acquire permit)
            connect service gate call knownHosts body)
          (gateCall (.release permit) (gate.release permit))

end Terraformer.Admission
