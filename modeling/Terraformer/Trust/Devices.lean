import Terraformer.Admission.Connection
import Terraformer.Trust.Candidates

/-!
# The registry of devices

The operations of `DeviceService` as runs over the registry: the devices with their pinned host
keys, the drivers, the candidates in Redis, and a database that may refuse what is written.

`create` and `update` pin the host key of a candidate behind a test connection that is itself
pinned to this key.  `repin_host_key` hands the id of the device to its test, which then goes by
the key that is pinned yet.
-/

namespace Terraformer.Trust

open Text Admission

/-! ## Devices -/

/-- What is known of a device's reachability. -/
inductive DeviceStatus where
  | unknown
  | reachable
  | unreachable
  deriving DecidableEq

/-- How the terminal reaches a device. -/
inductive ConsoleTransport where
  | ssh
  | telnet
  deriving DecidableEq

/-- A device as it is stored. -/
structure Device extends HostKeyCandidateBinding where
  name : String
  isLab : Bool
  consoleTransport : ConsoleTransport
  status : DeviceStatus := .unknown
  lastSeenAt : Option ℤ
  lastErrorCode : Option String

/-- The request that registers a device. -/
structure DeviceCreate extends DeviceConnectionFields where
  name : String
  isLab : Bool := false
  consoleTransport : ConsoleTransport := .ssh
  telnet_requires_a_lab_device : consoleTransport = .telnet → isLab = true

/-- The request that changes a device: the fields that are set. -/
structure DeviceUpdate where
  name : Option String := none
  managementAddress : Option Address := none
  port : Option Port := none
  vendor : Option Vendor := none
  credentialProfileId : Option Uuid := none
  sshCompatibility : Option SSHCompatibility := none
  isLab : Option Bool := none
  consoleTransport : Option ConsoleTransport := none
  group1RiskAcknowledged : Bool := false
  veryOldRiskAcknowledged : Bool := false
  hostKeyCandidateId : Option Uuid := none

/-- `changes.keys() & connection_fields`: a field is set that says how to connect. -/
def DeviceUpdate.touchesConnection (request : DeviceUpdate) : Bool :=
  request.managementAddress.isSome || request.port.isSome || request.vendor.isSome ||
    request.credentialProfileId.isSome || request.sshCompatibility.isSome

/-- How to connect to the device after the update. -/
def DeviceUpdate.candidate (request : DeviceUpdate) (device : Device) :
    DeviceConnectionFields where
  managementAddress := request.managementAddress.getD device.managementAddress
  port := request.port.getD device.port
  vendor := request.vendor.getD device.vendor
  credentialProfileId := request.credentialProfileId.getD device.credentialProfileId
  sshCompatibility := request.sshCompatibility.getD device.sshCompatibility
  group1RiskAcknowledged := request.group1RiskAcknowledged
  veryOldRiskAcknowledged := request.veryOldRiskAcknowledged
  hostKeyCandidateId := request.hostKeyCandidateId

/-- The device with the fields that are set. -/
def DeviceUpdate.setattr (request : DeviceUpdate) (device : Device) : Device :=
  { device with
    toHostKeyCandidateBinding := (request.candidate device).toHostKeyCandidateBinding
    name := (request.name.map strip).getD device.name
    isLab := request.isLab.getD device.isLab
    consoleTransport := request.consoleTransport.getD device.consoleTransport }

/-- How to connect to a registered device.  The risks were acknowledged when it was registered. -/
def Device.candidate (device : Device) (hostKeyCandidateId : Option Uuid) :
    DeviceConnectionFields where
  toHostKeyCandidateBinding := device.toHostKeyCandidateBinding
  group1RiskAcknowledged :=
    device.sshCompatibility = .ciscoLegacyGroup1 ∨ device.sshCompatibility = .veryOldSsh
  veryOldRiskAcknowledged := device.sshCompatibility = .veryOldSsh
  hostKeyCandidateId := hostKeyCandidateId

/-! ## Collaborators -/

/-- A diagnostic command that may be run. -/
inductive DiagnosticAction where
  | routingTable
  | arpTable
  | macTable
  | ping
  | traceroute

/-- What is asked of a driver in a session. -/
inductive SessionCall where
  | testConnection
  | collectObservations
  | getStaticRoutes
  | getRoutingProcesses
  | runDiagnostic (action : DiagnosticAction) (target : Option String)

/-- How a test connection went. -/
structure ConnectionTestResult where
  reachable : Bool
  driver : String
  message : String
  latencyMs : ℕ

/-- A driver: how its test connection ends, and how its reads end. -/
structure Driver where
  name : String
  testConnection : ConnectionParameters → Except Fault ConnectionTestResult
  read : SessionCall → ConnectionParameters → Except Fault Unit

/-- What is written to the registry.  Of the observations and the capabilities, and of the texts
of the events, nothing is read here. -/
inductive RegistryRow where
  | device (id : Uuid) (record : Device)
  | pin (id : Uuid) (key : HostKey)
  | capabilities (id : Uuid) (driver : String)
  | observations (id : Uuid)
  | deleted (id : Uuid)
  | event (eventType : String) (deviceId : Uuid)

/-- A failure of the database: an `IntegrityError`, a snapshot that would go with its device, or
another exception. -/
inductive StoreFault where
  | integrity
  | snapshotImmutable
  | other (fault : Fault)

/-- A snapshot is not to be changed. -/
def SnapshotImmutableError : AppError := { code := "snapshot_immutable" }

/-- A failure of the database as the exception it is. -/
def StoreFault.raised : StoreFault → Fault
  | .integrity => .exception
  | .snapshotImmutable => .app SnapshotImmutableError
  | .other fault => fault

/-- `IntegrityError`. -/
def StoreFault.isIntegrity : StoreFault → Bool
  | .integrity => true
  | _ => false

/-- `IntegrityError`, or a `ConflictError` as `SnapshotImmutableError` is one. -/
def StoreFault.isConflict : StoreFault → Bool
  | .integrity | .snapshotImmutable => true
  | .other _ => false

/-- No such row. -/
def NotFoundError : AppError := { code := "not_found" }

/-- The request conflicts with what is stored. -/
def ConflictError : AppError := { code := "conflict" }

/-- The device or its driver does not support what is asked. -/
def UnsupportedCapabilityError : AppError := { code := "unsupported_capability" }

/-- What an operation meets: the devices and their pinned keys, the drivers, the candidates at the
two times it may look at them, and how the database answers its flushes and its commit. -/
structure Registry (β : Type) extends DeviceService β where
  devices : List (Uuid × Device)
  drivers : Vendor → Option Driver
  first : CandidateStore β
  second : CandidateStore β
  flushes : Except StoreFault Unit
  commits : Except StoreFault Unit
  /-- The id of a device that is added. -/
  newId : Uuid
  now : ℤ
  first_collected : Collected candidateDigest first
  second_later : ∃ actions, after (step candidateDigest) first actions = some second

/-- A run over the registry. -/
abbrev TrustRun (α : Type) := Run (Effect SessionCall RegistryRow) Fault α

variable {β : Type} (r : Registry β)

/-- `DeviceRepository.get`. -/
def Registry.device (id : Uuid) : Except Fault Device :=
  (r.devices.lookup id).elim (.error (.app NotFoundError)) .ok

/-- `DeviceRepository.find_by_endpoint`: the device that is registered there. -/
def Registry.findByEndpoint (address : Address) (port : Port) : Option Uuid :=
  (r.devices.find? fun (_, device) =>
    device.managementAddress = address ∧ device.port = port).map Prod.fst

/-- `DriverRegistry.get`. -/
def Registry.driver (vendor : Vendor) : Except Fault Driver :=
  (r.drivers vendor).elim (.error (.app UnsupportedCapabilityError)) .ok

/-- `DeviceSSHHostKeyRepository.require`. -/
def Registry.require (id : Uuid) : Except Fault HostKey :=
  (r.hostKeys id).elim (.error (.app DriverHostKeyUnknownError)) .ok

/-- Rows are written and flushed. -/
def Registry.record (rows : List RegistryRow) :
    Run (Effect SessionCall RegistryRow) StoreFault Unit :=
  ⟨rows.map .write, r.flushes⟩

/-- The transaction is committed.  A commit that fails stores nothing. -/
def Registry.commit : Run (Effect SessionCall RegistryRow) StoreFault Unit :=
  match r.commits with
  | .ok () => .emit .commit
  | .error fault => .raise fault

/-- A failure of the database is raised as it is. -/
def unguarded {α : Type} (x : Run (Effect SessionCall RegistryRow) StoreFault α) : TrustRun α :=
  ⟨x.effects, x.result.mapError StoreFault.raised⟩

/-- A failure of the database is rolled back and raised as a conflict if it is one that is caught,
as in `except IntegrityError: rollback()`. -/
def guarded {α : Type} (caught : StoreFault → Bool)
    (x : Run (Effect SessionCall RegistryRow) StoreFault α) : TrustRun α :=
  match x.result with
  | .ok _ => unguarded x
  | .error fault =>
    if caught fault then ⟨x.effects ++ [.rollback], .error (.app ConflictError)⟩ else unguarded x

/-! ## The test connection -/

/-- The modes and vendors that go together. -/
def modeSupported (request : DeviceConnectionFields) : Bool :=
  match request.sshCompatibility with
  | .modern => true
  | .ciscoLegacy | .ciscoLegacyGroup1 => request.vendor == .ciscoIosxe
  | .veryOldSsh => request.vendor == .ciscoIosxe || request.vendor == .fortinetFortios

/-- Rows that a body writes and flushes. -/
def Registry.bodyRecord (rows : List RegistryRow) :
    Run (BodyEffect SessionCall RegistryRow) Fault Unit :=
  ⟨rows.map .write, r.flushes.mapError StoreFault.raised⟩

/-- A commit inside a body. -/
def Registry.bodyCommit : Run (BodyEffect SessionCall RegistryRow) Fault Unit :=
  match r.commits with
  | .ok () => .emit .commit
  | .error fault => .raise fault.raised

/-- A device whose connection failed is marked unreachable. -/
def markUnreachable (id : Uuid) (error : AppError) (eventType : String) (commit : Bool) :
    Run (BodyEffect SessionCall RegistryRow) Fault Unit := do
  let device ← .ofExcept (r.device id)
  r.bodyRecord [.device id { device with status := .unreachable, lastErrorCode := error.code },
    .event eventType id]
  if commit then r.bodyCommit

/-- `except AppError as exc: …; raise`. -/
def reraise {α : Type} (mark : AppError → Run (BodyEffect SessionCall RegistryRow) Fault Unit) :
    Fault → Run (BodyEffect SessionCall RegistryRow) Fault α
  | .app error => do
    mark error
    .raise (.app error)
  | fault => .raise fault

/-- What a test that failed leaves of the device, if it is registered and was reached for. -/
def testFailed (deviceId : Option Uuid) (commit : Bool) (error : AppError) :
    Run (BodyEffect SessionCall RegistryRow) Fault Unit :=
  match deviceId with
  | none => pure ()
  | some id =>
    if error.code ∈ [LegacyModeDisabledByPolicyError.code,
        LegacyGroup1DisabledByPolicyError.code] then pure ()
    else markUnreachable r id error "device.connection_failed" commit

/-- The body of the test: `driver.test_connection`, with its `except AppError`. -/
def testBody (request : DeviceConnectionFields) (deviceId : Option Uuid) (commit : Bool)
    (parameters : ConnectionParameters) :
    Run (BodyEffect SessionCall RegistryRow) Fault ConnectionTestResult := do
  let driver ← .ofExcept (r.driver request.vendor)
  .orElse ⟨[.driver .testConnection], driver.testConnection parameters⟩
    (reraise (testFailed r deviceId commit))

/-- The device as a connection that succeeded leaves it. -/
def reached (device : Device) : Device :=
  { device with status := .reachable, lastSeenAt := r.now, lastErrorCode := none }

/-- The connection that a test asks for. -/
def testCall (request : DeviceConnectionFields) (deviceId : Option Uuid) (commit : Bool) :
    AdmissionCall :=
  { toDeviceConnectionFields := request, deviceId, operation := .connectionTest, commit }

variable [DecidableEq β]

/-- What a test that succeeded leaves of the device, if it is registered. -/
def testSucceeded (deviceId : Option Uuid) : TrustRun Unit :=
  match deviceId with
  | none => pure ()
  | some id => do
    let device ← .ofExcept (r.device id)
    unguarded (r.record [.device id (reached r device), .event "device.connection_succeeded" id])

/-- `if _commit: self._session.commit()`. -/
def Registry.commitIf (commit : Bool) : TrustRun Unit :=
  if commit then unguarded r.commit else pure ()

/-- `DeviceService.test_connection`. -/
def testConnection (request : DeviceConnectionFields) (deviceId : Option Uuid) (commit : Bool) :
    TrustRun ConnectionTestResult :=
  if modeSupported request = false then .raise (.app UnsupportedCapabilityError)
  else do
    let result ← admittedConnection r.toDeviceService r.first.toMoment
      (testCall request deviceId commit) (testBody r request deviceId commit)
    testSucceeded r deviceId
    r.commitIf commit
    pure result

/-- `DeviceService._resolve_candidate`, at a look at the store. -/
def resolveRequested (look : CandidateStore β) (request : DeviceConnectionFields) :
    Except Fault ResolvedHostKeyCandidate :=
  match request.hostKeyCandidateId with
  | none => .error (.app DriverHostKeyUnknownError)
  | some id => (resolveCandidate r.toDeviceService look.toMoment id request).mapError .app

/-! ## The operations -/

/-- The device that a request registers. -/
def DeviceCreate.device (request : DeviceCreate) (result : ConnectionTestResult) : Device where
  toHostKeyCandidateBinding := request.toHostKeyCandidateBinding
  name := strip request.name
  isLab := request.isLab
  consoleTransport := request.consoleTransport
  status := if result.reachable then .reachable else .unreachable
  lastSeenAt := if result.reachable then some r.now else none
  lastErrorCode := none

/-- The rows of a device that is registered. -/
def createdRows (device : Device) (key : HostKey) (driver : Driver) : List RegistryRow :=
  [.device r.newId device, .pin r.newId key, .capabilities r.newId driver.name,
    .event "device.created" r.newId]

/-- `DeviceService.create`. -/
def create (request : DeviceCreate) : TrustRun Device :=
  if (r.findByEndpoint request.managementAddress request.port).isSome then
    .raise (.app ConflictError)
  else do
    let result ← testConnection r request.toDeviceConnectionFields none false
    let hostKey ← .ofExcept (resolveRequested r r.second request.toDeviceConnectionFields)
    let driver ← .ofExcept (r.driver request.vendor)
    let device := request.device r result
    guarded StoreFault.isIntegrity do
      r.record (createdRows r device hostKey.key driver)
      r.commit
    .emit (.deleteCandidate hostKey.id)
    pure device

/-- An update that leaves the connection as it is. -/
def updateFields (id : Uuid) (device : Device) (request : DeviceUpdate) : TrustRun Device := do
  let device := request.setattr device
  unguarded (r.record [.device id device, .event "device.updated" id])
  guarded StoreFault.isIntegrity r.commit
  pure device

/-- An update of how to connect to the device, which is tested first. -/
def updateConnection (id : Uuid) (device : Device) (request : DeviceUpdate) : TrustRun Device := do
  let candidate := request.candidate device
  let _ ← testConnection r candidate none false
  let replacement ← .ofExcept (resolveRequested r r.second candidate)
  let driver ← .ofExcept (r.driver candidate.vendor)
  let device := reached r (request.setattr device)
  unguarded (r.record [.device id device, .capabilities id driver.name])
  let _ ← .ofExcept (r.require id)
  unguarded (r.record [.pin id replacement.key, .event "device.updated" id])
  guarded StoreFault.isIntegrity r.commit
  .emit (.deleteCandidate replacement.id)
  pure device

/-- `DeviceService.update`. -/
def update (id : Uuid) (request : DeviceUpdate) : TrustRun Device := do
  let device ← .ofExcept (r.device id)
  let candidate := request.candidate device
  if request.consoleTransport.getD device.consoleTransport = .telnet ∧
      request.isLab.getD device.isLab = false then
    .raise (.app UnsupportedCapabilityError)
  else if request.touchesConnection = false then updateFields r id device request
  else if (r.findByEndpoint candidate.managementAddress candidate.port).any (· ≠ id) then
    .raise (.app ConflictError)
  else updateConnection r id device request

/-- The rest of a re-pinning, for a device marked as a lab device. -/
def repinLabDevice (id hostKeyCandidateId : Uuid) (device : Device) : TrustRun Device := do
  let candidate := device.candidate (some hostKeyCandidateId)
  let replacement ← .ofExcept (resolveRequested r r.first candidate)
  -- The id makes the test go by the key that is pinned yet, and not by the candidate.
  let _ ← testConnection r candidate (some id) false
  let _ ← .ofExcept (r.require id)
  unguarded (r.record [.pin id replacement.key, .event "device.host_key_repinned" id])
  unguarded r.commit
  .emit (.deleteCandidate replacement.id)
  pure (reached r device)

/-- `DeviceService.repin_host_key`. -/
def repinHostKey (id hostKeyCandidateId : Uuid) : TrustRun Device := do
  let device ← .ofExcept (r.device id)
  if device.isLab = false then .raise (.app UnsupportedCapabilityError)
  else repinLabDevice r id hostKeyCandidateId device

/-- `DeviceService.delete`. -/
def delete (id : Uuid) : TrustRun Unit := do
  let _ ← .ofExcept (r.device id)
  guarded StoreFault.isConflict do
    r.record [.deleted id]
    r.commit

/-- `DeviceService.test_registered_device`. -/
def testRegisteredDevice (id : Uuid) : TrustRun ConnectionTestResult := do
  let device ← .ofExcept (r.device id)
  testConnection r (device.candidate none) (some id) true

/-- The connection of a read from a registered device. -/
def readCall (id : Uuid) (device : Device) : AdmissionCall :=
  { toDeviceConnectionFields := device.candidate none
    deviceId := id
    operation := .structuredRead }

/-- A read in a session. -/
def readBody (driver : Driver) (call : SessionCall) (parameters : ConnectionParameters) :
    Run (BodyEffect SessionCall RegistryRow) Fault Unit :=
  ⟨[.driver call], driver.read call parameters⟩

/-- The body of a refresh: `driver.collect_observations`, with its `except AppError`. -/
def refreshBody (id : Uuid) (vendor : Vendor) (parameters : ConnectionParameters) :
    Run (BodyEffect SessionCall RegistryRow) Fault Driver := do
  let driver ← .ofExcept (r.driver vendor)
  .orElse (readBody driver .collectObservations parameters)
    (reraise fun error => markUnreachable r id error "device.refresh_failed" true)
  pure driver

/-- `DeviceService.refresh`. -/
def refresh (id : Uuid) : TrustRun Unit := do
  let device ← .ofExcept (r.device id)
  let driver ← admittedConnection r.toDeviceService r.first.toMoment (readCall id device)
    (refreshBody r id device.vendor)
  unguarded (r.record [.device id (reached r device), .observations id,
    .capabilities id driver.name, .event "device.refreshed" id])
  unguarded r.commit

/-- `DeviceService.read_routing`. -/
def readRouting (id : Uuid) : TrustRun Unit := do
  let device ← .ofExcept (r.device id)
  admittedConnection r.toDeviceService r.first.toMoment (readCall id device) fun parameters => do
    let driver ← .ofExcept (r.driver device.vendor)
    readBody driver .getStaticRoutes parameters
    readBody driver .getRoutingProcesses parameters

/-- `DeviceService.run_diagnostic`. -/
def runDiagnostic (id : Uuid) (action : DiagnosticAction) (target : Option String) :
    TrustRun Unit := do
  let device ← .ofExcept (r.device id)
  let driver ← admittedConnection r.toDeviceService r.first.toMoment (readCall id device)
    fun parameters => do
      let driver ← .ofExcept (r.driver device.vendor)
      readBody driver (.runDiagnostic action target) parameters
      pure driver
  unguarded (r.record [.device id (reached r device), .capabilities id driver.name,
    .event "diagnostic.completed" id])
  unguarded r.commit

/-- The operations of the service. -/
inductive Operation where
  | create (request : DeviceCreate)
  | update (id : Uuid) (request : DeviceUpdate)
  | repinHostKey (id hostKeyCandidateId : Uuid)
  | delete (id : Uuid)
  | testConnection (request : DeviceConnectionFields)
  | testRegisteredDevice (id : Uuid)
  | refresh (id : Uuid)
  | readRouting (id : Uuid)
  | runDiagnostic (id : Uuid) (action : DiagnosticAction) (target : Option String)

/-- What an operation does, and whether it ends well. -/
def perform : Operation → TrustRun Unit
  | .create request => do let _ ← create r request
  | .update id request => do let _ ← update r id request
  | .repinHostKey id hostKeyCandidateId => do let _ ← repinHostKey r id hostKeyCandidateId
  | .delete id => delete r id
  | .testConnection request => do let _ ← testConnection r request none true
  | .testRegisteredDevice id => do let _ ← testRegisteredDevice r id
  | .refresh id => refresh r id
  | .readRouting id => readRouting r id
  | .runDiagnostic id action target => runDiagnostic r id action target

end Terraformer.Trust
