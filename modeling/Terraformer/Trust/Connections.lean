import Terraformer.Admission.Endings
import Terraformer.Trust.Devices

/-!
# Test connections

When a test connection ends well (`result_testConnection_eq_ok_iff`), to which key its session was
then pinned (`exists_of_test`), and what the effects of an operation leave stored.  An operation
that stores everything or nothing (`StoresWhole`) has stored nothing unless it ended well.
-/

namespace Terraformer.Trust

open Text Admission

variable {β : Type} (r : Registry β)

/-! ## What a test needs -/

/-- A test connection has all that it needs to succeed with the known hosts it is pinned to. -/
structure Connects (request : DeviceConnectionFields) (deviceId : Option Uuid)
    (knownHosts : String) (result : ConnectionTestResult) : Prop where
  supported : modeSupported request = true
  policy : enforceCompatibilityPolicy request.sshCompatibility r.settings
    request.group1RiskAcknowledged request.veryOldRiskAcknowledged = true
  answers : ∃ gate permit material driver,
    r.gate = some gate ∧
    gate.acquire .connectionTest (targetOf (testCall request deviceId false)) = .ok permit ∧
    r.credentials request.credentialProfileId = .ok material ∧
    r.drivers request.vendor = some driver ∧
    driver.testConnection ⟨request.managementAddress.1, request.port.1, material, knownHosts,
      request.sshCompatibility⟩ = .ok result ∧
    gate.authenticationSucceeded (targetOf (testCall request deviceId false)) = .ok () ∧
    gate.release permit = .ok ()
  registered : ∀ id, deviceId = some id → r.devices.lookup id ≠ none ∧ r.flushes = .ok ()

/-- A session opens only when the key that the device presents is the one it is pinned to, as
`StrictHostKeyChecking=yes` has it. -/
def StrictlyChecks (presented : String) : Prop :=
  ∀ vendor driver parameters result, r.drivers vendor = some driver →
    driver.testConnection parameters = .ok result →
    parameters.knownHosts = knownHostsLine parameters.host parameters.port presented

variable [DecidableEq β]

section Test

variable {r} {request : DeviceConnectionFields} {deviceId : Option Uuid}
  {parameters : ConnectionParameters} {result : ConnectionTestResult}

omit [DecidableEq β] in
/-- A device is found when it is in the list. -/
lemma device_eq_ok_iff {id : Uuid} {device : Device} :
    r.device id = .ok device ↔ r.devices.lookup id = some device := by
  rw [Registry.device]
  cases r.devices.lookup id <;> simp

omit [DecidableEq β] in
/-- A driver is found when it is registered. -/
lemma driver_eq_ok_iff {vendor : Vendor} {driver : Driver} :
    r.driver vendor = .ok driver ↔ r.drivers vendor = some driver := by
  rw [Registry.driver]
  cases r.drivers vendor <;> simp

omit [DecidableEq β] in
/-- A pinned key is found when there is one. -/
lemma require_eq_ok_iff {id : Uuid} {key : HostKey} :
    r.require id = .ok key ↔ r.hostKeys id = some key := by
  rw [Registry.require]
  cases r.hostKeys id <;> simp

/-- A handler that raises again lets nothing end well. -/
lemma result_orElse_reraise {α : Type} {a : α}
    {x : Run (BodyEffect SessionCall RegistryRow) Fault α}
    (mark : AppError → Run (BodyEffect SessionCall RegistryRow) Fault Unit) :
    (x.orElse (reraise mark)).result = .ok a ↔ x.result = .ok a := by
  unfold Run.orElse
  cases hx : x.result with
  | ok b => simp [hx]
  | error fault =>
    refine iff_of_false (fun h => ?_) (by simp)
    rcases fault with error | - | -
    · obtain ⟨_, -, h, -⟩ := Run.exists_of_result_bind_eq_ok h
      cases h
    · cases h
    · cases h

omit [DecidableEq β] in
/-- What is not guarded ends well when the database lets it. -/
lemma result_unguarded_eq_ok_iff {α : Type} {a : α}
    {x : Run (Effect SessionCall RegistryRow) StoreFault α} :
    (unguarded x).result = .ok a ↔ x.result = .ok a := by
  rw [unguarded]
  cases x.result <;> simp [Except.mapError]

omit [DecidableEq β] in
/-- What is guarded ends well when the database lets it. -/
lemma result_guarded_eq_ok_iff {α : Type} {a : α} {caught : StoreFault → Bool}
    {x : Run (Effect SessionCall RegistryRow) StoreFault α} :
    (guarded caught x).result = .ok a ↔ x.result = .ok a := by
  unfold guarded
  split
  · exact result_unguarded_eq_ok_iff
  · next fault hfault =>
    split_ifs
    · simp [hfault]
    · exact result_unguarded_eq_ok_iff

omit [DecidableEq β] in
/-- What is guarded does what it guards, and may roll back. -/
lemma mem_effects_of_mem_guarded {α : Type} {caught : StoreFault → Bool}
    {x : Run (Effect SessionCall RegistryRow) StoreFault α} {e : Effect SessionCall RegistryRow}
    (he : e ∈ (guarded caught x).effects) : e ∈ x.effects ∨ e = .rollback := by
  unfold guarded at he
  split at he
  · exact Or.inl he
  split_ifs at he
  · exact (List.mem_append.mp he).imp_right List.mem_singleton.mp
  · exact Or.inl he

omit [DecidableEq β] in
/-- The body of a test ends well when its driver is there and its test does. -/
lemma result_testBody_eq_ok_iff {commit : Bool} :
    (testBody r request deviceId commit parameters).result = .ok result ↔
      ∃ driver, r.drivers request.vendor = some driver ∧
        driver.testConnection parameters = .ok result := by
  rw [testBody, Run.result_bind_eq_ok_iff]
  exact exists_congr fun driver => and_congr driver_eq_ok_iff (result_orElse_reraise _)

omit [DecidableEq β] in
/-- A device that is reached is marked so if it is there and its row is taken. -/
lemma result_testSucceeded_eq_ok_iff {u : Unit} :
    (testSucceeded r deviceId).result = .ok u ↔
      ∀ id, deviceId = some id → r.devices.lookup id ≠ none ∧ r.flushes = .ok () := by
  cases deviceId with
  | none => simp [testSucceeded]
  | some id =>
    rw [testSucceeded, Run.result_bind_eq_ok_iff]
    constructor
    · rintro ⟨device, hdevice, hflushes⟩ _ ⟨⟩
      refine ⟨by simp [device_eq_ok_iff.mp hdevice], ?_⟩
      exact result_unguarded_eq_ok_iff.mp hflushes
    · intro h
      obtain ⟨hdevice, hflushes⟩ := h id rfl
      obtain ⟨device, hdevice⟩ := Option.ne_none_iff_exists'.mp hdevice
      exact ⟨device, device_eq_ok_iff.mpr hdevice, result_unguarded_eq_ok_iff.mpr hflushes⟩

/-- A test connection that leaves the commit to its caller ends well when it has known hosts and
all that it needs besides. -/
lemma result_testConnection_eq_ok_iff :
    (testConnection r request deviceId false).result = .ok result ↔
      ∃ knownHosts, pinnedKnownHosts r.toDeviceService r.first.toMoment
          (testCall request deviceId false) = .ok knownHosts ∧
        Connects r request deviceId knownHosts result := by
  unfold testConnection
  by_cases hmode : modeSupported request = false
  · rw [if_pos hmode]
    exact iff_of_false (fun h => by cases h) fun ⟨_, _, h⟩ => by simp [h.supported] at hmode
  rw [if_neg hmode, Run.result_bind_eq_ok_iff]
  rw [Bool.not_eq_false] at hmode
  constructor
  · rintro ⟨other, hconnection, h⟩
    obtain ⟨_, hregistered, ⟨⟩⟩ := Run.result_bind_eq_ok_iff.mp h
    obtain ⟨hpolicy, knownHosts, hpinned, gate, permit, material, hgate, hacquire, hmaterial,
      hbody, hreport, hrelease⟩ := result_admittedConnection_eq_ok_iff.mp hconnection
    obtain ⟨driver, hdriver, htest⟩ := result_testBody_eq_ok_iff.mp hbody
    rw [normalizedHost_eq] at htest
    exact ⟨knownHosts, hpinned, hmode, hpolicy, ⟨gate, permit, material, driver, hgate, hacquire,
      hmaterial, hdriver, htest, hreport, hrelease⟩, result_testSucceeded_eq_ok_iff.mp hregistered⟩
  · rintro ⟨knownHosts, hpinned, -, hpolicy, ⟨gate, permit, material, driver, hgate, hacquire,
      hmaterial, hdriver, htest, hreport, hrelease⟩, hregistered⟩
    have hbody : (testBody r request deviceId false
        ⟨normalizedHost (testCall request deviceId false), request.port.1, material, knownHosts,
          request.sshCompatibility⟩).result = .ok result :=
      result_testBody_eq_ok_iff.mpr ⟨driver, hdriver, by rw [normalizedHost_eq]; exact htest⟩
    exact ⟨result, result_admittedConnection_eq_ok_iff.mpr ⟨hpolicy, knownHosts, hpinned, gate,
      permit, material, hgate, hacquire, hmaterial, hbody, hreport, hrelease⟩,
      Run.result_bind_eq_ok_iff.mpr ⟨(), result_testSucceeded_eq_ok_iff.mpr hregistered, rfl⟩⟩

/-- The row that an effect writes. -/
def written : Effect SessionCall RegistryRow → Option RegistryRow
  | .write row | .body (.write row) => some row
  | _ => none

/-- An effect that pins no key and, where the commit is left to the caller, leaves the transaction
open. -/
def Harmless (commit : Bool) (e : Effect SessionCall RegistryRow) : Prop :=
  (∀ id key, written e ≠ some (.pin id key)) ∧
    (commit = false → e.entry ≠ some .commit ∧ e.entry ≠ some .rollback)

/-- What is nothing to the transaction is harmless. -/
lemma harmless_of_entry_eq_none {commit : Bool} {e : Effect SessionCall RegistryRow}
    (h : e.entry = none) : Harmless commit e := by
  refine ⟨fun id key hwritten => ?_, fun _ => by simp [h]⟩
  rcases e with _ | _ | _ | _ | _ | _ | (_ | _ | _) | _ | _ | _ | _ <;>
    simp [written, Effect.entry] at h hwritten

/-- Rows that pin nothing are harmless. -/
lemma harmless_write {commit : Bool} {row : RegistryRow} (h : ∀ id key, row ≠ .pin id key) :
    Harmless commit (.write row) :=
  ⟨fun id key hwritten => h id key (Option.some.inj hwritten), fun _ => by simp [Effect.entry]⟩

/-- So are they in a body. -/
lemma harmless_body_write {commit : Bool} {row : RegistryRow} (h : ∀ id key, row ≠ .pin id key) :
    Harmless commit (.body (.write row)) :=
  ⟨fun id key hwritten => h id key (Option.some.inj hwritten), fun _ => by simp [Effect.entry]⟩

/-- A commit is harmless where it is asked for. -/
lemma harmless_commit {commit : Bool} (h : commit = true) : Harmless commit .commit :=
  ⟨fun _ _ hwritten => (by cases hwritten), fun hfalse => (by simp [h] at hfalse)⟩

/-- So is it in a body. -/
lemma harmless_body_commit {commit : Bool} (h : commit = true) :
    Harmless commit (.body .commit) :=
  ⟨fun _ _ hwritten => (by cases hwritten), fun hfalse => (by simp [h] at hfalse)⟩

omit [DecidableEq β] in
/-- Marking a device unreachable is harmless. -/
lemma harmless_markUnreachable (id : Uuid) (error : AppError) (eventType : String)
    (commit : Bool) :
    (markUnreachable r id error eventType commit).All fun e => Harmless commit (.body e) := by
  refine Run.All.bind (Run.all_ofExcept _) fun device => Run.All.bind ?_ fun _ => ?_
  · intro e he
    obtain ⟨row, hrow, rfl⟩ := List.mem_map.mp he
    refine harmless_body_write fun id key => ?_
    rcases List.mem_pair.mp hrow with rfl | rfl <;> simp
  · cases commit with
    | false => exact Run.all_pure _
    | true =>
      show Run.All _ r.bodyCommit
      rw [Registry.bodyCommit]
      cases r.commits with
      | ok _ => exact Run.all_emit (harmless_body_commit rfl)
      | error _ => exact Run.all_raise _

/-- A handler that raises again is as harmless as what it marks. -/
lemma harmless_reraise {α : Type} {commit : Bool}
    {mark : AppError → Run (BodyEffect SessionCall RegistryRow) Fault Unit}
    (h : ∀ error, (mark error).All fun e => Harmless commit (.body e)) (fault : Fault) :
    (reraise mark fault : Run (BodyEffect SessionCall RegistryRow) Fault α).All
      fun e => Harmless commit (.body e) := by
  rcases fault with error | - | -
  · exact Run.All.bind (h error) fun _ => Run.all_raise _
  · exact Run.all_raise _
  · exact Run.all_raise _

/-- A call of a driver is harmless. -/
lemma harmless_driver (commit : Bool) (call : SessionCall) :
    Harmless commit (.body (.driver call)) :=
  harmless_of_entry_eq_none rfl

omit [DecidableEq β] in
/-- The body of a test is harmless. -/
lemma harmless_testBody (commit : Bool) :
    (testBody r request deviceId commit parameters).All fun e => Harmless commit (.body e) := by
  refine Run.All.bind (Run.all_ofExcept _) fun driver => Run.All.orElse ?_ fun fault => ?_
  · exact fun e he => List.mem_singleton.mp he ▸ harmless_driver commit _
  · refine harmless_reraise (fun error => ?_) fault
    cases deviceId with
    | none => exact Run.all_pure _
    | some id =>
      unfold testFailed
      split_ifs
      · exact Run.all_pure _
      · exact harmless_markUnreachable id error _ commit

/-- An admitted connection with a harmless body is harmless. -/
lemma harmless_admittedConnection {α : Type} {commit : Bool} {call : AdmissionCall}
    {body : ConnectionParameters → Run (BodyEffect SessionCall RegistryRow) Fault α}
    (hcommit : call.commit = true → commit = true)
    (hbody : ∀ parameters, (body parameters).All fun e => Harmless commit (.body e)) :
    (admittedConnection r.toDeviceService r.first.toMoment call body).All (Harmless commit) :=
  all_admittedConnection (fun _ => harmless_of_entry_eq_none)
    (fun _ => ⟨fun _ _ h => (by cases h), fun _ => (by simp [Effect.entry])⟩)
    (fun h => harmless_commit (hcommit h)) hbody

omit [DecidableEq β] in
/-- Rows that pin nothing are harmless together. -/
lemma harmless_record {commit : Bool} {rows : List RegistryRow}
    (h : ∀ row ∈ rows, ∀ id key, row ≠ .pin id key) :
    (unguarded (r.record rows)).All (Harmless commit) := by
  intro e he
  obtain ⟨row, hrow, rfl⟩ := List.mem_map.mp he
  exact harmless_write (h row hrow)

omit [DecidableEq β] in
/-- The commit of an operation is harmless. -/
lemma harmless_registryCommit : r.commit.All (Harmless true) := by
  unfold Registry.commit
  cases r.commits with
  | ok _ => exact Run.all_emit (harmless_commit rfl)
  | error _ => exact Run.all_raise _

/-- So is what is rolled back. -/
lemma harmless_guarded {α : Type} {caught : StoreFault → Bool}
    {x : Run (Effect SessionCall RegistryRow) StoreFault α} (h : x.All (Harmless true)) :
    (guarded caught x).All (Harmless true) := by
  intro e he
  rcases mem_effects_of_mem_guarded he with he | rfl
  · exact h e he
  · exact ⟨fun _ _ h => (by cases h), fun h => (by cases h)⟩

/-- A test connection is harmless. -/
lemma harmless_testConnection (request : DeviceConnectionFields) (deviceId : Option Uuid)
    (commit : Bool) : (testConnection r request deviceId commit).All (Harmless commit) := by
  unfold testConnection
  split_ifs
  · exact Run.all_raise _
  refine Run.All.bind (harmless_admittedConnection id fun _ => harmless_testBody commit)
    fun result => Run.All.bind ?_ fun _ => Run.All.bind ?_ fun _ => Run.all_pure _
  · cases deviceId with
    | none => exact Run.all_pure _
    | some id =>
      exact Run.All.bind (Run.all_ofExcept _) fun device => harmless_record (by simp)
  · cases commit with
    | false => exact Run.all_pure _
    | true => exact harmless_registryCommit

end Test

/-! ## Candidates and known hosts -/

/-- A line of known hosts tells which key it is for. -/
lemma knownHostsLine_injective (host : String) (port : ℕ) :
    Function.Injective (knownHostsLine host port) := by
  intro key key' h
  have hchars := congrArg String.toList h
  simp only [knownHostsLine, String.toList_append, List.append_cancel_right_eq,
    List.append_cancel_left_eq] at hchars
  exact String.toList_inj.mp hchars

section Candidates

variable {r} {look : CandidateStore β} {request : DeviceConnectionFields}
  {hostKey : ResolvedHostKeyCandidate}

/-- A candidate is resolved when the look finds it unexpired, under the digest of the request. -/
lemma resolveRequested_eq_ok_iff : resolveRequested r look request = .ok hostKey ↔
    ∃ id stored, request.hostKeyCandidateId = some id ∧ look.candidates id = some stored ∧
      look.now < stored.expiresAt ∧
      stored.binding = r.candidateDigest request.toHostKeyCandidateBinding ∧
      hostKey = ⟨id, stored.key,
        knownHostsLine request.managementAddress.1 request.port.1 stored.key.publicKey⟩ := by
  unfold resolveRequested
  cases request.hostKeyCandidateId with
  | none => simp
  | some id =>
    simp only [resolveCandidate]
    cases hstored : look.candidates id with
    | none => simp [Except.mapError, hstored]
    | some stored =>
      by_cases hexpired : stored.expiresAt ≤ look.now
      · simp [Except.mapError, hstored, hexpired]
      have hlater : look.now < stored.expiresAt := not_le.mp hexpired
      by_cases hbinding : stored.binding = r.candidateDigest request.toHostKeyCandidateBinding
      · simp [Except.mapError, hstored, hexpired, hbinding, hlater, eq_comm]
      · simp [Except.mapError, hstored, hexpired, hbinding]

/-- The test of an endpoint is pinned to the candidate that the first look finds. -/
lemma pinnedKnownHosts_endpoint {knownHosts : String} :
    pinnedKnownHosts r.toDeviceService r.first.toMoment (testCall request none false) =
        .ok knownHosts ↔
      ∃ hostKey, resolveRequested r r.first request = .ok hostKey ∧
        hostKey.knownHosts = knownHosts := by
  have hrequest : candidateRequest (testCall request none false) =
      { request with veryOldRiskAcknowledged := false } := by
    have hhost := normalizedHost_eq (testCall request none false)
    simp only [candidateRequest, hhost]
    rfl
  have hresolve (id : Uuid) : resolveCandidate r.toDeviceService r.first.toMoment id
      (candidateRequest (testCall request none false)) =
        resolveCandidate r.toDeviceService r.first.toMoment id request := by
    rw [hrequest]
    rfl
  rw [resolveRequested]
  cases hid : request.hostKeyCandidateId with
  | none => simp [pinnedKnownHosts, testCall, hid]
  | some id =>
    have hpinned : pinnedKnownHosts r.toDeviceService r.first.toMoment
        (testCall request none false) =
          (resolveCandidate r.toDeviceService r.first.toMoment id request).map (·.knownHosts) := by
      rw [← hresolve]
      simp [pinnedKnownHosts, testCall, hid]
    rw [hpinned]
    dsimp only
    cases resolveCandidate r.toDeviceService r.first.toMoment id request <;>
      simp [Except.map, Except.mapError]

/-- The test of a device is pinned to the key that is pinned yet. -/
lemma pinnedKnownHosts_device {id : Uuid} {knownHosts : String} :
    pinnedKnownHosts r.toDeviceService r.first.toMoment (testCall request (some id) false) =
        .ok knownHosts ↔
      ∃ key, r.hostKeys id = some key ∧
        knownHostsLine request.managementAddress.1 request.port.1 key.publicKey = knownHosts := by
  cases hkey : r.hostKeys id with
  | none => simp [pinnedKnownHosts, testCall, hkey]
  | some key =>
    have hpinned : pinnedKnownHosts r.toDeviceService r.first.toMoment
        (testCall request (some id) false) = .ok (knownHostsLine
          (normalizedHost (testCall request (some id) false)) request.port.1 key.publicKey) := by
      simp [pinnedKnownHosts, testCall, hkey]
    rw [hpinned, normalizedHost_eq]
    simp [testCall]

/-- A test that succeeds has opened a session that is pinned to its known hosts. -/
lemma exists_of_test {deviceId : Option Uuid} {result : ConnectionTestResult}
    (h : (testConnection r request deviceId false).result = .ok result) :
    ∃ driver parameters, r.drivers request.vendor = some driver ∧
      .enter parameters ∈ (testConnection r request deviceId false).effects ∧
      driver.testConnection parameters = .ok result ∧
      pinnedKnownHosts r.toDeviceService r.first.toMoment (testCall request deviceId false) =
        .ok parameters.knownHosts ∧
      parameters.host = request.managementAddress.1 ∧ parameters.port = request.port.1 := by
  unfold testConnection at h ⊢
  split_ifs at h ⊢
  · cases h
  obtain ⟨other, hconnection, h, heffects⟩ := Run.exists_of_result_bind_eq_ok h
  obtain ⟨_, -, ⟨⟩⟩ := Run.result_bind_eq_ok_iff.mp h
  obtain ⟨parameters, henter, hpinned, hbody, hhost, hport⟩ := enter_mem_of_result_eq_ok hconnection
  obtain ⟨driver, hdriver, htest⟩ := result_testBody_eq_ok_iff.mp hbody
  rw [heffects]
  exact ⟨driver, parameters, hdriver, List.mem_append_left _ henter, htest, hpinned, hhost, hport⟩

/-- A test that succeeds was pinned to the key that the device presents. -/
lemma pinned_presented {presented : String} (hstrict : StrictlyChecks r presented)
    {deviceId : Option Uuid} {result : ConnectionTestResult}
    (h : (testConnection r request deviceId false).result = .ok result) :
    pinnedKnownHosts r.toDeviceService r.first.toMoment (testCall request deviceId false) =
      .ok (knownHostsLine request.managementAddress.1 request.port.1 presented) := by
  obtain ⟨driver, parameters, hdriver, -, htest, hpinned, hhost, hport⟩ := exists_of_test h
  rw [hpinned, hstrict _ driver parameters result hdriver htest, hhost, hport]

end Candidates

/-! ## What is stored -/

/-- What an operation has stored when it ends. -/
def storedRows (effects : List (Effect SessionCall RegistryRow)) : List RegistryRow :=
  (keptRows effects).filterMap fun
    | .write row => some row
    | .audit _ => none

section Stored

variable {effects : List (Effect SessionCall RegistryRow)}

/-- Without a commit nothing is stored. -/
lemma storedRows_eq_nil (h : ∀ e ∈ effects, e.entry ≠ some .commit) : storedRows effects = [] := by
  rw [storedRows, keptRows, Journal.durable_play_of_no_commit]
  · rfl
  · simpa [entries] using h

/-- A row is written when the entry of the effect says so. -/
lemma written_eq_some_iff {e : Effect SessionCall RegistryRow} {row : RegistryRow} :
    written e = some row ↔ e.entry = some (.write (.write row)) := by
  rcases e with _ | _ | _ | _ | _ | _ | (_ | _ | _) | _ | _ | _ | _ <;>
    simp [written, Effect.entry]

/-- What is stored was written. -/
lemma exists_written_of_mem_storedRows {row : RegistryRow} (h : row ∈ storedRows effects) :
    ∃ e ∈ effects, written e = some row := by
  obtain ⟨stored, hstored, hrow⟩ := List.mem_filterMap.mp h
  rcases Journal.mem_of_mem_durable_play hstored with h | h | h
  · cases h
  · cases h
  · rw [List.mem_append, List.mem_singleton] at h
    obtain ⟨e, he, hentry⟩ := List.mem_filterMap.mp (h.resolve_right (by simp))
    refine ⟨e, he, written_eq_some_iff.mpr ?_⟩
    cases stored with
    | audit record => cases hrow
    | write other => rw [hentry, Option.some.inj hrow]

/-- A row is stored when the commit behind it comes before a rollback. -/
lemma mem_storedRows {row : RegistryRow}
    {before between after : List (Effect SessionCall RegistryRow)}
    (h : ∀ e ∈ between, e.entry ≠ some .rollback) :
    row ∈ storedRows (before ++ .write row :: (between ++ .commit :: after)) := by
  have hplayed : entries (before ++ .write row :: (between ++ .commit :: after)) ++ [.rollback] =
      entries before ++ .write (.write row) ::
        (entries between ++ .commit :: (entries after ++ [.rollback])) := by
    simp [entries, Effect.entry]
  refine List.mem_filterMap.mpr ⟨.write row, ?_, rfl⟩
  rw [keptRows, hplayed]
  refine Journal.mem_durable_play _ _ (fun hrollback => ?_) _
  obtain ⟨e, he, hentry⟩ := List.mem_filterMap.mp hrollback
  exact h e he hentry

end Stored

/-! ## All or nothing -/

section Whole

variable {φ α γ : Type}

/-- A run that commits nothing unless it ends well. -/
def StoresWhole (x : Run (Effect SessionCall RegistryRow) φ α) : Prop :=
  (∃ a, x.result = .ok a) ∨ x.All fun e => e.entry ≠ some .commit

/-- A run in front that commits nothing does not matter. -/
lemma StoresWhole.behind {x : Run (Effect SessionCall RegistryRow) φ α}
    {f : α → Run (Effect SessionCall RegistryRow) φ γ}
    (hx : x.All fun e => e.entry ≠ some .commit) (hf : ∀ a, StoresWhole (f a)) :
    StoresWhole (x >>= f) := by
  cases hresult : x.result with
  | error fault =>
    refine Or.inr fun e he => hx e ?_
    rwa [Run.effects_bind_of_error hresult] at he
  | ok a =>
    refine (hf a).imp (fun ⟨b, hb⟩ => ⟨b, by rw [Run.result_bind_of_ok hresult, hb]⟩)
      fun h e he => ?_
    rw [Run.effects_bind_of_ok hresult, List.mem_append] at he
    exact he.elim (hx e) (h e)

/-- What cannot fail may follow. -/
lemma StoresWhole.before {x : Run (Effect SessionCall RegistryRow) φ α}
    {f : α → Run (Effect SessionCall RegistryRow) φ γ} (hx : StoresWhole x)
    (hf : ∀ a, ∃ b, (f a).result = .ok b) : StoresWhole (x >>= f) := by
  cases hresult : x.result with
  | error fault =>
    rcases hx with ⟨a, ha⟩ | hx
    · cases hresult.symm.trans ha
    · refine Or.inr fun e he => hx e ?_
      rwa [Run.effects_bind_of_error hresult] at he
  | ok a =>
    obtain ⟨b, hb⟩ := hf a
    exact Or.inl ⟨b, by rw [Run.result_bind_of_ok hresult, hb]⟩

/-- A run that raises commits nothing. -/
lemma storesWhole_raise (fault : φ) :
    StoresWhole (.raise fault : Run (Effect SessionCall RegistryRow) φ α) :=
  Or.inr (Run.all_raise fault)

omit [DecidableEq β] in
/-- A commit that fails stores nothing. -/
lemma storesWhole_commit : StoresWhole r.commit := by
  unfold Registry.commit
  cases r.commits with
  | ok _ => exact Or.inl ⟨(), rfl⟩
  | error fault => exact storesWhole_raise fault

omit [DecidableEq β] in
/-- Rows are only written. -/
lemma all_record (rows : List RegistryRow) :
    (r.record rows).All fun e => e.entry ≠ some .commit := by
  intro e he
  obtain ⟨row, -, rfl⟩ := List.mem_map.mp he
  simp [Effect.entry]

/-- A failure that is raised as it is stores nothing more. -/
lemma StoresWhole.unguarded {x : Run (Effect SessionCall RegistryRow) StoreFault α}
    (h : StoresWhole x) : StoresWhole (unguarded x) :=
  h.imp_left fun ⟨a, ha⟩ => ⟨a, result_unguarded_eq_ok_iff.mpr ha⟩

/-- Neither does one that is rolled back. -/
lemma StoresWhole.guarded {caught : StoreFault → Bool}
    {x : Run (Effect SessionCall RegistryRow) StoreFault α} (h : StoresWhole x) :
    StoresWhole (guarded caught x) := by
  refine h.imp (fun ⟨a, ha⟩ => ⟨a, result_guarded_eq_ok_iff.mpr ha⟩) fun h e he => ?_
  rcases mem_effects_of_mem_guarded he with he | rfl
  · exact h e he
  · simp [Effect.entry]

end Whole

end Terraformer.Trust
