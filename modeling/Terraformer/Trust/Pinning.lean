import Terraformer.Trust.Connections

/-!
# Pinned host keys

What the operations of the registry owe to the host keys (`KeepsTrust`): a key is pinned only
behind a test connection with this very key, and no device that presents the candidate's key is
refused.

`keepsTrust_iff` says when: registrations and updates do so always, a re-pinning as long as the
key that its test goes by is the candidate's (`TestsCandidate`).
-/

namespace Terraformer.Trust

open Text Admission

variable {β : Type} [DecidableEq β] (r : Registry β)

/-! ## Trust in host keys -/

/-- A candidate that an operation asks to pin: to which device, for which connection, and the look
at the store that decides. -/
structure Ask (β : Type) where
  deviceId : Uuid
  request : DeviceConnectionFields
  look : CandidateStore β

/-- The candidate that an operation asks to pin, if it is one that pins. -/
def asks : Operation → Option (Ask β)
  | .create request => some ⟨r.newId, request.toDeviceConnectionFields, r.second⟩
  | .update id request => (r.devices.lookup id).bind fun device =>
    if request.touchesConnection then some ⟨id, request.candidate device, r.second⟩ else none
  | .repinHostKey id hostKeyCandidateId => (r.devices.lookup id).map fun device =>
    ⟨id, device.candidate (some hostKeyCandidateId), r.first⟩
  | _ => none

/-- What the store holds of the candidate that is asked for. -/
def Ask.candidate (ask : Ask β) : Option (StoredCandidate β) :=
  ask.request.hostKeyCandidateId.bind ask.look.candidates

/-- The key was collected for the connection that is asked for, and has not expired. -/
def Ask.Rightful (ask : Ask β) (key : HostKey) : Prop :=
  ∃ c ∈ ask.look.collected, ask.request.hostKeyCandidateId = some c.id ∧
    c.binding = ask.request.toHostKeyCandidateBinding ∧ c.key = key ∧ ask.look.now < c.expiresAt

/-- A test connection of the call succeeded with the known hosts pinned to the key. -/
def Ask.Tested (ask : Ask β) (key : HostKey) (effects : List (Effect SessionCall RegistryRow)) :
    Prop :=
  ∃ driver parameters result, r.drivers ask.request.vendor = some driver ∧
    .enter parameters ∈ effects ∧ driver.testConnection parameters = .ok result ∧
    parameters.host = ask.request.managementAddress.1 ∧ parameters.port = ask.request.port.1 ∧
    parameters.knownHosts = knownHostsLine parameters.host parameters.port key.publicKey

/-- A device that presents a key lets in a test that is pinned to it. -/
def Answers (presented : String) (request : DeviceConnectionFields) (deviceId : Option Uuid) :
    Prop :=
  ∃ result, Connects r request deviceId
    (knownHostsLine request.managementAddress.1 request.port.1 presented) result

/-- A look finds the candidate that a request names. -/
def Finds (look : CandidateStore β) (request : DeviceConnectionFields) : Prop :=
  ∃ candidate, resolveRequested r look request = .ok candidate

/-- All is in order for an operation that pins, whatever key is pinned yet. -/
def InOrder (presented : String) : Operation → Prop
  | .create request =>
    r.findByEndpoint request.managementAddress request.port = none ∧
      Finds r r.first request.toDeviceConnectionFields ∧
      Finds r r.second request.toDeviceConnectionFields ∧
      Answers r presented request.toDeviceConnectionFields none ∧
      r.flushes = .ok () ∧ r.commits = .ok ()
  | .update id request => ∃ device, r.devices.lookup id = some device ∧
      ¬(request.consoleTransport.getD device.consoleTransport = .telnet ∧
        request.isLab.getD device.isLab = false) ∧
      (r.findByEndpoint (request.candidate device).managementAddress
        (request.candidate device).port).any (· ≠ id) = false ∧
      Finds r r.first (request.candidate device) ∧
      Finds r r.second (request.candidate device) ∧
      Answers r presented (request.candidate device) none ∧
      (∃ key, r.hostKeys id = some key) ∧ r.flushes = .ok () ∧ r.commits = .ok ()
  | .repinHostKey id hostKeyCandidateId => ∃ device, r.devices.lookup id = some device ∧
      device.isLab = true ∧ Finds r r.first (device.candidate (some hostKeyCandidateId)) ∧
      Answers r presented (device.candidate (some hostKeyCandidateId)) (some id) ∧
      (∃ key, r.hostKeys id = some key) ∧ r.flushes = .ok () ∧ r.commits = .ok ()
  | _ => True

/-- What an operation owes to the host keys. -/
structure KeepsTrust (presented : String) (operation : Operation) : Prop where
  /-- A key is pinned only behind a test with this very key, and only one that was collected for
  this connection. -/
  pinned : ∀ id key, .pin id key ∈ storedRows (perform r operation).effects →
    ∃ ask, asks r operation = some ask ∧ ask.deviceId = id ∧ ask.Rightful key ∧
      ask.Tested r key (perform r operation).effects
  /-- For a device that presents another key nothing is stored. -/
  unchanged : ∀ ask, asks r operation = some ask →
    (∀ candidate, ask.candidate = some candidate → candidate.key.publicKey ≠ presented) →
    storedRows (perform r operation).effects = []
  /-- A device that presents the candidate's key is not refused, whatever key is pinned yet. -/
  accepted : ∀ ask candidate, asks r operation = some ask → ask.candidate = some candidate →
    candidate.key.publicKey = presented → InOrder r presented operation →
    (perform r operation).result = .ok () ∧
      .pin ask.deviceId candidate.key ∈ storedRows (perform r operation).effects

/-- Where a device is pinned anew, its pinned key is the candidate's, if it presents one of
them and all else is in order. -/
def TestsCandidate (presented : String) : Operation → Prop
  | .repinHostKey id hostKeyCandidateId =>
    InOrder r presented (.repinHostKey id hostKeyCandidateId) →
    ∀ pinned candidate, r.hostKeys id = some pinned →
      r.first.candidates hostKeyCandidateId = some candidate →
      presented = pinned.publicKey ∨ presented = candidate.key.publicKey →
      pinned.publicKey = candidate.key.publicKey
  | _ => True

/-! ## The operations that pin -/

section Operations

variable {r}

/-- A test without a commit leaves the commit to its caller. -/
lemma all_testConnection (request : DeviceConnectionFields) (deviceId : Option Uuid) :
    (testConnection r request deviceId false).All fun e => e.entry ≠ some .commit :=
  (harmless_testConnection request deviceId false).mono fun _ h => (h.2 rfl).1

/-- A registration stores everything or nothing. -/
lemma storesWhole_create (request : DeviceCreate) : StoresWhole (create r request) := by
  unfold create
  split_ifs
  · exact storesWhole_raise _
  refine .behind (all_testConnection _ _) fun result => .behind (Run.all_ofExcept _) fun hostKey =>
    .behind (Run.all_ofExcept _) fun driver => .before ?_ fun _ => ⟨_, rfl⟩
  exact (StoresWhole.behind (all_record r _) fun _ => storesWhole_commit r).guarded

/-- An update stores everything or nothing. -/
lemma storesWhole_update (id : Uuid) (request : DeviceUpdate) :
    StoresWhole (update r id request) := by
  refine .behind (Run.all_ofExcept _) fun device => ?_
  dsimp only
  split_ifs
  · exact storesWhole_raise _
  · exact .behind (all_record r _) fun _ => .before (storesWhole_commit r).guarded fun _ => ⟨_, rfl⟩
  · exact storesWhole_raise _
  · exact .behind (all_testConnection _ _) fun _ => .behind (Run.all_ofExcept _) fun replacement =>
      .behind (Run.all_ofExcept _) fun driver => .behind (all_record r _) fun _ =>
      .behind (Run.all_ofExcept _) fun _ => .behind (all_record r _) fun _ =>
      .before (storesWhole_commit r).guarded fun _ => ⟨_, rfl⟩

/-- A re-pinning stores everything or nothing. -/
lemma storesWhole_repinHostKey (id hostKeyCandidateId : Uuid) :
    StoresWhole (repinHostKey r id hostKeyCandidateId) := by
  refine .behind (Run.all_ofExcept _) fun device => ?_
  split_ifs
  · exact storesWhole_raise _
  · exact .behind (Run.all_ofExcept _) fun replacement => .behind (all_testConnection _ _) fun _ =>
      .behind (Run.all_ofExcept _) fun _ => .behind (all_record r _) fun _ =>
      .before (storesWhole_commit r).unguarded fun _ => ⟨_, rfl⟩

omit [DecidableEq β] in
/-- A commit ends well when the database lets it. -/
lemma result_commit_eq_ok_iff {u : Unit} : r.commit.result = .ok u ↔ r.commits = .ok () := by
  unfold Registry.commit
  cases r.commits <;> simp

omit [DecidableEq β] in
/-- A commit that the database lets through is one. -/
lemma unguarded_commit (h : r.commits = .ok ()) : unguarded r.commit = .emit .commit := by
  rw [Registry.commit, h]
  rfl

omit [DecidableEq β] in
/-- So is a guarded one. -/
lemma guarded_commit {caught : StoreFault → Bool} (h : r.commits = .ok ()) :
    guarded caught r.commit = .emit .commit := by
  rw [Registry.commit, h]
  rfl

omit [DecidableEq β] in
/-- Rows that the database takes are written. -/
lemma record_eq (h : r.flushes = .ok ()) (rows : List RegistryRow) :
    r.record rows = .emitAll (rows.map .write) := by
  rw [Registry.record, h]
  rfl

omit [DecidableEq β] in
/-- Rows and their commit, where the database takes both. -/
lemma guarded_record_commit {caught : StoreFault → Bool} (hflushes : r.flushes = .ok ())
    (hcommits : r.commits = .ok ()) (rows : List RegistryRow) :
    guarded caught (do r.record rows; r.commit) = .emitAll (rows.map .write ++ [.commit]) := by
  rw [record_eq hflushes, Registry.commit, hcommits]
  rfl

omit [DecidableEq β] in
/-- Rows that the database takes are written where nothing is guarded. -/
lemma unguarded_record (h : r.flushes = .ok ()) (rows : List RegistryRow) :
    unguarded (r.record rows) = .emitAll (rows.map .write) := by
  rw [record_eq h]
  rfl

variable (r) in
/-- An operation that ends well on a candidate has tested, found the candidate, and pinned its key
between rows that pin nothing. -/
structure PinsTested (ask : Ask β) (deviceId : Option Uuid) (result : ConnectionTestResult)
    (hostKey : ResolvedHostKeyCandidate) (effects : List (Effect SessionCall RegistryRow)) :
    Prop where
  tested : (testConnection r ask.request deviceId false).result = .ok result
  resolved : resolveRequested r ask.look ask.request = .ok hostKey
  written : ∃ front back : List RegistryRow, effects =
    (testConnection r ask.request deviceId false).effects ++ (front.map .write ++
      .write (.pin ask.deviceId hostKey.key) :: (back.map .write ++
        [.commit, .deleteCandidate hostKey.id])) ∧
    ∀ row ∈ front ++ back, ∀ id key, row ≠ .pin id key

/-- A registration that ends well pins the key that it tested. -/
lemma create_pinsTested {request : DeviceCreate} {device : Device}
    (h : (create r request).result = .ok device) :
    ∃ result hostKey, PinsTested r ⟨r.newId, request.toDeviceConnectionFields, r.second⟩ none
      result hostKey (create r request).effects := by
  unfold create at h ⊢
  split_ifs at h ⊢
  · cases h
  obtain ⟨result, htest, h, heffects⟩ := Run.exists_of_result_bind_eq_ok h
  rw [heffects]
  obtain ⟨hostKey, hresolved, h, heffects⟩ := Run.exists_of_result_bind_eq_ok h
  rw [heffects]
  obtain ⟨driver, -, h, heffects⟩ := Run.exists_of_result_bind_eq_ok h
  rw [heffects]
  obtain ⟨_, hstored, -, heffects⟩ := Run.exists_of_result_bind_eq_ok h
  rw [heffects]
  obtain ⟨_, hflushes, hcommits⟩ :=
    Run.result_bind_eq_ok_iff.mp (result_guarded_eq_ok_iff.mp hstored)
  rw [guarded_record_commit hflushes (result_commit_eq_ok_iff.mp hcommits)]
  refine ⟨result, hostKey, htest, hresolved, [.device r.newId (request.device r result)],
    [.capabilities r.newId driver.name, .event "device.created" r.newId], ?_, by simp⟩
  simp [createdRows]

/-- An update of the connection that ends well pins the key that it tested. -/
lemma updateConnection_pinsTested {id : Uuid} {request : DeviceUpdate} {device device' : Device}
    (h : (updateConnection r id device request).result = .ok device') :
    ∃ result hostKey, PinsTested r ⟨id, request.candidate device, r.second⟩ none
      result hostKey (updateConnection r id device request).effects := by
  obtain ⟨result, htest, h, heffects⟩ := Run.exists_of_result_bind_eq_ok h
  rw [updateConnection, heffects]
  obtain ⟨hostKey, hresolved, h, heffects⟩ := Run.exists_of_result_bind_eq_ok h
  rw [heffects]
  obtain ⟨driver, -, h, heffects⟩ := Run.exists_of_result_bind_eq_ok h
  rw [heffects]
  obtain ⟨_, hflushes, h, heffects⟩ := Run.exists_of_result_bind_eq_ok h
  rw [heffects]
  obtain ⟨_, -, h, heffects⟩ := Run.exists_of_result_bind_eq_ok h
  rw [heffects]
  obtain ⟨_, -, h, heffects⟩ := Run.exists_of_result_bind_eq_ok h
  rw [heffects]
  obtain ⟨_, hcommits, -, heffects⟩ := Run.exists_of_result_bind_eq_ok h
  rw [heffects]
  have hflushes : r.flushes = .ok () := result_unguarded_eq_ok_iff.mp hflushes
  have hcommits : r.commits = .ok () :=
    result_commit_eq_ok_iff.mp (result_guarded_eq_ok_iff.mp hcommits)
  simp only [unguarded_record hflushes, guarded_commit hcommits]
  refine ⟨result, hostKey, htest, hresolved,
    [.device id (reached r (request.setattr device)), .capabilities id driver.name],
    [.event "device.updated" id], ?_, by simp⟩
  simp

/-- A re-pinning that ends well pins the candidate's key behind a test of the device. -/
lemma repinLabDevice_pinsTested {id hostKeyCandidateId : Uuid} {device device' : Device}
    (h : (repinLabDevice r id hostKeyCandidateId device).result = .ok device') :
    ∃ result hostKey, PinsTested r ⟨id, device.candidate (some hostKeyCandidateId), r.first⟩
      (some id) result hostKey (repinLabDevice r id hostKeyCandidateId device).effects := by
  obtain ⟨hostKey, hresolved, h, heffects⟩ := Run.exists_of_result_bind_eq_ok h
  rw [repinLabDevice, heffects]
  obtain ⟨result, htest, h, heffects⟩ := Run.exists_of_result_bind_eq_ok h
  rw [heffects]
  obtain ⟨_, -, h, heffects⟩ := Run.exists_of_result_bind_eq_ok h
  rw [heffects]
  obtain ⟨_, hflushes, h, heffects⟩ := Run.exists_of_result_bind_eq_ok h
  rw [heffects]
  obtain ⟨_, hcommits, -, heffects⟩ := Run.exists_of_result_bind_eq_ok h
  rw [heffects]
  have hflushes : r.flushes = .ok () := result_unguarded_eq_ok_iff.mp hflushes
  have hcommits : r.commits = .ok () :=
    result_commit_eq_ok_iff.mp (result_unguarded_eq_ok_iff.mp hcommits)
  simp only [unguarded_record hflushes, unguarded_commit hcommits]
  refine ⟨result, hostKey, htest, hresolved, [], [.event "device.host_key_repinned" id], ?_,
    by simp⟩
  simp

section PinsTested

variable {ask : Ask β} {deviceId : Option Uuid} {result : ConnectionTestResult}
  {hostKey : ResolvedHostKeyCandidate} {effects : List (Effect SessionCall RegistryRow)}

/-- The one key that is pinned is that of the candidate. -/
lemma PinsTested.mem_storedRows_iff (h : PinsTested r ask deviceId result hostKey effects)
    {id : Uuid} {key : HostKey} :
    .pin id key ∈ storedRows effects ↔ id = ask.deviceId ∧ key = hostKey.key := by
  obtain ⟨front, back, rfl, hother⟩ := h.written
  constructor
  · intro hstored
    obtain ⟨e, he, hwritten⟩ := exists_written_of_mem_storedRows hstored
    simp only [List.mem_append, List.mem_cons, List.mem_map, List.not_mem_nil, or_false] at he
    rcases he with he | ⟨row, hrow, rfl⟩ | rfl | ⟨row, hrow, rfl⟩ | rfl | rfl
    · exact absurd hwritten ((harmless_testConnection _ _ _ e he).1 id key)
    · exact absurd (Option.some.inj hwritten) (hother row (List.mem_append_left _ hrow) id key)
    · injection Option.some.inj hwritten with hid hkey
      exact ⟨hid.symm, hkey.symm⟩
    · exact absurd (Option.some.inj hwritten) (hother row (List.mem_append_right _ hrow) id key)
    · cases hwritten
    · cases hwritten
  · rintro ⟨rfl, rfl⟩
    rw [← List.append_assoc]
    refine mem_storedRows fun e he => ?_
    obtain ⟨row, -, rfl⟩ := List.mem_map.mp he
    simp [Effect.entry]

/-- The candidate that is found is what the store holds of it. -/
lemma exists_candidate (h : resolveRequested r ask.look ask.request = .ok hostKey) :
    ∃ candidate, ask.candidate = some candidate ∧ candidate.key = hostKey.key := by
  obtain ⟨id, stored, hid, hstored, -, -, rfl⟩ := resolveRequested_eq_ok_iff.mp h
  exact ⟨stored, by rw [Ask.candidate, hid]; exact hstored, rfl⟩

/-- A candidate that is found was collected for the connection that is asked for. -/
lemma PinsTested.rightful (h : PinsTested r ask deviceId result hostKey effects)
    (hdigest : Function.Injective r.candidateDigest)
    (hlook : Collected r.candidateDigest ask.look) : ask.Rightful hostKey.key := by
  obtain ⟨id, stored, hid, hstored, hlater, hbinding, rfl⟩ :=
    resolveRequested_eq_ok_iff.mp h.resolved
  obtain ⟨c, hc, rfl, rfl⟩ := hlook id stored hstored
  exact ⟨c, hc, hid, hdigest hbinding, rfl, hlater⟩

/-- The session of the test was pinned to the known hosts of the test. -/
lemma PinsTested.tested_of_pinned (h : PinsTested r ask deviceId result hostKey effects)
    (hpinned : pinnedKnownHosts r.toDeviceService r.first.toMoment
      (testCall ask.request deviceId false) = .ok (knownHostsLine
        ask.request.managementAddress.1 ask.request.port.1 hostKey.key.publicKey)) :
    ask.Tested r hostKey.key effects := by
  obtain ⟨driver, parameters, hdriver, henter, htest, hknown, hhost, hport⟩ :=
    exists_of_test h.tested
  obtain ⟨front, back, rfl, -⟩ := h.written
  refine ⟨driver, parameters, result, hdriver, List.mem_append_left _ henter, htest, hhost, hport,
    ?_⟩
  rw [hhost, hport, Except.ok.inj (hknown.symm.trans hpinned)]

omit [DecidableEq β] in
/-- The second look sees collected candidates too. -/
lemma second_collected : Collected r.candidateDigest r.second := by
  obtain ⟨actions, hactions⟩ := r.second_later
  exact r.first_collected.after hactions

/-- Two looks that find the candidate find the same. -/
lemma resolved_alike {request : DeviceConnectionFields} {hostKey' : ResolvedHostKeyCandidate}
    (hfirst : resolveRequested r r.first request = .ok hostKey)
    (hsecond : resolveRequested r r.second request = .ok hostKey') : hostKey = hostKey' := by
  obtain ⟨id, stored, hid, hstored, -, -, rfl⟩ := resolveRequested_eq_ok_iff.mp hfirst
  obtain ⟨id', stored', hid', hstored', -, -, rfl⟩ := resolveRequested_eq_ok_iff.mp hsecond
  obtain rfl := Option.some.inj (hid.symm.trans hid')
  obtain ⟨actions, hactions⟩ := r.second_later
  obtain ⟨c, hc, hcid, -⟩ := r.first_collected id stored hstored
  rcases candidates_of_after hactions ⟨c, hc, hcid⟩ with hnone | heq
  · rw [hnone] at hstored'
    cases hstored'
  · rw [heq, hstored] at hstored'
    rw [Option.some.inj hstored']

/-- The test of an endpoint is pinned to the key of the candidate. -/
lemma PinsTested.endpoint (h : PinsTested r ask none result hostKey effects)
    (hlook : ask.look = r.second) :
    pinnedKnownHosts r.toDeviceService r.first.toMoment (testCall ask.request none false) =
      .ok (knownHostsLine ask.request.managementAddress.1 ask.request.port.1
        hostKey.key.publicKey) := by
  obtain ⟨knownHosts, hpinned, -⟩ := result_testConnection_eq_ok_iff.mp h.tested
  obtain ⟨hostKey', hfirst, hknown⟩ := pinnedKnownHosts_endpoint.mp hpinned
  obtain rfl := resolved_alike hfirst (hlook ▸ h.resolved)
  obtain ⟨id, stored, -, -, -, -, rfl⟩ := resolveRequested_eq_ok_iff.mp hfirst
  rw [hpinned, ← hknown]

/-- The endpoint that was tested presents the key of the candidate. -/
lemma PinsTested.presented {presented : String} (h : PinsTested r ask none result hostKey effects)
    (hlook : ask.look = r.second) (hstrict : StrictlyChecks r presented) :
    hostKey.key.publicKey = presented :=
  knownHostsLine_injective _ _ (Except.ok.inj
    ((h.endpoint hlook).symm.trans (pinned_presented hstrict h.tested)))

/-- An endpoint that presents the key of the candidate lets the test in. -/
lemma result_test_endpoint {presented : String} {request : DeviceConnectionFields}
    (hfirst : resolveRequested r r.first request = .ok hostKey)
    (hpresented : hostKey.key.publicKey = presented)
    (hconnects : Connects r request none
      (knownHostsLine request.managementAddress.1 request.port.1 presented) result) :
    (testConnection r request none false).result = .ok result := by
  refine result_testConnection_eq_ok_iff.mpr
    ⟨_, pinnedKnownHosts_endpoint.mpr ⟨hostKey, hfirst, ?_⟩, hconnects⟩
  obtain ⟨id, stored, -, -, -, -, rfl⟩ := resolveRequested_eq_ok_iff.mp hfirst
  rw [← hpresented]

/-- A device that is tested presents the key that is pinned yet. -/
lemma PinsTested.device_presented {presented : String} {id : Uuid} {key : HostKey}
    (h : PinsTested r ask (some id) result hostKey effects) (hkey : r.hostKeys id = some key)
    (hstrict : StrictlyChecks r presented) : key.publicKey = presented :=
  knownHostsLine_injective _ _ (Except.ok.inj
    ((pinnedKnownHosts_device.mpr ⟨key, hkey, rfl⟩).symm.trans
      (pinned_presented hstrict h.tested)))

end PinsTested

/-! ## When an operation ends well -/

/-- A registration ends well when the endpoint is free, the test and the candidate are in order,
and the database takes it. -/
lemma exists_create {request : DeviceCreate} {result : ConnectionTestResult}
    {hostKey : ResolvedHostKeyCandidate} {driver : Driver}
    (hfree : r.findByEndpoint request.managementAddress request.port = none)
    (htest : (testConnection r request.toDeviceConnectionFields none false).result = .ok result)
    (hfound : resolveRequested r r.second request.toDeviceConnectionFields = .ok hostKey)
    (hdriver : r.drivers request.vendor = some driver) (hflushes : r.flushes = .ok ())
    (hcommits : r.commits = .ok ()) : ∃ device, (create r request).result = .ok device := by
  rw [create, if_neg (by simp [hfree])]
  refine ⟨request.device r result, Run.result_bind_eq_ok_iff.mpr ⟨result, htest, ?_⟩⟩
  refine Run.result_bind_eq_ok_iff.mpr ⟨hostKey, hfound, ?_⟩
  refine Run.result_bind_eq_ok_iff.mpr ⟨driver, driver_eq_ok_iff.mpr hdriver, ?_⟩
  simp only [guarded_record_commit hflushes hcommits]
  rfl

/-- An update of the connection ends well when the test and the candidate are in order, a key is
pinned, and the database takes it. -/
lemma exists_updateConnection {id : Uuid} {device : Device} {request : DeviceUpdate}
    {result : ConnectionTestResult} {hostKey : ResolvedHostKeyCandidate} {driver : Driver}
    {key : HostKey}
    (htest : (testConnection r (request.candidate device) none false).result = .ok result)
    (hfound : resolveRequested r r.second (request.candidate device) = .ok hostKey)
    (hdriver : r.drivers (request.candidate device).vendor = some driver)
    (hkey : r.hostKeys id = some key) (hflushes : r.flushes = .ok ())
    (hcommits : r.commits = .ok ()) :
    ∃ device', (updateConnection r id device request).result = .ok device' := by
  refine ⟨reached r (request.setattr device), Run.result_bind_eq_ok_iff.mpr ⟨result, htest, ?_⟩⟩
  refine Run.result_bind_eq_ok_iff.mpr ⟨hostKey, hfound, ?_⟩
  refine Run.result_bind_eq_ok_iff.mpr ⟨driver, driver_eq_ok_iff.mpr hdriver, ?_⟩
  simp only [unguarded_record hflushes, guarded_commit hcommits]
  exact Run.result_bind_eq_ok_iff.mpr ⟨(), rfl, Run.result_bind_eq_ok_iff.mpr
    ⟨key, require_eq_ok_iff.mpr hkey, rfl⟩⟩

/-- A re-pinning ends well when the test and the candidate are in order, a key is pinned, and the
database takes it. -/
lemma exists_repinLabDevice {id hostKeyCandidateId : Uuid} {device : Device}
    {result : ConnectionTestResult} {hostKey : ResolvedHostKeyCandidate} {key : HostKey}
    (htest : (testConnection r (device.candidate (some hostKeyCandidateId)) (some id)
      false).result = .ok result)
    (hfound : resolveRequested r r.first (device.candidate (some hostKeyCandidateId)) =
      .ok hostKey)
    (hkey : r.hostKeys id = some key) (hflushes : r.flushes = .ok ())
    (hcommits : r.commits = .ok ()) :
    ∃ device', (repinLabDevice r id hostKeyCandidateId device).result = .ok device' := by
  refine ⟨reached r device, Run.result_bind_eq_ok_iff.mpr ⟨hostKey, hfound, ?_⟩⟩
  refine Run.result_bind_eq_ok_iff.mpr ⟨result, htest, ?_⟩
  refine Run.result_bind_eq_ok_iff.mpr ⟨key, require_eq_ok_iff.mpr hkey, ?_⟩
  simp only [unguarded_record hflushes, unguarded_commit hcommits]
  rfl

end Operations

/-! ## Which operations keep the trust -/

section KeepsTrust

variable {r} {presented : String}

/-- A run whose value is not needed does the same. -/
lemma effects_discard {α : Type} (x : TrustRun α) :
    (do let _ ← x; pure () : TrustRun Unit).effects = x.effects := by
  rw [Run.effects_bind]
  cases x.result <;> simp

/-- It ends well when the run does. -/
lemma result_discard_eq_ok_iff {α : Type} {x : TrustRun α} :
    (do let _ ← x; pure () : TrustRun Unit).result = .ok () ↔ ∃ a, x.result = .ok a := by
  rw [Run.result_bind_eq_ok_iff]
  exact exists_congr fun a => and_iff_left rfl

/-- What is stored of a run that stores everything or nothing is stored by one that ends well. -/
lemma StoresWhole.exists_of_mem_storedRows {α : Type} {x : TrustRun α} {row : RegistryRow}
    (h : StoresWhole x) (hrow : row ∈ storedRows x.effects) : ∃ a, x.result = .ok a := by
  refine h.resolve_right fun hopen => ?_
  rw [storedRows_eq_nil hopen] at hrow
  cases hrow

/-- It stores nothing when it does not end well. -/
lemma StoresWhole.storedRows_eq_nil {α : Type} {x : TrustRun α} (h : StoresWhole x)
    (hx : ∀ a, x.result ≠ .ok a) : storedRows x.effects = [] :=
  Trust.storedRows_eq_nil (h.resolve_left fun ⟨a, ha⟩ => hx a ha)

/-- What harmless effects store pins nothing. -/
lemma not_pin_mem_storedRows {commit : Bool} {effects : List (Effect SessionCall RegistryRow)}
    (h : ∀ e ∈ effects, Harmless commit e) (id : Uuid) (key : HostKey) :
    .pin id key ∉ storedRows effects := by
  intro hpin
  obtain ⟨e, he, hwritten⟩ := exists_written_of_mem_storedRows hpin
  exact (h e he).1 id key hwritten

/-- An operation that asks for no candidate and pins nothing keeps the trust. -/
lemma keepsTrust_of_harmless {operation : Operation} (hasks : asks r operation = none)
    (h : (perform r operation).All (Harmless true)) : KeepsTrust r presented operation := by
  refine ⟨fun id key hpin => absurd hpin (not_pin_mem_storedRows h id key), ?_, ?_⟩
  · intro ask hask
    rw [hasks] at hask
    cases hask
  · intro ask candidate hask
    rw [hasks] at hask
    cases hask

/-- An operation keeps the trust when it tests an endpoint by the candidate, stores everything or
nothing, and ends well when all is in order and the test does. -/
lemma keepsTrust_of_endpoint {α : Type} {x : TrustRun α} {operation : Operation} {ask : Ask β}
    (hdigest : Function.Injective r.candidateDigest) (hstrict : StrictlyChecks r presented)
    (hperform : perform r operation = do let _ ← x; pure ())
    (hasks : asks r operation = some ask) (hlook : ask.look = r.second) (hwhole : StoresWhole x)
    (hpins : ∀ a, x.result = .ok a →
      ∃ result hostKey, PinsTested r ask none result hostKey x.effects)
    (horder : InOrder r presented operation → Finds r r.first ask.request ∧
      Finds r r.second ask.request ∧ Answers r presented ask.request none ∧
      ∀ result, (testConnection r ask.request none false).result = .ok result →
        ∃ a, x.result = .ok a) :
    KeepsTrust r presented operation := by
  refine ⟨fun id key hpin => ?_, fun _ hask hother => ?_, ?_⟩
  · rw [hperform, effects_discard] at hpin ⊢
    obtain ⟨a, hok⟩ := hwhole.exists_of_mem_storedRows hpin
    obtain ⟨result, hostKey, h⟩ := hpins a hok
    obtain ⟨rfl, rfl⟩ := h.mem_storedRows_iff.mp hpin
    exact ⟨ask, hasks, rfl, h.rightful hdigest (hlook ▸ second_collected),
      h.tested_of_pinned (h.endpoint hlook)⟩
  · obtain rfl := Option.some.inj (hasks.symm.trans hask)
    rw [hperform, effects_discard]
    refine hwhole.storedRows_eq_nil fun a hok => ?_
    obtain ⟨result, hostKey, h⟩ := hpins a hok
    obtain ⟨candidate, hcandidate, hkey⟩ := exists_candidate h.resolved
    exact hother candidate hcandidate (hkey ▸ h.presented hlook hstrict)
  · intro _ candidate hask hcandidate hpresented hinOrder
    obtain rfl := Option.some.inj (hasks.symm.trans hask)
    obtain ⟨⟨hostKey, hfirst⟩, ⟨_, hsecond⟩, ⟨result, hconnects⟩, hends⟩ := horder hinOrder
    obtain rfl := resolved_alike hfirst hsecond
    obtain ⟨_, hcandidate', hkey⟩ := exists_candidate (hlook ▸ hsecond)
    obtain rfl := Option.some.inj (hcandidate.symm.trans hcandidate')
    obtain ⟨a, hok⟩ := hends result (result_test_endpoint hfirst (hkey ▸ hpresented) hconnects)
    obtain ⟨_, hostKey', h⟩ := hpins a hok
    rw [hperform, effects_discard, result_discard_eq_ok_iff]
    refine ⟨⟨a, hok⟩, h.mem_storedRows_iff.mpr ⟨rfl, ?_⟩⟩
    rw [hkey, Except.ok.inj (hsecond.symm.trans (hlook ▸ h.resolved))]

/-- A registration keeps the trust. -/
lemma keepsTrust_create (hdigest : Function.Injective r.candidateDigest)
    (hstrict : StrictlyChecks r presented) (request : DeviceCreate) :
    KeepsTrust r presented (.create request) := by
  refine keepsTrust_of_endpoint hdigest hstrict rfl rfl rfl (storesWhole_create request)
    (fun device hok => create_pinsTested hok) ?_
  rintro ⟨hfree, hfirst, hsecond, hanswers, hflushes, hcommits⟩
  refine ⟨hfirst, hsecond, hanswers, fun result htest => ?_⟩
  obtain ⟨hostKey, hfound⟩ := hsecond
  obtain ⟨_, hconnects⟩ := hanswers
  obtain ⟨-, -, -, driver, -, -, -, hdriver, -⟩ := hconnects.answers
  exact exists_create hfree htest hfound hdriver hflushes hcommits

/-- An update that ends well has left the connection, or tested it. -/
lemma update_cases {id : Uuid} {request : DeviceUpdate} {device' : Device}
    (h : (update r id request).result = .ok device') :
    ∃ device, r.devices.lookup id = some device ∧
      (request.touchesConnection = false ∧
          update r id request = updateFields r id device request ∨
        request.touchesConnection = true ∧
          update r id request = updateConnection r id device request) := by
  obtain ⟨device, hdevice, h⟩ := Run.result_bind_eq_ok_iff.mp h
  have hdevice : r.device id = .ok device := hdevice
  refine ⟨device, device_eq_ok_iff.mp hdevice, ?_⟩
  rw [update, hdevice, Run.ofExcept_ok_bind]
  dsimp only at h ⊢
  split_ifs at h ⊢ with htelnet htouches hconflict
  · cases h
  · exact Or.inl ⟨htouches, rfl⟩
  · cases h
  · exact Or.inr ⟨Bool.not_eq_false _ ▸ htouches, rfl⟩

omit [DecidableEq β] in
/-- An update of other fields pins nothing. -/
lemma harmless_updateFields (id : Uuid) (device : Device) (request : DeviceUpdate) :
    (updateFields r id device request).All (Harmless true) := by
  exact Run.All.bind (harmless_record (by simp)) fun _ =>
    Run.All.bind (harmless_guarded harmless_registryCommit) fun _ => Run.all_pure _

/-- An update keeps the trust. -/
lemma keepsTrust_update (hdigest : Function.Injective r.candidateDigest)
    (hstrict : StrictlyChecks r presented) (id : Uuid) (request : DeviceUpdate) :
    KeepsTrust r presented (.update id request) := by
  cases hdevice : r.devices.lookup id with
  | none =>
    refine keepsTrust_of_harmless (by rw [asks, hdevice, Option.bind_none]) ?_
    have hmissing : r.device id = .error (.app NotFoundError) := by
      rw [Registry.device, hdevice]
      rfl
    rw [perform, update, hmissing]
    exact Run.all_raise _
  | some device =>
    have hfound : r.device id = .ok device := device_eq_ok_iff.mpr hdevice
    cases htouches : request.touchesConnection with
    | false =>
      refine keepsTrust_of_harmless (by simp [asks, hdevice, htouches]) ?_
      rw [perform, update, hfound, Run.ofExcept_ok_bind]
      refine Run.All.bind ?_ fun _ => Run.all_pure _
      dsimp only
      rw [if_pos htouches]
      split_ifs
      · exact Run.all_raise _
      · exact harmless_updateFields id device request
    | true =>
      have hasks : asks r (.update id request) =
          some ⟨id, request.candidate device, r.second⟩ := by simp [asks, hdevice, htouches]
      refine keepsTrust_of_endpoint hdigest hstrict rfl hasks rfl (storesWhole_update id request)
        (fun device' hok => ?_) ?_
      · obtain ⟨_, hdevice', ⟨hnot, -⟩ | ⟨-, heq⟩⟩ := update_cases hok
        · simp [htouches] at hnot
        · obtain rfl := Option.some.inj (hdevice.symm.trans hdevice')
          rw [heq] at hok ⊢
          exact updateConnection_pinsTested hok
      · rintro ⟨_, hdevice', htelnet, hfree, hfirst, hsecond, hanswers, ⟨key, hkey⟩, hflushes,
          hcommits⟩
        obtain rfl := Option.some.inj (hdevice.symm.trans hdevice')
        refine ⟨hfirst, hsecond, hanswers, fun result htest => ?_⟩
        obtain ⟨hostKey, hresolved⟩ := hsecond
        obtain ⟨_, hconnects⟩ := hanswers
        obtain ⟨-, -, -, driver, -, -, -, hdriver, -⟩ := hconnects.answers
        rw [update, hfound, Run.ofExcept_ok_bind, if_neg htelnet, if_neg (by simp [htouches]),
          if_neg (by simpa using hfree)]
        exact exists_updateConnection htest hresolved hdriver hkey hflushes hcommits

/-- A re-pinning that ends well was asked for a lab device. -/
lemma repinHostKey_cases {id hostKeyCandidateId : Uuid} {device' : Device}
    (h : (repinHostKey r id hostKeyCandidateId).result = .ok device') :
    ∃ device, r.devices.lookup id = some device ∧ device.isLab = true ∧
      repinHostKey r id hostKeyCandidateId = repinLabDevice r id hostKeyCandidateId device := by
  obtain ⟨device, hdevice, h⟩ := Run.result_bind_eq_ok_iff.mp h
  have hdevice : r.device id = .ok device := hdevice
  refine ⟨device, device_eq_ok_iff.mp hdevice, ?_⟩
  rw [repinHostKey, hdevice, Run.ofExcept_ok_bind]
  split_ifs at h ⊢ with hlab
  · cases h
  · exact ⟨Bool.not_eq_false _ ▸ hlab, rfl⟩

/-- A re-pinning that ends well was in order, and the device presents the key pinned before. -/
lemma inOrder_of_repinLabDevice (hstrict : StrictlyChecks r presented)
    {id hostKeyCandidateId : Uuid} {device device' : Device}
    (hdevice : r.devices.lookup id = some device) (hlab : device.isLab = true)
    (h : (repinLabDevice r id hostKeyCandidateId device).result = .ok device') :
    InOrder r presented (.repinHostKey id hostKeyCandidateId) ∧
      ∃ key, r.hostKeys id = some key ∧ key.publicKey = presented := by
  obtain ⟨result, hostKey, hpins⟩ := repinLabDevice_pinsTested h
  obtain ⟨_, hfound, h⟩ := Run.result_bind_eq_ok_iff.mp h
  obtain ⟨_, htest, h⟩ := Run.result_bind_eq_ok_iff.mp h
  obtain ⟨key, hkey, h⟩ := Run.result_bind_eq_ok_iff.mp h
  obtain ⟨_, hflushes, h⟩ := Run.result_bind_eq_ok_iff.mp h
  obtain ⟨_, hcommits, -⟩ := Run.result_bind_eq_ok_iff.mp h
  have hkey : r.hostKeys id = some key := require_eq_ok_iff.mp hkey
  have hpresented := hpins.device_presented hkey hstrict
  obtain ⟨knownHosts, hpinned, hconnects⟩ := result_testConnection_eq_ok_iff.mp htest
  obtain rfl := Except.ok.inj ((pinned_presented hstrict htest).symm.trans hpinned)
  exact ⟨⟨device, hdevice, hlab, ⟨_, hfound⟩, ⟨_, hconnects⟩, ⟨key, hkey⟩,
    result_unguarded_eq_ok_iff.mp hflushes,
    result_commit_eq_ok_iff.mp (result_unguarded_eq_ok_iff.mp hcommits)⟩, key, hkey, hpresented⟩

/-- A re-pinning in order ends well for a device that presents the key pinned before. -/
lemma exists_repinHostKey {id hostKeyCandidateId : Uuid} {key : HostKey}
    (h : InOrder r presented (.repinHostKey id hostKeyCandidateId))
    (hkey : r.hostKeys id = some key) (hpresented : key.publicKey = presented) :
    ∃ device', (repinHostKey r id hostKeyCandidateId).result = .ok device' := by
  obtain ⟨device, hdevice, hlab, ⟨hostKey, hfound⟩, ⟨result, hconnects⟩, -, hflushes, hcommits⟩ := h
  have htest : (testConnection r (device.candidate (some hostKeyCandidateId)) (some id)
      false).result = .ok result :=
    result_testConnection_eq_ok_iff.mpr
      ⟨_, pinnedKnownHosts_device.mpr ⟨key, hkey, by rw [hpresented]⟩, hconnects⟩
  rw [repinHostKey, device_eq_ok_iff.mpr hdevice, Run.ofExcept_ok_bind, if_neg (by simp [hlab])]
  exact exists_repinLabDevice htest hfound hkey hflushes hcommits

/-- What a re-pinning that ends well has done, and what it went by. -/
lemma repinHostKey_pinsTested (hstrict : StrictlyChecks r presented)
    {id hostKeyCandidateId : Uuid} {device' : Device}
    (hok : (repinHostKey r id hostKeyCandidateId).result = .ok device') :
    ∃ device result hostKey key, r.devices.lookup id = some device ∧
      PinsTested r ⟨id, device.candidate (some hostKeyCandidateId), r.first⟩ (some id) result
        hostKey (repinHostKey r id hostKeyCandidateId).effects ∧
      InOrder r presented (.repinHostKey id hostKeyCandidateId) ∧
      r.hostKeys id = some key ∧ key.publicKey = presented := by
  obtain ⟨device, hdevice, hlab, heq⟩ := repinHostKey_cases hok
  rw [heq] at hok ⊢
  obtain ⟨result, hostKey, h⟩ := repinLabDevice_pinsTested hok
  obtain ⟨horder, key, hkey, hpresented⟩ := inOrder_of_repinLabDevice hstrict hdevice hlab hok
  exact ⟨device, result, hostKey, key, hdevice, h, horder, hkey, hpresented⟩

omit [DecidableEq β] in
/-- A re-pinning asks for its candidate, as the first look finds it. -/
lemma asks_repinHostKey {id hostKeyCandidateId : Uuid} {device : Device}
    (hdevice : r.devices.lookup id = some device) :
    asks r (.repinHostKey id hostKeyCandidateId) =
      some ⟨id, device.candidate (some hostKeyCandidateId), r.first⟩ := by
  rw [asks, hdevice, Option.map_some]

/-- A re-pinning that keeps the trust comes to a test of the candidate. -/
lemma KeepsTrust.testsCandidate (hstrict : StrictlyChecks r presented)
    {id hostKeyCandidateId : Uuid}
    (htrust : KeepsTrust r presented (.repinHostKey id hostKeyCandidateId)) :
    TestsCandidate r presented (.repinHostKey id hostKeyCandidateId) := by
  intro horder pinned candidate hpinned hcandidate hpresented
  rcases hpresented with hpresented | hpresented
  · -- The device presents the key pinned before: the candidate is pinned untested.
    obtain ⟨device', hok⟩ := exists_repinHostKey horder hpinned hpresented.symm
    obtain ⟨device, result, hostKey, key, -, h, -⟩ := repinHostKey_pinsTested hstrict hok
    obtain ⟨_, hcandidate', hkey⟩ := exists_candidate h.resolved
    obtain rfl := Option.some.inj (hcandidate.symm.trans hcandidate')
    obtain ⟨ask, -, -, -, driver, parameters, result', hdriver, -, htest, -, -, hknown⟩ :=
      htrust.pinned id hostKey.key (by
        rw [perform, effects_discard]
        exact h.mem_storedRows_iff.mpr ⟨rfl, rfl⟩)
    have hsame := knownHostsLine_injective _ _
      (hknown.symm.trans (hstrict _ driver parameters result' hdriver htest))
    rw [hkey, hsame, hpresented]
  · -- The device presents the candidate's key: it is not refused only if this is pinned.
    obtain ⟨device, hdevice, -⟩ :=
      show ∃ device, r.devices.lookup id = some device ∧ _ from horder
    obtain ⟨hok, -⟩ :=
      htrust.accepted _ candidate (asks_repinHostKey hdevice) hcandidate hpresented.symm horder
    rw [perform, result_discard_eq_ok_iff] at hok
    obtain ⟨device', hok⟩ := hok
    obtain ⟨-, -, -, key, -, -, -, hkey, hkey'⟩ := repinHostKey_pinsTested hstrict hok
    obtain rfl := Option.some.inj (hpinned.symm.trans hkey)
    rw [hkey', hpresented]

/-- A re-pinning that comes to a test of the candidate has tested the candidate's key when it ends
well, under the name of the other. -/
lemma TestsCandidate.tested (hstrict : StrictlyChecks r presented) {id hostKeyCandidateId : Uuid}
    (htests : TestsCandidate r presented (.repinHostKey id hostKeyCandidateId)) {device' : Device}
    (hok : (repinHostKey r id hostKeyCandidateId).result = .ok device') :
    ∃ device result hostKey, r.devices.lookup id = some device ∧
      PinsTested r ⟨id, device.candidate (some hostKeyCandidateId), r.first⟩ (some id) result
        hostKey (repinHostKey r id hostKeyCandidateId).effects ∧
      hostKey.key.publicKey = presented ∧
      ∃ key, r.hostKeys id = some key ∧ key.publicKey = hostKey.key.publicKey := by
  obtain ⟨device, result, hostKey, key, hdevice, h, horder, hkey, hpresented⟩ :=
    repinHostKey_pinsTested hstrict hok
  obtain ⟨candidate, hcandidate, hcandidate'⟩ := exists_candidate h.resolved
  have hsame := htests horder key candidate hkey hcandidate (Or.inl hpresented.symm)
  rw [hcandidate'] at hsame
  exact ⟨device, result, hostKey, hdevice, h, hsame.symm.trans hpresented, key, hkey, hsame⟩

/-- A re-pinning that comes to a test of the candidate keeps the trust. -/
lemma TestsCandidate.keepsTrust (hdigest : Function.Injective r.candidateDigest)
    (hstrict : StrictlyChecks r presented) {id hostKeyCandidateId : Uuid}
    (htests : TestsCandidate r presented (.repinHostKey id hostKeyCandidateId)) :
    KeepsTrust r presented (.repinHostKey id hostKeyCandidateId) := by
  have hwhole := @storesWhole_repinHostKey _ _ r id hostKeyCandidateId
  refine ⟨fun id' key' hpin => ?_, fun ask hask hother => ?_, ?_⟩
  · rw [perform, effects_discard] at hpin ⊢
    obtain ⟨device', hok⟩ := hwhole.exists_of_mem_storedRows hpin
    obtain ⟨device, result, hostKey, hdevice, h, -, key, hkey, hsame⟩ := htests.tested hstrict hok
    obtain ⟨rfl, rfl⟩ := h.mem_storedRows_iff.mp hpin
    refine ⟨_, asks_repinHostKey hdevice, rfl, h.rightful hdigest r.first_collected,
      h.tested_of_pinned ?_⟩
    exact pinnedKnownHosts_device.mpr ⟨key, hkey, by rw [hsame]⟩
  · rw [perform, effects_discard]
    refine hwhole.storedRows_eq_nil fun device' hok => ?_
    obtain ⟨device, result, hostKey, hdevice, h, hpresented, -⟩ := htests.tested hstrict hok
    obtain rfl := Option.some.inj ((asks_repinHostKey hdevice).symm.trans hask)
    obtain ⟨candidate, hcandidate, hkey⟩ := exists_candidate h.resolved
    exact hother candidate hcandidate (by rw [hkey, hpresented])
  · intro ask candidate hask hcandidate hpresented horder
    obtain ⟨device, hdevice, -, -, -, ⟨key, hkey⟩, -⟩ :=
      show ∃ device, r.devices.lookup id = some device ∧ _ ∧ _ ∧ _ ∧
        (∃ key, r.hostKeys id = some key) ∧ _ from horder
    obtain rfl := Option.some.inj ((asks_repinHostKey hdevice).symm.trans hask)
    have hsame := htests horder key candidate hkey hcandidate (Or.inr hpresented.symm)
    obtain ⟨device', hok⟩ := exists_repinHostKey horder hkey (hsame.trans hpresented)
    obtain ⟨_, result, hostKey, hdevice', h, -⟩ := htests.tested hstrict hok
    obtain rfl := Option.some.inj (hdevice.symm.trans hdevice')
    obtain ⟨_, hcandidate', hkey'⟩ := exists_candidate h.resolved
    obtain rfl := Option.some.inj (hcandidate.symm.trans hcandidate')
    rw [perform, effects_discard, result_discard_eq_ok_iff, hkey']
    exact ⟨⟨device', hok⟩, h.mem_storedRows_iff.mpr ⟨rfl, rfl⟩⟩

/-- An operation that asks for no candidate writes no pin. -/
lemma harmless_perform {operation : Operation} (h : ∀ request, operation ≠ .create request)
    (hupdate : ∀ id request, operation ≠ .update id request)
    (hrepin : ∀ id hostKeyCandidateId, operation ≠ .repinHostKey id hostKeyCandidateId) :
    (perform r operation).All (Harmless true) := by
  have hread (driver : Driver) (call : SessionCall) (parameters : ConnectionParameters) :
      (readBody driver call parameters).All fun e => Harmless true (.body e) :=
    fun e he => List.mem_singleton.mp he ▸ harmless_driver true call
  have hstored {rows : List RegistryRow} (hrows : ∀ row ∈ rows, ∀ id key, row ≠ .pin id key) :
      (do unguarded (r.record rows); unguarded r.commit : TrustRun Unit).All (Harmless true) :=
    Run.All.bind (harmless_record hrows) fun _ => harmless_registryCommit
  cases operation with
  | create request => exact absurd rfl (h request)
  | update id request => exact absurd rfl (hupdate id request)
  | repinHostKey id hostKeyCandidateId => exact absurd rfl (hrepin id hostKeyCandidateId)
  | delete id =>
    have hrecord : (r.record [.deleted id]).All (Harmless true) :=
      fun e he => List.mem_singleton.mp he ▸ harmless_write (by simp)
    exact Run.All.bind (Run.all_ofExcept _) fun _ =>
      harmless_guarded (hrecord.bind fun _ => harmless_registryCommit)
  | testConnection request =>
    exact Run.All.bind (harmless_testConnection request none true) fun _ => Run.all_pure _
  | testRegisteredDevice id =>
    exact Run.All.bind (Run.All.bind (Run.all_ofExcept _) fun device =>
      harmless_testConnection _ (some id) true) fun _ => Run.all_pure _
  | refresh id =>
    refine Run.All.bind (Run.all_ofExcept _) fun device =>
      Run.All.bind (harmless_admittedConnection (fun _ => rfl) fun parameters => ?_)
        fun driver => hstored (by simp)
    refine Run.All.bind (Run.all_ofExcept _) fun driver => Run.All.bind ?_ fun _ => Run.all_pure _
    exact Run.All.orElse (hread driver _ parameters)
      (harmless_reraise fun error => harmless_markUnreachable id error _ true)
  | readRouting id =>
    refine Run.All.bind (Run.all_ofExcept _) fun device =>
      harmless_admittedConnection (fun _ => rfl) fun parameters => ?_
    exact Run.All.bind (Run.all_ofExcept _) fun driver =>
      Run.All.bind (hread driver _ parameters) fun _ => hread driver _ parameters
  | runDiagnostic id action target =>
    refine Run.All.bind (Run.all_ofExcept _) fun device =>
      Run.All.bind (harmless_admittedConnection (fun _ => rfl) fun parameters => ?_)
        fun driver => hstored (by simp)
    exact Run.All.bind (Run.all_ofExcept _) fun driver =>
      Run.All.bind (hread driver _ parameters) fun _ => Run.all_pure _

end KeepsTrust

/-- An operation pins no key but one that it tested, and refuses no device that presents the
candidate's key, if and only if it is no re-pinning that is in order while the candidate's key is
another than the one pinned before and the device presents one of them. -/
theorem keepsTrust_iff {r : Registry β} {presented : String}
    (hdigest : Function.Injective r.candidateDigest) (hstrict : StrictlyChecks r presented)
    (operation : Operation) :
    KeepsTrust r presented operation ↔ TestsCandidate r presented operation := by
  cases operation with
  | create request => exact iff_of_true (keepsTrust_create hdigest hstrict request) trivial
  | update id request => exact iff_of_true (keepsTrust_update hdigest hstrict id request) trivial
  | repinHostKey id hostKeyCandidateId =>
    exact ⟨fun htrust => htrust.testsCandidate hstrict,
      fun htests => htests.keepsTrust hdigest hstrict⟩
  | _ => exact iff_of_true (keepsTrust_of_harmless rfl (harmless_perform (by simp) (by simp)
      (by simp))) trivial

/-! ## A device that has regenerated its key -/

/-- The key of the example that was pinned when the device was registered. -/
def registeredKey : HostKey := ⟨"ssh-ed25519", "ssh-ed25519 AAAAold", "SHA256:old"⟩

/-- The key of the example that was collected since. -/
def regeneratedKey : HostKey := ⟨"ssh-ed25519", "ssh-ed25519 AAAAnew", "SHA256:new"⟩

/-- A virtual router. -/
def labRouter : Device where
  managementAddress := ⟨"lab-router-1", by decide +kernel⟩
  port := ⟨2201, by decide⟩
  vendor := .ciscoIosxe
  credentialProfileId := 7
  sshCompatibility := .modern
  name := "Lab router"
  isLab := true
  consoleTransport := .ssh
  lastSeenAt := none
  lastErrorCode := none

/-- A store that has collected a key of the router. -/
def labStore (key : HostKey) : CandidateStore HostKeyCandidateBinding where
  candidates := Function.update (fun _ => none) 5
    (some (Collection.stored id ⟨5, labRouter.toHostKeyCandidateBinding, key, 0⟩))
  now := 0
  collected := [⟨5, labRouter.toHostKeyCandidateBinding, key, 0⟩]

/-- A driver whose sessions go to a device with one key. -/
def strictDriver (presented : String) : Driver where
  name := "cisco_iosxe"
  testConnection parameters :=
    if parameters.knownHosts = knownHostsLine parameters.host parameters.port presented then
      .ok ⟨true, "cisco_iosxe", "SSH connection succeeded", 12⟩
    else .error (.app ⟨"device_host_key_changed", some "host_key_verification"⟩)
  read _ _ := .ok ()

/-- A session that is pinned to the key of the device opens. -/
lemma testConnection_strictDriver (presented host : String) (port : ℕ)
    (material : CredentialMaterial) (mode : SSHCompatibility) :
    (strictDriver presented).testConnection
        ⟨host, port, material, knownHostsLine host port presented, mode⟩ =
      .ok ⟨true, "cisco_iosxe", "SSH connection succeeded", 12⟩ :=
  if_pos rfl

/-- A registry with the virtual router, one key pinned and another collected. -/
def labRegistry (pinned collected : HostKey) (presented : String) :
    Registry HostKeyCandidateBinding where
  settings := ⟨false, false, false⟩
  gate := some
    { acquire := fun operation target => .ok ⟨1, operation, target⟩
      authenticationSucceeded := fun _ => .ok ()
      authenticationFailed := fun _ => .ok ()
      release := fun _ => .ok () }
  candidateDigest := id
  hostKeys := fun device => if device = 3 then some pinned else none
  credentials := fun _ => .ok ⟨"admin", "secret", none⟩
  devices := [(3, labRouter)]
  drivers := fun _ => some (strictDriver presented)
  first := labStore collected
  second := labStore collected
  flushes := .ok ()
  commits := .ok ()
  newId := 4
  now := 0
  first_collected := (collected_initial 0).step
    (show step id (.initial 0) (.create 5 (labRouter.candidate none) collected) = _ from rfl)
  second_later := ⟨[], rfl⟩

/-- The sessions of the example check the host key strictly. -/
lemma strictlyChecks_labRegistry (pinned collected : HostKey) (presented : String) :
    StrictlyChecks (labRegistry pinned collected presented) presented := by
  rintro vendor driver parameters result ⟨⟩ htest
  by_contra hother
  rw [strictDriver] at htest
  simp only [if_neg hother] at htest
  cases htest

/-- A lab device is pinned anew with the key that it has kept. -/
theorem keepsTrust_labRegistry :
    KeepsTrust (labRegistry registeredKey registeredKey registeredKey.publicKey)
      registeredKey.publicKey (.repinHostKey 3 5) :=
  (keepsTrust_iff Function.injective_id (strictlyChecks_labRegistry _ _ _) _).mpr (by
    rintro - pinned candidate ⟨⟩ ⟨⟩ -
    rfl)

/-- A lab device that has regenerated its key is refused: the test still goes by the old one. -/
theorem not_keepsTrust_regenerated :
    ¬KeepsTrust (labRegistry registeredKey regeneratedKey regeneratedKey.publicKey)
      regeneratedKey.publicKey (.repinHostKey 3 5) := by
  intro h
  have horder : InOrder (labRegistry registeredKey regeneratedKey regeneratedKey.publicKey)
      regeneratedKey.publicKey (.repinHostKey 3 5) :=
    ⟨labRouter, rfl, rfl, ⟨_, rfl⟩,
      ⟨_, rfl, rfl, ⟨_, _, _, _, rfl, rfl, rfl, rfl, testConnection_strictDriver .., rfl, rfl⟩,
        fun _ h => Option.some.inj h ▸ ⟨Option.some_ne_none labRouter, rfl⟩⟩,
      ⟨_, rfl⟩, rfl, rfl⟩
  obtain ⟨hok, -⟩ := h.accepted _ _ rfl rfl rfl horder
  have hrefused : (perform (labRegistry registeredKey regeneratedKey regeneratedKey.publicKey)
      (.repinHostKey 3 5)).result =
        .error (.app ⟨"device_host_key_changed", some "host_key_verification"⟩) := by
    decide +kernel
  rw [hrefused] at hok
  cases hok

end Terraformer.Trust
