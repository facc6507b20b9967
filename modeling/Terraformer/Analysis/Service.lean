import Terraformer.Journal
import Terraformer.Run
import Terraformer.Analysis.Findings

/-!
# The run of an analysis

`initialise` stores the status `parsing` and commits it, reads the devices and their
configurations, lets the backend parse them, and stores members, scope and findings with the
status `ready` in one commit.  When an `AppError` is raised on the way, the status becomes `failed`.

`settled_iff` says when the stored status is final in the end: any other exception, and a commit
that fails, leave the snapshot `parsing`.
-/

namespace Terraformer.Analysis

open Text Run

variable [UnicodeDatabase] {Id : Type} [DecidableEq Id]

/-- `AnalysisStatus`. -/
inductive AnalysisStatus where
  | pending
  | parsing
  | ready
  | failed
  | expired
  deriving DecidableEq

/-- What can be raised: an `AppError`, or any other exception. -/
inductive Fault where
  | app (error : AnalysisError)
  | other

/-- `AnalysisSnapshotMember`. -/
structure Member (Id : Type) where
  deviceId : Id
  configSnapshotId : Option Id
  batfishHostname : Option String
  exclusionReason : Option ExclusionReason

/-- What the session writes about one analysis snapshot. -/
inductive Record (Id : Type) where
  | status (status : AnalysisStatus) (failureCode : Option String)
  | member (member : Member Id)
  | scope (deviceCount observedLinkCount : ℕ) (oldestConfigAt newestConfigAt : Option ℕ)
  | findings (findings : List (PreparedFinding Id)) (parseWarningCount : ℕ) (truncated : Bool)
  | completed (analysedDeviceCount excludedDeviceCount observedLinkCount findingCount : ℕ)
  | pruned (keep : ℕ)

/-- What `initialise` returns. -/
structure Summary where
  analysedDeviceCount : ℕ
  findingCount : ℕ

/-- The settings of an analysis. -/
structure AnalysisSettings where
  analysisMaxDevices : ℕ
  analysisMaxFindings : ℕ
  analysisRetainedSnapshots : ℕ

/-- The outcomes of the calls that `initialise` makes: of the database, the store of snapshots and
the backend. -/
structure Collaborators (Id : Type) where
  /-- `AnalysisRepository.get`. -/
  get : Except Fault Unit
  devices : Except Fault (List (Device Id))
  /-- `SnapshotService.list(device_id=…, limit=1)`. -/
  latestSnapshot : Id → Except Fault (Option (ConfigSnapshot Id))
  /-- `SnapshotService.get_sanitized_content`. -/
  sanitizedContent : Id → Except Fault String
  listNeighbors : Id → Except Fault (List (Neighbor Id))
  initSnapshot : List (String × String) → List Layer1Edge → Except Fault Unit
  parseFindings : Except Fault (List RawFinding)
  interfaceProperties : Except Fault (List InterfaceProperty)
  recordEvent : Except Fault Unit
  prune : Except Fault Unit
  /-- The commits of `parsing`, of `failed`, and of `ready` with everything else. -/
  commitParsing : Except Fault Unit
  commitFailed : Except Fault Unit
  commitReady : Except Fault Unit

/-- `AnalysisNoConfigsError()`. -/
def analysisNoConfigsError : AnalysisError where
  code := "analysis_no_configs"
  message := "No device has a configuration snapshot to analyse"

variable (settings : AnalysisSettings) (sanitizeText : String → String)
  (env : Collaborators Id)

/-- The latest snapshot of each device that has one, with its sanitised configuration. -/
def readConfigurations :
    List (Device Id) → Except Fault (List (Id × ConfigSnapshot Id × String))
  | [] => .ok []
  | d :: devices => do
    match ← env.latestSnapshot d.id with
    | none => readConfigurations devices
    | some snapshot =>
      let text ← env.sanitizedContent snapshot.id
      let others ← readConfigurations devices
      return (d.id, snapshot, text) :: others

/-- What `_initialise` reads before it writes: the devices and the input made of them. -/
def readInput : Except Fault (List (Device Id) × AnalysisInput Id) := do
  let devices ← env.devices
  let stored ← readConfigurations env devices
  let neighbors ← devices.mapM fun d => env.listNeighbors d.id
  let input ← (buildAnalysisInput (fun id => (dictGet stored id).map Prod.fst)
    (fun id => (dictGet stored id).map Prod.snd) devices neighbors.flatten
    settings.analysisMaxDevices).mapError Fault.app
  if input.configs.isEmpty then .error (.app analysisNoConfigsError)
  else .ok (devices, input)

/-- The rows of the members. -/
def members (input : AnalysisInput Id) : List (Record Id) :=
  (input.configs.map fun c =>
    .member ⟨c.deviceId, some c.configSnapshotId, some c.batfishHostname, none⟩) ++
    input.excluded.map fun e => .member ⟨e.deviceId, none, none, some e.reason⟩

/-- What the backend and the comparison with the cabling find. -/
def analyse (input : AnalysisInput Id) : Except Fault (List RawFinding) := do
  env.initSnapshot (input.configs.map fun c => (c.batfishHostname, c.content)) input.layer1Edges
  let raw ← env.parseFindings
  let properties ← env.interfaceProperties
  return raw ++ topologyDriftFindings input.layer1Edges properties

/-- `AnalysisService._initialise`. -/
def initialiseBody : Run (Entry (Record Id)) Fault Summary := do
  let (_, input) ← ofExcept (readInput settings env)
  emitAll ((members input).map .write)
  emit (.write (.scope input.configs.length input.layer1Edges.length input.oldestConfigAt
    input.newestConfigAt))
  let raw ← ofExcept (analyse env input)
  let found := toFindings sanitizeText raw
    (input.configs.map fun c => (c.batfishHostname, c.deviceId)) settings.analysisMaxFindings
  emit (.write (.findings found.1
    (found.1.countP fun item => item.category == .parseWarning) found.2))
  emit (.write (.status .ready none))
  ofExcept env.recordEvent
  emit (.write (.completed input.configs.length input.excluded.length input.layer1Edges.length
    found.1.length))
  ofExcept env.prune
  emit (.write (.pruned settings.analysisRetainedSnapshots))
  return ⟨input.configs.length, found.1.length⟩

/-- `session.commit()`: a commit that fails is rolled back. -/
def commit (outcome : Except Fault Unit) : Run (Entry (Record Id)) Fault Unit :=
  match outcome with
  | .ok () => emit .commit
  | .error fault => do
    emit .rollback
    raise fault

/-- `AnalysisService.initialise`. -/
def initialise : Run (Entry (Record Id)) Fault Summary := do
  ofExcept env.get
  emit (.write (.status .parsing none))
  commit env.commitParsing
  let outcome ← attempt (initialiseBody settings sanitizeText env)
  match outcome with
  | .error (.app error) => do
    emit (.write (.status .failed (some error.code)))
    commit env.commitFailed
    raise (.app error)
  | .error .other => raise .other
  | .ok result => do
    commit env.commitReady
    return result

/-! ## The stored status -/

/-- The status that a row stores. -/
def Record.status? : Record Id → Option AnalysisStatus
  | .status value _ => some value
  | _ => none

/-- The status that is stored after these commits; the snapshot was created `pending`. -/
def storedStatus (commits : List (List (Record Id))) : AnalysisStatus :=
  (commits.flatten.filterMap Record.status?).getLast?.getD .pending

/-- The member that a row stores. -/
def Record.member? : Record Id → Option (Member Id)
  | .member value => some value
  | _ => none

/-- The member of a device is recorded with its status: analysed with its latest snapshot under the
name of its configuration, or excluded for what it lacks. -/
def RecordsMember (env : Collaborators Id) (rows : List (Record Id)) (d : Device Id) : Prop :=
  if supportedVendors.contains d.vendor then
    match env.latestSnapshot d.id with
    | .error _ => False
    | .ok none => .member ⟨d.id, none, none, some .noSnapshot⟩ ∈ rows
    | .ok (some snapshot) => ∃ text, env.sanitizedContent snapshot.id = .ok text ∧
      .member ⟨d.id, some snapshot.id, some (batfishHostname text d.name), none⟩ ∈ rows
  else .member ⟨d.id, none, none, some .unsupportedVendor⟩ ∈ rows

/-- What is recorded of the devices, of the input made of them and of what was found in it. -/
structure Records (settings : AnalysisSettings) (sanitizeText : String → String)
    (env : Collaborators Id) (devices : List (Device Id)) (input : AnalysisInput Id)
    (raw : List RawFinding) (rows : List (Record Id)) : Prop where
  status : .status .ready none ∈ rows
  /-- Every registered device has one member, and nothing else has one. -/
  members : ((rows.filterMap Record.member?).map Member.deviceId).Perm (devices.map Device.id)
  member : ∀ d ∈ devices, RecordsMember env rows d
  /-- The scope counts the analysed devices and the observed links, between the oldest and the
  newest of the configurations. -/
  scope : .scope input.configs.length input.layer1Edges.length
    (input.configs.map DeviceConfig.capturedAt).min?
    (input.configs.map DeviceConfig.capturedAt).max? ∈ rows
  /-- The findings that fit the bound, each with its device, the parse warnings among them, and
  whether some did not fit. -/
  findings : .findings
    ((raw.take settings.analysisMaxFindings).map (prepare sanitizeText
      (input.configs.map fun c => (c.batfishHostname, c.deviceId))))
    ((raw.take settings.analysisMaxFindings).countP fun item => item.category == .parseWarning)
    (settings.analysisMaxFindings < raw.length) ∈ rows

/-- A commit records `ready` with the members of every device, the scope and the findings. -/
def RecordsAll (settings : AnalysisSettings) (sanitizeText : String → String)
    (env : Collaborators Id) (rows : List (Record Id)) : Prop :=
  ∃ devices input raw, env.devices = .ok devices ∧
    readInput settings env = .ok (devices, input) ∧ analyse env input = .ok raw ∧
    Records settings sanitizeText env devices input raw rows

/-- In the end the stored status is final, and `ready` was recorded with everything. -/
structure Settled (settings : AnalysisSettings) (sanitizeText : String → String)
    (env : Collaborators Id) (entries : List (Entry (Record Id))) : Prop where
  final : storedStatus (Journal.commits [] entries) = .ready ∨
    storedStatus (Journal.commits [] entries) = .failed
  recorded : storedStatus (Journal.commits [] entries) = .ready →
    ∃ rows ∈ Journal.commits [] entries, RecordsAll settings sanitizeText env rows

/-- The exception of a call. -/
def raised {α : Type} : Except Fault α → Option Fault
  | .ok _ => none
  | .error fault => some fault

/-- The first exception that a collaborator raises after `parsing` is committed. -/
def firstFault : Option Fault :=
  match readInput settings env with
  | .error fault => some fault
  | .ok (_, input) =>
    (raised (analyse env input)).or ((raised env.recordEvent).or (raised env.prune))

/-- The first exception is an `AppError`, and what is then to be committed is. -/
def Settles : Prop :=
  env.get = .ok () ∧ env.commitParsing = .ok () ∧
    match firstFault settings env with
    | none => env.commitReady = .ok ()
    | some (.app _) => env.commitFailed = .ok ()
    | some .other => False

section Lemmas

variable {settings sanitizeText env}

omit [UnicodeDatabase] in
/-- What is read of a device is its latest snapshot and the text of that, or nothing when it has no
snapshot. -/
lemma dictGet_readConfigurations {devices : List (Device Id)}
    {stored : List (Id × ConfigSnapshot Id × String)}
    (h : readConfigurations env devices = .ok stored) {d : Device Id} (hd : d ∈ devices) :
    (env.latestSnapshot d.id = .ok none ∧ dictGet stored d.id = none) ∨
      ∃ snapshot text, env.latestSnapshot d.id = .ok (some snapshot) ∧
        env.sanitizedContent snapshot.id = .ok text ∧
        dictGet stored d.id = some (snapshot, text) := by
  have hread : ∀ pair ∈ stored, env.latestSnapshot pair.1 = .ok (some pair.2.1) ∧
      env.sanitizedContent pair.2.1.id = .ok pair.2.2 := by
    clear hd
    induction devices generalizing stored with
    | nil =>
      obtain rfl := Except.ok.inj h
      exact fun pair hpair => absurd hpair List.not_mem_nil
    | cons d devices ih =>
      obtain ⟨latest, hlatest, h⟩ := exists_of_bind_eq_ok h
      cases latest with
      | none => exact ih h
      | some snapshot =>
        obtain ⟨text, htext, h⟩ := exists_of_bind_eq_ok h
        obtain ⟨others, hothers, h⟩ := exists_of_bind_eq_ok h
        obtain rfl := Except.ok.inj h
        exact List.forall_mem_cons.mpr ⟨⟨hlatest, htext⟩, ih hothers⟩
  have hlists : (env.latestSnapshot d.id = .ok none) ∨ d.id ∈ stored.map Prod.fst := by
    clear hread
    induction devices generalizing stored with
    | nil => cases hd
    | cons d' devices ih =>
      obtain ⟨latest, hlatest, h⟩ := exists_of_bind_eq_ok h
      cases latest with
      | none =>
        rcases List.mem_cons.mp hd with rfl | hd
        · exact Or.inl hlatest
        · exact ih h hd
      | some snapshot =>
        obtain ⟨text, htext, h⟩ := exists_of_bind_eq_ok h
        obtain ⟨others, hothers, h⟩ := exists_of_bind_eq_ok h
        obtain rfl := Except.ok.inj h
        rcases List.mem_cons.mp hd with rfl | hd
        · exact Or.inr List.mem_cons_self
        · exact (ih hothers hd).imp_right (List.mem_cons_of_mem _)
  cases hget : dictGet stored d.id with
  | none =>
    exact Or.inl ⟨hlists.resolve_right (dictGet_eq_none_iff.mp hget), rfl⟩
  | some pair =>
    obtain ⟨hlatest, htext⟩ := hread _ (mem_of_dictGet hget)
    exact Or.inr ⟨pair.1, pair.2, hlatest, htext, rfl⟩

/-- What was read is the list of the devices and an input built from their configurations. -/
lemma of_readInput {devices : List (Device Id)} {input : AnalysisInput Id}
    (h : readInput settings env = .ok (devices, input)) :
    env.devices = .ok devices ∧ ∃ stored neighbors,
      readConfigurations env devices = .ok stored ∧
      buildAnalysisInput (fun id => (dictGet stored id).map Prod.fst)
        (fun id => (dictGet stored id).map Prod.snd) devices neighbors
        settings.analysisMaxDevices = .ok input := by
  obtain ⟨found, hdevices, h⟩ := exists_of_bind_eq_ok h
  obtain ⟨stored, hstored, h⟩ := exists_of_bind_eq_ok h
  obtain ⟨neighbors, -, h⟩ := exists_of_bind_eq_ok h
  obtain ⟨built, hbuilt, h⟩ := exists_of_bind_eq_ok h
  have hpair : (found, built) = (devices, input) := by
    by_cases hempty : built.configs.isEmpty = true
    · rw [if_pos hempty] at h
      cases h
    · rw [if_neg hempty] at h
      exact Except.ok.inj h
  obtain ⟨rfl, rfl⟩ := Prod.mk.inj hpair
  refine ⟨hdevices, stored, neighbors.flatten, hstored, ?_⟩
  revert hbuilt
  generalize buildAnalysisInput _ _ found _ _ = outcome
  intro hbuilt
  cases outcome with
  | error error => cases hbuilt
  | ok other => exact congrArg Except.ok (Except.ok.inj hbuilt)

/-- The members are those of the devices. -/
lemma members_perm {devices : List (Device Id)} {input : AnalysisInput Id}
    (h : readInput settings env = .ok (devices, input)) :
    (((members input).filterMap Record.member?).map Member.deviceId).Perm
      (devices.map Device.id) := by
  obtain ⟨-, stored, neighbors, -, hinput⟩ := of_readInput h
  obtain ⟨hconfigs, hexcluded, -⟩ := of_buildAnalysisInput hinput
  have hperm := ids_perm (fun id => (dictGet stored id).map Prod.fst)
    (fun id => (dictGet stored id).map Prod.snd) devices
  rw [← hconfigs, ← hexcluded] at hperm
  rw [members, List.filterMap_append, List.filterMap_map, List.filterMap_map, List.map_append]
  simpa [Function.comp_def, Record.member?] using hperm

/-- The member of a device has the status that its snapshots give it. -/
lemma recordsMember {devices : List (Device Id)} {input : AnalysisInput Id}
    (h : readInput settings env = .ok (devices, input)) {d : Device Id} (hd : d ∈ devices)
    {rows : List (Record Id)} (hrows : ∀ row ∈ members input, row ∈ rows) :
    RecordsMember env rows d := by
  obtain ⟨-, stored, neighbors, hstored, hinput⟩ := of_readInput h
  obtain ⟨hconfigs, hexcluded, -⟩ := of_buildAnalysisInput hinput
  have hanalysed : ∀ {c}, classify (fun id => (dictGet stored id).map Prod.fst)
      (fun id => (dictGet stored id).map Prod.snd) d = .inl c →
      .member ⟨c.deviceId, some c.configSnapshotId, some c.batfishHostname, none⟩ ∈ rows := by
    intro c hclassify
    refine hrows _ (List.mem_append_left _ (List.mem_map.mpr ⟨c, ?_, rfl⟩))
    rw [hconfigs]
    exact List.mem_filterMap.mpr ⟨d, hd, by rw [hclassify]; rfl⟩
  have hexclusion : ∀ {e}, classify (fun id => (dictGet stored id).map Prod.fst)
      (fun id => (dictGet stored id).map Prod.snd) d = .inr e →
      .member ⟨e.deviceId, none, none, some e.reason⟩ ∈ rows := by
    intro e hclassify
    refine hrows _ (List.mem_append_right _ (List.mem_map.mpr ⟨e, ?_, rfl⟩))
    rw [hexcluded]
    exact List.mem_filterMap.mpr ⟨d, hd, by rw [hclassify]; rfl⟩
  unfold RecordsMember
  cases hvendor : supportedVendors.contains d.vendor with
  | false =>
    rw [if_neg (by simp)]
    exact hexclusion (by rw [classify, hvendor]; rfl)
  | true =>
    rw [if_pos rfl]
    rcases dictGet_readConfigurations hstored hd with
      ⟨hlatest, hget⟩ | ⟨snapshot, text, hlatest, htext, hget⟩
    · rw [hlatest]
      exact hexclusion (by simp only [classify, hvendor, hget]; rfl)
    · rw [hlatest]
      refine ⟨text, htext, ?_⟩
      have hconfig := hanalysed (c := configOf (fun id => (dictGet stored id).map Prod.snd) d
        snapshot) (by simp only [classify, hvendor, hget]; rfl)
      simpa only [configOf, nodeName, hget, Option.map_some, Option.getD_some] using hconfig

omit [UnicodeDatabase] [DecidableEq Id] in
/-- Recording the members writes no status. -/
lemma status_members (input : AnalysisInput Id) :
    (members input).filterMap Record.status? = [] := by
  rw [members, List.filterMap_append, List.filterMap_map, List.filterMap_map]
  simp [Function.comp_def, Record.status?]

/-- The rows that are written before the backend is called. -/
def firstRows (input : AnalysisInput Id) : List (Record Id) :=
  members input ++ [.scope input.configs.length input.layer1Edges.length input.oldestConfigAt
    input.newestConfigAt]

variable (settings sanitizeText) in
/-- The rows that are written with what the backend has found. -/
def lastRows (input : AnalysisInput Id) (raw : List RawFinding) : List (Record Id) :=
  let found := toFindings sanitizeText raw
    (input.configs.map fun c => (c.batfishHostname, c.deviceId)) settings.analysisMaxFindings
  [.findings found.1 (found.1.countP fun item => item.category == .parseWarning) found.2,
    .status .ready none]

variable (settings sanitizeText env) in
/-- What the body does until an exception is raised: it only writes. -/
lemma initialiseBody_cases :
    (∃ devices input raw rows summary,
      initialiseBody settings sanitizeText env = ⟨(firstRows input ++
          lastRows settings sanitizeText input raw ++ rows).map .write, .ok summary⟩ ∧
        readInput settings env = .ok (devices, input) ∧ analyse env input = .ok raw ∧
        firstFault settings env = none ∧ rows.filterMap Record.status? = [] ∧
        rows.filterMap Record.member? = []) ∨
      ∃ (rows : List (Record Id)) (fault : Fault),
        initialiseBody settings sanitizeText env = ⟨rows.map .write, .error fault⟩ ∧
          firstFault settings env = some fault := by
  cases hread : readInput settings env with
  | error fault =>
    refine .inr ⟨[], fault, ?_, ?_⟩
    · simp only [initialiseBody, hread]
      rfl
    · simp only [firstFault, hread]
  | ok read =>
    obtain ⟨devices, input⟩ := read
    have hfirst : firstFault settings env =
        (raised (analyse env input)).or ((raised env.recordEvent).or (raised env.prune)) := by
      simp only [firstFault, hread]
    cases hraw : analyse env input with
    | error fault =>
      refine .inr ⟨firstRows input, fault, ?_, ?_⟩
      · simp only [initialiseBody, hread, ofExcept_ok_bind, hraw]
        apply Run.ext <;> simp [firstRows]
      · rw [hfirst, hraw]
        rfl
    | ok raw =>
      cases hevent : env.recordEvent with
      | error fault =>
        refine .inr ⟨firstRows input ++ lastRows settings sanitizeText input raw, fault, ?_, ?_⟩
        · simp only [initialiseBody, hread, ofExcept_ok_bind, hraw, hevent]
          apply Run.ext <;> simp [firstRows, lastRows]
        · rw [hfirst, hraw, hevent]
          rfl
      | ok _ =>
        let found := toFindings sanitizeText raw
          (input.configs.map fun c => (c.batfishHostname, c.deviceId)) settings.analysisMaxFindings
        let completed : Record Id := .completed input.configs.length input.excluded.length
          input.layer1Edges.length found.1.length
        cases hprune : env.prune with
        | error fault =>
          refine .inr ⟨firstRows input ++ lastRows settings sanitizeText input raw ++ [completed],
            fault, ?_, ?_⟩
          · simp only [initialiseBody, hread, ofExcept_ok_bind, hraw, hevent, hprune]
            apply Run.ext <;> simp [firstRows, lastRows, completed, found]
          · rw [hfirst, hraw, hevent, hprune]
            rfl
        | ok _ =>
          refine .inl ⟨devices, input, raw,
            [completed, .pruned settings.analysisRetainedSnapshots],
            ⟨input.configs.length, found.1.length⟩, ?_, rfl, hraw, ?_, rfl, rfl⟩
          · simp only [initialiseBody, hread, ofExcept_ok_bind, hraw, hevent, hprune]
            apply Run.ext <;> simp [firstRows, lastRows, completed, found]
          · rw [hfirst, hraw, hevent, hprune]
            rfl

variable (sanitizeText) in
/-- The rows of a body that ends well record everything, with `ready` as their last status. -/
lemma recordsAll_of_readInput {devices : List (Device Id)} {input : AnalysisInput Id}
    {raw : List RawFinding} (h : readInput settings env = .ok (devices, input))
    (hraw : analyse env input = .ok raw) {rows : List (Record Id)}
    (hrows : rows.filterMap Record.member? = []) :
    RecordsAll settings sanitizeText env
      (firstRows input ++ lastRows settings sanitizeText input raw ++ rows) := by
  obtain ⟨hdevices, stored, neighbors, -, hinput⟩ := of_readInput h
  obtain ⟨holdest, hnewest⟩ := dates_of_buildAnalysisInput hinput
  refine ⟨devices, input, raw, hdevices, h, hraw, ?_, ?_, fun d hd => ?_, ?_, ?_⟩
  · simp [lastRows]
  · have hmembers : (firstRows input ++ lastRows settings sanitizeText input raw ++
        rows).filterMap Record.member? = (members input).filterMap Record.member? := by
      rw [List.filterMap_append, hrows, List.append_nil, List.filterMap_append, firstRows,
        List.filterMap_append]
      simp [lastRows, Record.member?]
    rw [hmembers]
    exact members_perm h
  · exact recordsMember h hd fun row hrow => by simp [firstRows, hrow]
  · rw [← holdest, ← hnewest]
    simp [firstRows]
  · refine List.mem_append_left _ (List.mem_append_right _ ?_)
    simp only [lastRows, toFindings, List.countP_map]
    exact List.mem_cons_self

/-! ## What is stored in the end -/

omit [UnicodeDatabase] [DecidableEq Id] in
/-- The last status that was committed is stored. -/
lemma storedStatus_of_concat {commits : List (List (Record Id))} {before : List AnalysisStatus}
    {status : AnalysisStatus}
    (h : commits.flatten.filterMap Record.status? = before ++ [status]) :
    storedStatus commits = status := by
  rw [storedStatus, h, List.getLast?_concat]
  rfl

/-- A run settles the status when a last commit stores a final one. -/
lemma settled_of_commits {entries : List (Entry (Record Id))} {first rows : List (Record Id)}
    (hcommits : Journal.commits [] entries = [first, rows])
    (hstatus : storedStatus [first, rows] = .failed ∨
      storedStatus [first, rows] = .ready ∧ RecordsAll settings sanitizeText env rows) :
    Settled settings sanitizeText env entries := by
  rw [← hcommits] at hstatus
  rcases hstatus with hfailed | ⟨hready, hrecords⟩
  · exact ⟨.inr hfailed, fun h => absurd (hfailed.symm.trans h) (by decide)⟩
  · refine ⟨.inl hready, fun _ => ⟨rows, ?_, hrecords⟩⟩
    rw [hcommits]
    simp

/-- An analysis that is neither ready nor failed is not settled. -/
lemma not_settled_of_status {entries : List (Entry (Record Id))} (status : AnalysisStatus)
    (h : storedStatus (Journal.commits [] entries) = status) (hready : status ≠ .ready)
    (hfailed : status ≠ .failed) : ¬ Settled settings sanitizeText env entries :=
  fun hsettled => hsettled.final.elim (fun h' => hready (h.symm.trans h'))
    fun h' => hfailed (h.symm.trans h')

/-- The row that stores `parsing`. -/
def parsingRow : Record Id := .status .parsing none

/-- After `parsing` is committed, the rows of the body are committed or not as it ended. -/
lemma effects_initialise (hget : env.get = .ok ()) (hparsing : env.commitParsing = .ok ()) :
    (initialise settings sanitizeText env).effects =
      .write parsingRow :: .commit :: ((initialiseBody settings sanitizeText env).effects ++
        match (initialiseBody settings sanitizeText env).result with
        | .error (.app error) =>
          .write (.status .failed (some error.code)) :: (commit env.commitFailed).effects
        | .error .other => []
        | .ok _ => (commit env.commitReady).effects) := by
  simp only [initialise, hget, hparsing, commit, ofExcept_ok_bind, effects_emit_bind,
    effects_attempt_bind]
  rcases (initialiseBody settings sanitizeText env).result with (error | _) | summary
  · cases env.commitFailed with
    | ok _ => rfl
    | error fault => rfl
  · rfl
  · cases env.commitReady with
    | ok _ => rfl
    | error fault => rfl

/-- When only `parsing` was committed, nothing is settled. -/
lemma not_settled_of_commits_parsing {entries : List (Entry (Record Id))}
    (h : Journal.commits [] entries = [[parsingRow]]) :
    ¬ Settled settings sanitizeText env entries := by
  refine not_settled_of_status .parsing ?_ (by decide) (by decide)
  rw [h]
  rfl

end Lemmas

/-- The stored status is final in the end, and `ready` only with the member of every device, the
scope and the findings recorded beside it, if and only if `parsing` was committed, the first
exception after that, if any, is an `AppError`, and the commit that then follows does not fail. -/
theorem settled_iff :
    Settled settings sanitizeText env (initialise settings sanitizeText env).effects ↔
      Settles settings env := by
  unfold Settles
  cases hget : env.get with
  | error fault =>
    have heffects : (initialise settings sanitizeText env).effects = [] := by
      simp only [initialise, hget]
      rfl
    refine iff_of_false (not_settled_of_status .pending ?_ (by decide) (by decide))
      fun h => ?_
    · rw [heffects]
      rfl
    · cases h.1
  | ok _ =>
    cases hparsing : env.commitParsing with
    | error fault =>
      have heffects : (initialise settings sanitizeText env).effects =
          [.write parsingRow, .rollback] := by
        simp only [initialise, hget, hparsing]
        rfl
      refine iff_of_false (not_settled_of_status .pending ?_ (by decide) (by decide))
        fun h => ?_
      · rw [heffects]
        rfl
      · cases h.2.1
    | ok _ =>
      rw [effects_initialise hget hparsing]
      simp only [true_and]
      rcases initialiseBody_cases settings sanitizeText env with
        ⟨devices, input, raw, rows, summary, hbody, hread, hraw, hfirst, hrows, hmembers⟩ |
          ⟨rows, fault, hbody, hfirst⟩
      · rw [hbody, hfirst]
        have hrecords := recordsAll_of_readInput sanitizeText hread hraw hmembers
        generalize hwritten : firstRows input ++ lastRows settings sanitizeText input raw ++ rows =
          written at hrecords
        cases env.commitReady with
        | ok _ =>
          have hcommits : Journal.commits [] (.write parsingRow :: .commit ::
              (written.map .write ++ [.commit])) = [[parsingRow], written] := by simp
          refine iff_of_true (settled_of_commits hcommits (.inr ⟨?_, hrecords⟩)) rfl
          have hstatuses : [[parsingRow], written].flatten.filterMap Record.status? =
              [.parsing] ++ [.ready] := by
            simp only [← hwritten, firstRows, List.flatten_cons, List.filterMap_append,
              status_members, hrows]
            rfl
          exact storedStatus_of_concat hstatuses
        | error fault =>
          refine iff_of_false (not_settled_of_commits_parsing ?_) (by simp)
          simp [commit]
      · rw [hbody, hfirst]
        cases fault with
        | other =>
          refine iff_of_false (not_settled_of_commits_parsing ?_) id
          simp
        | app error =>
          cases env.commitFailed with
          | ok _ =>
            have hcommits : Journal.commits [] (.write parsingRow :: .commit :: (rows.map .write ++
                [.write (.status .failed (some error.code)), .commit])) =
                  [[parsingRow], rows ++ [.status .failed (some error.code)]] := by simp
            refine iff_of_true (settled_of_commits hcommits (.inl ?_)) rfl
            have hstatuses :
                [[parsingRow], rows ++ [.status .failed (some error.code)]].flatten.filterMap
                  Record.status? = .parsing :: rows.filterMap Record.status? ++ [.failed] := by
              simp only [List.flatten_cons, List.flatten_nil, List.filterMap_append, List.append_nil]
              rfl
            exact storedStatus_of_concat hstatuses
          | error fault =>
            refine iff_of_false (not_settled_of_commits_parsing ?_) (by simp)
            simp [commit]

/-- One router with a snapshot; the disk is full when the backend's files are written. -/
def fullDisk : Collaborators ℕ where
  get := .ok ()
  devices := .ok [⟨0, "core", .ciscoIosxe⟩]
  latestSnapshot _ := .ok (some ⟨1, 0⟩)
  sanitizedContent _ := .ok "hostname core\n"
  listNeighbors _ := .ok []
  initSnapshot _ _ := .error .other
  parseFindings := .ok []
  interfaceProperties := .ok []
  recordEvent := .ok ()
  prune := .ok ()
  commitParsing := .ok ()
  commitFailed := .ok ()
  commitReady := .ok ()

omit [UnicodeDatabase] in
/-- The snapshot stays `parsing`. -/
theorem not_settled_fullDisk :
    letI := asciiDatabase
    ¬ Settled ⟨200, 1000, 10⟩ id fullDisk (initialise ⟨200, 1000, 10⟩ id fullDisk).effects := by
  let _ := asciiDatabase
  refine not_settled_of_status .parsing ?_ (by decide) (by decide)
  obtain ⟨input, hread⟩ : ∃ input, readInput ⟨200, 1000, 10⟩ fullDisk =
      .ok ([⟨0, "core", .ciscoIosxe⟩], input) := ⟨_, rfl⟩
  have hraw : analyse fullDisk input = .error .other := rfl
  have hbody : initialiseBody ⟨200, 1000, 10⟩ id fullDisk =
      ⟨(firstRows input).map .write, .error .other⟩ := by
    simp only [initialiseBody, hread, ofExcept_ok_bind, hraw]
    apply Run.ext <;> simp [firstRows]
  rw [effects_initialise rfl rfl, hbody]
  simp [storedStatus, parsingRow, Record.status?]

end Terraformer.Analysis
