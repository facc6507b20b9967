import Terraformer.Admission.Connection
import Terraformer.Text.Case
import Terraformer.Text.Search
import Terraformer.Text.Number

/-!
# The input of an analysis

`buildAnalysisInput` puts the configurations of the supported devices together, with the links
that neighbour discovery has observed between them.  A device is known to the analysis by
`batfishHostname`: the host name of its configuration, or else the name of its record, in lower
case and without unusual characters.  Two dictionaries of `AnalysisService._initialise` have these
names as keys.

`coversEvery_iff` says when every device and every link is covered: when no two devices get the
same name, and no observed link leads to a device whose name is qualified by a domain.
-/

namespace Terraformer.Analysis

open Text Pattern
open Admission (Vendor)

/-! ## Dictionaries -/

variable {κ β : Type*} [DecidableEq κ]

/-- A dictionary built from pairs: the last value given for a key. -/
def dictGet (pairs : List (κ × β)) (key : κ) : Option β := pairs.reverse.lookup key

/-- The number of keys of such a dictionary. -/
def dictLen (pairs : List (κ × β)) : ℕ := (pairs.map Prod.fst).dedup.length

/-- What the dictionary finds is one of the pairs. -/
lemma mem_of_dictGet {pairs : List (κ × β)} {key : κ} {value : β}
    (h : dictGet pairs key = some value) : (key, value) ∈ pairs := by
  obtain ⟨front, back, hpairs, -⟩ := List.lookup_eq_some_iff.mp h
  rw [← List.mem_reverse, hpairs]
  simp

/-- The dictionary finds nothing exactly for the keys that no pair has. -/
lemma dictGet_eq_none_iff {pairs : List (κ × β)} {key : κ} :
    dictGet pairs key = none ↔ key ∉ pairs.map Prod.fst := by
  simp only [dictGet, List.lookup_eq_none_iff, List.mem_reverse, List.mem_map, not_exists, not_and,
    bne_iff_ne]
  exact forall₂_congr fun p _ => ne_comm

/-- When no key is given twice, the dictionary keeps every pair. -/
lemma dictGet_of_nodup {pairs : List (κ × β)} (h : (pairs.map Prod.fst).Nodup) {key : κ}
    {value : β} (hmem : (key, value) ∈ pairs) : dictGet pairs key = some value := by
  cases hget : dictGet pairs key with
  | none => exact absurd (List.mem_map_of_mem hmem) (dictGet_eq_none_iff.mp hget)
  | some other =>
    have heq := List.inj_on_of_nodup_map h (mem_of_dictGet hget) hmem rfl
    rw [(Prod.mk.inj heq).2]

/-- The dictionary is as long as the list if no key is repeated. -/
lemma dictLen_eq_iff {pairs : List (κ × β)} :
    dictLen pairs = pairs.length ↔ (pairs.map Prod.fst).Nodup := by
  rw [dictLen, ← List.length_map Prod.fst, ← List.dedup_eq_self]
  exact ⟨(List.dedup_sublist _).eq_of_length, congrArg List.length⟩

/-! ## Names -/

variable [UnicodeDatabase] {Id : Type} [DecidableEq Id]

/-- `_HOSTNAME`, without its `^` and `$`. -/
def hostnameLine : Pattern :=
  .seq (.star (.char isSpace)) (.seq (literal "hostname") (.seq (plus (.char isSpace))
    (.seq (.group "1" (plus (.char fun c => !isSpace c))) (.star (.char isSpace)))))

/-- `[^a-z0-9._-]`. -/
def unsafeHostnameChar (c : Char) : Bool :=
  !(('a' ≤ c && c ≤ 'z') || ('0' ≤ c && c ≤ '9') || c == '.' || c == '_' || c == '-')

/-- `_UNSAFE_HOSTNAME_CHARS.sub("-", …)`: each run of unsafe characters becomes one dash. -/
def subUnsafeRuns : List Char → List Char
  | [] => []
  | c :: cs =>
    if unsafeHostnameChar c then
      if cs.head?.any unsafeHostnameChar then subUnsafeRuns cs else '-' :: subUnsafeRuns cs
    else c :: subUnsafeRuns cs

/-- `batfish_hostname`. -/
def batfishHostname (config fallback : String) : String :=
  let raw := ((searchUntil hostnameLine lineStart atLineEnd config).bind
    fun captures => captured captures "1").getD fallback
  String.ofList (listStrip (· == '-') (subUnsafeRuns (lower (strip raw)).toList))

/-- `name.split(".", 1)[0]`. -/
def shortName (name : String) : String :=
  String.ofList (name.toList.takeWhile (· != '.'))

/-! ## Records -/

/-- What the analysis reads of a device. -/
structure Device (Id : Type) where
  id : Id
  name : String
  vendor : Vendor

/-- `ConfigSnapshot`; times are counted in some unit. -/
structure ConfigSnapshot (Id : Type) where
  id : Id
  createdAt : ℕ

/-- What the analysis reads of a neighbour row. -/
structure Neighbor (Id : Type) where
  deviceId : Id
  localInterface : String
  remoteDeviceName : String
  remoteInterface : String

/-- Why a device is left out. -/
inductive ExclusionReason where
  | noSnapshot
  | unsupportedVendor
  deriving DecidableEq

/-- The configuration of one device. -/
structure DeviceConfig (Id : Type) where
  deviceId : Id
  configSnapshotId : Id
  batfishHostname : String
  content : String
  capturedAt : ℕ

/-- A device that is left out, and why. -/
structure ExcludedDevice (Id : Type) where
  deviceId : Id
  reason : ExclusionReason

/-- A link between two ports. -/
structure Layer1Edge where
  node1Hostname : String
  node1Interface : String
  node2Hostname : String
  node2Interface : String
  deriving DecidableEq

/-- What is handed to the analyzer. -/
structure AnalysisInput (Id : Type) where
  configs : List (DeviceConfig Id)
  excluded : List (ExcludedDevice Id)
  layer1Edges : List Layer1Edge
  oldestConfigAt : Option ℕ
  newestConfigAt : Option ℕ

/-- An `AppError` of the analysis. -/
structure AnalysisError where
  code : String
  message : String

/-- `AnalysisTooManyDevicesError(…)`. -/
def analysisTooManyDevicesError (included maxDevices : ℕ) : AnalysisError where
  code := "analysis_too_many_devices"
  message := str included ++ " devices exceeds the analysis device bound of " ++ str maxDevices

/-! ## The input -/

/-- `SUPPORTED_VENDORS`. -/
def supportedVendors : List Vendor := [.ciscoIosxe]

variable (latest : Id → Option (ConfigSnapshot Id)) (content : Id → Option String)

/-- A device whose configuration is analysed. -/
def included (d : Device Id) : Bool :=
  supportedVendors.contains d.vendor && (latest d.id).isSome

/-- The name under which a device is analysed. -/
def nodeName (d : Device Id) : String := batfishHostname ((content d.id).getD "") d.name

/-- `DeviceConfig(…)` of a device and its snapshot. -/
def configOf (d : Device Id) (snapshot : ConfigSnapshot Id) : DeviceConfig Id where
  deviceId := d.id
  configSnapshotId := snapshot.id
  batfishHostname := nodeName content d
  content := (content d.id).getD ""
  capturedAt := snapshot.createdAt

/-- Where `build_analysis_input` puts a device. -/
def classify (d : Device Id) : DeviceConfig Id ⊕ ExcludedDevice Id :=
  if !supportedVendors.contains d.vendor then .inr ⟨d.id, .unsupportedVendor⟩
  else
    match latest d.id with
    | none => .inr ⟨d.id, .noSnapshot⟩
    | some snapshot => .inl (configOf content d snapshot)

/-- The edge of a neighbour row, when both of its ends are analysed. -/
def edgeOf (configs : List (DeviceConfig Id)) (row : Neighbor Id) : Option Layer1Edge :=
  let hostnameByDevice := configs.map fun c => (c.deviceId, c.batfishHostname)
  match dictGet hostnameByDevice row.deviceId with
  | none => none
  | some near =>
    let remote := shortName (batfishHostname "" row.remoteDeviceName)
    if remote ∈ configs.map DeviceConfig.batfishHostname then
      some ⟨near, row.localInterface, remote, row.remoteInterface⟩
    else none

/-- The order of `sorted(edges, key=…)`. -/
def edgeLe (e e' : Layer1Edge) : Bool :=
  e.node1Hostname < e'.node1Hostname ||
    (e.node1Hostname == e'.node1Hostname && e.node1Interface ≤ e'.node1Interface)

/-- `_layer1_edges`.  Edges with the same first end are in the order of their rows here; Python
has them in the order of a set. -/
def layer1Edges (configs : List (DeviceConfig Id)) (neighbors : List (Neighbor Id)) :
    List Layer1Edge :=
  (neighbors.filterMap (edgeOf configs)).dedup.mergeSort edgeLe

/-- `build_analysis_input`. -/
def buildAnalysisInput (devices : List (Device Id)) (neighbors : List (Neighbor Id))
    (maxDevices : ℕ) : Except AnalysisError (AnalysisInput Id) :=
  let count := (devices.filter (included latest)).length
  if count > maxDevices then .error (analysisTooManyDevicesError count maxDevices)
  else
    let configs := devices.filterMap fun d => (classify latest content d).getLeft?
    let captured := configs.map DeviceConfig.capturedAt
    .ok
      { configs
        excluded := devices.filterMap fun d => (classify latest content d).getRight?
        layer1Edges := layer1Edges configs neighbors
        oldestConfigAt := captured.min?
        newestConfigAt := captured.max? }

/-! ## Every device and every link is covered -/

/-- Two names of one device, one of which may be qualified by a domain. -/
def SameName (reported node : String) : Prop :=
  node = reported ∨ node = shortName reported ∨ shortName node = reported

/-- The name that a neighbour row reports. -/
def reportedName (row : Neighbor Id) : String := batfishHostname "" row.remoteDeviceName

/-- The edge of a neighbour row between the nodes of two configurations. -/
def DeviceConfig.edge (near : DeviceConfig Id) (row : Neighbor Id) (far : DeviceConfig Id) :
    Layer1Edge :=
  ⟨near.batfishHostname, row.localInterface, far.batfishHostname, row.remoteInterface⟩

/-- The input covers every device and every link, and mixes none up. -/
structure CoversEvery (devices : List (Device Id)) (neighbors : List (Neighbor Id))
    (maxDevices : ℕ) (input : AnalysisInput Id) : Prop where
  each : ∀ d ∈ devices, Xor (d.id ∈ input.configs.map DeviceConfig.deviceId)
    (d.id ∈ input.excluded.map ExcludedDevice.deviceId)
  names : ∀ c ∈ input.configs, ∀ c' ∈ input.configs,
    c.batfishHostname = c'.batfishHostname → c = c'
  /-- The dictionaries from host names keep every configuration. -/
  counted : dictLen (input.configs.map fun c => (c.batfishHostname, c.content)) =
    input.configs.length
  keeps : ∀ c ∈ input.configs,
    dictGet (input.configs.map fun c => (c.batfishHostname, c.content)) c.batfishHostname =
        some c.content ∧
      dictGet (input.configs.map fun c => (c.batfishHostname, c.deviceId)) c.batfishHostname =
        some c.deviceId
  joins : ∀ e ∈ input.layer1Edges, ∃ row ∈ neighbors, ∃ near ∈ input.configs,
    ∃ far ∈ input.configs, row.deviceId = near.deviceId ∧
      SameName (reportedName row) far.batfishHostname ∧ e = near.edge row far
  yields : ∀ row ∈ neighbors, ∀ near ∈ input.configs, ∀ far ∈ input.configs,
    row.deviceId = near.deviceId → SameName (reportedName row) far.batfishHostname →
      near.edge row far ∈ input.layer1Edges
  order : ∀ rows input', rows.Perm neighbors →
    buildAnalysisInput latest content devices rows maxDevices = .ok input' →
      ∀ e, e ∈ input'.layer1Edges ↔ e ∈ input.layer1Edges

/-- Devices that are analysed have different names. -/
def DistinctNames (devices : List (Device Id)) : Prop :=
  ∀ d ∈ devices, ∀ d' ∈ devices, included latest d = true → included latest d' = true →
    nodeName content d = nodeName content d' → d = d'

/-- No observed link leads to an analysed device whose name is qualified. -/
def UnqualifiedEnds (devices : List (Device Id)) (neighbors : List (Neighbor Id)) : Prop :=
  ∀ row ∈ neighbors, ∀ d ∈ devices, ∀ d' ∈ devices, included latest d = true →
    included latest d' = true → row.deviceId = d.id →
      SameName (reportedName row) (nodeName content d') → '.' ∉ (nodeName content d').toList

/-- The rows of the table of devices. -/
structure Inventory (Id : Type) where
  devices : List (Device Id)
  /-- `id` is the primary key. -/
  ids_nodup : (devices.map Device.id).Nodup

section Lemmas

variable {latest content} {devices : List (Device Id)} {configs : List (DeviceConfig Id)}
  {neighbors : List (Neighbor Id)} {c : DeviceConfig Id} {d : Device Id} {row : Neighbor Id}

omit [UnicodeDatabase] [DecidableEq Id] in
/-- A device is included if its vendor is supported and it has a snapshot. -/
lemma included_iff : included latest d = true ↔
    supportedVendors.contains d.vendor = true ∧ ∃ snapshot, latest d.id = some snapshot := by
  rw [included, Bool.and_eq_true, Option.isSome_iff_exists]

variable (latest content) in
omit [DecidableEq Id] in
/-- A device is analysed or excluded, under its id. -/
lemma classify_cases (d : Device Id) :
    (∃ snapshot, latest d.id = some snapshot ∧ included latest d = true ∧
        classify latest content d = .inl (configOf content d snapshot)) ∨
      ∃ reason, included latest d = false ∧ classify latest content d = .inr ⟨d.id, reason⟩ := by
  unfold classify included
  cases hvendor : supportedVendors.contains d.vendor with
  | false => exact .inr ⟨_, rfl, rfl⟩
  | true =>
    cases hlatest : latest d.id with
    | none => exact .inr ⟨_, rfl, rfl⟩
    | some snapshot => exact .inl ⟨snapshot, rfl, rfl, rfl⟩

omit [DecidableEq Id] in
/-- The configurations are those of the included devices. -/
lemma mem_configs_iff :
    c ∈ devices.filterMap (fun d => (classify latest content d).getLeft?) ↔
      ∃ d ∈ devices, included latest d = true ∧
        ∃ snapshot, latest d.id = some snapshot ∧ c = configOf content d snapshot := by
  rw [List.mem_filterMap]
  refine exists_congr fun d => and_congr_right fun _ => ?_
  rcases classify_cases latest content d with
    ⟨snapshot, hlatest, hincluded, hclassify⟩ | ⟨reason, hexcluded, hclassify⟩
  · simp [hclassify, hincluded, hlatest, eq_comm]
  · simp [hclassify, hexcluded]

variable (latest content) in
omit [DecidableEq Id] in
/-- The ids of the two lists are those of the devices. -/
lemma ids_perm (devices : List (Device Id)) :
    ((devices.filterMap fun d => (classify latest content d).getLeft?).map DeviceConfig.deviceId ++
      (devices.filterMap fun d => (classify latest content d).getRight?).map
        ExcludedDevice.deviceId).Perm (devices.map Device.id) := by
  induction devices with
  | nil => exact List.Perm.refl _
  | cons d devices ih =>
    rcases classify_cases latest content d with
      ⟨snapshot, -, -, hclassify⟩ | ⟨reason, -, hclassify⟩
    · simpa [hclassify, configOf] using ih.cons d.id
    · simpa [hclassify] using List.perm_middle.trans (ih.cons d.id)

/-- The edges are those that the neighbour rows give. -/
lemma mem_layer1Edges_iff {e : Layer1Edge} :
    e ∈ layer1Edges configs neighbors ↔ ∃ row ∈ neighbors, edgeOf configs row = some e := by
  rw [layer1Edges, List.mem_mergeSort, List.mem_dedup, List.mem_filterMap]

/-- A row gives an edge from the node that observed it to the node with the short name. -/
lemma edgeOf_eq_some_iff (hids : (configs.map DeviceConfig.deviceId).Nodup) {e : Layer1Edge} :
    edgeOf configs row = some e ↔ ∃ near ∈ configs, near.deviceId = row.deviceId ∧
      shortName (reportedName row) ∈ configs.map DeviceConfig.batfishHostname ∧
      e = ⟨near.batfishHostname, row.localInterface, shortName (reportedName row),
        row.remoteInterface⟩ := by
  have hkeys : ((configs.map fun c => (c.deviceId, c.batfishHostname)).map Prod.fst).Nodup := by
    rwa [List.map_map]
  rw [edgeOf]
  cases hget : dictGet (configs.map fun c => (c.deviceId, c.batfishHostname)) row.deviceId with
  | none =>
    refine iff_of_false (by simp) ?_
    rintro ⟨near, hnear, hid, -⟩
    refine dictGet_eq_none_iff.mp hget ?_
    rw [List.map_map, ← hid]
    exact List.mem_map_of_mem hnear
  | some name =>
    obtain ⟨near, hnear, hpair⟩ := List.mem_map.mp (mem_of_dictGet hget)
    obtain ⟨hid, rfl⟩ := Prod.mk.inj hpair
    simp only [reportedName]
    split
    · rename_i hremote
      refine ⟨fun h => ⟨near, hnear, hid, hremote, (Option.some.inj h).symm⟩, ?_⟩
      rintro ⟨near', hnear', hid', -, rfl⟩
      have heq : near' = near :=
        List.inj_on_of_nodup_map hids hnear' hnear (hid'.trans hid.symm)
      rw [heq]
    · rename_i hremote
      exact iff_of_false (by simp) fun ⟨_, _, _, h, _⟩ => hremote h

end Lemmas

/-! ### Short names -/

omit [UnicodeDatabase] in
/-- A short name has no dot. -/
lemma not_mem_shortName (name : String) : '.' ∉ (shortName name).toList := by
  intro h
  rw [shortName, String.toList_ofList] at h
  simpa using List.mem_takeWhile_imp h

omit [UnicodeDatabase] in
/-- A name without a dot is its own short name. -/
lemma shortName_of_not_mem {name : String} (h : '.' ∉ name.toList) : shortName name = name := by
  rw [shortName, List.takeWhile_eq_self_iff.mpr, String.ofList_toList]
  intro c hc
  rw [bne_iff_ne]
  rintro rfl
  exact h hc

omit [UnicodeDatabase] in
/-- The short name is that of the node exactly when the node's name is not qualified. -/
lemma SameName.eq_shortName_iff {reported node : String} (h : SameName reported node) :
    node = shortName reported ↔ '.' ∉ node.toList := by
  constructor
  · rintro rfl
    exact not_mem_shortName reported
  · intro hdot
    rcases h with rfl | rfl | rfl
    · exact (shortName_of_not_mem hdot).symm
    · rfl
    · rw [shortName_of_not_mem (not_mem_shortName node), shortName_of_not_mem hdot]

/-! ### The main result -/

section Input

variable {latest content} {devices : List (Device Id)} {neighbors : List (Neighbor Id)}
  {maxDevices : ℕ} {input : AnalysisInput Id}

/-- An input that is built holds the configurations, the exclusions and the edges. -/
lemma of_buildAnalysisInput
    (h : buildAnalysisInput latest content devices neighbors maxDevices = .ok input) :
    input.configs = devices.filterMap (fun d => (classify latest content d).getLeft?) ∧
      input.excluded = devices.filterMap (fun d => (classify latest content d).getRight?) ∧
      input.layer1Edges = layer1Edges input.configs neighbors := by
  unfold buildAnalysisInput at h
  simp only at h
  split at h
  · cases h
  · obtain rfl := Except.ok.inj h
    exact ⟨rfl, rfl, rfl⟩

/-- The dates of an input are those of its oldest and newest configurations. -/
lemma dates_of_buildAnalysisInput
    (h : buildAnalysisInput latest content devices neighbors maxDevices = .ok input) :
    input.oldestConfigAt = (input.configs.map DeviceConfig.capturedAt).min? ∧
      input.newestConfigAt = (input.configs.map DeviceConfig.capturedAt).max? := by
  unfold buildAnalysisInput at h
  simp only at h
  split at h
  · cases h
  · obtain rfl := Except.ok.inj h
    exact ⟨rfl, rfl⟩

variable (content) in
/-- Not too many included devices can be analysed. -/
lemma exists_buildAnalysisInput
    (h : (devices.filter (included latest)).length ≤ maxDevices) (neighbors : List (Neighbor Id)) :
    ∃ input, buildAnalysisInput latest content devices neighbors maxDevices = .ok input := by
  unfold buildAnalysisInput
  simp only
  rw [if_neg (Nat.not_lt.mpr h)]
  exact ⟨_, rfl⟩

/-- With different names and unqualified ends, the input covers every device and link. -/
lemma coversEvery_of_distinctNames (inventory : Inventory Id)
    (hnames : DistinctNames latest content inventory.devices)
    (hends : UnqualifiedEnds latest content inventory.devices neighbors)
    (h : buildAnalysisInput latest content inventory.devices neighbors maxDevices = .ok input) :
    CoversEvery latest content inventory.devices neighbors maxDevices input := by
  obtain ⟨hconfigs, hexcluded, hedges⟩ := of_buildAnalysisInput h
  have hperm := ids_perm latest content inventory.devices
  rw [← hconfigs, ← hexcluded] at hperm
  have hnodup := hperm.nodup_iff.mpr inventory.ids_nodup
  have hids := hnodup.of_append_left
  have hmem : ∀ {c}, c ∈ input.configs ↔ ∃ d ∈ inventory.devices, included latest d = true ∧
      ∃ snapshot, latest d.id = some snapshot ∧ c = configOf content d snapshot := by
    rw [hconfigs]
    exact mem_configs_iff
  have hsame : ∀ c ∈ input.configs, ∀ c' ∈ input.configs,
      c.batfishHostname = c'.batfishHostname → c = c' := by
    intro c hc c' hc' heq
    obtain ⟨d, hd, hincluded, snapshot, hlatest, rfl⟩ := hmem.mp hc
    obtain ⟨d', hd', hincluded', snapshot', hlatest', rfl⟩ := hmem.mp hc'
    obtain rfl := hnames d hd d' hd' hincluded hincluded' heq
    obtain rfl := Option.some.inj (hlatest.symm.trans hlatest')
    rfl
  have hhostnames : (input.configs.map DeviceConfig.batfishHostname).Nodup :=
    (List.nodup_map_iff_inj_on hids.of_map).mpr hsame
  constructor
  · intro d hd
    have hor := List.mem_append.mp (hperm.mem_iff.mpr (List.mem_map_of_mem (f := Device.id) hd))
    have hdisjoint := List.disjoint_of_nodup_append hnodup
    exact hor.elim (fun h => .inl ⟨h, fun h' => hdisjoint h h'⟩)
      fun h => .inr ⟨h, fun h' => hdisjoint h' h⟩
  · exact hsame
  · rw [← List.length_map fun c : DeviceConfig Id => (c.batfishHostname, c.content), dictLen_eq_iff,
      List.map_map]
    exact hhostnames
  · intro c hc
    constructor
    · refine dictGet_of_nodup ?_ (List.mem_map_of_mem hc)
      rwa [List.map_map]
    · refine dictGet_of_nodup ?_ (List.mem_map_of_mem hc)
      rwa [List.map_map]
  · intro e he
    rw [hedges, mem_layer1Edges_iff] at he
    obtain ⟨row, hrow, hedge⟩ := he
    obtain ⟨near, hnear, hid, hfar, rfl⟩ := (edgeOf_eq_some_iff hids).mp hedge
    obtain ⟨far, hfar, hname⟩ := List.mem_map.mp hfar
    exact ⟨row, hrow, near, hnear, far, hfar, hid.symm, Or.inr (Or.inl hname),
      by rw [DeviceConfig.edge, hname]⟩
  · intro row hrow near hnear far hfar hid hname
    obtain ⟨d, hd, hincluded, snapshot, hlatest, rfl⟩ := hmem.mp hnear
    obtain ⟨d', hd', hincluded', snapshot', hlatest', rfl⟩ := hmem.mp hfar
    have hshort := hname.eq_shortName_iff.mpr
      (hends row hrow d hd d' hd' hincluded hincluded' hid hname)
    rw [hedges, mem_layer1Edges_iff]
    refine ⟨row, hrow, (edgeOf_eq_some_iff hids).mpr ⟨_, hnear, hid.symm, ?_, ?_⟩⟩
    · rw [← hshort]
      exact List.mem_map_of_mem hfar
    · rw [← hshort, DeviceConfig.edge]
  · intro rows input' hrows h' e
    obtain ⟨hconfigs', -, hedges'⟩ := of_buildAnalysisInput h'
    rw [hedges, hedges', hconfigs', ← hconfigs, mem_layer1Edges_iff, mem_layer1Edges_iff]
    exact exists_congr fun row => and_congr_left fun _ => hrows.mem_iff

end Input

/-- The input of an analysis covers every device and every link, and mixes none up, if and only if
there are too many devices, or else the analysed devices have different names and no observed link
leads to an analysed device with a qualified name. -/
theorem coversEvery_iff (inventory : Inventory Id) (neighbors : List (Neighbor Id))
    (maxDevices : ℕ) :
    (∀ input,
      buildAnalysisInput latest content inventory.devices neighbors maxDevices = .ok input →
        CoversEvery latest content inventory.devices neighbors maxDevices input) ↔
      maxDevices < (inventory.devices.filter (included latest)).length ∨
        DistinctNames latest content inventory.devices ∧
          UnqualifiedEnds latest content inventory.devices neighbors := by
  constructor
  · intro h
    refine or_iff_not_imp_left.mpr fun hfew => ?_
    obtain ⟨input, hinput⟩ :=
      exists_buildAnalysisInput content (Nat.not_lt.mp hfew) neighbors
    have hcovers := h input hinput
    obtain ⟨hconfigs, -, hedges⟩ := of_buildAnalysisInput hinput
    have hmem : ∀ d ∈ inventory.devices, included latest d = true →
        ∃ snapshot, configOf content d snapshot ∈ input.configs := by
      intro d hd hincluded
      obtain ⟨-, snapshot, hlatest⟩ := included_iff.mp hincluded
      refine ⟨snapshot, ?_⟩
      rw [hconfigs, mem_configs_iff]
      exact ⟨d, hd, hincluded, snapshot, hlatest, rfl⟩
    constructor
    · intro d hd d' hd' hincluded hincluded' hname
      obtain ⟨snapshot, hc⟩ := hmem d hd hincluded
      obtain ⟨snapshot', hc'⟩ := hmem d' hd' hincluded'
      have hid := congrArg DeviceConfig.deviceId (hcovers.names _ hc _ hc' hname)
      exact List.inj_on_of_nodup_map inventory.ids_nodup hd hd' hid
    · intro row hrow d hd d' hd' hincluded hincluded' hid hname
      obtain ⟨snapshot, hc⟩ := hmem d hd hincluded
      obtain ⟨snapshot', hc'⟩ := hmem d' hd' hincluded'
      have hedge := hcovers.yields row hrow _ hc _ hc' hid hname
      rw [hedges, mem_layer1Edges_iff] at hedge
      obtain ⟨row', -, hedge⟩ := hedge
      have hnodup := ((ids_perm latest content
        inventory.devices).nodup_iff.mpr inventory.ids_nodup).of_append_left
      rw [← hconfigs] at hnodup
      obtain ⟨near, -, -, -, heq⟩ := (edgeOf_eq_some_iff hnodup).mp hedge
      rw [DeviceConfig.edge, Layer1Edge.mk.injEq] at heq
      have hshort := not_mem_shortName (reportedName row')
      rwa [← heq.2.2.1] at hshort
  · rintro (hmany | ⟨hnames, hends⟩) input hinput
    · unfold buildAnalysisInput at hinput
      simp only at hinput
      rw [if_pos hmany] at hinput
      cases hinput
    · exact coversEvery_of_distinctNames inventory hnames hends hinput

/-- Two switches with the host name that a switch has when none was given to it. -/
def unnamedSwitches : Inventory ℕ where
  devices := [⟨0, "access-1", .ciscoIosxe⟩, ⟨1, "access-2", .ciscoIosxe⟩]
  ids_nodup := by decide

omit [UnicodeDatabase] in
/-- The configurations of the two switches are analysed under one name. -/
theorem not_coversEvery_unnamedSwitches :
    letI := asciiDatabase
    ¬ ∀ input, buildAnalysisInput (fun _ => some ⟨2, 0⟩) (fun _ => some "hostname Switch\n")
        unnamedSwitches.devices [] 200 = .ok input →
      CoversEvery (fun _ => some ⟨2, 0⟩) (fun _ => some "hostname Switch\n")
        unnamedSwitches.devices [] 200 input := by
  let _ := asciiDatabase
  intro h
  obtain ⟨input, hinput⟩ := exists_buildAnalysisInput (fun _ : ℕ => some "hostname Switch\n")
    (show (unnamedSwitches.devices.filter (included fun _ => some ⟨2, 0⟩)).length ≤ 200 by decide) []
  obtain ⟨hconfigs, -, -⟩ := of_buildAnalysisInput hinput
  have hmem : ∀ d ∈ unnamedSwitches.devices,
      configOf (fun _ => some "hostname Switch\n") d ⟨2, 0⟩ ∈ input.configs := by
    intro d hd
    rw [hconfigs, mem_configs_iff]
    refine ⟨d, hd, ?_, _, rfl, rfl⟩
    revert d
    decide
  have heq := (h input hinput).names _ (hmem _ List.mem_cons_self) _
    (hmem _ (List.mem_cons_of_mem _ List.mem_cons_self)) rfl
  exact absurd (congrArg DeviceConfig.deviceId heq) (by decide)

end Terraformer.Analysis
