import Terraformer.Topology.Elements

/-!
# Two views of one network

`ToolDispatcher._topology` tells the assistant which registered devices are linked, and
`buildTopologyElements` draws the same for the operator.  Both match a reported neighbour by its
management address first and by name second, but the one knows a device by the name of its record,
the other by the first label of the host name that was collected from it.

`sameTopology_iff` says when the two views of an inventory agree; that each of them has every
report once, and that every edge ends at nodes, holds of all inventories.
-/

namespace Terraformer.Topology

open Text
open Analysis (dictGet)

variable [UnicodeDatabase] [CaseFolding]

/-! ## The assistant's view -/

/-- The registered devices and, for each, the neighbours it has reported. -/
structure Inventory where
  devices : List Device
  neighbors : String → List DeviceNeighbor
  distinct_devices : (devices.map Device.id).Nodup
  distinct_reports :
    (devices.flatMap fun device => (neighbors device.id).map DeviceNeighbor.id).Nodup

/-- A neighbour as the assistant's tool reports it. -/
structure NeighborRecord where
  protocol : Protocol
  localDeviceId : String
  localDevice : String
  localInterface : String
  remoteName : String
  remoteInterface : String
  remoteManagementAddress : Option String
  remotePlatform : Option String

/-- A link as the assistant's tool reports it. -/
structure TopologyLink where
  record : NeighborRecord
  remoteDeviceId : String

/-- What the assistant's tool reports of the network. -/
structure ObservedTopology where
  links : List TopologyLink
  observedOnlyNeighbours : List NeighborRecord

/-- The registered device a reported neighbour is taken for. -/
def farEnd (devices : List Device) (neighbor : DeviceNeighbor) : Option Device :=
  let byAddress := devices.map fun device => (device.managementAddress, device)
  let byName := devices.map fun device => (casefold device.name, device)
  (dictGet byAddress (neighbor.managementAddress.getD "")).or
    (dictGet byName (casefold (headBefore '.' neighbor.remoteDeviceName)))

/-- The record of a neighbour row. -/
def recordOf (device : Device) (neighbor : DeviceNeighbor) : NeighborRecord where
  protocol := neighbor.protocol
  localDeviceId := device.id
  localDevice := device.name
  localInterface := neighbor.localInterface
  remoteName := neighbor.remoteDeviceName
  remoteInterface := neighbor.remoteInterface
  remoteManagementAddress := neighbor.managementAddress
  remotePlatform := neighbor.platform

/-- The link to the far end of a report, if that is registered. -/
def linkOf (devices : List Device) (device : Device) (neighbor : DeviceNeighbor) :
    Option TopologyLink :=
  (farEnd devices neighbor).map fun far => ⟨recordOf device neighbor, far.id⟩

namespace Inventory

variable (inventory : Inventory)

/-- The reports with the devices they come from. -/
def reports : List (Device × DeviceNeighbor) :=
  inventory.devices.flatMap fun device => (inventory.neighbors device.id).map fun neighbor =>
    (device, neighbor)

/-- `ToolDispatcher._topology`. -/
def topology : ObservedTopology where
  links := inventory.devices.flatMap fun device =>
    (inventory.neighbors device.id).filterMap (linkOf inventory.devices device)
  observedOnlyNeighbours := inventory.devices.flatMap fun device =>
    ((inventory.neighbors device.id).filter fun neighbor =>
      (farEnd inventory.devices neighbor).isNone).map (recordOf device)

/-- The graph of the inventory, with the links an operator has drawn. -/
def elements (links : List ManualTopologyLink) : List TopologyElement :=
  buildTopologyElements inventory.devices
    (inventory.devices.map fun device => ⟨device.id, inventory.neighbors device.id⟩) links

/-- The assistant is told that the report links its device to a registered one. -/
def Resolves (device : Device) (neighbor : DeviceNeighbor) (id : String) : Prop :=
  ∃ link ∈ inventory.topology.links,
    link.record = recordOf device neighbor ∧ link.remoteDeviceId = id

/-- The graph draws the report as an edge to a registered device. -/
def Draws (links : List ManualTopologyLink) (neighbor : DeviceNeighbor) (id : String) : Prop :=
  ∃ edge ∈ edges (inventory.elements links),
    edge.id = neighborEdgeId neighbor.id ∧ edge.target = deviceNodeId id

end Inventory

/-- The assistant and the graph see one network. -/
structure SameTopology (inventory : Inventory) (links : List ManualTopologyLink) : Prop where
  /-- A report is resolved to the device its edge is drawn to. -/
  resolves : ∀ device neighbor, (device, neighbor) ∈ inventory.reports →
    ∀ id, inventory.Resolves device neighbor id ↔ inventory.Draws links neighbor id
  /-- The assistant is told of every report once. -/
  told_once : (inventory.topology.links.map TopologyLink.record ++
    inventory.topology.observedOnlyNeighbours).Perm
      (inventory.reports.map fun report => recordOf report.1 report.2)
  /-- Every report has one edge. -/
  drawn_once : ∀ device neighbor, (device, neighbor) ∈ inventory.reports →
    ((edges (inventory.elements links)).map Edge.id).count (neighborEdgeId neighbor.id) = 1
  /-- A report has a node of its own, and one, just when it is drawn to no registered device. -/
  observed_once : ∀ device neighbor, (device, neighbor) ∈ inventory.reports →
    ((∃ id, inventory.Draws links neighbor id) →
      ((nodes (inventory.elements links)).map Node.id).count (observedNodeId neighbor.id) = 0) ∧
    ((¬ ∃ id, inventory.Draws links neighbor id) →
      ((nodes (inventory.elements links)).map Node.id).count (observedNodeId neighbor.id) = 1)
  /-- Every edge joins two nodes. -/
  ends : ∀ edge ∈ edges (inventory.elements links),
    edge.source ∈ (nodes (inventory.elements links)).map Node.id ∧
      edge.target ∈ (nodes (inventory.elements links)).map Node.id

/-! ## Identifiers -/

section Identifiers

omit [UnicodeDatabase] [CaseFolding]

/-- Texts that begin differently are different. -/
lemma append_ne_append {front front' : String}
    (h : front.toList.head? ≠ front'.toList.head?) (hne : front.toList ≠ [])
    (hne' : front'.toList ≠ []) (text text' : String) : front ++ text ≠ front' ++ text' := by
  intro heq
  have hlist := congrArg (fun text => text.toList.head?) heq
  simp only [String.toList_append] at hlist
  rw [List.head?_append_of_ne_nil _ hne, List.head?_append_of_ne_nil _ hne'] at hlist
  exact h hlist

/-- A text is determined by what stands behind the same front. -/
lemma append_injective (front : String) : Function.Injective (front ++ ·) := by
  intro text text' heq
  have hlist := congrArg String.toList heq
  simp only [String.toList_append] at hlist
  exact String.toList_inj.mp (List.append_cancel_left hlist)

/-- A device has another node than any neighbour. -/
lemma deviceNodeId_ne (id id' : String) : deviceNodeId id ≠ observedNodeId id' :=
  append_ne_append (by decide) (by decide) (by decide) id id'

/-- A neighbour has another edge than any manual link. -/
lemma neighborEdgeId_ne (id id' : String) : neighborEdgeId id ≠ manualEdgeId id' :=
  append_ne_append (by decide) (by decide) (by decide) id id'

/-- Devices have different nodes. -/
lemma deviceNodeId_injective : Function.Injective deviceNodeId := append_injective _

/-- Neighbours have different nodes. -/
lemma observedNodeId_injective : Function.Injective observedNodeId := append_injective _

/-- Neighbours have different edges. -/
lemma neighborEdgeId_injective : Function.Injective neighborEdgeId := append_injective _

end Identifiers

/-! ## What the views hold -/

section Views

omit [CaseFolding]

variable {inventory : Inventory} {links : List ManualTopologyLink} {device : Device}
  {neighbor : DeviceNeighbor}

omit [UnicodeDatabase] in
/-- The reports are the neighbour rows of the devices. -/
lemma Inventory.mem_reports : (device, neighbor) ∈ inventory.reports ↔
    device ∈ inventory.devices ∧ neighbor ∈ inventory.neighbors device.id := by
  simp only [Inventory.reports, List.mem_flatMap, List.mem_map, Prod.mk.injEq]
  constructor
  · rintro ⟨device', hdevice, neighbor', hneighbor, rfl, rfl⟩
    exact ⟨hdevice, hneighbor⟩
  · rintro ⟨hdevice, hneighbor⟩
    exact ⟨device, hdevice, neighbor, hneighbor, rfl, rfl⟩

omit [UnicodeDatabase] in
/-- No neighbour row is reported twice. -/
lemma Inventory.nodup_reports :
    (inventory.reports.map fun report => report.2.id).Nodup := by
  rw [Inventory.reports, List.map_flatMap]
  simp only [List.map_map]
  exact inventory.distinct_reports

/-- The edges are those of the neighbour rows and those of the manual links. -/
lemma Inventory.edges_elements : edges (inventory.elements links) =
    inventory.reports.map (fun report => neighborEdge inventory.devices report.1.id report.2) ++
      (links.filter (isDrawn inventory.devices)).map manualEdge := by
  rw [Inventory.elements, edges_buildTopologyElements, List.flatMap_map, Inventory.reports,
    List.map_flatMap]
  simp only [List.map_map]
  rfl

/-- The nodes are those of the devices and those of the neighbours that are none. -/
lemma Inventory.nodes_elements : nodes (inventory.elements links) =
    inventory.devices.map registeredNode ++
      (inventory.reports.filter fun report =>
        (registeredTarget inventory.devices report.2).isNone).map fun report =>
          observedNode report.2 := by
  rw [Inventory.elements, nodes_buildTopologyElements, List.flatMap_map, Inventory.reports,
    List.filter_flatMap, List.map_flatMap]
  simp only [List.filter_map, List.map_map, unmatched]
  rfl

/-- A report is matched to a registered device. -/
lemma mem_of_registeredTarget {devices : List Device} {far : Device}
    (h : registeredTarget devices neighbor = some far) : far ∈ devices := by
  have hindex : ∀ {key : Device → String} {name : String},
      dictGet (devices.map fun device => (key device, device)) name = some far →
      far ∈ devices := by
    intro key name hget
    obtain ⟨device, hdevice, heq⟩ := List.mem_map.mp (Analysis.mem_of_dictGet hget)
    rw [← (Prod.mk.inj heq).2]
    exact hdevice
  rw [registeredTarget, Option.or_eq_some_iff] at h
  rcases h with h | ⟨-, h⟩
  · obtain ⟨address, -, hget⟩ := Option.bind_eq_some_iff.mp h
    exact hindex hget
  · exact hindex h

end Views

/-! ## What the graph draws -/

section Graph

omit [CaseFolding]

variable {inventory : Inventory} {links : List ManualTopologyLink} {device : Device}
  {neighbor : DeviceNeighbor}

/-- A report is drawn to the device it is matched to. -/
lemma Inventory.draws_iff (h : (device, neighbor) ∈ inventory.reports) {id : String} :
    inventory.Draws links neighbor id ↔
      ∃ far, registeredTarget inventory.devices neighbor = some far ∧ far.id = id := by
  constructor
  · rintro ⟨edge, hedge, hid, htarget⟩
    rw [Inventory.edges_elements, List.mem_append] at hedge
    rcases hedge with hedge | hedge
    · obtain ⟨⟨device', neighbor'⟩, hreport, rfl⟩ := List.mem_map.mp hedge
      have heq := List.inj_on_of_nodup_map inventory.nodup_reports hreport h
        (neighborEdgeId_injective hid)
      obtain ⟨rfl, rfl⟩ := Prod.mk.inj heq
      cases hfar : registeredTarget inventory.devices neighbor' with
      | none =>
        simp only [neighborEdge, targetId, hfar] at htarget
        exact absurd htarget.symm (deviceNodeId_ne _ _)
      | some far =>
        simp only [neighborEdge, targetId, hfar] at htarget
        exact ⟨far, rfl, deviceNodeId_injective htarget⟩
    · obtain ⟨link, -, rfl⟩ := List.mem_map.mp hedge
      exact absurd hid.symm (neighborEdgeId_ne _ _)
  · rintro ⟨far, hfar, rfl⟩
    refine ⟨neighborEdge inventory.devices device.id neighbor, ?_, rfl, ?_⟩
    · rw [Inventory.edges_elements]
      exact List.mem_append_left _ (List.mem_map.mpr ⟨(device, neighbor), h, rfl⟩)
    · simp only [neighborEdge, targetId, hfar]

/-- A neighbour row is drawn to some device when it has a registered target. -/
lemma Inventory.draws_some_iff (h : (device, neighbor) ∈ inventory.reports) :
    (∃ id, inventory.Draws links neighbor id) ↔
      (registeredTarget inventory.devices neighbor).isSome := by
  rw [Option.isSome_iff_exists]
  constructor
  · rintro ⟨id, hdraws⟩
    obtain ⟨far, hfar, -⟩ := (Inventory.draws_iff h).mp hdraws
    exact ⟨far, hfar⟩
  · rintro ⟨far, hfar⟩
    exact ⟨far.id, (Inventory.draws_iff h).mpr ⟨far, hfar, rfl⟩⟩

/-- A report has one edge. -/
lemma Inventory.drawn_once (h : (device, neighbor) ∈ inventory.reports) :
    ((edges (inventory.elements links)).map Edge.id).count (neighborEdgeId neighbor.id) = 1 := by
  rw [Inventory.edges_elements, List.map_append, List.count_append, List.map_map, List.map_map]
  have hreports : (inventory.reports.map (Edge.id ∘ fun report =>
      neighborEdge inventory.devices report.1.id report.2)).count (neighborEdgeId neighbor.id) =
      1 := by
    refine List.count_eq_one_of_mem ?_ (List.mem_map.mpr ⟨(device, neighbor), h, rfl⟩)
    have hnodup := inventory.nodup_reports.map neighborEdgeId_injective
    rw [List.map_map] at hnodup
    exact hnodup
  have hlinks : ((links.filter (isDrawn inventory.devices)).map (Edge.id ∘ manualEdge)).count
      (neighborEdgeId neighbor.id) = 0 := by
    refine List.count_eq_zero_of_not_mem fun hmem => ?_
    obtain ⟨link, -, heq⟩ := List.mem_map.mp hmem
    exact neighborEdgeId_ne _ _ heq.symm
  rw [hreports, hlinks]

/-- The nodes of the reports that are matched to no device. -/
lemma Inventory.observed_ids : (nodes (inventory.elements links)).map Node.id =
    inventory.devices.map (fun device => deviceNodeId device.id) ++
      (inventory.reports.filter fun report =>
        (registeredTarget inventory.devices report.2).isNone).map fun report =>
          observedNodeId report.2.id := by
  rw [Inventory.nodes_elements, List.map_append, List.map_map, List.map_map]
  rfl

/-- A neighbour row without a registered target has one node of its own. -/
lemma Inventory.count_observed (h : (device, neighbor) ∈ inventory.reports) :
    ((nodes (inventory.elements links)).map Node.id).count (observedNodeId neighbor.id) =
      if (registeredTarget inventory.devices neighbor).isNone then 1 else 0 := by
  rw [Inventory.observed_ids, List.count_append]
  have hdevices : (inventory.devices.map fun device => deviceNodeId device.id).count
      (observedNodeId neighbor.id) = 0 := by
    refine List.count_eq_zero_of_not_mem fun hmem => ?_
    obtain ⟨device, -, heq⟩ := List.mem_map.mp hmem
    exact deviceNodeId_ne _ _ heq
  have hnodup := inventory.nodup_reports.map observedNodeId_injective
  rw [List.map_map] at hnodup
  rw [hdevices, Nat.zero_add]
  cases hnone : (registeredTarget inventory.devices neighbor).isNone with
  | true =>
    rw [if_pos rfl]
    refine List.count_eq_one_of_mem (hnodup.sublist (List.filter_sublist.map _)) ?_
    exact List.mem_map.mpr ⟨(device, neighbor), List.mem_filter.mpr ⟨h, hnone⟩, rfl⟩
  | false =>
    rw [if_neg (by decide)]
    refine List.count_eq_zero_of_not_mem fun hmem => ?_
    obtain ⟨report, hreport, heq⟩ := List.mem_map.mp hmem
    obtain ⟨hreport, hfilter⟩ := List.mem_filter.mp hreport
    have hsame := List.inj_on_of_nodup_map inventory.nodup_reports hreport h
      (observedNodeId_injective heq)
    rw [hsame, hnone] at hfilter
    exact absurd hfilter (by decide)

/-- Every edge joins two nodes. -/
lemma Inventory.ends {edge : Edge} (hedge : edge ∈ edges (inventory.elements links)) :
    edge.source ∈ (nodes (inventory.elements links)).map Node.id ∧
      edge.target ∈ (nodes (inventory.elements links)).map Node.id := by
  rw [Inventory.observed_ids]
  have hdevice : ∀ {device}, device ∈ inventory.devices → deviceNodeId device.id ∈
      inventory.devices.map (fun device => deviceNodeId device.id) ++
        (inventory.reports.filter fun report =>
          (registeredTarget inventory.devices report.2).isNone).map fun report =>
            observedNodeId report.2.id :=
    fun hmem => List.mem_append_left _ (List.mem_map.mpr ⟨_, hmem, rfl⟩)
  rw [Inventory.edges_elements, List.mem_append] at hedge
  rcases hedge with hedge | hedge
  · obtain ⟨⟨device, neighbor⟩, hreport, rfl⟩ := List.mem_map.mp hedge
    refine ⟨hdevice (Inventory.mem_reports.mp hreport).1, ?_⟩
    cases hfar : registeredTarget inventory.devices neighbor with
    | some far =>
      simp only [neighborEdge, targetId, hfar]
      exact hdevice (mem_of_registeredTarget hfar)
    | none =>
      simp only [neighborEdge, targetId, hfar]
      refine List.mem_append_right _ (List.mem_map.mpr ⟨(device, neighbor), ?_, rfl⟩)
      exact List.mem_filter.mpr ⟨hreport, by rw [hfar]; rfl⟩
  · obtain ⟨link, hlink, rfl⟩ := List.mem_map.mp hedge
    have hdrawn := (List.mem_filter.mp hlink).2
    simp only [isDrawn, Bool.not_eq_true', Bool.or_eq_false_iff, Bool.not_eq_false',
      List.contains_iff_mem] at hdrawn
    obtain ⟨⟨-, hsource⟩, htarget⟩ := hdrawn
    obtain ⟨source, hsource, hsourceId⟩ := List.mem_map.mp hsource
    obtain ⟨target, htarget, htargetId⟩ := List.mem_map.mp htarget
    rw [manualEdge, ← hsourceId, ← htargetId]
    exact ⟨hdevice hsource, hdevice htarget⟩

end Graph

/-! ## What the assistant is told -/

section Assistant

omit [UnicodeDatabase]

variable {inventory : Inventory} {device : Device} {neighbor : DeviceNeighbor}

/-- Reports of one record are taken for one device. -/
lemma farEnd_congr {devices : List Device} {device' : Device} {neighbor' : DeviceNeighbor}
    (h : recordOf device' neighbor' = recordOf device neighbor) :
    farEnd devices neighbor' = farEnd devices neighbor := by
  simp only [recordOf, NeighborRecord.mk.injEq] at h
  obtain ⟨-, -, -, -, hname, -, haddress, -⟩ := h
  rw [farEnd, farEnd, hname, haddress]

/-- The links are those of the rows that have one. -/
lemma Inventory.links_eq : inventory.topology.links =
    inventory.reports.filterMap fun report =>
      linkOf inventory.devices report.1 report.2 := by
  rw [Inventory.topology, Inventory.reports, List.filterMap_flatMap]
  simp only [List.filterMap_map]
  rfl

/-- The neighbours that are only observed are those without a far end. -/
lemma Inventory.observedOnly_eq : inventory.topology.observedOnlyNeighbours =
    (inventory.reports.filter fun report => (farEnd inventory.devices report.2).isNone).map
      fun report => recordOf report.1 report.2 := by
  rw [Inventory.topology, Inventory.reports, List.filter_flatMap, List.map_flatMap]
  simp only [List.filter_map, List.map_map]
  rfl

/-- A report is resolved to the device it is taken for. -/
lemma Inventory.resolves_iff (h : (device, neighbor) ∈ inventory.reports) {id : String} :
    inventory.Resolves device neighbor id ↔
      ∃ far, farEnd inventory.devices neighbor = some far ∧ far.id = id := by
  rw [Inventory.Resolves, Inventory.links_eq]
  constructor
  · rintro ⟨link, hlink, hrecord, hid⟩
    obtain ⟨⟨device', neighbor'⟩, -, hsome⟩ := List.mem_filterMap.mp hlink
    obtain ⟨far, hfar, rfl⟩ := Option.map_eq_some_iff.mp hsome
    exact ⟨far, farEnd_congr hrecord ▸ hfar, hid⟩
  · rintro ⟨far, hfar, hid⟩
    refine ⟨⟨recordOf device neighbor, far.id⟩, ?_, rfl, hid⟩
    refine List.mem_filterMap.mpr ⟨(device, neighbor), h, ?_⟩
    simp only [linkOf, hfar, Option.map_some]

/-- The links tell of the reports that are taken for a device. -/
lemma Inventory.records_eq : inventory.topology.links.map TopologyLink.record =
    (inventory.reports.filter fun report =>
      !(farEnd inventory.devices report.2).isNone).map fun report =>
        recordOf report.1 report.2 := by
  rw [Inventory.links_eq]
  induction inventory.reports with
  | nil => rfl
  | cons report reports ih =>
    rw [List.filterMap_cons, List.filter_cons]
    cases hfar : farEnd inventory.devices report.2 with
    | none =>
      simp only [linkOf, hfar, Option.map_none, Option.isNone_none, Bool.not_true,
        Bool.false_eq_true, if_false]
      exact ih
    | some far =>
      simp only [linkOf, hfar, Option.map_some, Option.isNone_some, Bool.not_false, if_true,
        List.map_cons]
      exact congrArg _ ih

/-- Every report is told of once. -/
lemma Inventory.told_once : (inventory.topology.links.map TopologyLink.record ++
    inventory.topology.observedOnlyNeighbours).Perm
      (inventory.reports.map fun report => recordOf report.1 report.2) := by
  rw [Inventory.records_eq, Inventory.observedOnly_eq, ← List.map_append]
  refine List.Perm.map _ (List.perm_append_comm.trans ?_)
  exact List.filter_append_perm _ _

end Assistant

/-! ## Agreement -/

/-- The last device in the list with a property. -/
def lastWith (admits : Device → Bool) (devices : List Device) : Option Device :=
  devices.reverse.find? admits

/-- A registered device has the address the neighbour reports. -/
def HasAddress (devices : List Device) (neighbor : DeviceNeighbor) : Prop :=
  ∃ address ∈ neighbor.managementAddress, ∃ device ∈ devices, device.managementAddress = address

/-- The device whose record has the first label of the reported name; a neighbour that reports no
address goes by a device that is registered without one. -/
def byRecord (devices : List Device) (neighbor : DeviceNeighbor) : Option Device :=
  (if neighbor.managementAddress.isNone then
    lastWith (fun device => device.managementAddress == "") devices
  else none).or
    (lastWith (fun device =>
      casefold device.name == casefold (headBefore '.' neighbor.remoteDeviceName)) devices)

/-- The device whose host name, or else the name of its record, has the first label of the reported
name. -/
def byHostname (devices : List Device) (neighbor : DeviceNeighbor) : Option Device :=
  lastWith (fun device => lower (shortenDeviceLabel device.graphName) ==
    lower (shortenDeviceLabel neighbor.remoteDeviceName)) devices

/-- The record of a device has the first label of the reported name as its name. -/
def GoesByRecord (neighbor : DeviceNeighbor) (device : Device) : Prop :=
  casefold device.name = casefold (headBefore '.' neighbor.remoteDeviceName)

/-- Whether the record of a device has the reported name can be decided. -/
instance (neighbor : DeviceNeighbor) : DecidablePred (GoesByRecord neighbor) :=
  fun _ => instDecidableEqString _ _

/-- The host name of a device, or else the name of its record, has the first label of the reported
name. -/
def GoesByHostname (neighbor : DeviceNeighbor) (device : Device) : Prop :=
  lower (shortenDeviceLabel device.graphName) =
    lower (shortenDeviceLabel neighbor.remoteDeviceName)

/-- Whether the host name of a device is the reported one can be decided. -/
instance (neighbor : DeviceNeighbor) : DecidablePred (GoesByHostname neighbor) :=
  fun _ => instDecidableEqString _ _

/-- One device of the list has two properties, and no later one has either of them. -/
def LastWithBoth (p q : Device → Prop) (devices : List Device) : Prop :=
  ∃ before device after, devices = before ++ device :: after ∧ p device ∧ q device ∧
    ∀ later ∈ after, ¬p later ∧ ¬q later

/-- The neighbour reports no address, and some device is registered with the empty one. -/
def Unaddressed (devices : List Device) (neighbor : DeviceNeighbor) : Prop :=
  neighbor.managementAddress = none ∧ ∃ device ∈ devices, device.managementAddress = ""

/-- Two views know a neighbour alike: by its address; by the name of a device that is registered
without one, where the neighbour reports none; by a name that one device has in both views and no
later device in either; or not at all, for want of a device with such a name. -/
inductive KnownAlike (devices : List Device) (neighbor : DeviceNeighbor) : Prop
  | address (haddress : HasAddress devices neighbor)
  | unaddressed (hnone : Unaddressed devices neighbor)
      (hlast : LastWithBoth (fun device => device.managementAddress = "")
        (GoesByHostname neighbor) devices)
  | name (hnone : ¬Unaddressed devices neighbor)
      (hlast : LastWithBoth (GoesByRecord neighbor) (GoesByHostname neighbor) devices)
  | unknown (hnone : ¬Unaddressed devices neighbor)
      (hunknown : ∀ device ∈ devices, ¬GoesByRecord neighbor device ∧
        ¬GoesByHostname neighbor device)

omit [UnicodeDatabase] [CaseFolding] in
/-- The dictionary finds the last device with the key. -/
lemma dictGet_map (devices : List Device) (key : Device → String) (name : String) :
    dictGet (devices.map fun device => (key device, device)) name =
      lastWith (fun device => key device == name) devices := by
  rw [dictGet, lastWith, ← List.map_reverse]
  induction devices.reverse with
  | nil => rfl
  | cons device devices ih =>
    rw [List.map_cons, List.lookup_cons, List.find?_cons, ih, BEq.comm]

section Matching

variable {devices : List Device} {neighbor : DeviceNeighbor}

omit [UnicodeDatabase] [CaseFolding] in
/-- No device is last when none is admitted. -/
lemma lastWith_eq_none_iff {admits : Device → Bool} :
    lastWith admits devices = none ↔ ∀ device ∈ devices, admits device = false := by
  simp [lastWith, List.find?_eq_none]

omit [UnicodeDatabase] [CaseFolding] in
/-- The last device with a property has it, and no later one does. -/
lemma lastWith_eq_some_iff {admits : Device → Bool} {device : Device} :
    lastWith admits devices = some device ↔ ∃ before after, devices = before ++ device :: after ∧
      admits device = true ∧ ∀ later ∈ after, admits later = false := by
  rw [lastWith, List.find?_eq_some_iff_append]
  constructor
  · rintro ⟨hadmits, after, before, hdevices, hafter⟩
    refine ⟨before.reverse, after.reverse, ?_, hadmits, fun later hlater => ?_⟩
    · rw [← List.reverse_reverse devices, hdevices]
      simp
    · simpa using hafter later (List.mem_reverse.mp hlater)
  · rintro ⟨before, after, rfl, hadmits, hafter⟩
    refine ⟨hadmits, after.reverse, before.reverse, by simp, fun later hlater => ?_⟩
    simpa using hafter later (List.mem_reverse.mp hlater)

omit [UnicodeDatabase] [CaseFolding] in
/-- What stands behind the last device with a property does not depend on where it is found. -/
lemma after_eq_of_last {admits admits' : Device → Bool} {device : Device}
    {before before' after after' : List Device}
    (heq : before ++ device :: after = before' ++ device :: after')
    (hadmits : admits device = true) (hafter : ∀ later ∈ after, admits later = false)
    (hadmits' : admits' device = true) (hafter' : ∀ later ∈ after', admits' later = false) :
    after = after' := by
  rcases List.append_eq_append_iff.mp heq with ⟨between, -, h⟩ | ⟨between, -, h⟩
  · cases between with
    | nil => exact (List.cons.inj h).2
    | cons first between =>
      have hmem : device ∈ after := by
        rw [(List.cons.inj h).2]
        simp
      exact absurd (hadmits.symm.trans (hafter device hmem)) (by decide)
  · cases between with
    | nil => exact (List.cons.inj h).2.symm
    | cons first between =>
      have hmem : device ∈ after' := by
        rw [(List.cons.inj h).2]
        simp
      exact absurd (hadmits'.symm.trans (hafter' device hmem)) (by decide)

omit [UnicodeDatabase] [CaseFolding] in
/-- Two properties have the same last device when one device is the last with both, or none has
either. -/
lemma lastWith_eq_lastWith_iff {p q : Device → Prop} [DecidablePred p] [DecidablePred q] :
    lastWith (fun device => decide (p device)) devices =
        lastWith (fun device => decide (q device)) devices ↔
      LastWithBoth p q devices ∨ ∀ device ∈ devices, ¬p device ∧ ¬q device := by
  constructor
  · intro heq
    cases hlast : lastWith (fun device => decide (p device)) devices with
    | none =>
      rw [hlast] at heq
      refine Or.inr fun device hdevice => ⟨?_, ?_⟩
      · simpa using lastWith_eq_none_iff.mp hlast device hdevice
      · simpa using lastWith_eq_none_iff.mp heq.symm device hdevice
    | some device =>
      rw [hlast] at heq
      obtain ⟨before, after, hdevices, hp, hafter⟩ := lastWith_eq_some_iff.mp hlast
      obtain ⟨before', after', hdevices', hq, hafter'⟩ := lastWith_eq_some_iff.mp heq.symm
      obtain rfl := after_eq_of_last (hdevices.symm.trans hdevices') hp hafter hq hafter'
      refine Or.inl ⟨before, device, after, hdevices, by simpa using hp, by simpa using hq,
        fun later hlater => ⟨?_, ?_⟩⟩
      · simpa using hafter later hlater
      · simpa using hafter' later hlater
  · rintro (⟨before, device, after, hdevices, hp, hq, hafter⟩ | hnone)
    · have hlast : lastWith (fun device => decide (p device)) devices = some device :=
        lastWith_eq_some_iff.mpr ⟨before, after, hdevices, by simpa using hp,
          fun later hlater => by simpa using (hafter later hlater).1⟩
      have hlast' : lastWith (fun device => decide (q device)) devices = some device :=
        lastWith_eq_some_iff.mpr ⟨before, after, hdevices, by simpa using hq,
          fun later hlater => by simpa using (hafter later hlater).2⟩
      rw [hlast, hlast']
    · rw [lastWith_eq_none_iff.mpr fun device hdevice => by simpa using (hnone device hdevice).1,
        lastWith_eq_none_iff.mpr fun device hdevice => by simpa using (hnone device hdevice).2]

/-- A neighbour that is known by its address is taken for one device. -/
lemma farEnd_eq_of_hasAddress (h : HasAddress devices neighbor) :
    farEnd devices neighbor = registeredTarget devices neighbor := by
  obtain ⟨address, haddress, device, hdevice, hequal⟩ := h
  have hsome : lastWith (fun device => device.managementAddress == address) devices ≠ none := by
    intro hnone
    have hfalse := lastWith_eq_none_iff.mp hnone device hdevice
    rw [hequal, beq_self_eq_true] at hfalse
    exact absurd hfalse (by decide)
  obtain ⟨far, hfar⟩ := Option.ne_none_iff_exists'.mp hsome
  rw [farEnd, registeredTarget, Option.mem_def.mp haddress]
  simp only [Option.getD_some, Option.bind_some, dictGet_map, hfar, Option.some_or]

omit [UnicodeDatabase] in
/-- Another neighbour is taken for the device that goes by its name. -/
lemma farEnd_eq_byRecord (h : ¬ HasAddress devices neighbor) :
    farEnd devices neighbor = byRecord devices neighbor := by
  simp only [farEnd, byRecord, dictGet_map]
  congr 1
  cases haddress : neighbor.managementAddress with
  | none => rfl
  | some address =>
    simp only [Option.getD_some, Option.isNone_some, Bool.false_eq_true, if_false]
    refine lastWith_eq_none_iff.mpr fun device hdevice => ?_
    rw [beq_eq_false_iff_ne]
    exact fun heq => h ⟨address, haddress, device, hdevice, heq⟩

omit [CaseFolding] in
/-- Without an address the topology goes by the hostname. -/
lemma registeredTarget_eq_byHostname (h : ¬ HasAddress devices neighbor) :
    registeredTarget devices neighbor = byHostname devices neighbor := by
  have hnone : (neighbor.managementAddress.bind fun address =>
      lastWith (fun device => device.managementAddress == address) devices) = none := by
    rw [Option.bind_eq_none_iff]
    intro address haddress
    refine lastWith_eq_none_iff.mpr fun device hdevice => ?_
    rw [beq_eq_false_iff_ne]
    exact fun heq => h ⟨address, haddress, device, hdevice, heq⟩
  simp only [registeredTarget, byHostname, dictGet_map]
  rw [hnone, Option.none_or]

omit [UnicodeDatabase] in
/-- A neighbour without an address goes by a device that is registered without one. -/
lemma byRecord_of_unaddressed (h : Unaddressed devices neighbor) :
    byRecord devices neighbor =
      lastWith (fun device => decide (device.managementAddress = "")) devices := by
  obtain ⟨hnone, device, hdevice, hempty⟩ := h
  have hsome : lastWith (fun device => decide (device.managementAddress = "")) devices ≠ none := by
    intro hlast
    simpa [hempty] using lastWith_eq_none_iff.mp hlast device hdevice
  obtain ⟨last, hlast⟩ := Option.ne_none_iff_exists'.mp hsome
  rw [byRecord, hnone, hlast]
  change (lastWith (fun device => decide (device.managementAddress = "")) devices).or _ = _
  rw [hlast, Option.some_or]

omit [UnicodeDatabase] in
/-- Another neighbour goes by the name of a record. -/
lemma byRecord_of_not_unaddressed (h : ¬Unaddressed devices neighbor) :
    byRecord devices neighbor = lastWith (fun device => decide (casefold device.name =
      casefold (headBefore '.' neighbor.remoteDeviceName))) devices := by
  rw [byRecord]
  cases haddress : neighbor.managementAddress with
  | none =>
    have hnone : lastWith (fun device => device.managementAddress == "") devices = none := by
      refine lastWith_eq_none_iff.mpr fun device hdevice => ?_
      rw [beq_eq_false_iff_ne]
      exact fun hempty => h ⟨haddress, device, hdevice, hempty⟩
    rw [if_pos Option.isNone_none, hnone, Option.none_or]
    rfl
  | some address =>
    rw [if_neg (by simp), Option.none_or]
    rfl

omit [UnicodeDatabase] [CaseFolding] in
/-- Devices of the list with one identifier are one device. -/
lemma map_id_lastWith (hids : (devices.map Device.id).Nodup) {p q : Device → Bool} :
    (lastWith p devices).map Device.id = (lastWith q devices).map Device.id ↔
      lastWith p devices = lastWith q devices := by
  have hmem : ∀ {admits : Device → Bool} {device : Device},
      lastWith admits devices = some device → device ∈ devices := by
    intro admits device h
    obtain ⟨before, after, rfl, -⟩ := lastWith_eq_some_iff.mp h
    simp
  refine ⟨fun h => ?_, congrArg _⟩
  cases hp : lastWith p devices with
  | none =>
    rw [hp, Option.map_none, eq_comm, Option.map_eq_none_iff] at h
    exact h.symm
  | some device =>
    rw [hp, Option.map_some, eq_comm, Option.map_eq_some_iff] at h
    obtain ⟨device', hq, hid⟩ := h
    rw [hq, List.inj_on_of_nodup_map hids (hmem hq) (hmem hp) hid]

/-- The two views know a neighbour alike when they take it for the same device. -/
lemma knownAlike_iff (hids : (devices.map Device.id).Nodup) : KnownAlike devices neighbor ↔
    (farEnd devices neighbor).map Device.id = (registeredTarget devices neighbor).map Device.id := by
  by_cases haddress : HasAddress devices neighbor
  · rw [farEnd_eq_of_hasAddress haddress]
    exact iff_of_true (.address haddress) rfl
  rw [farEnd_eq_byRecord haddress, registeredTarget_eq_byHostname haddress, byHostname]
  by_cases hnone : Unaddressed devices neighbor
  · rw [byRecord_of_unaddressed hnone, map_id_lastWith hids]
    refine Iff.trans ⟨fun h => ?_, fun h => .unaddressed hnone ?_⟩
      (lastWith_eq_lastWith_iff (q := GoesByHostname neighbor)).symm
    · cases h with
      | address h => exact absurd h haddress
      | unaddressed _ hlast => exact Or.inl hlast
      | name h => exact absurd hnone h
      | unknown h => exact absurd hnone h
    · obtain ⟨-, device, hdevice, hempty⟩ := hnone
      exact h.resolve_right fun h => (h device hdevice).1 hempty
  · rw [byRecord_of_not_unaddressed hnone, map_id_lastWith hids]
    refine Iff.trans ⟨fun h => ?_, fun h => ?_⟩ lastWith_eq_lastWith_iff.symm
    · cases h with
      | address h => exact absurd h haddress
      | unaddressed h => exact absurd h hnone
      | name _ hlast => exact Or.inl hlast
      | unknown _ hunknown => exact Or.inr hunknown
    · exact h.elim (.name hnone) (.unknown hnone)

end Matching

/-- The assistant and the graph see one network just when every reported neighbour is known by its
address or by one name to both. -/
theorem sameTopology_iff (inventory : Inventory) (links : List ManualTopologyLink) :
    SameTopology inventory links ↔
      ∀ device neighbor, (device, neighbor) ∈ inventory.reports →
        KnownAlike inventory.devices neighbor := by
  constructor
  · intro h device neighbor hreport
    rw [knownAlike_iff inventory.distinct_devices]
    refine Option.ext fun id => ?_
    rw [Option.map_eq_some_iff, Option.map_eq_some_iff]
    exact (Inventory.resolves_iff hreport).symm.trans
      ((h.resolves device neighbor hreport id).trans (Inventory.draws_iff hreport))
  · intro h
    refine ⟨fun device neighbor hreport id => ?_, Inventory.told_once,
      fun device neighbor hreport => Inventory.drawn_once hreport,
      fun device neighbor hreport => ?_, fun edge hedge => Inventory.ends hedge⟩
    · rw [Inventory.resolves_iff hreport, Inventory.draws_iff hreport, ← Option.map_eq_some_iff,
        ← Option.map_eq_some_iff,
        (knownAlike_iff inventory.distinct_devices).mp (h device neighbor hreport)]
    · rw [Inventory.draws_some_iff hreport, Inventory.count_observed hreport]
      constructor
      · intro hsome
        rw [if_neg (by simpa [← Option.ne_none_iff_isSome] using hsome)]
      · intro hnone
        rw [if_pos (by simpa using hnone)]

/-! ## A device that goes by another name -/

/-- A neighbour under its full host name, which reports another address than it is reached by. -/
def qualifiedNeighbor : DeviceNeighbor where
  id := "n1"
  protocol := .cdp
  localInterface := "GigabitEthernet0/1"
  remoteDeviceName := "SW3.example.test"
  remoteInterface := "GigabitEthernet0/2"
  managementAddress := some "192.0.2.97"
  platform := none

/-- A switch that an operator has registered under a name of his own, and its neighbour. -/
def renamedSwitch : Inventory where
  devices := [⟨"1", "Access switch", "192.0.2.65", some "SW3"⟩, ⟨"2", "SW4", "192.0.2.66", none⟩]
  neighbors id := if id = "2" then [qualifiedNeighbor] else []
  distinct_devices := by decide
  distinct_reports := by decide

omit [UnicodeDatabase] [CaseFolding] in
/-- The graph links the switch to its neighbour, and the assistant is not told so. -/
theorem not_sameTopology_renamedSwitch :
    letI := asciiDatabase
    letI := asciiFolding
    ¬ SameTopology renamedSwitch [] := by
  let _ := asciiDatabase
  let _ := asciiFolding
  intro h
  have hreport : (⟨"2", "SW4", "192.0.2.66", none⟩, qualifiedNeighbor) ∈ renamedSwitch.reports :=
    Inventory.mem_reports.mpr ⟨by decide, by decide⟩
  have hiff := h.resolves _ _ hreport "1"
  rw [Inventory.resolves_iff hreport, Inventory.draws_iff hreport] at hiff
  have hnone : farEnd renamedSwitch.devices qualifiedNeighbor = none := by decide
  obtain ⟨far, hfar, -⟩ := hiff.mpr ⟨_, rfl, rfl⟩
  rw [hnone] at hfar
  exact absurd hfar.symm (Option.some_ne_none far)

end Terraformer.Topology
