import Terraformer.Analysis.SnapshotBuilder
import Terraformer.Changes.Types

/-!
# The topology graph

`buildTopologyElements` of the frontend draws the registered devices, the neighbours they report,
and the links an operator has drawn.  A reported neighbour is matched to a registered device by its
management address, else by its name; one that is matched becomes an edge, one that is not becomes
an edge to a node of its own.

`edges_buildTopologyElements` and `nodes_buildTopologyElements` say which edges and nodes the graph
has; that the edges end at nodes, and that every report is drawn once, follows from them.
-/

namespace Terraformer.Topology

open Text
open Analysis (dictGet)

variable [UnicodeDatabase]

/-! ## Records -/

/-- A registered device; the host name is the one among its collected facts. -/
structure Device where
  id : String
  name : String
  managementAddress : String
  hostname : Option String
  deriving DecidableEq

/-- The protocols that neighbours are found by. -/
inductive Protocol where
  | cdp
  | lldp
  deriving DecidableEq

/-- A neighbour that a device has reported. -/
structure DeviceNeighbor where
  id : String
  protocol : Protocol
  localInterface : String
  remoteDeviceName : String
  remoteInterface : String
  managementAddress : Option String
  platform : Option String
  deriving DecidableEq

/-- The neighbours of one device. -/
structure NeighborGroup where
  deviceId : String
  neighbors : List DeviceNeighbor

/-- A link that was drawn by hand. -/
structure ManualTopologyLink where
  id : String
  sourceDeviceId : String
  targetDeviceId : String

/-- What a node stands for. -/
inductive NodeKind where
  | registered
  | observed
  deriving DecidableEq

/-- A node as it is drawn. -/
structure Node where
  id : String
  label : String
  kind : NodeKind

/-- The protocol of an edge; an edge without one is drawn by an operator. -/
structure Edge where
  id : String
  source : String
  target : String
  label : String
  sourcePort : String
  targetPort : String
  protocol : Option Protocol
  verified : Bool

/-- An element of the drawing. -/
inductive TopologyElement where
  | node (node : Node)
  | edge (edge : Edge)

/-! ## Names -/

/-- `INTERFACE_ABBREVIATIONS`. -/
def interfaceAbbreviations : List (String × String) :=
  [("TwentyFiveGigE", "Twe"), ("TenGigabitEthernet", "Te"), ("FortyGigabitEthernet", "Fo"),
    ("HundredGigE", "Hu"), ("GigabitEthernet", "Gi"), ("FastEthernet", "Fa"), ("Ethernet", "Et"),
    ("Port-channel", "Po"), ("Vlan", "Vl"), ("Loopback", "Lo")]

/-- The name begins with the family, the case of ASCII letters apart. -/
def beginsWithFamily (family name : String) : Bool :=
  (family.toList.map Char.toLower).isPrefixOf (name.toList.map Char.toLower)

/-- `abbreviateInterface`. -/
def abbreviateInterface (name : String) : String :=
  match interfaceAbbreviations.find? fun entry => beginsWithFamily entry.1 name with
  | some (family, short) => short ++ String.ofList (name.toList.drop family.length)
  | none => name

/-- `shortenDeviceLabel`. -/
def shortenDeviceLabel (name : String) : String :=
  if headBefore '.' name ≠ "" then headBefore '.' name else name

/-- The name a device goes by in the graph. -/
def Device.graphName (device : Device) : String :=
  device.hostname.getD device.name

/-! ## The graph -/

/-- The registered device a reported neighbour is drawn as. -/
def registeredTarget (devices : List Device) (neighbor : DeviceNeighbor) : Option Device :=
  let registeredByAddress := devices.map fun device => (device.managementAddress, device)
  let registeredByName := devices.map fun device =>
    (lower (shortenDeviceLabel device.graphName), device)
  (neighbor.managementAddress.bind (dictGet registeredByAddress)).or
    (dictGet registeredByName (lower (shortenDeviceLabel neighbor.remoteDeviceName)))

/-- The id of the node of a device. -/
def deviceNodeId (deviceId : String) : String := "device:" ++ deviceId

/-- The id of the node of a neighbour that is no registered device. -/
def observedNodeId (neighborId : String) : String := "observed:" ++ neighborId

/-- The id of the edge of a neighbour row. -/
def neighborEdgeId (neighborId : String) : String := "neighbor:" ++ neighborId

/-- The id of the edge of a manual link. -/
def manualEdgeId (linkId : String) : String := "manual:" ++ linkId

/-- The node of a registered device. -/
def registeredNode (device : Device) : Node where
  id := deviceNodeId device.id
  label := device.graphName ++ "\n" ++ device.managementAddress
  kind := .registered

/-- The node of an observed neighbour. -/
def observedNode (neighbor : DeviceNeighbor) : Node where
  id := observedNodeId neighbor.id
  label := shortenDeviceLabel neighbor.remoteDeviceName
  kind := .observed

/-- The node at the far end of a report. -/
def targetId (devices : List Device) (neighbor : DeviceNeighbor) : String :=
  match registeredTarget devices neighbor with
  | none => observedNodeId neighbor.id
  | some device => deviceNodeId device.id

/-- The edge from a device to its neighbour. -/
def neighborEdge (devices : List Device) (deviceId : String) (neighbor : DeviceNeighbor) : Edge where
  id := neighborEdgeId neighbor.id
  source := deviceNodeId deviceId
  target := targetId devices neighbor
  label := abbreviateInterface neighbor.localInterface ++ " → " ++
    abbreviateInterface neighbor.remoteInterface
  sourcePort := abbreviateInterface neighbor.localInterface
  targetPort := abbreviateInterface neighbor.remoteInterface
  protocol := some neighbor.protocol
  verified := (registeredTarget devices neighbor).isSome

/-- The edge of a manual link. -/
def manualEdge (link : ManualTopologyLink) : Edge where
  id := manualEdgeId link.id
  source := deviceNodeId link.sourceDeviceId
  target := deviceNodeId link.targetDeviceId
  label := "UNVERIFIED"
  sourcePort := ""
  targetPort := ""
  protocol := none
  verified := false

/-- The elements drawn for one report. -/
def neighborElements (devices : List Device) (deviceId : String) (neighbor : DeviceNeighbor) :
    List TopologyElement :=
  (if (registeredTarget devices neighbor).isNone then [.node (observedNode neighbor)] else []) ++
    [.edge (neighborEdge devices deviceId neighbor)]

/-- A link between two different registered devices. -/
def isDrawn (devices : List Device) (link : ManualTopologyLink) : Bool :=
  let registeredIds := devices.map Device.id
  !(link.sourceDeviceId == link.targetDeviceId ||
    !registeredIds.contains link.sourceDeviceId || !registeredIds.contains link.targetDeviceId)

/-- `buildTopologyElements`. -/
def buildTopologyElements (devices : List Device) (neighborGroups : List NeighborGroup)
    (manualLinks : List ManualTopologyLink) : List TopologyElement :=
  devices.map (fun device => .node (registeredNode device)) ++
    neighborGroups.flatMap (fun group =>
      group.neighbors.flatMap (neighborElements devices group.deviceId)) ++
    (manualLinks.filter (isDrawn devices)).map fun link => .edge (manualEdge link)

/-! ## Nodes and edges -/

namespace TopologyElement

/-- The element's node, if it is one. -/
def asNode : TopologyElement → Option Node
  | .node item => some item
  | .edge _ => none

/-- The element's edge, if it is one. -/
def asEdge : TopologyElement → Option Edge
  | .node _ => none
  | .edge item => some item

end TopologyElement

/-- The nodes of a drawing. -/
def nodes (elements : List TopologyElement) : List Node := elements.filterMap TopologyElement.asNode

/-- The edges of a drawing. -/
def edges (elements : List TopologyElement) : List Edge := elements.filterMap TopologyElement.asEdge

/-- The neighbours that are drawn as nodes of their own. -/
def unmatched (devices : List Device) (neighbors : List DeviceNeighbor) : List DeviceNeighbor :=
  neighbors.filter fun neighbor => (registeredTarget devices neighbor).isNone

/-- The neighbour rows draw the nodes of those that are no device. -/
lemma nodes_neighborElements (devices : List Device) (deviceId : String)
    (neighbors : List DeviceNeighbor) :
    nodes (neighbors.flatMap (neighborElements devices deviceId)) =
      (unmatched devices neighbors).map observedNode := by
  induction neighbors with
  | nil => rfl
  | cons neighbor neighbors ih =>
    rw [nodes] at ih ⊢
    rw [List.flatMap_cons, List.filterMap_append, ih]
    cases h : (registeredTarget devices neighbor).isNone with
    | true => simp [neighborElements, h, TopologyElement.asNode, unmatched]
    | false => simp [neighborElements, h, TopologyElement.asNode, unmatched]

/-- Every neighbour row draws its edge. -/
lemma edges_neighborElements (devices : List Device) (deviceId : String)
    (neighbors : List DeviceNeighbor) :
    edges (neighbors.flatMap (neighborElements devices deviceId)) =
      neighbors.map (neighborEdge devices deviceId) := by
  induction neighbors with
  | nil => rfl
  | cons neighbor neighbors ih =>
    rw [edges] at ih ⊢
    rw [List.flatMap_cons, List.filterMap_append, ih, List.map_cons]
    cases h : (registeredTarget devices neighbor).isNone with
    | true =>
      rw [neighborElements, h]
      rfl
    | false =>
      rw [neighborElements, h]
      rfl

variable (devices : List Device) (groups : List NeighborGroup) (links : List ManualTopologyLink)

/-- The nodes of the graph: the registered devices, and the neighbours matched to none. -/
lemma nodes_buildTopologyElements :
    nodes (buildTopologyElements devices groups links) =
      devices.map registeredNode ++
        groups.flatMap fun group => (unmatched devices group.neighbors).map observedNode := by
  have hdevices : nodes (devices.map fun device => .node (registeredNode device)) =
      devices.map registeredNode := by
    rw [nodes, List.filterMap_map]
    exact List.filterMap_eq_map' ▸ rfl
  have hgroups : nodes (groups.flatMap fun group =>
      group.neighbors.flatMap (neighborElements devices group.deviceId)) =
      groups.flatMap fun group => (unmatched devices group.neighbors).map observedNode := by
    rw [nodes, List.filterMap_flatMap]
    exact List.flatMap_congr fun group _ => nodes_neighborElements devices _ _
  have hlinks : nodes ((links.filter (isDrawn devices)).map fun link => .edge (manualEdge link)) =
      [] := by
    rw [nodes, List.filterMap_map, List.filterMap_eq_nil_iff]
    exact fun link _ => rfl
  rw [buildTopologyElements, nodes, List.filterMap_append, List.filterMap_append, ← nodes, ← nodes,
    ← nodes, hdevices, hgroups, hlinks, List.append_nil]

/-- The edges of the graph: one for each report, and the drawn links. -/
lemma edges_buildTopologyElements :
    edges (buildTopologyElements devices groups links) =
      (groups.flatMap fun group =>
        group.neighbors.map (neighborEdge devices group.deviceId)) ++
        (links.filter (isDrawn devices)).map manualEdge := by
  have hdevices : edges (devices.map fun device => .node (registeredNode device)) = [] := by
    rw [edges, List.filterMap_map, List.filterMap_eq_nil_iff]
    exact fun device _ => rfl
  have hgroups : edges (groups.flatMap fun group =>
      group.neighbors.flatMap (neighborElements devices group.deviceId)) =
      groups.flatMap fun group => group.neighbors.map (neighborEdge devices group.deviceId) := by
    rw [edges, List.filterMap_flatMap]
    exact List.flatMap_congr fun group _ => edges_neighborElements devices _ _
  have hlinks : edges ((links.filter (isDrawn devices)).map fun link => .edge (manualEdge link)) =
      (links.filter (isDrawn devices)).map manualEdge := by
    rw [edges, List.filterMap_map]
    exact List.filterMap_eq_map' ▸ rfl
  rw [buildTopologyElements, edges, List.filterMap_append, List.filterMap_append, ← edges, ← edges,
    ← edges, hdevices, hgroups, hlinks, List.nil_append]

end Terraformer.Topology
