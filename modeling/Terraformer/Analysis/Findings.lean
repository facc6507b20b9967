import Terraformer.Analysis.SnapshotBuilder

/-!
# Findings of an analysis

What the backend reports is compared with the observed cabling (`topologyDriftFindings`), cut to
the allowed number and attributed to devices by host name (`toFindings`).
-/

namespace Terraformer.Analysis

open Text

variable [UnicodeDatabase] {Id : Type} [DecidableEq Id]

/-- What a finding is about. -/
inductive FindingCategory where
  | parseWarning
  | undefinedReference
  | unusedStructure
  | topologyDrift
  deriving DecidableEq

/-- How severe a finding is. -/
inductive EventSeverity where
  | info
  | warning
  | error
  deriving DecidableEq

/-- A finding as an analyzer reports it. -/
structure RawFinding where
  category : FindingCategory
  hostname : Option String
  structureType : Option String
  structureName : Option String
  detail : String
  lineNumber : Option ℤ

/-- What the analyzer says of one port. -/
structure InterfaceProperty where
  hostname : String
  interface : String
  switchportMode : Option String
  accessVlan : Option ℤ

/-- A finding as it is stored. -/
structure PreparedFinding (Id : Type) where
  category : FindingCategory
  severity : EventSeverity
  deviceId : Option Id
  structureType : Option String
  structureName : Option String
  detail : String
  lineNumber : Option ℤ

/-- `_SEVERITY_BY_CATEGORY`. -/
def severityByCategory : FindingCategory → EventSeverity
  | .parseWarning => .error
  | .undefinedReference => .warning
  | .unusedStructure => .info
  | .topologyDrift => .warning

/-- `text[:limit]`. -/
def clipped (limit : ℕ) (text : String) : String := String.ofList (text.toList.take limit)

/-- `_drift`. -/
def drift (hostname interface detail : String) : RawFinding where
  category := .topologyDrift
  hostname := some hostname
  structureType := some "interface"
  structureName := some interface
  detail := detail
  lineNumber := none

/-- `_mode`; an empty mode counts as none. -/
def mode (item : InterfaceProperty) : String :=
  upper ((item.switchportMode.filter (· ≠ "")).getD "UNKNOWN")

/-- The findings of one observed link. -/
def edgeFindings (byKey : List ((String × String) × InterfaceProperty)) (edge : Layer1Edge) :
    List RawFinding :=
  let near := dictGet byKey (lower edge.node1Hostname, lower edge.node1Interface)
  let far := dictGet byKey (lower edge.node2Hostname, lower edge.node2Interface)
  let missing (hostname interface : String) (found : Option InterfaceProperty) :=
    if found.isNone then
      [drift hostname interface (interface ++ " is reported by a neighbour discovery record" ++
        " but does not appear in the parsed configuration")]
    else []
  missing edge.node1Hostname edge.node1Interface near ++
    missing edge.node2Hostname edge.node2Interface far ++
    match near, far with
    | some near, some far =>
      if mode near ≠ mode far then
        [drift edge.node1Hostname edge.node1Interface
          ("Observed link ends disagree on switchport mode: " ++ edge.node1Hostname ++ " " ++
            edge.node1Interface ++ " is " ++ mode near ++ " and " ++ edge.node2Hostname ++ " " ++
            edge.node2Interface ++ " is " ++ mode far)]
      else
        match near.accessVlan, far.accessVlan with
        | some nearVlan, some farVlan =>
          if mode near = "ACCESS" ∧ nearVlan ≠ farVlan then
            [drift edge.node1Hostname edge.node1Interface
              ("Observed link ends disagree on access VLAN: " ++ edge.node1Hostname ++ " " ++
                edge.node1Interface ++ " uses " ++ str nearVlan ++ " and " ++
                edge.node2Hostname ++ " " ++ edge.node2Interface ++ " uses " ++ str farVlan)]
          else []
        | _, _ => []
    | _, _ => []

/-- `topology_drift_findings`. -/
def topologyDriftFindings (edges : List Layer1Edge) (properties : List InterfaceProperty) :
    List RawFinding :=
  edges.flatMap (edgeFindings (properties.map fun item =>
    ((lower item.hostname, lower item.interface), item)))

variable (sanitizeText : String → String)

/-- `_clip`. -/
def clip (value : Option String) (limit : ℕ) : Option String :=
  (value.map fun text => clipped limit (sanitizeText text)).filter (· ≠ "")

/-- The finding that is stored for a reported one. -/
def prepare (hostnameToDevice : List (String × Id)) (item : RawFinding) : PreparedFinding Id where
  category := item.category
  severity := severityByCategory item.category
  deviceId := item.hostname.bind fun hostname => dictGet hostnameToDevice (lower (strip hostname))
  structureType := clip sanitizeText item.structureType 100
  structureName := clip sanitizeText item.structureName 255
  detail := clipped 2000 (sanitizeText item.detail)
  lineNumber := item.lineNumber

/-- `to_findings`. -/
def toFindings (raw : List RawFinding) (hostnameToDevice : List (String × Id))
    (maxFindings : ℕ) : List (PreparedFinding Id) × Bool :=
  ((raw.take maxFindings).map (prepare sanitizeText hostnameToDevice), maxFindings < raw.length)

end Terraformer.Analysis
