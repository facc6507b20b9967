import Mathlib
import Terraformer.Changes.Types

/-!
# The configuration of a switch

The part of an IOS configuration that the change pipeline writes: the ports with their layer-2
attributes, the VLAN database, the static routes, the routing processes, the host name and
name resolution.  Ports are an arbitrary type; `Naming` says which texts denote which port.
-/

namespace Terraformer

open Text

/-- The administrative switchport mode of a port. -/
inductive PortMode where
  | trunk
  | staticAccess
  | dynamicAuto
  | dynamicDesirable
  deriving DecidableEq, Repr

/-- The trunk encapsulation of a port. -/
inductive Encapsulation where
  | dot1q
  | isl
  | negotiate
  deriving DecidableEq, Repr

/-- The configuration of one port. -/
structure PortConfig where
  description : Option String
  shutdown : Bool
  mode : PortMode
  accessVlan : ℕ
  encapsulation : Encapsulation
  allowed : Finset ℕ
  deriving DecidableEq

/-- Destination, mask and next hop: what tells static routes apart. -/
structure RouteKey where
  destination : Ipv4
  mask : Ipv4
  nextHop : String
  deriving DecidableEq, Repr

/-- The running configuration. -/
@[ext]
structure Config (Port : Type*) where
  hostname : String
  domainLookup : Bool
  ports : Port → PortConfig
  /-- The name of each VLAN in the database. -/
  vlans : ℕ → Option String
  /-- The options of each configured route. -/
  routes : RouteKey → Option (List String)
  /-- The statements of each routing process, under the normal form of its name. -/
  processes : String → Option (Finset String)

/-- The whole range of VLAN ids, which is what a trunk allows by default. -/
def allVlans : Finset ℕ :=
  Finset.Icc 1 4094

namespace Config

variable {Port : Type*} [DecidableEq Port]

/-- The configuration with one port changed. -/
def setPort (c : Config Port) (p : Port) (port : PortConfig) : Config Port :=
  { c with ports := Function.update c.ports p port }

/-- The configuration with one VLAN of the database changed. -/
def setVlan (c : Config Port) (n : ℕ) (name : Option String) : Config Port :=
  { c with vlans := Function.update c.vlans n name }

/-- The configuration with one route changed. -/
def setRoute (c : Config Port) (key : RouteKey) (options : Option (List String)) : Config Port :=
  { c with routes := Function.update c.routes key options }

/-- The configuration with one routing process changed. -/
def setProcess (c : Config Port) (name : String) (statements : Option (Finset String)) :
    Config Port :=
  { c with processes := Function.update c.processes name statements }

/-- A port is as it was set. -/
@[simp] lemma setPort_ports (c : Config Port) (p : Port) (port : PortConfig) :
    (c.setPort p port).ports p = port := by
  simp [setPort]

/-- The port is as it was set last. -/
@[simp] lemma setPort_setPort (c : Config Port) (p : Port) (a b : PortConfig) :
    (c.setPort p a).setPort p b = c.setPort p b := by
  simp [setPort]

/-- Setting a port to what it is changes nothing. -/
@[simp] lemma setPort_self (c : Config Port) (p : Port) : c.setPort p (c.ports p) = c := by
  simp [setPort]

/-- Setting a port leaves the VLANs. -/
@[simp] lemma setPort_vlans (c : Config Port) (p : Port) (port : PortConfig) :
    (c.setPort p port).vlans = c.vlans := rfl

omit [DecidableEq Port] in
/-- A VLAN is as it was set. -/
@[simp] lemma setVlan_vlans (c : Config Port) (n : ℕ) (name : Option String) :
    (c.setVlan n name).vlans n = name := by
  simp [setVlan]

omit [DecidableEq Port] in
/-- The VLAN is as it was set last. -/
@[simp] lemma setVlan_setVlan (c : Config Port) (n : ℕ) (a b : Option String) :
    (c.setVlan n a).setVlan n b = c.setVlan n b := by
  simp [setVlan]

omit [DecidableEq Port] in
/-- Setting a VLAN to what it is changes nothing. -/
@[simp] lemma setVlan_self (c : Config Port) (n : ℕ) : c.setVlan n (c.vlans n) = c := by
  simp [setVlan]

omit [DecidableEq Port] in
/-- Setting a VLAN leaves the ports. -/
@[simp] lemma setVlan_ports (c : Config Port) (n : ℕ) (name : Option String) :
    (c.setVlan n name).ports = c.ports := rfl

omit [DecidableEq Port] in
/-- A route is as it was set. -/
@[simp] lemma setRoute_routes (c : Config Port) (key : RouteKey) (o : Option (List String)) :
    (c.setRoute key o).routes key = o := by
  simp [setRoute]

omit [DecidableEq Port] in
/-- The route is as it was set last. -/
@[simp] lemma setRoute_setRoute (c : Config Port) (key : RouteKey) (a b : Option (List String)) :
    (c.setRoute key a).setRoute key b = c.setRoute key b := by
  simp [setRoute]

omit [DecidableEq Port] in
/-- Setting a route to what it is changes nothing. -/
@[simp] lemma setRoute_self (c : Config Port) (key : RouteKey) :
    c.setRoute key (c.routes key) = c := by
  simp [setRoute]

omit [DecidableEq Port] in
/-- Changes of different routes commute. -/
lemma setRoute_comm (c : Config Port) {k l : RouteKey} (h : k ≠ l) (a b : Option (List String)) :
    (c.setRoute k a).setRoute l b = (c.setRoute l b).setRoute k a := by
  simp [setRoute, Function.update_comm h]

omit [DecidableEq Port] in
/-- A process is as it was set. -/
@[simp] lemma setProcess_processes (c : Config Port) (name : String) (s : Option (Finset String)) :
    (c.setProcess name s).processes name = s := by
  simp [setProcess]

omit [DecidableEq Port] in
/-- The process is as it was set last. -/
@[simp] lemma setProcess_setProcess (c : Config Port) (name : String)
    (a b : Option (Finset String)) :
    (c.setProcess name a).setProcess name b = c.setProcess name b := by
  simp [setProcess]

omit [DecidableEq Port] in
/-- Setting a process to what it is changes nothing. -/
@[simp] lemma setProcess_self (c : Config Port) (name : String) :
    c.setProcess name (c.processes name) = c := by
  simp [setProcess]

end Config

/-! ## Names of ports -/

/-- Which texts denote which port, and how the device prints a port's name: `long` in
`show interfaces`, `short` in the layer-2 tables. -/
structure Naming [UnicodeDatabase] (Port : Type*) where
  /-- The port the words of a name denote. -/
  resolve : List String → Option Port
  long : Port → String
  short : Port → String
  /-- The device reads back the name it prints. -/
  resolve_long : ∀ p, resolve (split (long p)) = some p
  /-- A text that compares equal to a port's short name denotes that port. -/
  resolve_of_sameInterface : ∀ p text, sameInterface (short p) text = true →
    resolve (split text) = some p

/-- The port a target denotes. -/
def Naming.denotes [UnicodeDatabase] {Port : Type*} (naming : Naming Port) (target : String) :
    Option Port :=
  naming.resolve (split target)

/-- The names of a device with a single port. -/
def Naming.single [UnicodeDatabase] (long short : String)
    (hword : IsWord (normalizeInterfaceName short)) (hsame : sameInterface short long = true) :
    Naming Unit :=
  have hresolve : ∀ text, sameInterface short text = true →
      (match split text with
        | [word] => if sameInterface short word then some () else none
        | _ => none) = some () := by
    intro text h
    have hnormal : normalizeInterfaceName short = normalizeInterfaceName text := by
      simpa [sameInterface] using h
    rw [split_of_isWord_normalizeInterfaceName (hnormal ▸ hword)]
    simp [sameInterface, hnormal]
  { resolve := fun words =>
      match words with
      | [word] => if sameInterface short word then some () else none
      | _ => none
    long := fun _ => long
    short := fun _ => short
    resolve_long := fun _ => hresolve long hsame
    resolve_of_sameInterface := fun _ => hresolve }

/-- The names of a switch with the port `GigabitEthernet1/0/1` only. -/
@[reducible] def sampleNaming : @Naming asciiDatabase Unit :=
  letI := asciiDatabase
  Naming.single "GigabitEthernet1/0/1" "Gi1/0/1" (by decide +kernel) (by decide +kernel)

end Terraformer
