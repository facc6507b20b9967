import Terraformer.Device.Processes
import Terraformer.Drivers.Parse

/-!
# What the device reports

The contexts that describe a configuration truthfully, in the form the driver's parsers build
them, and the configurations a device can hold.
-/

namespace Terraformer

open Text

/-- How `show interfaces switchport` writes a mode. -/
def PortMode.text : PortMode → String
  | .trunk => "trunk"
  | .staticAccess => "static access"
  | .dynamicAuto => "dynamic auto"
  | .dynamicDesirable => "dynamic desirable"

/-- How `show interfaces switchport` writes an encapsulation. -/
def Encapsulation.text : Encapsulation → String
  | .dot1q => "dot1q"
  | .isl => "isl"
  | .negotiate => "negotiate"

/-- The ways `show interfaces switchport` writes an allowed list: a word for the whole range
and for the empty list, and otherwise a list the device reads back. -/
def ReportsAllowed (text : Option String) (allowed : Finset ℕ) : Prop :=
  if allowed = allVlans then text = some "ALL"
  else if allowed = ∅ then text = some "NONE"
  else ∃ list, text = some list ∧ Device.readVlanList list = some allowed

section

variable {Port : Type*} [UnicodeDatabase]

/-- The layer-2 part of a configuration a device can hold: descriptions are trimmed, and the
VLAN database holds ids in range with one-word names. -/
structure Config.LayerTwoWellFormed (c : Config Port) : Prop where
  description_trimmed : ∀ p d, (c.ports p).description = some d → strip d = d ∧ d ≠ ""
  vlan_range : ∀ n name, c.vlans n = some name → 1 ≤ n ∧ n ≤ 4094 ∧ IsWord name

/-- The next hops and options of the routes are words of a line. -/
def Config.RoutesWellFormed (c : Config Port) : Prop :=
  ∀ key options, c.routes key = some options → IsWord key.nextHop ∧ ∀ w ∈ options, IsWord w

/-- The static routes of the context are what the driver parses from the lines of the routes,
printed in any order. -/
def ReportsRoutes (c : Config Port) (context : ChangeContext) : Prop :=
  ∃ routes : List (RouteKey × List String),
    (∀ key options, (key, options) ∈ routes ↔ c.routes key = some options) ∧
      context.staticRoutes = parseStaticRoutes (joinLines (routes.map routeLine))

/-- The statements of the processes are as a device keeps them. -/
def Config.ProcessesWellFormed (c : Config Port) : Prop :=
  ∀ name statements, c.processes name = some statements → Device.CanonicalStatements statements

/-- The routing processes of the context are those of the configuration, each with its
statements, up to case and spacing. -/
structure ReportsProcesses (c : Config Port) (context : ChangeContext) : Prop where
  listed : ∀ name statements, c.processes name = some statements →
    ∃ facts ∈ context.routingProcesses, normalizeStatement facts.name = name
  statements : ∀ facts ∈ context.routingProcesses, ∃ statements,
    c.processes (normalizeStatement facts.name) = some statements ∧
      ∀ line, (∃ s ∈ facts.statements, normalizeStatement s = line) ↔
        ∃ s ∈ statements, normalizeStatement s = line

/-- The row is one of the VLAN database, and lists ports that are in its VLAN and do not
trunk. -/
def IsVlanRow (naming : Naming Port) (c : Config Port) (row : VlanFacts) : Prop :=
  ∃ n : ℕ, row.vlanId = n ∧ c.vlans n = some row.name ∧
    ∀ text ∈ row.ports, ∃ p, text = naming.short p ∧ (c.ports p).mode ≠ .trunk ∧
      (c.ports p).accessVlan = n

/-- The VLAN rows of the context are those of the VLAN database.  `show vlan brief` lists a port
under its access VLAN when the port is in access mode, and never while it trunks. -/
structure ReportsVlans (naming : Naming Port) (c : Config Port) (context : ChangeContext) :
    Prop where
  vlan_row : ∀ row ∈ context.vlans, IsVlanRow naming c row
  vlan_listed : ∀ n : ℕ, c.vlans n ≠ none → ∃ row ∈ context.vlans, row.vlanId = n ∧
    ∀ p, (c.ports p).mode = .staticAccess → (c.ports p).accessVlan = n →
      naming.short p ∈ row.ports

/-- The switchport rows of the context are those of ports. -/
def ReportsSwitchports (naming : Naming Port) (c : Config Port) (context : ChangeContext) : Prop :=
  ∀ row ∈ context.switchports, ∃ p, row.name = naming.short p ∧
    row.mode = (c.ports p).mode.text ∧
    row.trunkEncapsulation = some (c.ports p).encapsulation.text ∧
    ReportsAllowed row.trunkAllowed (c.ports p).allowed

variable {naming : Naming Port} {c : Config Port} {context : ChangeContext}

/-- The row found for a VLAN is the VLAN's, and it is found when the VLAN exists. -/
lemma ReportsVlans.vlan (h : ReportsVlans naming c context) (n : ℕ) :
    (context.vlan n).map VlanFacts.name = c.vlans n := by
  cases hrow : context.vlan n with
  | none =>
    cases hn : c.vlans n with
    | none => rfl
    | some name =>
      obtain ⟨row, hmem, hid, -⟩ := h.vlan_listed n (by simp [hn])
      have hfind := List.find?_eq_none.mp hrow row hmem
      simp [hid] at hfind
  | some row =>
    have hmem := List.mem_of_find?_eq_some hrow
    have hid : row.vlanId = (n : ℤ) := by simpa using List.find?_some hrow
    obtain ⟨m, hm, hname, -⟩ := h.vlan_row row hmem
    have hmn : m = n := by rw [hid] at hm; omega
    rw [Option.map_some, ← hmn, hname]

/-- The row that holds a port is that of its access VLAN, and the port does not trunk. -/
lemma accessVlanOf_of_isVlanRow (h : ∀ row ∈ context.vlans, IsVlanRow naming c row)
    {name : String} {row : VlanFacts} (hrow : context.accessVlanOf name = some row) :
    ∃ p, naming.denotes name = some p ∧ (c.ports p).mode ≠ .trunk ∧
      row.vlanId = (c.ports p).accessVlan ∧ c.vlans (c.ports p).accessVlan = some row.name := by
  have hmem := List.mem_of_find?_eq_some hrow
  have hport := List.find?_some hrow
  obtain ⟨text, htext, hsame⟩ := List.any_eq_true.mp hport
  obtain ⟨n, hn, hname, hports⟩ := h row hmem
  obtain ⟨p, rfl, hmode, hvlan⟩ := hports text htext
  refine ⟨p, naming.resolve_of_sameInterface p name hsame, hmode, ?_, ?_⟩
  · rw [hvlan, hn]
  · rw [hvlan, hname]

/-- The switchport row of a name is that of the port it denotes. -/
lemma ReportsSwitchports.switchportOf (h : ReportsSwitchports naming c context) {name : String}
    {row : SwitchportFacts} (hrow : context.switchportOf name = some row) :
    ∃ p, naming.denotes name = some p ∧ row.mode = (c.ports p).mode.text ∧
      row.trunkEncapsulation = some (c.ports p).encapsulation.text ∧
      ReportsAllowed row.trunkAllowed (c.ports p).allowed := by
  obtain ⟨p, hname, hrest⟩ := h row (List.mem_of_find?_eq_some hrow)
  have hsame := List.find?_some hrow
  rw [hname] at hsame
  exact ⟨p, naming.resolve_of_sameInterface p name hsame, hrest⟩

/-! ## Routes -/

/-- The facts of the routes are found in the parsed configuration, and nothing else. -/
lemma ReportsRoutes.mem_iff (h : ReportsRoutes c context) (hc : c.RoutesWellFormed)
    {facts : StaticRouteFacts} : facts ∈ context.staticRoutes ↔
      ∃ key options, c.routes key = some options ∧ facts = routeFacts (key, options) := by
  obtain ⟨routes, hroutes, hparse⟩ := h
  rw [hparse, parseStaticRoutes_joinLines fun route hroute =>
    hc route.1 route.2 ((hroutes _ _).mp hroute)]
  constructor
  · intro hfacts
    obtain ⟨route, hroute, rfl⟩ := List.mem_map.mp hfacts
    exact ⟨route.1, route.2, (hroutes _ _).mp hroute, rfl⟩
  · rintro ⟨key, options, hkey, rfl⟩
    exact List.mem_map_of_mem ((hroutes _ _).mpr hkey)

/-- The route found for a prefix is one of the prefix. -/
lemma ReportsRoutes.staticRoute (h : ReportsRoutes c context) (hc : c.RoutesWellFormed)
    {destination mask : Ipv4} {facts : StaticRouteFacts}
    (hfacts : context.staticRoute destination.text mask.text = some facts) :
    ∃ nextHop options, c.routes ⟨destination, mask, nextHop⟩ = some options ∧
      facts = routeFacts (⟨destination, mask, nextHop⟩, options) := by
  obtain ⟨key, options, hkey, rfl⟩ := (h.mem_iff hc).mp (List.mem_of_find?_eq_some hfacts)
  have hmatch := List.find?_some hfacts
  rw [Bool.and_eq_true, beq_iff_eq, beq_iff_eq] at hmatch
  obtain ⟨d, m, nextHop⟩ := key
  obtain rfl : d = destination := Ipv4.text_injective hmatch.1
  obtain rfl : m = mask := Ipv4.text_injective hmatch.2
  exact ⟨nextHop, options, hkey, rfl⟩

/-- No route is found for a prefix that has none. -/
lemma ReportsRoutes.staticRoute_none (h : ReportsRoutes c context) (hc : c.RoutesWellFormed)
    {destination mask : Ipv4} (hnone : context.staticRoute destination.text mask.text = none)
    (nextHop : String) : c.routes ⟨destination, mask, nextHop⟩ = none := by
  cases hroute : c.routes ⟨destination, mask, nextHop⟩ with
  | none => rfl
  | some options =>
    have hmem := (h.mem_iff hc).mpr ⟨_, _, hroute, rfl⟩
    have hno := List.find?_eq_none.mp hnone _ hmem
    simp [routeFacts] at hno

/-! ## Routing processes -/

/-- A process that is not found is not configured. -/
lemma ReportsProcesses.routingProcess_none (h : ReportsProcesses c context) {process : String}
    (hnone : context.routingProcess process = none) :
    c.processes (normalizeStatement process) = none := by
  cases hprocess : c.processes (normalizeStatement process) with
  | none => rfl
  | some statements =>
    obtain ⟨facts, hmem, hname⟩ := h.listed _ _ hprocess
    have hno := List.find?_eq_none.mp hnone facts hmem
    simp [hname] at hno

/-- A process that is found is configured, with the statements found. -/
lemma ReportsProcesses.routingProcess (h : ReportsProcesses c context) {process : String}
    {facts : RoutingProcessFacts} (hfacts : context.routingProcess process = some facts) :
    ∃ statements, c.processes (normalizeStatement process) = some statements ∧
      ∀ line, (∃ s ∈ facts.statements, normalizeStatement s = line) ↔
        ∃ s ∈ statements, normalizeStatement s = line := by
  have hname := List.find?_some hfacts
  rw [beq_iff_eq] at hname
  rw [← hname]
  exact h.statements facts (List.mem_of_find?_eq_some hfacts)

section Statements

variable {facts : RoutingProcessFacts} {statements : Finset String}
  (hsame : ∀ line, (∃ s ∈ facts.statements, normalizeStatement s = line) ↔
    ∃ s ∈ statements, normalizeStatement s = line)

include hsame

/-- The facts have a statement exactly when the process has it. -/
lemma hasStatement_iff (line : String) : facts.hasStatement line = true ↔
    ∃ s ∈ statements, normalizeStatement s = normalizeStatement line := by
  rw [← hsame, RoutingProcessFacts.hasStatement]
  simp

/-- A statement found by its beginning is one of the process. -/
lemma exists_of_findStatement {start line : String}
    (h : facts.findStatement start = some line) :
    startswith line (normalizeStatement start) = true ∧
      ∃ s ∈ statements, normalizeStatement s = line := by
  rw [RoutingProcessFacts.findStatement] at h
  have hstart := List.find?_some h
  have hmem := List.mem_of_find?_eq_some h
  rw [List.mem_map] at hmem
  exact ⟨hstart, (hsame line).mp hmem⟩

/-- A beginning that finds no statement is that of none. -/
lemma not_startswith_of_findStatement {start : String} (h : facts.findStatement start = none) :
    ∀ s ∈ statements,
      startswith (normalizeStatement s) (normalizeStatement start) = false := by
  rw [RoutingProcessFacts.findStatement] at h
  intro s hs
  obtain ⟨t, ht, heq⟩ := (hsame (normalizeStatement s)).mpr ⟨s, hs, rfl⟩
  have hno := List.find?_eq_none.mp h _ (List.mem_map_of_mem ht)
  rw [← heq]
  exact Bool.eq_false_iff.mpr hno

end Statements

end

end Terraformer
