import Terraformer.Device.Lines

/-!
# Components of a configuration

A batch that begins by entering the mode of one port, one VLAN or one routing process changes
that component only, and acts on it as a small machine of its own.  Whether such a batch is
undone is therefore decided on the component: on the port (`reverts_port_iff`), or on the row of
the VLAN database (`reverts_rename`, `reverts_create`).
-/

namespace Terraformer

open Text Compensation

namespace Device

variable {Port : Type*} [DecidableEq Port] [UnicodeDatabase]

/-- A command known in every mode does the same in every mode. -/
lemma perform_of_isGlobal (naming : Naming Port) (s : Session Port) {command : Command}
    (h : command.isGlobal = true) :
    perform naming s command = executeGlobal naming s.config command := by
  have hmode : executeInMode s command = none := by
    obtain ⟨c, cursor⟩ := s
    cases cursor with
    | global => rfl
    | interface p => cases command <;> first | rfl | cases h
    | vlan n => cases command <;> first | rfl | cases h
    | router name =>
      cases hp : c.processes name with
      | none => simp [executeInMode, executeRouter, hp]
      | some statements =>
        cases command <;> first
          | simp [executeInMode, executeRouter, statementEffect, hp]; done
          | cases h
  rw [perform, hmode]

/-- A line that is read as a command known in every mode. -/
lemma executeLine_of_isGlobal (naming : Naming Port) (s : Session Port) {line : String}
    {command : Command} (hread : readCommand line = some command)
    (h : command.isGlobal = true) :
    executeLine naming s line = executeGlobal naming s.config command := by
  rw [executeLine, hread, Option.bind_some, perform_of_isGlobal naming s h]

/-- The name of a port enters its mode, from every mode. -/
lemma executeLine_interface (naming : Naming Port) (s : Session Port) (target : String) :
    executeLine naming s ("interface " ++ target) =
      (naming.denotes target).map fun p => ⟨s.config, .interface p⟩ :=
  executeLine_of_isGlobal naming s (readCommand_interface target) rfl

/-! ## Ports -/

/-- One line in the mode of a port, on the port alone. -/
def portStep (port : PortConfig) (command : Option Command) : Option PortConfig :=
  command.bind (portEffect port)

/-- A line that is rejected or is an attribute of a port, naming no VLAN that would have to be
created. -/
def IsPortLine (c : Config Port) (line : String) : Prop :=
  match readCommand line with
  | none => True
  | some (.accessVlan n) => c.vlans n ≠ none
  | some (.description _) | some .noDescription | some (.shutdown _) | some (.mode _)
  | some .noAccessVlan | some (.encapsulation _) | some (.allowed _) => True
  | some _ => False

omit [DecidableEq Port] [UnicodeDatabase] in
/-- A VLAN that exists is not created again. -/
lemma createVlan_eq_self {c : Config Port} {n : ℕ} (h : c.vlans n ≠ none) : createVlan c n = c := by
  unfold createVlan
  cases hn : c.vlans n with
  | none => exact absurd hn h
  | some name => rfl

omit [DecidableEq Port] [UnicodeDatabase] in
/-- Creating a VLAN leaves the ports as they are. -/
@[simp] lemma createVlan_ports (c : Config Port) (n : ℕ) : (createVlan c n).ports = c.ports := by
  unfold createVlan
  cases c.vlans n <;> rfl

/-- An attribute line in the mode of a port acts on the port alone. -/
lemma executeLine_port (naming : Naming Port) {c : Config Port} {p : Port} {port : PortConfig}
    {line : String} (h : IsPortLine c line) :
    executeLine naming ⟨c.setPort p port, .interface p⟩ line =
      (portStep port (readCommand line)).map fun q => ⟨c.setPort p q, .interface p⟩ := by
  unfold IsPortLine at h
  rw [executeLine, portStep]
  cases hr : readCommand line with
  | none => rfl
  | some command =>
    rw [hr] at h
    cases command with
    | accessVlan n =>
      simp only [Option.bind_some, perform, executeInMode, executePort, portEffect,
        Config.setPort_setPort, Option.map_some]
      rw [createVlan_eq_self (by simpa using h)]
      simp
    | mode mode =>
      by_cases hm : mode = .trunk ∧ port.encapsulation = .negotiate <;>
        simp [perform, executeInMode, executePort, portEffect, executeGlobal, hm]
    | _ => first | exact False.elim h | simp [perform, executeInMode, executePort, portEffect]

/-- Lines for one port are undone exactly when they are undone on the port. -/
theorem reverts_port_iff {naming : Naming Port} {c : Config Port} {p : Port} {target : String}
    {lines undo : List String} (hp : naming.denotes target = some p)
    (hlines : ∀ line ∈ lines ++ undo, IsPortLine c line) :
    Reverts naming c ⟨("interface " ++ target) :: lines, ("interface " ++ target) :: undo⟩ ↔
      Undoes id id portStep (lines.map readCommand) (undo.map readCommand) (c.ports p) := by
  have h := undoes_component_iff (fun c => (⟨c, .global⟩ : Session Port)) Session.config
    (executeLine naming) portStep (fun q => ⟨c.setPort p q, .interface p⟩) readCommand
    ("interface " ++ target) (c.ports p) rfl (fun q => by rw [executeLine_interface, hp]; rfl)
    (fun a b hab => by simpa using congrArg (fun d : Config Port => d.ports p) hab)
    (fun q line hline => executeLine_port naming (hlines line hline))
  rw [Config.setPort_self] at h
  exact h

/-- Lines for a target that denotes no port are rejected, and so are the lines undoing them. -/
lemma reverts_of_not_denotes {naming : Naming Port} {c : Config Port} {target : String}
    {lines undo : List String} (hp : naming.denotes target = none) :
    Reverts naming c ⟨("interface " ++ target) :: lines, ("interface " ++ target) :: undo⟩ :=
  undoes_of_refused rfl (by rw [executeLine_interface, hp]; rfl)
    (by rw [executeLine_interface, hp]; rfl)

/-! ## VLANs -/

omit [DecidableEq Port] [UnicodeDatabase] in
/-- Creating a VLAN leaves every VLAN of the database in it. -/
lemma createVlan_vlans_ne_none {c : Config Port} {m n : ℕ} (h : c.vlans n ≠ none ∨ m = n) :
    (createVlan c m).vlans n ≠ none := by
  unfold createVlan
  by_cases hmn : m = n
  · subst hmn
    cases hm : c.vlans m <;> simp [hm]
  · have hn := h.resolve_right hmn
    cases hm : c.vlans m with
    | none => simpa [Config.setVlan, Function.update_of_ne (Ne.symm hmn)] using hn
    | some _ => exact hn

/-- Only the removal of a VLAN takes it out of the database. -/
lemma perform_vlans_ne_none {naming : Naming Port} {s t : Session Port} {command : Command}
    (hcommand : ∀ m, command ≠ .noVlan m) (h : perform naming s command = some t) {n : ℕ}
    (hn : s.config.vlans n ≠ none) : t.config.vlans n ≠ none := by
  unfold perform at h
  split at h
  · rename_i d hmode
    cases h
    unfold executeInMode at hmode
    split at hmode
    · cases hmode
    · obtain ⟨port, -, rfl⟩ := Option.map_eq_some_iff.mp hmode
      split
      · exact createVlan_vlans_ne_none (Or.inl hn)
      · exact hn
    · rename_i m _
      unfold executeVlan at hmode
      split at hmode
      · cases hmode
        by_cases hmn : n = m
        · subst hmn
          simp
        · simpa [Config.setVlan, Function.update_of_ne hmn] using hn
      · cases hmode
    · obtain ⟨statements, -, hmode⟩ := Option.bind_eq_some_iff.mp hmode
      obtain ⟨u, -, rfl⟩ := Option.map_eq_some_iff.mp hmode
      exact hn
  · unfold executeGlobal at h
    split at h
    · obtain ⟨p, -, rfl⟩ := Option.map_eq_some_iff.mp h
      exact hn
    · cases h
      exact createVlan_vlans_ne_none (Or.inl hn)
    · exact absurd rfl (hcommand _)
    · cases h; exact hn
    · cases h; exact hn
    · simp only at h
      split at h <;> (cases h; exact hn)
    · cases h; exact hn
    · cases h; exact hn
    · cases h; exact hn
    · cases h

/-- The number of a VLAN enters its mode, creating the VLAN if need be. -/
lemma executeLine_vlan (naming : Naming Port) (s : Session Port) {n : ℕ} (h1 : 1 ≤ n)
    (h2 : n ≤ 4094) :
    executeLine naming s ("vlan " ++ str n) = some ⟨createVlan s.config n, .vlan n⟩ :=
  executeLine_of_isGlobal naming s (readCommand_vlan h1 h2) rfl

/-- One line in the mode of a VLAN, on its name alone. -/
def vlanStep (_ : String) (command : Option Command) : Option String :=
  match command with
  | some (.name name) => some name
  | _ => none

/-- A name in the mode of a VLAN acts on the VLAN alone. -/
lemma executeLine_name (naming : Naming Port) (c : Config Port) (n : ℕ) {name : String}
    (h : IsWord name) :
    executeLine naming ⟨c, .vlan n⟩ ("name " ++ name) =
      some ⟨c.setVlan n (some name), .vlan n⟩ := by
  rw [executeLine, readCommand_name h]
  rfl

/-- A VLAN name outside the mode of a VLAN is rejected. -/
lemma executeLine_name_global (naming : Naming Port) (c : Config Port) {name : String}
    (h : IsWord name) : executeLine naming ⟨c, .global⟩ ("name " ++ name) = none := by
  rw [executeLine, readCommand_name h]
  rfl

/-- The removal of a VLAN. -/
lemma executeLine_noVlan (naming : Naming Port) (s : Session Port) {n : ℕ} (h1 : 1 ≤ n)
    (h2 : n ≤ 4094) :
    executeLine naming s ("no vlan " ++ str n) = some ⟨s.config.setVlan n none, .global⟩ :=
  executeLine_of_isGlobal naming s (readCommand_noVlan h1 h2) rfl

/-- Renaming an existing VLAN is undone by naming it as before. -/
theorem reverts_rename {naming : Naming Port} {c : Config Port} {n : ℕ} {name old : String}
    (h1 : 1 ≤ n) (h2 : n ≤ 4094) (hname : IsWord name) (hold : IsWord old)
    (hn : c.vlans n = some old) :
    Reverts naming c ⟨["vlan " ++ str n, "name " ++ name], ["vlan " ++ str n, "name " ++ old]⟩ := by
  have hstep := fun (v : String) (line : String)
      (hline : line ∈ ["name " ++ name] ++ ["name " ++ old]) => by
    show executeLine naming ⟨c.setVlan n (some v), .vlan n⟩ line =
      (vlanStep v (readCommand line)).map fun w => ⟨c.setVlan n (some w), .vlan n⟩
    simp only [List.singleton_append, List.mem_cons, List.not_mem_nil, or_false] at hline
    rcases hline with rfl | rfl
    · rw [executeLine_name naming _ _ hname, readCommand_name hname]
      simp [vlanStep]
    · rw [executeLine_name naming _ _ hold, readCommand_name hold]
      simp [vlanStep]
  have h := undoes_component_iff (fun c => (⟨c, .global⟩ : Session Port)) Session.config
    (executeLine naming) vlanStep (fun v => ⟨c.setVlan n (some v), .vlan n⟩) readCommand
    ("vlan " ++ str n) old rfl
    (fun v => by rw [executeLine_vlan naming _ h1 h2, createVlan_eq_self (by simp)])
    (fun a b hab => by simpa using congrArg (fun d : Config Port => d.vlans n) hab) hstep
  have hself : c.setVlan n (some old) = c := by rw [← hn, Config.setVlan_self]
  rw [hself] at h
  refine h.mpr fun k => ?_
  -- the last name given wins
  simp only [send, List.map_cons, List.map_nil, readCommand_name hold]
  rfl

/-- Naming a VLAN that does not exist is undone by removing it. -/
theorem reverts_create {naming : Naming Port} {c : Config Port} {n : ℕ} {name : String}
    (h1 : 1 ≤ n) (h2 : n ≤ 4094) (hname : IsWord name) (hn : c.vlans n = none) :
    Reverts naming c ⟨["vlan " ++ str n, "name " ++ name], ["no vlan " ++ str n]⟩ := by
  refine undoes_of_frame (fun s => (∃ v, s.config = c.setVlan n v) ∧
    (s.cursor = .global ∨ s.cursor = .vlan n)) ?_ ?_ ?_
  · exact ⟨⟨none, by rw [← hn, Config.setVlan_self]⟩, Or.inl rfl⟩
  · rintro line hline ⟨d, cursor⟩ t ⟨⟨v, rfl⟩, hcursor⟩ hexec
    simp only [List.mem_cons, List.not_mem_nil, or_false] at hline
    rcases hline with rfl | rfl
    · -- entering the mode creates the VLAN or leaves it alone
      rw [executeLine_vlan naming _ h1 h2] at hexec
      cases hexec
      refine ⟨?_, Or.inr rfl⟩
      unfold createVlan
      split
      · exact ⟨v, rfl⟩
      · exact ⟨_, Config.setVlan_setVlan _ _ _ _⟩
    · rcases hcursor with rfl | rfl
      · rw [executeLine_name_global naming _ hname] at hexec
        cases hexec
      · rw [executeLine_name naming _ _ hname] at hexec
        cases hexec
        exact ⟨⟨_, Config.setVlan_setVlan _ _ _ _⟩, Or.inr rfl⟩
  · rintro ⟨d, cursor⟩ ⟨⟨v, rfl⟩, -⟩
    rw [send, execute_cons_of_some (executeLine_noVlan naming _ h1 h2), execute_nil]
    rw [Config.setVlan_setVlan, ← hn, Config.setVlan_self]

/-! ## Routes -/

section Routes

variable {destination mask : Ipv4} {value nextHop : String} {options : List String}

variable (destination mask) in
/-- The line of a route puts the route in place. -/
lemma executeLine_route (naming : Naming Port) (s : Session Port)
    (h : split value = nextHop :: options) :
    executeLine naming s ("ip route " ++ destination.text ++ " " ++ mask.text ++ " " ++ value) =
      some ⟨s.config.setRoute ⟨destination, mask, nextHop⟩ (some options), .global⟩ :=
  executeLine_of_isGlobal naming s (readCommand_route h) rfl

variable (destination mask) in
/-- The negated line of a route takes the route away, whatever its options are. -/
lemma executeLine_noRoute (naming : Naming Port) (s : Session Port)
    (h : split value = nextHop :: options) :
    executeLine naming s
        ("no " ++ ("ip route " ++ destination.text ++ " " ++ mask.text ++ " " ++ value)) =
      some ⟨s.config.setRoute ⟨destination, mask, nextHop⟩ none, .global⟩ :=
  executeLine_of_isGlobal naming s (readCommand_noRoute h) rfl

end Routes

/-! ## Batches that were executed in full -/

section Executes

variable {naming : Naming Port} {c d : Config Port}

omit [DecidableEq Port] in
/-- A command known in every mode is the only kind known outside a mode. -/
lemma executeGlobal_of_not_isGlobal (naming : Naming Port) (c : Config Port) {command : Command}
    (h : command.isGlobal = false) : executeGlobal naming c command = none := by
  cases command <;> first | rfl | cases h

/-- A batch whose first line is executed goes on with the other lines. -/
lemma foldlM_of_executeLine {s t : Session Port} {line : String}
    (h : executeLine naming s line = some t) (lines : List String) :
    (line :: lines).foldlM (executeLine naming) s = lines.foldlM (executeLine naming) t := by
  rw [List.foldlM_cons, h]
  rfl

/-- The device knows every line that it executes. -/
lemma readCommand_ne_none_of_foldlM {lines : List String} {s t : Session Port}
    (h : lines.foldlM (executeLine naming) s = some t) : ∀ line ∈ lines, readCommand line ≠ none := by
  induction lines generalizing s with
  | nil => simp
  | cons line lines ih =>
    rw [List.foldlM_cons] at h
    obtain ⟨u, hline, h⟩ := Option.bind_eq_some_iff.mp h
    intro l hl
    rcases List.mem_cons.mp hl with rfl | hl
    · intro hnone
      rw [executeLine, hnone] at hline
      cases hline
    · exact ih h l hl

/-- A batch of one line that was executed. -/
lemma Executes.single {line : String} (h : Executes naming c [line] d) :
    ∃ s, executeLine naming ⟨c, .global⟩ line = some s ∧ s.config = d := by
  obtain ⟨s, h, rfl⟩ := h
  rw [List.foldlM_cons] at h
  obtain ⟨t, hline, h⟩ := Option.bind_eq_some_iff.mp h
  rw [List.foldlM_nil] at h
  cases h
  exact ⟨_, hline, rfl⟩

/-- An executed attribute line of a port is one that the port takes. -/
lemma port_of_executeLine {p : Port} {line : String} {t : Session Port} {command : Command}
    (hread : readCommand line = some command) (hglobal : command.isGlobal = false)
    (h : executeLine naming ⟨c, .interface p⟩ line = some t) :
    portEffect (c.ports p) command = some (t.config.ports p) ∧ t.cursor = .interface p := by
  rw [executeLine, hread, Option.bind_some, perform] at h
  simp only [executeInMode, executePort] at h
  cases heffect : portEffect (c.ports p) command with
  | none =>
    simp only [heffect, Option.map_none, executeGlobal_of_not_isGlobal naming c hglobal] at h
    cases h
  | some q =>
    simp only [heffect, Option.map_some, Option.some.injEq] at h
    subst h
    refine ⟨congrArg some ?_, rfl⟩
    cases command with
    | accessVlan n => simp
    | _ => simp

/-- An executed assignment of a VLAN leaves the VLAN in the database. -/
lemma vlans_of_executeLine_accessVlan {s t : Session Port} {line : String} {n : ℕ}
    (hread : readCommand line = some (.accessVlan n)) (h : executeLine naming s line = some t) :
    t.config.vlans n ≠ none := by
  obtain ⟨e, cursor⟩ := s
  rw [executeLine, hread, Option.bind_some, perform] at h
  cases cursor with
  | interface p =>
    simp only [executeInMode, executePort, portEffect, Option.map_some, Option.some.injEq] at h
    subst h
    exact createVlan_vlans_ne_none (Or.inr rfl)
  | router name =>
    cases hp : e.processes name <;>
      simp [executeInMode, executeRouter, statementEffect, executeGlobal, hp] at h
  | _ => simp [executeInMode, executeVlan, executeGlobal] at h

/-- Executed attribute lines of a port are a run of the port. -/
lemma port_of_foldlM {p : Port} {lines : List String} {commands : List Command}
    {s t : Session Port} (hread : lines.map readCommand = commands.map some)
    (hglobal : ∀ command ∈ commands, command.isGlobal = false) (hs : s.cursor = .interface p)
    (h : lines.foldlM (executeLine naming) s = some t) :
    commands.foldlM portEffect (s.config.ports p) = some (t.config.ports p) := by
  induction lines generalizing commands s with
  | nil =>
    obtain rfl : commands = [] := List.map_eq_nil_iff.mp hread.symm
    cases h
    rfl
  | cons line lines ih =>
    cases commands with
    | nil => cases hread
    | cons command commands =>
      rw [List.map_cons, List.map_cons, List.cons.injEq] at hread
      obtain ⟨d, cursor⟩ := s
      obtain rfl : cursor = .interface p := hs
      rw [List.foldlM_cons] at h
      obtain ⟨u, hline, h⟩ := Option.bind_eq_some_iff.mp h
      obtain ⟨heffect, hcursor⟩ := port_of_executeLine hread.1 (hglobal _ (by simp)) hline
      rw [List.foldlM_cons, heffect]
      exact ih hread.2 (fun i hi => hglobal i (by simp [hi])) hcursor h

/-- Executed lines for a target are a run of the port it denotes. -/
lemma Executes.port {target : String} {lines : List String}
    (h : Executes naming c (("interface " ++ target) :: lines) d) (commands : List Command)
    (hread : lines.map readCommand = commands.map some)
    (hglobal : ∀ command ∈ commands, command.isGlobal = false) :
    ∃ p, naming.denotes target = some p ∧
      commands.foldlM portEffect (c.ports p) = some (d.ports p) := by
  obtain ⟨s, h, rfl⟩ := h
  rw [List.foldlM_cons, executeLine_interface] at h
  obtain ⟨t, hheader, h⟩ := Option.bind_eq_some_iff.mp h
  obtain ⟨p, hp, rfl⟩ := Option.map_eq_some_iff.mp hheader
  exact ⟨p, hp, port_of_foldlM hread hglobal rfl h⟩

end Executes

end Device

end Terraformer
