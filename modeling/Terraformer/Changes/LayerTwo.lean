import Mathlib
import Terraformer.Changes.Reads
import Terraformer.Device.Components
import Terraformer.Device.VlanLists

/-!
# Undoing a layer-2 or interface change

The commands and inverse commands of the five change types that touch a port or the VLAN
database, executed on a switch.  Descriptions, admin states and VLAN names always come back.
An access VLAN comes back only on a port in access mode, for the forward commands set the mode
and the inverse does not; a trunk comes back unless its allowed list was empty or its
encapsulation was still to be negotiated (`reverts_layerTwo_iff`).
-/

namespace Terraformer

open Text Compensation Device

/-! ## On one port -/

/-- Setting an attribute is undone by setting it to the value it had. -/
lemma undoes_attribute {port : PortConfig} {command undo : Command}
    (hundo : ∀ q, portEffect port command = some q → portEffect q undo = some port)
    (hself : portEffect port undo = some port) :
    Undoes id id portStep [some command] [some undo] port := by
  rw [undoes_iff_le]
  intro k hk
  rw [List.length_singleton] at hk
  interval_cases k
  · simp [send, execute, portStep, hself]
  · cases hq : portEffect port command with
    | none => simp [send, execute, portStep, hq, hself]
    | some q => simp [send, execute, portStep, hq, hundo q hq]

/-- A shutdown flag is undone by setting it exactly when it is set to what it was. -/
lemma undoes_shutdown_iff {port : PortConfig} {down undo : Bool} :
    Undoes id id portStep [some (.shutdown down)] [some (.shutdown undo)] port ↔
      port.shutdown = undo := by
  constructor
  · intro h
    have h0 := h 0
    simp only [send, id, execute, portStep, Option.bind_some, portEffect, List.take_zero] at h0
    rw [← h0]
  · rintro rfl
    refine undoes_attribute ?_ (by simp [portEffect])
    rintro q hq
    cases hq
    simp [portEffect]

/-- The commands of an access VLAN are undone by an access VLAN exactly when the port is in
access mode and the VLAN put back is the one it had. -/
lemma undoes_access_iff {port : PortConfig} {n v : ℕ} {undo : Command}
    (hundo : ∀ q : PortConfig, portEffect q undo = some { q with accessVlan := v }) :
    Undoes id id portStep [some (.mode .staticAccess), some (.accessVlan n)] [some undo] port ↔
      port.mode = .staticAccess ∧ port.accessVlan = v := by
  have hstatic : ∀ q : PortConfig, portEffect q (.mode .staticAccess) =
      some { q with mode := .staticAccess } := fun _ => rfl
  have haccess : ∀ q : PortConfig, portEffect q (.accessVlan n) =
      some { q with accessVlan := n } := fun _ => rfl
  rw [undoes_iff_le]
  constructor
  · intro h
    have h2 := h 2 (by simp)
    simp only [send, id, execute, portStep, Option.bind_some, hstatic, haccess, hundo,
      List.take] at h2
    rw [← h2]
    exact ⟨rfl, rfl⟩
  · rintro ⟨hmode, hvlan⟩ k hk
    have hport : ({ port with mode := .staticAccess, accessVlan := v } : PortConfig) = port := by
      rw [← hmode, ← hvlan]
    simp only [List.length_cons, List.length_nil] at hk
    interval_cases k
    · simp [send, execute, portStep, hundo, ← hvlan]
    · simpa [send, execute, portStep, hundo, hstatic] using hport
    · simpa [send, execute, portStep, hundo, hstatic, haccess] using hport

/-- The allowed list that the inverse of a trunk change puts back: the negation restores the
whole range, also when the list was empty. -/
def restoredAllowed (allowed : Finset ℕ) : Finset ℕ :=
  if allowed = ∅ then allVlans else allowed

/-- The commands of a trunk change on a port that does not trunk. -/
def trunkForward (port : PortConfig) (allowed : Option Command) : List (Option Command) :=
  (if port.mode ≠ .trunk ∧ port.encapsulation = .negotiate then
    [some (.encapsulation .dot1q)] else []) ++
  (if port.mode ≠ .trunk then [some (.mode .trunk)] else []) ++ [allowed]

/-- The commands that undo a trunk change. -/
def trunkInverse (port : PortConfig) : List (Option Command) :=
  [some (.allowed (restoredAllowed port.allowed))] ++
  (if port.mode ≠ .trunk then [some (.mode port.mode)] else [])

/-- A command of a trunk change, or of its inverse, is an encapsulation, a mode or a list. -/
lemma mem_trunk {port : PortConfig} {allowed i : Option Command}
    (hi : i ∈ trunkForward port allowed ++ trunkInverse port) :
    i = allowed ∨ i = some (.encapsulation .dot1q) ∨ (∃ mode, i = some (.mode mode)) ∨
      ∃ vlans, i = some (.allowed vlans) := by
  simp only [trunkForward, trunkInverse, List.mem_append, List.mem_singleton] at hi
  rcases hi with ((hi | hi) | hi) | hi | hi
  · split at hi
    · exact Or.inr (Or.inl (List.mem_singleton.mp hi))
    · simp at hi
  · split at hi
    · exact Or.inr (Or.inr (Or.inl ⟨_, List.mem_singleton.mp hi⟩))
    · simp at hi
  · exact Or.inl hi
  · exact Or.inr (Or.inr (Or.inr ⟨_, hi⟩))
  · split at hi
    · exact Or.inr (Or.inr (Or.inl ⟨_, List.mem_singleton.mp hi⟩))
    · simp at hi

/-- The whole range of VLANs is not empty. -/
lemma allVlans_ne_empty : allVlans ≠ ∅ := by
  intro h
  have h1 : 1 ∈ allVlans := by simp [allVlans]
  rw [h] at h1
  simp at h1

/-- Restoring the list and the mode brings back a port on which only these two changed. -/
lemma execute_trunkInverse {port : PortConfig} (hallowed : port.allowed ≠ ∅)
    {mode : PortMode} {allowed : Finset ℕ} (hmode : port.mode = .trunk → mode = .trunk) :
    execute portStep { port with mode, allowed } (trunkInverse port) = port := by
  by_cases ht : port.mode = .trunk
  · have hport : ({ port with mode := .trunk } : PortConfig) = port := by rw [← ht]
    simpa [trunkInverse, ht, execute, portStep, portEffect, restoredAllowed, hallowed,
      hmode ht] using hport
  · simp [trunkInverse, ht, execute, portStep, portEffect, restoredAllowed, hallowed]

/-- A trunk change is undone exactly when the allowed list was not empty and the port did not
both not trunk and leave its encapsulation to be negotiated. -/
lemma undoes_trunk_iff {port : PortConfig} {command : Option Command}
    (hcommand : command = none ∨ ∃ vlans, command = some (.allowed vlans)) :
    Undoes id id portStep (trunkForward port command) (trunkInverse port) port ↔
      port.allowed ≠ ∅ ∧ ¬(port.mode ≠ .trunk ∧ port.encapsulation = .negotiate) := by
  constructor
  · intro h
    have hundone : ∀ q : PortConfig, (execute portStep q (trunkInverse port)).encapsulation =
        q.encapsulation := by
      intro q
      refine execute_invariant (P := fun r : PortConfig => r.encapsulation = q.encapsulation)
        rfl ?_
      intro i hi r t hr ht
      simp only [trunkInverse, List.mem_append, List.mem_singleton] at hi
      rcases hi with rfl | hi
      · simp only [portStep, Option.bind_some, portEffect, Option.some.injEq] at ht
        rw [← ht, ← hr]
      · split at hi
        · rename_i hne
          rw [List.mem_singleton] at hi
          subst hi
          simp only [portStep, Option.bind_some, portEffect, hne, false_and, if_false,
            Option.some.injEq] at ht
          rw [← ht, ← hr]
        · simp at hi
    refine ⟨fun hempty => ?_, fun hneg => ?_⟩
    · -- even the inverse alone widens an empty list to the whole range
      have h0 : execute portStep port (trunkInverse port) = port := h 0
      have hall : (execute portStep port (trunkInverse port)).allowed = allVlans := by
        by_cases ht : port.mode = .trunk <;>
          simp [trunkInverse, ht, execute, portStep, portEffect, restoredAllowed, hempty]
      rw [h0, hempty] at hall
      exact allVlans_ne_empty hall.symm
    · -- the encapsulation is chosen by the first command and never taken back
      have h1 := h 1
      simp only [trunkForward, hneg, ne_eq, not_false_eq_true, and_self, if_true,
        List.cons_append, List.take_succ_cons, List.take_zero] at h1
      have henc := hundone { port with encapsulation := .dot1q }
      simp only [send, id, execute, portStep, Option.bind_some, portEffect] at h1
      rw [show execute portStep { port with encapsulation := .dot1q } (trunkInverse port) = port
        from h1, hneg.2] at henc
      cases henc
  · rintro ⟨hallowed, hneg⟩ k
    -- only mode and list have changed wherever the batch stops
    have hframe : ∃ mode allowed, (port.mode = .trunk → mode = .trunk) ∧
        execute portStep port ((trunkForward port command).take k) =
          { port with mode, allowed } := by
      refine execute_invariant (P := fun q : PortConfig => ∃ mode allowed,
        (port.mode = .trunk → mode = .trunk) ∧ q = { port with mode, allowed })
        ⟨port.mode, port.allowed, id, rfl⟩ ?_
      rintro i hi q t ⟨mode, allowed, hmode, rfl⟩ ht
      have hi := List.mem_of_mem_take hi
      simp only [trunkForward, hneg, if_false, List.nil_append, List.mem_append,
        List.mem_singleton] at hi
      rcases hi with hi | rfl
      · split at hi
        · rw [List.mem_singleton] at hi
          subst hi
          simp only [portStep, Option.bind_some, portEffect] at ht
          split at ht
          · cases ht
          · cases ht
            exact ⟨.trunk, allowed, fun _ => rfl, rfl⟩
        · simp at hi
      · rcases hcommand with rfl | ⟨vlans, rfl⟩
        · cases ht
        · cases ht
          exact ⟨mode, vlans, hmode, rfl⟩
    obtain ⟨mode, allowed, hmode, hframe⟩ := hframe
    show execute portStep (execute portStep port _) _ = port
    rw [hframe]
    exact execute_trunkInverse hallowed hmode

/-! ## On the switch -/

section

variable {Port : Type*} [DecidableEq Port] [UnicodeDatabase]
  {naming : Naming Port} {c : Config Port} {up : Port → Bool} {step : ChangeStepIntent}
  {context : ChangeContext} {rendered : RenderedChange}

/-- A new description is undone by the old one, or by none. -/
lemma reverts_description {current : InterfaceFacts} {p : Port} (hc : c.LayerTwoWellFormed)
    (hp : naming.denotes step.target = some p)
    (hdesc : current.description = (c.ports p).description)
    (hv : validateDescription step = []) : Reverts naming c (renderDescription step current) := by
  have hread := readCommand_description (description_of_validateDescription hv).2
  have hno : readCommand "no description" = some .noDescription := by decide
  unfold renderDescription
  rw [hdesc]
  cases hd : (c.ports p).description with
  | none =>
    refine (reverts_port_iff hp ?_).mpr ?_
    · simp [IsPortLine, hread, hno]
    · simp only [List.map_cons, List.map_nil, hread, hno]
      refine undoes_attribute ?_ (by simp [portEffect, ← hd])
      rintro q hq
      cases hq
      simp [portEffect, ← hd]
  | some value =>
    obtain ⟨htrim, hne⟩ := hc.description_trimmed p value hd
    have hold : readCommand ("description " ++ value) = some (.description value) := by
      have hne' : strip value ≠ "" := by rwa [htrim]
      have h := readCommand_description hne'
      rwa [htrim] at h
    simp only [hne, ne_eq, not_false_eq_true, if_true]
    refine (reverts_port_iff hp ?_).mpr ?_
    · simp [IsPortLine, hread, hold]
    · simp only [List.map_cons, List.map_nil, hread, hold]
      refine undoes_attribute ?_ (by simp [portEffect, ← hd])
      rintro q hq
      cases hq
      simp [portEffect, ← hd]

/-- The port of an admin state change is shut down, or has a link, so that it is reported as it
is configured. -/
def AdminStateReverts (naming : Naming Port) (c : Config Port) (up : Port → Bool)
    (step : ChangeStepIntent) : Prop :=
  ∀ p, naming.denotes step.target = some p → (c.ports p).shutdown = true ∨ up p = true

/-- A new admin state is undone exactly when the port was shut down or had a link. -/
lemma reverts_adminState_iff {current : InterfaceFacts} {p : Port}
    (hp : naming.denotes step.target = some p)
    (hadmin : current.adminUp = some (!(c.ports p).shutdown && up p)) :
    Reverts naming c (renderAdminState step current) ↔ AdminStateReverts naming c up step := by
  have hread : ∀ up : Prop, [Decidable up] → readCommand (if up then "no shutdown" else "shutdown") =
      some (.shutdown (!decide up)) := by
    intro up _
    by_cases h : up
    · simp only [h, if_true]
      decide
    · simp only [h, if_false]
      decide
  have hflag : (c.ports p).shutdown = (!decide (current.adminUp = some true)) ↔
      (c.ports p).shutdown = true ∨ up p = true := by
    rw [hadmin]
    cases (c.ports p).shutdown <;> cases up p <;> decide
  unfold renderAdminState AdminStateReverts
  rw [reverts_port_iff hp (by simp [IsPortLine, hread])]
  simp only [List.map_cons, List.map_nil, hread]
  rw [undoes_shutdown_iff, hflag]
  simp [hp]

/-- A VLAN name is undone by the old name, or by removing the VLAN it created. -/
lemma reverts_vlanName (hc : c.LayerTwoWellFormed)
    (hctx : ReportsVlans naming c context) (hv : validateVlanName step = [])
    (hr : renderVlanName step context = .ok rendered) : Reverts naming c rendered := by
  obtain ⟨hname, n, hn, h1, h2⟩ := vlanName_of_validateVlanName hv
  have hrow := hctx.vlan n
  simp only [renderVlanName, hn, Except.ok.injEq] at hr
  subst hr
  cases hv : context.vlan n with
  | none =>
    rw [hv] at hrow
    exact reverts_create h1 h2 hname hrow.symm
  | some row =>
    rw [hv] at hrow
    exact reverts_rename h1 h2 hname (hc.vlan_range n row.name hrow.symm).2.2 hrow.symm

/-- The port of an access VLAN change is in access mode, its VLAN is listed or the default, and
the VLAN it moves to exists. -/
def AccessVlanReverts (naming : Naming Port) (c : Config Port) (step : ChangeStepIntent)
    (context : ChangeContext) : Prop :=
  ∀ p, naming.denotes step.target = some p → (c.ports p).mode = .staticAccess ∧
    (context.accessVlanOf step.target = none → (c.ports p).accessVlan = 1) ∧
    ∀ n : ℕ, int step.desiredValue = some (n : ℤ) → c.vlans n ≠ none

/-- A VLAN that the assignment of a port creates is not removed again. -/
lemma not_reverts_created_vlan {p : Port} {n : ℕ} {undo : List String}
    (hp : naming.denotes step.target = some p) (h1 : 1 ≤ n) (h2 : n ≤ 4094)
    (hn : c.vlans n = none)
    (hundo : ∀ line ∈ undo, ∀ m, readCommand line ≠ some (.noVlan m)) :
    ¬Reverts naming c ⟨["interface " ++ step.target, "switchport mode access",
      "switchport access vlan " ++ str n], undo⟩ := by
  intro h
  have hmode : readCommand "switchport mode access" = some (.mode .staticAccess) := by decide
  have hforward : (sendConfig naming c ["interface " ++ step.target, "switchport mode access",
      "switchport access vlan " ++ str n]).vlans n ≠ none := by
    have h0 : executeLine naming ⟨c, .global⟩ ("interface " ++ step.target) =
        some ⟨c, .interface p⟩ := by rw [executeLine_interface, hp]; rfl
    rw [sendConfig, send, execute_cons_of_some h0]
    simp only [execute, executeLine, hmode, readCommand_accessVlan h1 h2, Option.bind_some,
      perform, executeInMode, executePort, portEffect, Option.map_some, reduceCtorEq, false_and,
      if_false]
    exact createVlan_vlans_ne_none (Or.inr rfl)
  have hall : (send (fun c => (⟨c, .global⟩ : Session Port)) Session.config (executeLine naming)
      (sendConfig naming c ["interface " ++ step.target, "switchport mode access",
        "switchport access vlan " ++ str n]) undo).vlans n ≠ none := by
    refine execute_invariant (P := fun s : Session Port => s.config.vlans n ≠ none) hforward ?_
    intro line hline s t hs ht
    obtain ⟨command, hread, hperform⟩ := Option.bind_eq_some_iff.mp ht
    exact perform_vlans_ne_none (fun m hm => hundo line hline m (by rw [hread, hm])) hperform hs
  exact hall ((congrArg (fun d : Config Port => d.vlans n) h.all).trans hn)

/-- An access VLAN is undone exactly when its port was in access mode, its old VLAN is listed
or the default, and the new VLAN existed. -/
lemma reverts_accessVlan_iff (hc : c.LayerTwoWellFormed)
    (hrows : ∀ row ∈ context.vlans, IsVlanRow naming c row)
    (hv : validateAccessVlan step context = [])
    (hr : renderAccessVlan step context = .ok rendered) :
    Reverts naming c rendered ↔ AccessVlanReverts naming c step context := by
  obtain ⟨n, hn, h1, h2, hexists⟩ := accessVlan_of_validateAccessVlan hv
  simp only [renderAccessVlan, hn, Except.ok.injEq] at hr
  subst hr
  have hmode : readCommand "switchport mode access" = some (.mode .staticAccess) := by decide
  have haccess := readCommand_accessVlan h1 h2
  have hno : readCommand "no switchport access vlan" = some .noAccessVlan := by decide
  unfold AccessVlanReverts
  cases hp : naming.denotes step.target with
  | none =>
    refine iff_of_true ?_ (by simp)
    cases context.accessVlanOf step.target <;> exact reverts_of_not_denotes hp
  | some p =>
    by_cases hvlan : c.vlans n = none
    · refine iff_of_false ?_ fun h => (h p rfl).2.2 n hn hvlan
      refine not_reverts_created_vlan hp h1 h2 hvlan fun line hline m => ?_
      cases hprev : context.accessVlanOf step.target with
      | none =>
        simp only [hprev, List.mem_cons, List.not_mem_nil, or_false] at hline
        rcases hline with rfl | rfl
        · simp [readCommand_interface]
        · simp [hno]
      | some previous =>
        obtain ⟨q, -, -, hid, hname⟩ := accessVlanOf_of_isVlanRow hrows hprev
        obtain ⟨hlow, hhigh, -⟩ := hc.vlan_range _ _ hname
        simp only [hprev, hid, List.mem_cons, List.not_mem_nil, or_false] at hline
        rcases hline with rfl | rfl
        · simp [readCommand_interface]
        · simp [readCommand_accessVlan hlow hhigh]
    · cases hprev : context.accessVlanOf step.target with
      | none =>
        rw [reverts_port_iff hp (by simp [IsPortLine, hmode, haccess, hno, hvlan])]
        simp only [List.map_cons, List.map_nil, hmode, haccess, hno]
        rw [undoes_access_iff (v := 1) fun _ => rfl]
        simp [hn, hvlan]
      | some previous =>
        obtain ⟨q, hq, -, hid, hname⟩ := accessVlanOf_of_isVlanRow hrows hprev
        obtain rfl : q = p := Option.some.inj (hq.symm.trans hp)
        obtain ⟨hlow, hhigh, -⟩ := hc.vlan_range _ _ hname
        have hold := readCommand_accessVlan hlow hhigh
        simp only [hid]
        rw [reverts_port_iff hp (by simp [IsPortLine, hmode, haccess, hold, hvlan, hname])]
        simp only [List.map_cons, List.map_nil, hmode, haccess, hold]
        rw [undoes_access_iff (v := (c.ports q).accessVlan) fun _ => rfl]
        simp [hn, hvlan]

omit [DecidableEq Port] in
/-- The line that restores a reported allowed list puts the list back, but for an empty list,
for which it puts back the whole range. -/
lemma readCommand_restoreAllowed {text : Option String} {allowed : Finset ℕ}
    (h : ReportsAllowed text allowed) :
    readCommand (restoreAllowed text) = some (.allowed (restoredAllowed allowed)) := by
  have hno : readCommand "no switchport trunk allowed vlan" = some (.allowed allVlans) := rfl
  have hall : upper (strip "ALL") = "ALL" := by
    rw [show strip "ALL" = "ALL" by decide]
    exact upper_eq_self (by decide)
  have hnone : upper (strip "NONE") = "NONE" := by
    rw [show strip "NONE" = "NONE" by decide]
    exact upper_eq_self (by decide)
  unfold ReportsAllowed at h
  split at h
  · rename_i hallowed
    rw [h, hallowed, restoredAllowed, if_neg allVlans_ne_empty, restoreAllowed]
    simpa [hall] using hno
  · split at h
    · rename_i hempty
      rw [h, hempty, restoredAllowed, if_pos rfl, restoreAllowed]
      simpa [hnone] using hno
    · rename_i hempty
      obtain ⟨list, rfl, hlist⟩ := h
      have hword := isWord_of_readVlanList hlist
      have hstrip : strip list = list := strip_eq_self hword
      have hline : restoreAllowed (some list) = "switchport trunk allowed vlan " ++ list := by
        have hne : list ≠ "" := by
          rintro rfl
          exact hword.1 rfl
        rw [restoreAllowed, Option.getD_some, hstrip, upper_of_readVlanList hlist,
          if_pos ⟨hne, not_word_of_readVlanList hlist⟩]
      rw [hline, readCommand_allowed hword, hlist, restoredAllowed, if_neg hempty]
      rfl

/-- The port of a trunk change allows some VLAN, and does not both not trunk and leave its
encapsulation to be negotiated. -/
def TrunkVlansReverts (naming : Naming Port) (c : Config Port) (step : ChangeStepIntent) : Prop :=
  ∀ p, naming.denotes step.target = some p → (c.ports p).allowed ≠ ∅ ∧
    ¬((c.ports p).mode ≠ .trunk ∧ (c.ports p).encapsulation = .negotiate)

/-- A trunk change is undone exactly when its port allowed some VLAN and did not both not trunk
and leave its encapsulation to be negotiated. -/
lemma reverts_trunkVlans_iff (hctx : ReportsSwitchports naming c context)
    (hv : validateTrunkVlans step context = [])
    (hr : renderTrunkVlans step context = .ok rendered) :
    Reverts naming c rendered ↔ TrunkVlansReverts naming c step := by
  obtain ⟨hword, row, hrow, modeCommand, hlookup⟩ := trunkVlans_of_validateTrunkVlans hv
  obtain ⟨p, hp, hmode, hencap, hallowed⟩ := hctx.switchportOf hrow
  simp only [renderTrunkVlans, hrow, hlookup, Except.ok.injEq] at hr
  subst hr
  have hisTrunk : row.isTrunk = false ↔ (c.ports p).mode ≠ .trunk := by
    rw [SwitchportFacts.isTrunk, hmode]
    cases (c.ports p).mode <;> decide
  have hnegotiate : row.trunkEncapsulation = some "negotiate" ↔
      (c.ports p).encapsulation = .negotiate := by
    rw [hencap]
    cases (c.ports p).encapsulation <;> decide
  have hreadMode : readCommand modeCommand = some (.mode (c.ports p).mode) := by
    rw [hmode] at hlookup
    revert hlookup
    cases (c.ports p).mode <;> intro hlookup <;> cases hlookup <;> rfl
  have hreadRestore := readCommand_restoreAllowed hallowed
  have hreadAllowed := readCommand_allowed hword
  have hcommand : (readVlanList (strip step.desiredValue)).map Command.allowed = none ∨
      ∃ vlans, (readVlanList (strip step.desiredValue)).map Command.allowed =
        some (.allowed vlans) := by
    cases readVlanList (strip step.desiredValue) <;> simp
  have hforward : ∀ allowedLine, List.map readCommand
      ((if (c.ports p).mode ≠ .trunk ∧ (c.ports p).encapsulation = .negotiate then
        ["switchport trunk encapsulation dot1q"] else []) ++
      (if (c.ports p).mode ≠ .trunk then ["switchport mode trunk"] else []) ++ [allowedLine]) =
      trunkForward (c.ports p) (readCommand allowedLine) := by
    intro allowedLine
    rw [trunkForward, List.map_append, List.map_append, apply_ite (List.map readCommand),
      apply_ite (List.map readCommand)]
    rfl
  have hinverse : List.map readCommand (restoreAllowed row.trunkAllowed ::
      (if (c.ports p).mode ≠ .trunk then [modeCommand] else [])) = trunkInverse (c.ports p) := by
    rw [trunkInverse, List.map_cons, hreadRestore, apply_ite (List.map readCommand),
      List.map_singleton, hreadMode]
    rfl
  simp only [hisTrunk, hnegotiate, List.nil_append, List.cons_append]
  rw [reverts_port_iff hp]
  · rw [hforward, hinverse, hreadAllowed, undoes_trunk_iff hcommand, TrunkVlansReverts]
    simp [hp]
  · intro line hline
    have hmem := List.mem_map_of_mem (f := readCommand) hline
    rw [List.map_append, hforward, hinverse, hreadAllowed] at hmem
    rcases mem_trunk hmem with h | h | ⟨mode, h⟩ | ⟨vlans, h⟩
    · rcases hcommand with hc | ⟨vlans, hc⟩ <;> simp [IsPortLine, h, hc]
    · simp [IsPortLine, h]
    · simp [IsPortLine, h]
    · simp [IsPortLine, h]

/-- The five change types that touch a port or the VLAN database. -/
def ChangeType.isLayerTwo : ChangeType → Bool
  | .interfaceDescription | .interfaceAdminState | .interfaceAccessVlan | .interfaceTrunkVlans
  | .vlanName => true
  | _ => false

/-- What an admin state, an access VLAN or a trunk change needs to be undone. -/
def LayerTwoReverts (naming : Naming Port) (c : Config Port) (up : Port → Bool)
    (step : ChangeStepIntent) (context : ChangeContext) : Prop :=
  match step.changeType with
  | .interfaceAdminState => AdminStateReverts naming c up step
  | .interfaceAccessVlan => AccessVlanReverts naming c step context
  | .interfaceTrunkVlans => TrunkVlansReverts naming c step
  | _ => True

/-- The inverse commands of a validated layer-2 or interface change restore every configuration
that the context reports, from wherever the device stopped the commands, exactly when the
change is a description or a VLAN name, or its port meets the condition of the change. -/
theorem reverts_layerTwo_iff (htype : step.changeType.isLayerTwo = true)
    (hc : c.LayerTwoWellFormed) (hctx : ReportsLayerTwo naming c up step context)
    (hv : validateChange step context = []) (hr : renderChange step context = .ok rendered) :
    Reverts naming c rendered ↔ LayerTwoReverts naming c up step context := by
  unfold validateChange at hv
  unfold renderChange at hr
  unfold LayerTwoReverts
  have hvlans := hctx.vlans
  have hswitchports := hctx.switchports
  cases ht : step.changeType with
  | interfaceDescription =>
    simp only [ht] at hv hr ⊢
    cases hi : context.interface with
    | none => simp [hi] at hr
    | some current =>
      simp only [hi, Except.ok.injEq] at hr
      subst hr
      obtain ⟨p, hp, hdesc, -⟩ := hctx.interface current hi
      exact iff_of_true (reverts_description hc hp hdesc hv) trivial
  | interfaceAdminState =>
    simp only [ht] at hv hr ⊢
    cases hi : context.interface with
    | none => simp [hi] at hr
    | some current =>
      simp only [hi, Except.ok.injEq] at hr
      subst hr
      obtain ⟨p, hp, -, hadmin⟩ := hctx.interface current hi
      exact reverts_adminState_iff hp hadmin
  | vlanName =>
    simp only [ht] at hv hr hvlans ⊢
    exact iff_of_true (reverts_vlanName hc (hvlans rfl) hv hr) trivial
  | interfaceAccessVlan =>
    simp only [ht] at hv hr hvlans ⊢
    exact reverts_accessVlan_iff hc (hvlans rfl).vlan_row hv hr
  | interfaceTrunkVlans =>
    simp only [ht] at hv hr hswitchports ⊢
    exact reverts_trunkVlans_iff (hswitchports rfl) hv hr
  | _ => simp [ht, ChangeType.isLayerTwo] at htype

end

/-! ## A sample switch -/

/-- A switch with one port and the VLANs 1 and 20. -/
@[reducible] def sampleSwitch (mode : PortMode) : Config Unit where
  hostname := "SW1"
  domainLookup := true
  ports _ := ⟨none, false, mode, 1, .dot1q, allVlans⟩
  vlans n := if n = 1 then some "default" else if n = 20 then some "USERS" else none
  routes _ := none
  processes _ := none

/-- What the sample switch reports to a change of an access VLAN. -/
@[reducible] def sampleContext (mode : PortMode) : ChangeContext where
  interface := some { name := "GigabitEthernet1/0/1", adminUp := some true, operUp := some true }
  vlans :=
    [⟨1, "default", "active", if mode = .trunk then [] else ["Gi1/0/1"]⟩,
      ⟨20, "USERS", "active", []⟩]

/-- The sample switch is well formed. -/
lemma sampleSwitch_wellFormed (mode : PortMode) : (sampleSwitch mode).LayerTwoWellFormed where
  description_trimmed p d h := by cases h
  vlan_range n name h := by
    simp only at h
    split at h
    · cases h
      exact ⟨by omega, by omega, by decide⟩
    · split at h
      · cases h
        exact ⟨by omega, by omega, by decide⟩
      · cases h

/-- The context reports the sample switch. -/
lemma sampleSwitch_reports (mode : PortMode) :
    letI := asciiDatabase
    ReportsLayerTwo sampleNaming (sampleSwitch mode) (fun _ => true)
      ⟨.interfaceAccessVlan, "GigabitEthernet1/0/1", "20"⟩ (sampleContext mode) := by
  let _ := asciiDatabase
  refine ⟨?_, fun _ => ⟨?_, ?_⟩, by simp [ReportsSwitchports]⟩
  · rintro facts hfacts
    cases hfacts
    exact ⟨(), sampleNaming.resolve_long (), rfl, rfl⟩
  · intro row hrow
    unfold IsVlanRow
    simp only [List.mem_cons, List.not_mem_nil, or_false] at hrow
    rcases hrow with rfl | rfl
    · refine ⟨1, rfl, rfl, fun text htext => ⟨(), ?_, ?_, rfl⟩⟩
      · split at htext
        · simp at htext
        · exact List.mem_singleton.mp htext
      · rintro (rfl : mode = .trunk)
        simp at htext
    · exact ⟨20, rfl, rfl, by simp⟩
  · intro n hn
    simp only at hn
    split at hn
    · rename_i h1
      subst h1
      refine ⟨_, List.mem_cons_self .., rfl, fun _ hmode _ => ?_⟩
      have hne : mode ≠ .trunk := by
        rintro rfl
        cases hmode
      simp only [hne, if_false]
      exact List.mem_singleton.mpr rfl
    · split at hn
      · rename_i h1 h20
        subst h20
        exact ⟨_, List.mem_cons_of_mem _ (List.mem_cons_self ..), rfl, fun _ _ h => by cases h⟩
      · exact absurd rfl hn

/-- Moving the sample port in access mode to another VLAN. -/
@[reducible] def moveAccessPort : @AcceptedChange asciiDatabase (sampleContext .staticAccess) :=
  letI := asciiDatabase
  ⟨⟨.interfaceAccessVlan, "GigabitEthernet1/0/1", "20"⟩,
    ⟨["interface GigabitEthernet1/0/1", "switchport mode access", "switchport access vlan 20"],
      ["interface GigabitEthernet1/0/1", "switchport access vlan 1"]⟩,
    by decide +kernel, by decide +kernel⟩

/-- Moving the sample port in trunk mode to an access VLAN. -/
@[reducible] def moveTrunkPort : @AcceptedChange asciiDatabase (sampleContext .trunk) :=
  letI := asciiDatabase
  ⟨⟨.interfaceAccessVlan, "GigabitEthernet1/0/1", "20"⟩,
    ⟨["interface GigabitEthernet1/0/1", "switchport mode access", "switchport access vlan 20"],
      ["interface GigabitEthernet1/0/1", "no switchport access vlan"]⟩,
    by decide +kernel, by decide +kernel⟩

/-- Moving a port in access mode to another VLAN is undone. -/
theorem reverts_access_port :
    letI := asciiDatabase
    Reverts sampleNaming (sampleSwitch .staticAccess)
      ⟨["interface GigabitEthernet1/0/1", "switchport mode access", "switchport access vlan 20"],
        ["interface GigabitEthernet1/0/1", "switchport access vlan 1"]⟩ := by
  let _ := asciiDatabase
  refine (reverts_layerTwo_iff (by rfl) (sampleSwitch_wellFormed _)
    (sampleSwitch_reports _) moveAccessPort.valid moveAccessPort.renders).mpr ?_
  refine fun p _ => ⟨rfl, fun _ => rfl, fun n hn => ?_⟩
  have h20 : int "20" = some 20 := by decide +kernel
  have : n = 20 := by
    rw [h20, Option.some.injEq] at hn
    omega
  subst this
  simp

/-- Moving a trunk port to an access VLAN is accepted, and its inverse leaves the port in
access mode. -/
theorem not_reverts_trunk_port :
    letI := asciiDatabase
    let step : ChangeStepIntent := ⟨.interfaceAccessVlan, "GigabitEthernet1/0/1", "20"⟩
    (sampleSwitch .trunk).LayerTwoWellFormed ∧
      ReportsLayerTwo sampleNaming (sampleSwitch .trunk) (fun _ => true) step
        (sampleContext .trunk) ∧
      validateChange step (sampleContext .trunk) = [] ∧
      ∃ rendered, renderChange step (sampleContext .trunk) = .ok rendered ∧
        ¬Reverts sampleNaming (sampleSwitch .trunk) rendered := by
  let _ := asciiDatabase
  refine ⟨sampleSwitch_wellFormed _, sampleSwitch_reports _, moveTrunkPort.valid, _,
    moveTrunkPort.renders, ?_⟩
  have hvalid : validateAccessVlan ⟨.interfaceAccessVlan, "GigabitEthernet1/0/1", "20"⟩
      (sampleContext .trunk) = [] := by
    simpa only [validateChange] using moveTrunkPort.valid
  rw [reverts_accessVlan_iff (sampleSwitch_wellFormed _)
    ((sampleSwitch_reports _).vlans rfl).vlan_row hvalid (by decide +kernel)]
  intro h
  exact absurd (h () (sampleNaming.resolve_long ())).1 (by decide)

end Terraformer
