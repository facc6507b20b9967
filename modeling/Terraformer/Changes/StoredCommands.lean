import Terraformer.Text.Lines
import Terraformer.Drivers.Accepted

/-!
# Stored command lines

A plan keeps the lines of a change as one text, joined by newlines, and the worker splits
that text into lines again before it sends them.  The stored form is verbatim when splitting
gives back the lines the renderer produced.  `storedVerbatim_iff_interpolatesLines` says when
it is, for a validated step of any change type: exactly when every text that reaches a line
without a check is on one line, and a restored route is an `ip route` line.
-/

namespace Terraformer

open Text

section

variable [UnicodeDatabase]

/-- The keywords the lines of a change begin with. -/
def lineKeywords : ChangeType → List String
  | .interfaceDescription => ["interface ", "description ", "no description"]
  | .interfaceAdminState => ["interface ", "no shutdown", "shutdown"]
  | .vlanName => ["vlan ", "name ", "no vlan "]
  | .interfaceAccessVlan =>
    ["interface ", "switchport mode access", "switchport access vlan ",
      "no switchport access vlan"]
  | .interfaceTrunkVlans =>
    ["interface ", "switchport trunk ", "switchport mode ", "no switchport trunk allowed vlan"]
  | .staticRoute => ["ip route ", "no ip route "]
  | .routerNetwork => ["router ", "network ", "no network ", "no router "]
  | .routerNetworkRemove => ["router ", "network ", "no network "]
  | .routerRipVersion => ["router rip", "version", "no version", "no router rip"]
  | .bgpNeighbor => ["router ", "neighbor ", "no neighbor ", "no router "]
  | .hostname => ["hostname "]
  | .domainLookup => ["ip domain-lookup", "no ip domain-lookup"]

/-- The line begins with a keyword of the change type. -/
def BeginsWithKeyword (changeType : ChangeType) (line : String) : Prop :=
  ∃ keyword ∈ lineKeywords changeType, startswith line keyword = true

/-- The stored text of the lines is split into the same lines, each under a keyword of the
change type. -/
def StoredVerbatim (changeType : ChangeType) (lines : List String) : Prop :=
  splitlines (joinLines lines) = lines ∧ ∀ line ∈ lines, BeginsWithKeyword changeType line

/-- The line is one line and begins with a keyword of the change type. -/
def WellFormedLine (changeType : ChangeType) (line : String) : Prop :=
  OneLine line ∧ BeginsWithKeyword changeType line

omit [UnicodeDatabase] in
/-- A line under a keyword is not empty. -/
lemma ne_empty_of_beginsWithKeyword {changeType : ChangeType} {line : String}
    (h : BeginsWithKeyword changeType line) : line ≠ "" := by
  obtain ⟨keyword, hk, hline⟩ := h
  rintro rfl
  have hne : keyword.toList ≠ [] := by
    revert keyword
    cases changeType <;> decide
  rw [startswith, List.isPrefixOf_iff_prefix] at hline
  exact hne (List.prefix_nil.mp hline)

omit [UnicodeDatabase] in
/-- Lines are stored verbatim exactly when each of them is one line under a keyword. -/
lemma storedVerbatim_iff {changeType : ChangeType} {lines : List String} :
    StoredVerbatim changeType lines ↔ ∀ line ∈ lines, WellFormedLine changeType line := by
  constructor
  · rintro ⟨hsplit, hkey⟩ line hline
    have hne : ∀ l ∈ lines, l ≠ "" := fun l hl => ne_empty_of_beginsWithKeyword (hkey l hl)
    exact ⟨(splitlines_joinLines_iff hne).mp hsplit line hline, hkey line hline⟩
  · intro h
    refine ⟨splitlines_joinLines ?_ fun l hl => (h l hl).1, fun l hl => (h l hl).2⟩
    exact fun l hl => ne_empty_of_beginsWithKeyword (h l hl).2

omit [UnicodeDatabase] in
/-- A keyword of the change type followed by a text: well formed when the text is one line. -/
lemma wellFormedLine_append {changeType : ChangeType} {keyword text : String}
    (hk : keyword ∈ lineKeywords changeType) (h : OneLine keyword) :
    WellFormedLine changeType (keyword ++ text) ↔ OneLine text := by
  rw [WellFormedLine, oneLine_append]
  exact ⟨fun h' => h'.1.2, fun h' => ⟨⟨h, h'⟩, keyword, hk, startswith_append _ _⟩⟩

/-- Every text that a renderer puts into a line without a check is one line; a route to
restore is an `ip route` line. -/
def InterpolatesLines (step : ChangeStepIntent) (context : ChangeContext) : Prop :=
  match step.changeType with
  | .interfaceDescription =>
    OneLine step.target ∧
      ∀ facts ∈ context.interface, ∀ description ∈ facts.description, OneLine description
  | .interfaceAdminState => OneLine step.target
  | .interfaceAccessVlan => OneLine step.target
  | .interfaceTrunkVlans =>
    OneLine step.target ∧ ∀ port ∈ context.switchportOf step.target,
      upper (strip (port.trunkAllowed.getD "")) ∉ ["ALL", "NONE"] →
        OneLine (strip (port.trunkAllowed.getD ""))
  | .vlanName => ∀ row ∈ (int step.target).bind context.vlan, OneLine row.name
  | .staticRoute =>
    OneLine step.desiredValue ∧ ∀ parts ∈ prefixParts step.target,
      ∀ route ∈ context.staticRoute parts.1 parts.2,
        OneLine route.asCommand ∧ startswith route.asCommand "ip route " = true
  | .hostname => OneLine step.desiredValue ∧ ∀ name ∈ context.hostname, OneLine name
  | .routerNetwork | .routerNetworkRemove | .routerRipVersion | .bgpNeighbor | .domainLookup => True

/-! ## Lines of each change type -/

omit [UnicodeDatabase] in
/-- A keyword of the change type alone is a well-formed line. -/
lemma wellFormedLine_keyword {changeType : ChangeType} {line : String}
    (hk : line ∈ lineKeywords changeType) (h : OneLine line) : WellFormedLine changeType line :=
  ⟨h, line, hk, startswith_self _⟩

/-- All lines of a rendered change are well formed. -/
def WellFormedLines (changeType : ChangeType) (rendered : RenderedChange) : Prop :=
  (∀ line ∈ rendered.commands, WellFormedLine changeType line) ∧
    ∀ line ∈ rendered.inverseCommands, WellFormedLine changeType line

omit [UnicodeDatabase] in
/-- A description has well-formed lines exactly when the target and the old description are one line
each. -/
lemma wellFormedLines_description {step : ChangeStepIntent} {current : InterfaceFacts}
    (h : OneLine step.desiredValue) :
    WellFormedLines .interfaceDescription (renderDescription step current) ↔
      OneLine step.target ∧ ∀ description ∈ current.description, OneLine description := by
  have hif : ∀ t, WellFormedLine .interfaceDescription ("interface " ++ t) ↔ OneLine t := fun t =>
    wellFormedLine_append (by decide) (by decide)
  have hd : ∀ t, WellFormedLine .interfaceDescription ("description " ++ t) ↔ OneLine t := fun t =>
    wellFormedLine_append (by decide) (by decide)
  have hno : WellFormedLine .interfaceDescription "no description" :=
    wellFormedLine_keyword (by decide) (by decide)
  have hempty : OneLine "" := by decide
  unfold WellFormedLines renderDescription
  cases current.description with
  | none => simp [hif, hd, hno, h]
  | some value =>
    by_cases hv : value = ""
    · simp [hv, hif, hd, hno, h, hempty]
    · simp [hv, hif, hd, h]

omit [UnicodeDatabase] in
/-- A change of the admin state has well-formed lines exactly when its target is one line. -/
lemma wellFormedLines_adminState {step : ChangeStepIntent} {current : InterfaceFacts} :
    WellFormedLines .interfaceAdminState (renderAdminState step current) ↔
      OneLine step.target := by
  have hif : ∀ t, WellFormedLine .interfaceAdminState ("interface " ++ t) ↔ OneLine t := fun t =>
    wellFormedLine_append (by decide) (by decide)
  have hstate : ∀ p : Prop, [Decidable p] →
      WellFormedLine .interfaceAdminState (if p then "no shutdown" else "shutdown") := by
    intro p _
    split <;> exact wellFormedLine_keyword (by decide) (by decide)
  simp [WellFormedLines, renderAdminState, hif, hstate]

omit [UnicodeDatabase] in
/-- A line that begins with a keyword of the change type, whatever follows on the line. -/
lemma wellFormedLine_of_startswith {changeType : ChangeType} (keyword : String) {line : String}
    (hk : keyword ∈ lineKeywords changeType) (h : startswith line keyword = true)
    (hline : OneLine line) : WellFormedLine changeType line :=
  ⟨hline, keyword, hk, h⟩

/-- A VLAN name has well-formed lines exactly when the old name is one line. -/
lemma wellFormedLines_vlanName {step : ChangeStepIntent} {context : ChangeContext}
    {rendered : RenderedChange} (h : OneLine step.desiredValue)
    (hr : renderVlanName step context = .ok rendered) :
    WellFormedLines .vlanName rendered ↔
      ∀ row ∈ (int step.target).bind context.vlan, OneLine row.name := by
  have hvlan : ∀ n, WellFormedLine .vlanName ("vlan " ++ str n) := fun n =>
    (wellFormedLine_append (by decide) (by decide)).mpr (isWord_str n).oneLine
  have hnovlan : ∀ n, WellFormedLine .vlanName ("no vlan " ++ str n) := fun n =>
    (wellFormedLine_append (by decide) (by decide)).mpr (isWord_str n).oneLine
  have hname : ∀ t, WellFormedLine .vlanName ("name " ++ t) ↔ OneLine t := fun t =>
    wellFormedLine_append (by decide) (by decide)
  unfold renderVlanName at hr
  cases hn : int step.target with
  | none => simp [hn] at hr
  | some n =>
    simp only [hn, Except.ok.injEq] at hr
    subst hr
    cases hrow : context.vlan n with
    | none => simp [WellFormedLines, hvlan, hnovlan, hname, hrow, h]
    | some row => simp [WellFormedLines, hvlan, hname, hrow, h]

/-- A change of the access VLAN has well-formed lines exactly when its target is one line. -/
lemma wellFormedLines_accessVlan {step : ChangeStepIntent} {context : ChangeContext}
    {rendered : RenderedChange} (hr : renderAccessVlan step context = .ok rendered) :
    WellFormedLines .interfaceAccessVlan rendered ↔ OneLine step.target := by
  have hif : ∀ t, WellFormedLine .interfaceAccessVlan ("interface " ++ t) ↔ OneLine t := fun t =>
    wellFormedLine_append (by decide) (by decide)
  have haccess : ∀ n, WellFormedLine .interfaceAccessVlan ("switchport access vlan " ++ str n) :=
    fun n => (wellFormedLine_append (by decide) (by decide)).mpr (isWord_str n).oneLine
  have hmode : WellFormedLine .interfaceAccessVlan "switchport mode access" :=
    wellFormedLine_keyword (by decide) (by decide)
  have hno : WellFormedLine .interfaceAccessVlan "no switchport access vlan" :=
    wellFormedLine_keyword (by decide) (by decide)
  unfold renderAccessVlan at hr
  cases hn : int step.desiredValue with
  | none => simp [hn] at hr
  | some n =>
    simp only [hn, Except.ok.injEq] at hr
    subst hr
    cases hrow : context.accessVlanOf step.target with
    | none => simp [WellFormedLines, hif, haccess, hmode, hno]
    | some row => simp [WellFormedLines, hif, haccess, hmode]

omit [UnicodeDatabase] in
/-- The lines that restore a mode are one-line mode commands. -/
lemma modeCommands_wellFormed {mode command : String}
    (h : modeCommands.lookup mode = some command) :
    WellFormedLine .interfaceTrunkVlans command := by
  have hall : ∀ entry ∈ modeCommands, OneLine entry.2 ∧
      startswith entry.2 "switchport mode " = true := by decide
  have hmem : ∃ entry ∈ modeCommands, entry.2 = command := by
    rw [List.lookup_eq_some_iff] at h
    obtain ⟨l₁, l₂, hl, -⟩ := h
    exact ⟨(mode, command), by simp [hl], rfl⟩
  obtain ⟨entry, hentry, rfl⟩ := hmem
  exact wellFormedLine_of_startswith "switchport mode " (by decide)
    (hall entry hentry).2 (hall entry hentry).1

/-- A trunk's VLAN list has well-formed lines exactly when the target and the old list are one
line each. -/
lemma wellFormedLines_trunkVlans {step : ChangeStepIntent} {context : ChangeContext}
    {rendered : RenderedChange} (h : OneLine (strip step.desiredValue))
    (hr : renderTrunkVlans step context = .ok rendered) :
    WellFormedLines .interfaceTrunkVlans rendered ↔
      OneLine step.target ∧ ∀ port ∈ context.switchportOf step.target,
        upper (strip (port.trunkAllowed.getD "")) ∉ ["ALL", "NONE"] →
          OneLine (strip (port.trunkAllowed.getD "")) := by
  have hif : ∀ t, WellFormedLine .interfaceTrunkVlans ("interface " ++ t) ↔ OneLine t := fun t =>
    wellFormedLine_append (by decide) (by decide)
  have hallowed : ∀ t, WellFormedLine .interfaceTrunkVlans
      ("switchport trunk allowed vlan " ++ t) ↔ OneLine t := by
    intro t
    have hsplit : "switchport trunk allowed vlan " ++ t =
        "switchport trunk " ++ ("allowed vlan " ++ t) := by
      rw [← String.append_assoc]
      rfl
    rw [hsplit, wellFormedLine_append (by decide) (by decide), oneLine_append]
    exact and_iff_right (by decide)
  have hencap : WellFormedLine .interfaceTrunkVlans "switchport trunk encapsulation dot1q" :=
    wellFormedLine_of_startswith "switchport trunk " (by decide) (by decide)
      (by decide)
  have hmode : WellFormedLine .interfaceTrunkVlans "switchport mode trunk" :=
    wellFormedLine_of_startswith "switchport mode " (by decide) (by decide)
      (by decide)
  have hno : WellFormedLine .interfaceTrunkVlans "no switchport trunk allowed vlan" :=
    wellFormedLine_keyword (by decide) (by decide)
  have hrestore : ∀ allowed : Option String,
      WellFormedLine .interfaceTrunkVlans (restoreAllowed allowed) ↔
        (upper (strip (allowed.getD "")) ∉ ["ALL", "NONE"] → OneLine (strip (allowed.getD ""))) := by
    intro allowed
    unfold restoreAllowed
    by_cases hw : upper (strip (allowed.getD "")) ∈ ["ALL", "NONE"]
    · simp only [hw, not_true_eq_false, and_false, if_false, false_imp_iff, iff_true]
      exact hno
    · by_cases he : strip (allowed.getD "") = ""
      · simp only [he, ne_eq, not_true_eq_false, false_and, if_false]
        exact iff_of_true hno fun _ => by decide
      · simp only [he, hw, ne_eq, not_false_eq_true, true_and, if_true, forall_const]
        exact hallowed _
  unfold renderTrunkVlans at hr
  cases hp : context.switchportOf step.target with
  | none => simp [hp] at hr
  | some port =>
    cases hc : modeCommands.lookup port.mode with
    | none => simp [hp, hc] at hr
    | some command =>
      simp only [hp, hc, Except.ok.injEq] at hr
      subst hr
      have hcommand := modeCommands_wellFormed hc
      cases port.isTrunk with
      | true => simp [WellFormedLines, hif, hallowed, hrestore, h]
      | false =>
        by_cases hn : port.trunkEncapsulation = some "negotiate"
        · simp [WellFormedLines, hif, hallowed, hrestore, hencap, hmode, hcommand, h, hn]
        · simp [WellFormedLines, hif, hallowed, hrestore, hmode, hcommand, h, hn]

omit [UnicodeDatabase] in
/-- A static route has well-formed lines exactly when the new and the old route are one line
each. -/
lemma wellFormedLines_staticRoute {step : ChangeStepIntent} {context : ChangeContext}
    {rendered : RenderedChange} (hr : renderStaticRoute step context = .ok rendered) :
    WellFormedLines .staticRoute rendered ↔
      OneLine step.desiredValue ∧ ∀ parts ∈ prefixParts step.target,
        ∀ route ∈ context.staticRoute parts.1 parts.2,
          OneLine route.asCommand ∧ startswith route.asCommand "ip route " = true := by
  have hadd : ∀ t, WellFormedLine .staticRoute ("ip route " ++ t) ↔ OneLine t := fun t =>
    wellFormedLine_append (by decide) (by decide)
  have hno : ∀ t, WellFormedLine .staticRoute ("no ip route " ++ t) ↔ OneLine t := fun t =>
    wellFormedLine_append (by decide) (by decide)
  -- a line and its negation are both well formed only for an `ip route` line
  have hboth : ∀ line, WellFormedLine .staticRoute line ∧ WellFormedLine .staticRoute ("no " ++ line)
      ↔ OneLine line ∧ startswith line "ip route " = true := by
    intro line
    constructor
    · rintro ⟨⟨hline, -⟩, -, keyword, hk, hstart⟩
      refine ⟨hline, ?_⟩
      rcases List.mem_cons.mp hk with rfl | hk
      · simp [startswith] at hstart
      · rw [List.mem_singleton.mp hk, show "no ip route " = "no " ++ "ip route " from rfl,
          startswith_append_append] at hstart
        exact hstart
    · rintro ⟨hline, hstart⟩
      refine ⟨⟨hline, "ip route ", by decide, hstart⟩, ?_, "no ip route ", by decide, ?_⟩
      · exact oneLine_append.mpr ⟨by decide, hline⟩
      · rw [show "no ip route " = "no " ++ "ip route " from rfl, startswith_append_append]
        exact hstart
  unfold renderStaticRoute at hr
  cases hp : prefixParts step.target with
  | none => simp [hp] at hr
  | some parts =>
    obtain ⟨destination, mask⟩ := parts
    have hwords : OneLine destination ∧ OneLine mask := oneLine_of_prefixParts hp
    have hblank : OneLine " " := by decide
    have hnoadd : ∀ t, "no " ++ ("ip route " ++ t) = "no ip route " ++ t := fun t => by
      rw [← String.append_assoc]
      rfl
    cases he : context.staticRoute destination mask with
    | none =>
      simp only [hp, he, Except.ok.injEq] at hr
      subst hr
      simp [WellFormedLines, String.append_assoc, hnoadd, hadd, hno, hwords, hblank, he]
    | some existing =>
      simp only [hp, he, Except.ok.injEq] at hr
      subst hr
      have hlines : WellFormedLines .staticRoute
          { commands := ["no " ++ existing.asCommand,
              "ip route " ++ destination ++ " " ++ mask ++ " " ++ step.desiredValue]
            inverseCommands := ["no " ++
              ("ip route " ++ destination ++ " " ++ mask ++ " " ++ step.desiredValue),
              existing.asCommand] } ↔
          OneLine step.desiredValue ∧ WellFormedLine .staticRoute existing.asCommand ∧
            WellFormedLine .staticRoute ("no " ++ existing.asCommand) := by
        simp only [WellFormedLines, List.mem_cons, List.not_mem_nil, or_false, forall_eq_or_imp,
          forall_eq, String.append_assoc, hnoadd, hadd, hno, oneLine_append, hwords, hblank,
          true_and]
        constructor
        · rintro ⟨⟨hne, hd⟩, -, he⟩
          exact ⟨hd, he, hne⟩
        · rintro ⟨hd, he, hne⟩
          exact ⟨⟨hne, hd⟩, hd, he⟩
      rw [hlines, hboth]
      simp [he]

/-- A network statement has well-formed lines. -/
lemma wellFormedLines_routerNetwork {step : ChangeStepIntent} {context : ChangeContext}
    (h : OneLine (strip step.target)) :
    WellFormedLines .routerNetwork (renderRouterNetwork step context) := by
  have hrouter : WellFormedLine .routerNetwork ("router " ++ strip step.target) :=
    (wellFormedLine_append (by decide) (by decide)).mpr h
  have hnorouter : WellFormedLine .routerNetwork ("no router " ++ strip step.target) :=
    (wellFormedLine_append (by decide) (by decide)).mpr h
  have hnetwork : WellFormedLine .routerNetwork (networkStatement step.desiredValue) :=
    (wellFormedLine_append (by decide) (by decide)).mpr (oneLine_collapse _)
  have hnonetwork : WellFormedLine .routerNetwork ("no " ++ networkStatement step.desiredValue) := by
    rw [networkStatement, ← String.append_assoc]
    exact (wellFormedLine_append (by decide) (by decide)).mpr (oneLine_collapse _)
  cases hp : context.routingProcess (strip step.target) <;>
    simp [WellFormedLines, renderRouterNetwork, hp, hrouter, hnorouter, hnetwork, hnonetwork]

omit [UnicodeDatabase] in
/-- So has its removal. -/
lemma wellFormedLines_routerNetworkRemove {step : ChangeStepIntent}
    (h : OneLine (strip step.target)) :
    WellFormedLines .routerNetworkRemove (renderRouterNetworkRemove step) := by
  have hrouter : WellFormedLine .routerNetworkRemove ("router " ++ strip step.target) :=
    (wellFormedLine_append (by decide) (by decide)).mpr h
  have hnetwork : WellFormedLine .routerNetworkRemove (networkStatement step.desiredValue) :=
    (wellFormedLine_append (by decide) (by decide)).mpr (oneLine_collapse _)
  have hnonetwork :
      WellFormedLine .routerNetworkRemove ("no " ++ networkStatement step.desiredValue) := by
    rw [networkStatement, ← String.append_assoc]
    exact (wellFormedLine_append (by decide) (by decide)).mpr (oneLine_collapse _)
  simp [WellFormedLines, renderRouterNetworkRemove, hrouter, hnetwork, hnonetwork]

/-- A statement that was found is on one line and starts with what was looked for. -/
lemma findStatement_spec {process : RoutingProcessFacts} {start line : String}
    (h : process.findStatement start = some line) :
    OneLine line ∧ startswith line (normalizeStatement start) = true := by
  have hmem := List.mem_of_find?_eq_some h
  obtain ⟨raw, -, rfl⟩ := List.mem_map.mp hmem
  exact ⟨oneLine_normalizeStatement raw, by simpa using List.find?_some h⟩

/-- A RIP version has well-formed lines. -/
lemma wellFormedLines_ripVersion {step : ChangeStepIntent} {context : ChangeContext}
    (h : OneLine (strip step.desiredValue)) :
    WellFormedLines .routerRipVersion (renderRipVersion step context) := by
  have hrouter : WellFormedLine .routerRipVersion "router rip" :=
    wellFormedLine_keyword (by decide) (by decide)
  have hnorouter : WellFormedLine .routerRipVersion "no router rip" :=
    wellFormedLine_keyword (by decide) (by decide)
  have hnoversion : WellFormedLine .routerRipVersion "no version" :=
    wellFormedLine_keyword (by decide) (by decide)
  have hversion : WellFormedLine .routerRipVersion ("version " ++ strip step.desiredValue) := by
    rw [show "version " = "version" ++ " " from rfl, String.append_assoc]
    exact (wellFormedLine_append (by decide) (by decide)).mpr
      (oneLine_append.mpr ⟨by decide, h⟩)
  cases hp : context.routingProcess "rip" with
  | none => simp [WellFormedLines, renderRipVersion, hp, hrouter, hnorouter, hversion]
  | some existing =>
    cases hf : existing.findStatement "version " with
    | none => simp [WellFormedLines, renderRipVersion, hp, hrouter, hnoversion, hversion, hf]
    | some previous =>
      obtain ⟨hline, hstart⟩ := findStatement_spec hf
      rw [normalizeStatement_version] at hstart
      have hprevious : WellFormedLine .routerRipVersion previous :=
        wellFormedLine_of_startswith "version" (by decide) hstart hline
      simp [WellFormedLines, renderRipVersion, hp, hrouter, hversion, hprevious, hf]

/-- A BGP neighbour has well-formed lines. -/
lemma wellFormedLines_bgpNeighbor {step : ChangeStepIntent} {context : ChangeContext}
    (h : OneLine (strip step.target)) :
    WellFormedLines .bgpNeighbor (renderBgpNeighbor step context) := by
  have hrouter : WellFormedLine .bgpNeighbor ("router " ++ lower (strip step.target)) :=
    (wellFormedLine_append (by decide) (by decide)).mpr ((oneLine_lower_iff _).mpr h)
  have hnorouter : WellFormedLine .bgpNeighbor ("no router " ++ lower (strip step.target)) :=
    (wellFormedLine_append (by decide) (by decide)).mpr ((oneLine_lower_iff _).mpr h)
  have hneighbor : WellFormedLine .bgpNeighbor ("neighbor " ++ collapse step.desiredValue) :=
    (wellFormedLine_append (by decide) (by decide)).mpr (oneLine_collapse _)
  have hnoneighbor : WellFormedLine .bgpNeighbor ("no neighbor " ++ peerAddress step.desiredValue) :=
    (wellFormedLine_append (by decide) (by decide)).mpr (oneLine_peerAddress _)
  cases hp : context.routingProcess (lower (strip step.target)) with
  | none => simp [WellFormedLines, renderBgpNeighbor, hp, hrouter, hnorouter, hneighbor]
  | some existing =>
    cases hf : existing.findStatement ("neighbor " ++ peerAddress step.desiredValue ++
        " remote-as ") with
    | none => simp [WellFormedLines, renderBgpNeighbor, hp, hrouter, hneighbor, hnoneighbor, hf]
    | some previous =>
      obtain ⟨hline, hstart⟩ := findStatement_spec hf
      have hprevious : WellFormedLine .bgpNeighbor previous :=
        wellFormedLine_of_startswith "neighbor " (by decide)
          (startswith_trans hstart (startswith_normalizeStatement_neighbor _)) hline
      simp [WellFormedLines, renderBgpNeighbor, hp, hrouter, hneighbor, hnoneighbor,
        hprevious, hf]

omit [UnicodeDatabase] in
/-- A hostname has well-formed lines exactly when the new and the old name are one line each. -/
lemma wellFormedLines_hostname {step : ChangeStepIntent} {context : ChangeContext}
    {rendered : RenderedChange} (hr : renderHostname step context = .ok rendered) :
    WellFormedLines .hostname rendered ↔
      OneLine step.desiredValue ∧ ∀ name ∈ context.hostname, OneLine name := by
  have hname : ∀ t, WellFormedLine .hostname ("hostname " ++ t) ↔ OneLine t := fun t =>
    wellFormedLine_append (by decide) (by decide)
  unfold renderHostname at hr
  cases hn : context.hostname with
  | none => simp [hn] at hr
  | some previous =>
    simp only [hn] at hr
    split at hr
    · simp at hr
    · rw [Except.ok.injEq] at hr
      subst hr
      simp [WellFormedLines, hname]

omit [UnicodeDatabase] in
/-- The lookup has well-formed lines. -/
lemma wellFormedLines_domainLookup {step : ChangeStepIntent} {context : ChangeContext}
    {rendered : RenderedChange} (hr : renderDomainLookup step context = .ok rendered) :
    WellFormedLines .domainLookup rendered := by
  have hstate : ∀ p : Prop, [Decidable p] →
      WellFormedLine .domainLookup (if p then "ip domain-lookup" else "no ip domain-lookup") := by
    intro p _
    split <;> exact wellFormedLine_keyword (by decide) (by decide)
  unfold renderDomainLookup at hr
  cases hc : context.domainLookup with
  | none => simp [hc] at hr
  | some current =>
    simp only [hc, Except.ok.injEq] at hr
    subst hr
    simp [WellFormedLines, hstate]

/-! ## The stored form -/

/-- The stored form of a validated change of any type is verbatim, in both directions,
exactly when every text that reaches a line without a check is one line and a route to
restore is an `ip route` line. -/
theorem storedVerbatim_iff_interpolatesLines {step : ChangeStepIntent} {context : ChangeContext}
    {rendered : RenderedChange} (hv : validateChange step context = [])
    (hr : renderChange step context = .ok rendered) :
    (StoredVerbatim step.changeType rendered.commands ∧
      StoredVerbatim step.changeType rendered.inverseCommands) ↔
        InterpolatesLines step context := by
  rw [storedVerbatim_iff, storedVerbatim_iff]
  show WellFormedLines step.changeType rendered ↔ _
  unfold validateChange at hv
  unfold renderChange at hr
  unfold InterpolatesLines
  cases ht : step.changeType with
  | interfaceDescription =>
    simp only [ht] at hv hr ⊢
    cases hi : context.interface with
    | none => simp [hi] at hr
    | some current =>
      simp only [hi, Except.ok.injEq] at hr
      subst hr
      rw [wellFormedLines_description (description_of_validateDescription hv).1]
      simp
  | interfaceAdminState =>
    simp only [ht] at hr ⊢
    cases hi : context.interface with
    | none => simp [hi] at hr
    | some current =>
      simp only [hi, Except.ok.injEq] at hr
      subst hr
      exact wellFormedLines_adminState
  | vlanName =>
    simp only [ht] at hv hr ⊢
    exact wellFormedLines_vlanName (vlanName_of_validateVlanName hv).1.oneLine hr
  | interfaceAccessVlan =>
    simp only [ht] at hr ⊢
    exact wellFormedLines_accessVlan hr
  | interfaceTrunkVlans =>
    simp only [ht] at hv hr ⊢
    exact wellFormedLines_trunkVlans (trunkVlans_of_validateTrunkVlans hv).1.oneLine hr
  | staticRoute =>
    simp only [ht] at hr ⊢
    exact wellFormedLines_staticRoute hr
  | routerNetwork =>
    simp only [ht, Except.ok.injEq] at hv hr ⊢
    subst hr
    exact iff_of_true (wellFormedLines_routerNetwork
      (routerNetwork_of_validateRouterNetwork hv).1.oneLine) trivial
  | routerNetworkRemove =>
    simp only [ht, Except.ok.injEq] at hv hr ⊢
    subst hr
    exact iff_of_true (wellFormedLines_routerNetworkRemove
      (routerNetworkRemove_of_validateRouterNetworkRemove hv).1.oneLine) trivial
  | routerRipVersion =>
    simp only [ht, Except.ok.injEq] at hv hr ⊢
    subst hr
    refine iff_of_true (wellFormedLines_ripVersion ?_) trivial
    rcases (ripVersion_of_validateRipVersion hv).1 with h | h <;> rw [h] <;> decide
  | bgpNeighbor =>
    simp only [ht, Except.ok.injEq] at hv hr ⊢
    subst hr
    exact iff_of_true (wellFormedLines_bgpNeighbor
      (bgpNeighbor_of_validateBgpNeighbor hv).1.oneLine) trivial
  | hostname =>
    simp only [ht] at hr ⊢
    exact wellFormedLines_hostname hr
  | domainLookup =>
    simp only [ht] at hr ⊢
    exact iff_of_true (wellFormedLines_domainLookup hr) trivial

end

/-- A route with a plain next hop. -/
@[reducible] def plainNextHop : @AcceptedChange asciiDatabase {} :=
  letI := asciiDatabase
  ⟨⟨.staticRoute, "10.0.0.0/8", "192.0.2.1"⟩,
    ⟨["ip route 10.0.0.0 255.0.0.0 192.0.2.1"], ["no ip route 10.0.0.0 255.0.0.0 192.0.2.1"]⟩,
    by decide +kernel, by decide +kernel⟩

/-- A next hop that is one word behind a newline. -/
@[reducible] def smugglingNextHop : @AcceptedChange asciiDatabase {} :=
  letI := asciiDatabase
  ⟨⟨.staticRoute, "10.0.0.0/8", "\nreload"⟩,
    ⟨["ip route 10.0.0.0 255.0.0.0 \nreload"], ["no ip route 10.0.0.0 255.0.0.0 \nreload"]⟩,
    by decide +kernel, by decide +kernel⟩

/-- A route with a plain next hop is stored verbatim. -/
theorem storedVerbatim_plain_next_hop :
    letI := asciiDatabase
    StoredVerbatim .staticRoute ["ip route 10.0.0.0 255.0.0.0 192.0.2.1"] ∧
      StoredVerbatim .staticRoute ["no ip route 10.0.0.0 255.0.0.0 192.0.2.1"] := by
  let _ := asciiDatabase
  refine (@storedVerbatim_iff_interpolatesLines asciiDatabase plainNextHop.step {} _
    plainNextHop.valid plainNextHop.renders).mpr ?_
  refine ⟨by decide, fun parts _ route hroute => ?_⟩
  simp [ChangeContext.staticRoute] at hroute

/-- A next hop that is one word behind a newline is accepted, and its stored form is split into
a shortened route and a second command of the operator's choice. -/
theorem stored_next_hop_smuggles_reload :
    letI := asciiDatabase
    let step : ChangeStepIntent := ⟨.staticRoute, "10.0.0.0/8", "\nreload"⟩
    validateChange step {} = [] ∧ ∃ rendered, renderChange step {} = .ok rendered ∧
      splitlines (joinLines rendered.commands) = ["ip route 10.0.0.0 255.0.0.0 ", "reload"] ∧
      ¬StoredVerbatim .staticRoute rendered.commands := by
  let _ := asciiDatabase
  intro step
  have hsplit : splitlines (joinLines smugglingNextHop.rendered.commands) =
      ["ip route 10.0.0.0 255.0.0.0 ", "reload"] := by
    decide +kernel
  refine ⟨smugglingNextHop.valid, _, smugglingNextHop.renders, hsplit, fun h => ?_⟩
  have hstored := h.1
  rw [hsplit] at hstored
  simp at hstored

end Terraformer
