import Terraformer.Analysis.Findings
import Terraformer.Changes.InterfaceNames

/-!
# Drift between cabling and configuration

An observed link names its ends as neighbour discovery spelled them, CDP in full and LLDP
abbreviated, and a parsed property names its port as the configuration does.  `ReportsDrift` says
what the report on a list of links should hold: the ends no property describes under any spelling,
and for the links described at both ends whether the modes, or the access VLANs, disagree.
`topologyDriftFindings` looks an end up by its name in small letters, and `reportsDrift_iff` says
that this is enough just when every end that is described at all is described under the spelling
the link has.
-/

namespace Terraformer.Analysis

open Text

variable [UnicodeDatabase]

/-! ## Ends of links -/

/-- Two names of one port: the same but for the case of letters, or two spellings of it. -/
def NamesSamePort (name name' : String) : Prop :=
  lower name = lower name' ∨
    ∃ (port : DevicePort) (spelling spelling' : Spelling),
      lower name = lower (port.spell spelling) ∧ lower name' = lower (port.spell spelling')

/-- The property is that of the port of the node. -/
def Describes (item : InterfaceProperty) (hostname interface : String) : Prop :=
  lower item.hostname = lower hostname ∧ NamesSamePort item.interface interface

/-! ## What a report should hold -/

/-- The finding for an end that no property describes. -/
def missingEnd (hostname interface : String) : RawFinding :=
  drift hostname interface (interface ++ " is reported by a neighbour discovery record" ++
    " but does not appear in the parsed configuration")

/-- The finding for ends with different modes. -/
def modeMismatch (edge : Layer1Edge) (near far : InterfaceProperty) : RawFinding :=
  drift edge.node1Hostname edge.node1Interface
    ("Observed link ends disagree on switchport mode: " ++ edge.node1Hostname ++ " " ++
      edge.node1Interface ++ " is " ++ mode near ++ " and " ++ edge.node2Hostname ++ " " ++
      edge.node2Interface ++ " is " ++ mode far)

/-- The finding for access ports in different VLANs. -/
def vlanMismatch (edge : Layer1Edge) (nearVlan farVlan : ℤ) : RawFinding :=
  drift edge.node1Hostname edge.node1Interface
    ("Observed link ends disagree on access VLAN: " ++ edge.node1Hostname ++ " " ++
      edge.node1Interface ++ " uses " ++ str nearVlan ++ " and " ++
      edge.node2Hostname ++ " " ++ edge.node2Interface ++ " uses " ++ str farVlan)

/-- What is reported of an end alone. -/
inductive EndReport (properties : List InterfaceProperty) (hostname interface : String) :
    List RawFinding → Prop where
  | present {item : InterfaceProperty} (hitem : item ∈ properties)
      (hdescribes : Describes item hostname interface) : EndReport properties hostname interface []
  | missing (hnone : ∀ item ∈ properties, ¬ Describes item hostname interface) :
      EndReport properties hostname interface [missingEnd hostname interface]

/-- The two properties are those of the ends of the link. -/
structure DescribesEnds (properties : List InterfaceProperty) (edge : Layer1Edge)
    (near far : InterfaceProperty) : Prop where
  near_mem : near ∈ properties
  far_mem : far ∈ properties
  near_end : Describes near edge.node1Hostname edge.node1Interface
  far_end : Describes far edge.node2Hostname edge.node2Interface

/-- Both ports are access ports, of VLANs that are known and differ. -/
def OtherVlan (near far : InterfaceProperty) (nearVlan farVlan : ℤ) : Prop :=
  mode near = "ACCESS" ∧ mode far = "ACCESS" ∧
    near.accessVlan = some nearVlan ∧ far.accessVlan = some farVlan ∧ nearVlan ≠ farVlan

/-- What is reported of the two ends together. -/
inductive PairReport (properties : List InterfaceProperty) (edge : Layer1Edge) :
    List RawFinding → Prop where
  | modes {near far : InterfaceProperty} (hends : DescribesEnds properties edge near far)
      (hmodes : mode near ≠ mode far) : PairReport properties edge [modeMismatch edge near far]
  | vlans {near far : InterfaceProperty} {nearVlan farVlan : ℤ}
      (hends : DescribesEnds properties edge near far)
      (hvlans : OtherVlan near far nearVlan farVlan) :
      PairReport properties edge [vlanMismatch edge nearVlan farVlan]
  | agree {near far : InterfaceProperty} (hends : DescribesEnds properties edge near far)
      (hmodes : mode near = mode far)
      (hvlans : ∀ nearVlan farVlan, ¬ OtherVlan near far nearVlan farVlan) :
      PairReport properties edge []
  | unpaired (hnone : ∀ near far, ¬ DescribesEnds properties edge near far) :
      PairReport properties edge []

/-- What is reported of a link. -/
inductive LinkReport (properties : List InterfaceProperty) (edge : Layer1Edge) :
    List RawFinding → Prop where
  | mk {near far pair : List RawFinding}
      (hnear : EndReport properties edge.node1Hostname edge.node1Interface near)
      (hfar : EndReport properties edge.node2Hostname edge.node2Interface far)
      (hpair : PairReport properties edge pair) : LinkReport properties edge (near ++ far ++ pair)

/-- The findings are what is to be reported of the links, and nothing else. -/
def ReportsDrift (edges : List Layer1Edge) (properties : List InterfaceProperty)
    (findings : List RawFinding) : Prop :=
  ∃ reports : List (List RawFinding),
    List.Forall₂ (LinkReport properties) edges reports ∧ findings.Perm reports.flatten

/-! ## The dictionary of properties -/

/-- The dictionary `topology_drift_findings` looks ends up in. -/
def byKey (properties : List InterfaceProperty) : List ((String × String) × InterfaceProperty) :=
  properties.map fun item => ((lower item.hostname, lower item.interface), item)

/-- The property that is found for an end. -/
def foundProperty (properties : List InterfaceProperty) (hostname interface : String) :
    Option InterfaceProperty :=
  dictGet (byKey properties) (lower hostname, lower interface)

/-- An end that is described is described under the spelling the link has. -/
def SpelledAlike (properties : List InterfaceProperty) (hostname interface : String) : Prop :=
  (∃ item ∈ properties, Describes item hostname interface) →
    ∃ item ∈ properties, lower item.hostname = lower hostname ∧
      lower item.interface = lower interface

variable {properties : List InterfaceProperty} {hostname interface : String}

/-- The dictionary holds each property under the lowered names of its port. -/
lemma mem_byKey {key : String × String} {item : InterfaceProperty} :
    (key, item) ∈ byKey properties ↔
      item ∈ properties ∧ (lower item.hostname, lower item.interface) = key := by
  simp only [byKey, List.mem_map, Prod.mk.injEq]
  constructor
  · rintro ⟨item', hitem, hkey, rfl⟩
    exact ⟨hitem, hkey⟩
  · rintro ⟨hitem, hkey⟩
    exact ⟨item, hitem, hkey, rfl⟩

/-- What is found for an end describes it. -/
lemma describes_of_foundProperty {item : InterfaceProperty}
    (h : foundProperty properties hostname interface = some item) :
    item ∈ properties ∧ Describes item hostname interface := by
  obtain ⟨hitem, hkey⟩ := mem_byKey.mp (mem_of_dictGet h)
  obtain ⟨hhostname, hinterface⟩ := Prod.mk.inj hkey
  exact ⟨hitem, hhostname, Or.inl hinterface⟩

/-- Nothing is found for an end when no property has its name. -/
lemma foundProperty_eq_none_iff :
    foundProperty properties hostname interface = none ↔
      ¬ ∃ item ∈ properties, lower item.hostname = lower hostname ∧
        lower item.interface = lower interface := by
  rw [foundProperty, dictGet_eq_none_iff]
  refine not_congr ?_
  constructor
  · intro hkey
    obtain ⟨⟨key, item⟩, hitem, rfl⟩ := List.mem_map.mp hkey
    obtain ⟨hmem, hkey⟩ := mem_byKey.mp hitem
    exact ⟨item, hmem, Prod.mk.inj hkey⟩
  · rintro ⟨item, hmem, hhostname, hinterface⟩
    refine List.mem_map.mpr ⟨(_, item), mem_byKey.mpr ⟨hmem, rfl⟩, ?_⟩
    rw [hhostname, hinterface]

/-- Spelled as the link has it, an end for which nothing is found is not described. -/
lemma not_describes_of_foundProperty_eq_none (hspelled : SpelledAlike properties hostname interface)
    (h : foundProperty properties hostname interface = none) :
    ∀ item ∈ properties, ¬ Describes item hostname interface :=
  fun item hitem hdescribes => foundProperty_eq_none_iff.mp h (hspelled ⟨item, hitem, hdescribes⟩)

/-! ## What is reported -/

/-- What `topology_drift_findings` reports of an end alone. -/
def endFindings (properties : List InterfaceProperty) (hostname interface : String) :
    List RawFinding :=
  if (foundProperty properties hostname interface).isNone then [missingEnd hostname interface]
  else []

variable {edge : Layer1Edge}

/-- The findings are those of the edges, one after another. -/
lemma topologyDriftFindings_eq (edges : List Layer1Edge) :
    topologyDriftFindings edges properties = edges.flatMap (edgeFindings (byKey properties)) :=
  rfl

/-- A port that has a property is not missing. -/
lemma endFindings_of_some {item : InterfaceProperty}
    (h : foundProperty properties hostname interface = some item) :
    endFindings properties hostname interface = [] := by
  rw [endFindings, h]
  rfl

/-- A port that has no property is missing. -/
lemma endFindings_of_none (h : foundProperty properties hostname interface = none) :
    endFindings properties hostname interface = [missingEnd hostname interface] := by
  rw [endFindings, h]
  rfl

section Edge

/-- The properties found for the two ends of a link. -/
structure FindsEnds (properties : List InterfaceProperty) (edge : Layer1Edge)
    (near far : InterfaceProperty) : Prop where
  near_found : foundProperty properties edge.node1Hostname edge.node1Interface = some near
  far_found : foundProperty properties edge.node2Hostname edge.node2Interface = some far

variable {near far : InterfaceProperty}

/-- The properties that are found describe the two ends. -/
lemma FindsEnds.describesEnds (h : FindsEnds properties edge near far) :
    DescribesEnds properties edge near far where
  near_mem := (describes_of_foundProperty h.near_found).1
  far_mem := (describes_of_foundProperty h.far_found).1
  near_end := (describes_of_foundProperty h.near_found).2
  far_end := (describes_of_foundProperty h.far_found).2

/-- Two ends whose modes differ give the one finding about the modes. -/
lemma edgeFindings_modes (h : FindsEnds properties edge near far) (hmodes : mode near ≠ mode far) :
    edgeFindings (byKey properties) edge = [modeMismatch edge near far] := by
  obtain ⟨hnear, hfar⟩ := h
  rw [foundProperty] at hnear hfar
  simp only [edgeFindings, hnear, hfar, Option.isNone_some, Bool.false_eq_true, if_false,
    List.nil_append, if_pos hmodes, modeMismatch]

/-- Two access ports in different VLANs give the one finding about the VLANs. -/
lemma edgeFindings_vlans (h : FindsEnds properties edge near far) {nearVlan farVlan : ℤ}
    (hvlans : OtherVlan near far nearVlan farVlan) :
    edgeFindings (byKey properties) edge = [vlanMismatch edge nearVlan farVlan] := by
  obtain ⟨hnear, hfar⟩ := h
  obtain ⟨hnearMode, hfarMode, hnearVlan, hfarVlan, hne⟩ := hvlans
  rw [foundProperty] at hnear hfar
  have hmodes : ¬ mode near ≠ mode far := by simp [hnearMode, hfarMode]
  simp only [edgeFindings, hnear, hfar, Option.isNone_some, Bool.false_eq_true, if_false,
    List.nil_append, if_neg hmodes, hnearVlan, hfarVlan, if_pos (And.intro hnearMode hne),
    vlanMismatch]

/-- Two ends that agree give no finding. -/
lemma edgeFindings_agree (h : FindsEnds properties edge near far) (hmodes : mode near = mode far)
    (hvlans : ∀ nearVlan farVlan, ¬ OtherVlan near far nearVlan farVlan) :
    edgeFindings (byKey properties) edge = [] := by
  obtain ⟨hnear, hfar⟩ := h
  rw [foundProperty] at hnear hfar
  have hsame : ¬ mode near ≠ mode far := not_not.mpr hmodes
  cases hnearVlan : near.accessVlan with
  | none =>
    simp only [edgeFindings, hnear, hfar, Option.isNone_some, Bool.false_eq_true, if_false,
      List.nil_append, if_neg hsame, hnearVlan]
  | some nearVlan =>
    cases hfarVlan : far.accessVlan with
    | none =>
      simp only [edgeFindings, hnear, hfar, Option.isNone_some, Bool.false_eq_true, if_false,
        List.nil_append, if_neg hsame, hnearVlan, hfarVlan]
    | some farVlan =>
      have hnone : ¬ (mode near = "ACCESS" ∧ nearVlan ≠ farVlan) := fun hother =>
        hvlans nearVlan farVlan ⟨hother.1, hmodes ▸ hother.1, hnearVlan, hfarVlan, hother.2⟩
      simp only [edgeFindings, hnear, hfar, Option.isNone_some, Bool.false_eq_true, if_false,
        List.nil_append, if_neg hsame, hnearVlan, hfarVlan, if_neg hnone]

end Edge

/-- With an end that is not found, the ends are reported alone. -/
lemma edgeFindings_unpaired
    (h : foundProperty properties edge.node1Hostname edge.node1Interface = none ∨
      foundProperty properties edge.node2Hostname edge.node2Interface = none) :
    edgeFindings (byKey properties) edge =
      endFindings properties edge.node1Hostname edge.node1Interface ++
        endFindings properties edge.node2Hostname edge.node2Interface := by
  rw [endFindings, endFindings, foundProperty, foundProperty]
  rw [foundProperty, foundProperty] at h
  rcases h with h | h
  · simp only [edgeFindings, h, missingEnd, List.append_nil]
  · cases hnear : dictGet (byKey properties)
        (lower edge.node1Hostname, lower edge.node1Interface) with
    | none => simp only [edgeFindings, hnear, missingEnd, List.append_nil]
    | some near => simp only [edgeFindings, hnear, h, missingEnd, List.append_nil]

/-- An end spelled as its property is reported when it should be. -/
lemma endReport (hspelled : SpelledAlike properties hostname interface) :
    EndReport properties hostname interface (endFindings properties hostname interface) := by
  cases h : foundProperty properties hostname interface with
  | none =>
    rw [endFindings_of_none h]
    exact EndReport.missing (not_describes_of_foundProperty_eq_none hspelled h)
  | some item =>
    rw [endFindings_of_some h]
    exact EndReport.present (describes_of_foundProperty h).1 (describes_of_foundProperty h).2

/-- A link whose ends are spelled as their properties is reported as it should be. -/
lemma linkReport (hnear : SpelledAlike properties edge.node1Hostname edge.node1Interface)
    (hfar : SpelledAlike properties edge.node2Hostname edge.node2Interface) :
    LinkReport properties edge (edgeFindings (byKey properties) edge) := by
  by_cases hends : ∃ near far, FindsEnds properties edge near far
  · obtain ⟨near, far, h⟩ := hends
    have hnil : ∀ pair, PairReport properties edge pair → LinkReport properties edge pair := by
      intro pair hpair
      have hlink := LinkReport.mk (endReport hnear) (endReport hfar) hpair
      rw [endFindings_of_some h.near_found, endFindings_of_some h.far_found] at hlink
      exact hlink
    apply hnil
    by_cases hmodes : mode near = mode far
    · by_cases hvlans : ∃ nearVlan farVlan, OtherVlan near far nearVlan farVlan
      · obtain ⟨nearVlan, farVlan, hother⟩ := hvlans
        rw [edgeFindings_vlans h hother]
        exact PairReport.vlans h.describesEnds hother
      · have hnone : ∀ nearVlan farVlan, ¬ OtherVlan near far nearVlan farVlan :=
          fun nearVlan farVlan hother => hvlans ⟨nearVlan, farVlan, hother⟩
        rw [edgeFindings_agree h hmodes hnone]
        exact PairReport.agree h.describesEnds hmodes hnone
    · rw [edgeFindings_modes h hmodes]
      exact PairReport.modes h.describesEnds hmodes
  · have hnone : foundProperty properties edge.node1Hostname edge.node1Interface = none ∨
        foundProperty properties edge.node2Hostname edge.node2Interface = none := by
      by_contra hboth
      rw [not_or, ← ne_eq, ← ne_eq, Option.ne_none_iff_exists', Option.ne_none_iff_exists'] at hboth
      obtain ⟨⟨near, hn⟩, far, hf⟩ := hboth
      exact hends ⟨near, far, hn, hf⟩
    rw [edgeFindings_unpaired hnone, ← List.append_nil (_ ++ _)]
    refine LinkReport.mk (endReport hnear) (endReport hfar) (PairReport.unpaired ?_)
    intro near far hdescribes
    rcases hnone with h | h
    · exact not_describes_of_foundProperty_eq_none hnear h near hdescribes.near_mem
        hdescribes.near_end
    · exact not_describes_of_foundProperty_eq_none hfar h far hdescribes.far_mem
        hdescribes.far_end

/-! ## A missing end is not a mismatch

The texts of the findings hold names, and names are any texts: that a finding for a missing end is
none for a mismatch follows from how the two texts end. -/

/-- The end of the text for a missing end. -/
def missingTail : List Char :=
  " is reported by a neighbour discovery record".toList ++
    " but does not appear in the parsed configuration".toList

omit [UnicodeDatabase] in
/-- Where a word stands at the start of one text and later in another, what follows it there ends
what follows it here. -/
lemma suffix_of_append_eq {α : Type*} {word tail front back : List α} (hfront : front ≠ [])
    (h : word ++ tail = front ++ (word ++ back)) : back <:+ tail.tail := by
  have hlength := congrArg List.length h
  simp only [List.length_append] at hlength
  have hpos := List.length_pos_of_ne_nil hfront
  have hback : back <:+ front ++ (word ++ back) := ⟨front ++ word, by simp⟩
  have htail : tail.tail <:+ front ++ (word ++ back) :=
    h ▸ (List.tail_suffix tail).trans (List.suffix_append word tail)
  refine List.suffix_of_suffix_length_le hback htail ?_
  rw [List.length_tail]
  omega

omit [UnicodeDatabase] in
/-- What stands behind a later occurrence of the word is a proper suffix of what stands behind the
first. -/
lemma suffix_of_text_eq {word first second front back : String} (hfront : front.toList ≠ [])
    (h : word ++ first ++ second = front ++ (word ++ back)) :
    back.toList <:+ (first.toList ++ second.toList).tail := by
  have hlist := congrArg String.toList h
  simp only [String.toList_append, List.append_assoc] at hlist
  exact suffix_of_append_eq hfront hlist

omit [UnicodeDatabase] in
/-- No mismatch reads like a missing end. -/
lemma missing_text_ne {interface front back : String} {link : List Char}
    (hfront : front.toList ≠ []) (hlink : link ∈ [" is ".toList, " uses ".toList])
    (hback : link <+: back.toList) :
    interface ++ " is reported by a neighbour discovery record" ++
      " but does not appear in the parsed configuration" ≠ front ++ (interface ++ back) := by
  intro heq
  have hsuffix : back.toList <:+ missingTail.tail := suffix_of_text_eq hfront heq
  have hnone : ∀ link ∈ [" is ".toList, " uses ".toList], ∀ tail ∈ missingTail.tail.tails,
      ¬ link <+: tail := by
    decide
  exact hnone link hlink back.toList ((List.mem_tails _ _).mpr hsuffix) hback

/-- A missing end is another finding than a mismatch of the modes. -/
lemma missingEnd_ne_modeMismatch {near far : InterfaceProperty} :
    missingEnd hostname interface ≠ modeMismatch edge near far := by
  intro heq
  simp only [missingEnd, modeMismatch, drift, RawFinding.mk.injEq, Option.some.injEq, true_and,
    and_true] at heq
  obtain ⟨-, rfl, htext⟩ := heq
  have hshape := htext.trans (show _ =
    ("Observed link ends disagree on switchport mode: " ++ edge.node1Hostname ++ " ") ++
      (edge.node1Interface ++ (" is " ++ (mode near ++ (" and " ++ (edge.node2Hostname ++
        (" " ++ (edge.node2Interface ++ (" is " ++ mode far)))))))) by
    simp only [String.append_assoc])
  refine missing_text_ne ?_ List.mem_cons_self ?_ hshape
  · simp [String.toList_append]
  · rw [String.toList_append]
    exact List.prefix_append _ _

omit [UnicodeDatabase] in
/-- A missing end is another finding than a mismatch of the VLANs. -/
lemma missingEnd_ne_vlanMismatch {nearVlan farVlan : ℤ} :
    missingEnd hostname interface ≠ vlanMismatch edge nearVlan farVlan := by
  intro heq
  simp only [missingEnd, vlanMismatch, drift, RawFinding.mk.injEq, Option.some.injEq, true_and,
    and_true] at heq
  obtain ⟨-, rfl, htext⟩ := heq
  have hshape := htext.trans (show _ =
    ("Observed link ends disagree on access VLAN: " ++ edge.node1Hostname ++ " ") ++
      (edge.node1Interface ++ (" uses " ++ (str nearVlan ++ (" and " ++ (edge.node2Hostname ++
        (" " ++ (edge.node2Interface ++ (" uses " ++ str farVlan)))))))) by
    simp only [String.append_assoc])
  refine missing_text_ne ?_ (List.mem_cons_of_mem _ List.mem_cons_self) ?_ hshape
  · simp [String.toList_append]
  · rw [String.toList_append]
    exact List.prefix_append _ _

/-- A finding for a missing end is one that an end alone is reported with. -/
lemma LinkReport.not_describes {report : List RawFinding} (h : LinkReport properties edge report)
    (hmem : missingEnd hostname interface ∈ report) :
    ∀ item ∈ properties, ¬ Describes item hostname interface := by
  have hend : ∀ {hostname' interface' : String} {findings : List RawFinding},
      EndReport properties hostname' interface' findings →
      missingEnd hostname interface ∈ findings →
      ∀ item ∈ properties, ¬ Describes item hostname interface := by
    intro hostname' interface' findings hreport hfinding
    rcases hreport with ⟨hitem, hdescribes⟩ | hnone
    · exact absurd hfinding List.not_mem_nil
    · have heq := List.mem_singleton.mp hfinding
      simp only [missingEnd, drift, RawFinding.mk.injEq, Option.some.injEq, true_and,
        and_true] at heq
      obtain ⟨rfl, rfl, -⟩ := heq
      exact hnone
  obtain ⟨hnear, hfar, hpair⟩ := h
  simp only [List.mem_append] at hmem
  rcases hmem with (hmem | hmem) | hmem
  · exact hend hnear hmem
  · exact hend hfar hmem
  · rcases hpair with ⟨-, -⟩ | ⟨-, -⟩ | ⟨-, -, -⟩ | -
    · exact absurd (List.mem_singleton.mp hmem) missingEnd_ne_modeMismatch
    · exact absurd (List.mem_singleton.mp hmem) missingEnd_ne_vlanMismatch
    · exact absurd hmem List.not_mem_nil
    · exact absurd hmem List.not_mem_nil

/-! ## The report on all links -/

/-- Both ends of the link are spelled as their properties are. -/
def EndsSpelledAlike (properties : List InterfaceProperty) (edge : Layer1Edge) : Prop :=
  SpelledAlike properties edge.node1Hostname edge.node1Interface ∧
    SpelledAlike properties edge.node2Hostname edge.node2Interface

/-- An end for which nothing is found is reported missing. -/
lemma missingEnd_mem_edgeFindings
    (h : (edge.node1Hostname, edge.node1Interface) = (hostname, interface) ∨
      (edge.node2Hostname, edge.node2Interface) = (hostname, interface))
    (hnone : foundProperty properties hostname interface = none) :
    missingEnd hostname interface ∈ edgeFindings (byKey properties) edge := by
  have hmem := List.mem_singleton_self (missingEnd hostname interface)
  rw [← endFindings_of_none hnone] at hmem
  rcases h with h | h
  · obtain ⟨rfl, rfl⟩ := Prod.mk.inj h
    rw [edgeFindings_unpaired (Or.inl hnone)]
    exact List.mem_append_left _ hmem
  · obtain ⟨rfl, rfl⟩ := Prod.mk.inj h
    rw [edgeFindings_unpaired (Or.inr hnone)]
    exact List.mem_append_right _ hmem

omit [UnicodeDatabase] in
/-- What stands on the right of related lists has something on the left that it is related to. -/
lemma exists_left_of_mem {α β : Type*} {R : α → β → Prop} {left : List α} {right : List β}
    (h : List.Forall₂ R left right) {b : β} (hb : b ∈ right) : ∃ a ∈ left, R a b := by
  induction h with
  | nil => exact absurd hb List.not_mem_nil
  | cons hhead _ ih =>
    rcases List.mem_cons.mp hb with rfl | hb
    · exact ⟨_, List.mem_cons_self, hhead⟩
    · obtain ⟨a, ha, hrel⟩ := ih hb
      exact ⟨a, List.mem_cons_of_mem _ ha, hrel⟩

/-- What is reported missing in a right report is described by no property. -/
lemma ReportsDrift.not_describes {edges : List Layer1Edge} {findings : List RawFinding}
    (h : ReportsDrift edges properties findings)
    (hmem : missingEnd hostname interface ∈ findings) :
    ∀ item ∈ properties, ¬ Describes item hostname interface := by
  obtain ⟨reports, hall, hperm⟩ := h
  obtain ⟨report, hreport, hfinding⟩ := List.mem_flatten.mp (hperm.mem_iff.mp hmem)
  obtain ⟨edge, -, hlink⟩ := exists_left_of_mem hall hreport
  exact hlink.not_describes hfinding

/-- The report on drift is right just when every end that a property describes is described under
the spelling its link has, the case of letters apart. -/
theorem reportsDrift_iff (edges : List Layer1Edge) (properties : List InterfaceProperty) :
    ReportsDrift edges properties (topologyDriftFindings edges properties) ↔
      ∀ edge ∈ edges, EndsSpelledAlike properties edge := by
  rw [topologyDriftFindings_eq]
  constructor
  · intro h edge hedge
    have hspelled : ∀ hostname interface,
        (edge.node1Hostname, edge.node1Interface) = (hostname, interface) ∨
          (edge.node2Hostname, edge.node2Interface) = (hostname, interface) →
        SpelledAlike properties hostname interface := by
      intro hostname interface hend hdescribed
      by_contra hother
      have hnone := foundProperty_eq_none_iff.mpr hother
      have hmem : missingEnd hostname interface ∈
          edges.flatMap (edgeFindings (byKey properties)) :=
        List.mem_flatMap.mpr ⟨edge, hedge, missingEnd_mem_edgeFindings hend hnone⟩
      obtain ⟨item, hitem, hdescribes⟩ := hdescribed
      exact h.not_describes hmem item hitem hdescribes
    exact ⟨hspelled _ _ (Or.inl rfl), hspelled _ _ (Or.inr rfl)⟩
  · intro h
    refine ⟨edges.map (edgeFindings (byKey properties)), ?_, ?_⟩
    · rw [List.forall₂_map_right_iff, List.forall₂_same]
      exact fun edge hedge => linkReport (h edge hedge).1 (h edge hedge).2
    · rw [List.flatMap_def]

/-- A link between two switches as LLDP reports it. -/
def abbreviatedLink : Layer1Edge where
  node1Hostname := "sw1"
  node1Interface := "Gi1/0/1"
  node2Hostname := "sw2"
  node2Interface := "Gi1/0/2"

/-- Its two ports as their configurations describe them, in different VLANs. -/
def accessPorts : List InterfaceProperty :=
  [⟨"sw1", "GigabitEthernet1/0/1", some "ACCESS", some 10⟩,
    ⟨"sw2", "GigabitEthernet1/0/2", some "ACCESS", some 20⟩]

omit [UnicodeDatabase] in
/-- Both ends of the link are reported missing, and that their VLANs differ is not reported. -/
theorem not_reportsDrift_abbreviatedLink :
    letI := asciiDatabase
    ¬ ReportsDrift [abbreviatedLink] accessPorts
      (topologyDriftFindings [abbreviatedLink] accessPorts) := by
  let _ := asciiDatabase
  intro h
  have hnone : foundProperty accessPorts "sw1" "Gi1/0/1" = none := by decide
  have hmem : missingEnd "sw1" "Gi1/0/1" ∈
      topologyDriftFindings [abbreviatedLink] accessPorts :=
    List.mem_flatMap.mpr ⟨abbreviatedLink, List.mem_singleton_self _,
      missingEnd_mem_edgeFindings (Or.inl rfl) hnone⟩
  refine h.not_describes hmem _ List.mem_cons_self ⟨rfl, Or.inr ?_⟩
  exact ⟨⟨.gigabitEthernet, "1/0/1", by decide⟩, .full, .short, rfl, rfl⟩

end Terraformer.Analysis
