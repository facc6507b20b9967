import Terraformer.Drivers.Accepted

/-!
# The risk of a change

`classify_risk`, as `ChangeService.preview` calls it, is a rule about reach for the two routing
changes: a default route and a network statement that covers every address are high risk.  It
compares the text of the step for that, although validation accepts many texts for one prefix or
one statement.

`riskByReach_iff` says that the risk follows the reach exactly when these steps are spelled the
way the comparison expects.
-/

namespace Terraformer

open Text

/-- How far a change may reach. -/
inductive ChangeRisk where
  | low
  | high
  deriving DecidableEq, Repr

section

variable [UnicodeDatabase]

/-- `_static_route_risk`. -/
def staticRouteRisk (target : String) (previousValue : Option String) : ChangeRisk :=
  if strip target = "0.0.0.0/0" ∨ strip target = "0.0.0.0 0.0.0.0" then .high
  else if previousValue ≠ none then .high
  else .low

/-- `_router_network_risk`. -/
def routerNetworkRisk (desiredValue : String) (previousValue : Option String) : ChangeRisk :=
  if startswith (collapse desiredValue) "0.0.0.0 255.255.255.255" then .high
  else if previousValue = none then .high
  else .low

/-- `classify_risk`. -/
def classifyRisk (changeType : ChangeType) (currentAdminUp currentOperUp : Option Bool)
    (desiredValue target : String) (previousValue : Option String) : ChangeRisk :=
  if changeType = .interfaceAdminState ∧ desiredValue = "down" then .high
  else if changeType = .hostname then .low
  else if changeType = .domainLookup then .low
  else if changeType = .vlanName then .low
  else if changeType = .interfaceAccessVlan ∧ currentOperUp = some true then .high
  else if changeType = .interfaceTrunkVlans ∧ currentOperUp = some true then .high
  else if changeType = .staticRoute then staticRouteRisk target previousValue
  else if changeType = .routerNetwork then routerNetworkRisk desiredValue previousValue
  else if changeType = .routerNetworkRemove then .high
  else if changeType = .routerRipVersion then .high
  else if changeType = .bgpNeighbor then .high
  else if currentAdminUp = some true ∧ currentOperUp = some true then .high
  else .low

/-- `_previous_value`; nothing when it raises `ValueError`. -/
def previousValue (changeType : ChangeType) (target : String) (context : ChangeContext) :
    Option (Option String) :=
  match changeType with
  | .vlanName => (int target).map fun vlanId => (context.vlan vlanId).map VlanFacts.name
  | .interfaceAccessVlan => some ((context.accessVlanOf target).map fun vlan => str vlan.vlanId)
  | .interfaceTrunkVlans =>
    some ((context.switchportOf target).map fun port =>
      match port.trunkAllowed with
      | some allowed => if allowed ≠ "" then allowed else "ALL"
      | none => "ALL")
  | .staticRoute =>
    (prefixParts target).map fun parts =>
      (context.staticRoute parts.1 parts.2).map StaticRouteFacts.nextHop
  | .routerNetwork | .routerNetworkRemove | .bgpNeighbor =>
    some ((context.routingProcess target).map RoutingProcessFacts.name)
  | .routerRipVersion =>
    some ((context.routingProcess "rip").bind fun rip => rip.findStatement "version ")
  | .interfaceDescription => some (context.interface.bind InterfaceFacts.description)
  | .interfaceAdminState =>
    some (context.interface.map fun interface =>
      if interface.adminUp = some true then "up" else "down")
  | .hostname | .domainLookup =>
    some (context.interface.map fun interface =>
      if interface.adminUp = some true then "up" else "down")

/-- A step that is accepted against what was read of the device. -/
structure AcceptedStep where
  context : ChangeContext
  step : ChangeStepIntent
  valid : validateChange step context = []

/-- The old value that `preview` stores and judges the risk by. -/
def AcceptedStep.previous (a : AcceptedStep) : Option (Option String) :=
  previousValue a.step.changeType a.step.target a.context

/-- The risk that `preview` stores. -/
def AcceptedStep.risk (a : AcceptedStep) : Option ChangeRisk :=
  a.previous.map fun previous =>
    classifyRisk a.step.changeType (a.context.interface.bind InterfaceFacts.adminUp)
      (a.context.interface.bind InterfaceFacts.operUp) a.step.desiredValue a.step.target previous

/-! ## What a step reaches -/

/-- The number that a dotted address, or a plain number, denotes. -/
def addressNumber (text : String) : ℤ :=
  ((splitAt '.' text).map fun octet => (int octet).getD 0).foldl (fun n octet => n * 256 + octet) 0

/-- What a network statement denotes: the bits of its address that the wildcard does not cover,
the wildcard, and the area. -/
structure Statement where
  base : ℤ
  wildcard : Option ℤ
  area : Option ℤ
  deriving DecidableEq

/-- The statement covers every address: all bits are wild, or it is the network `0.0.0.0`. -/
def Statement.CoversAll (s : Statement) : Prop :=
  s.wildcard = some (2 ^ 32 - 1) ∨ s.wildcard = none ∧ s.base = 0

/-- The statement that a value denotes for a process, by the protocol of the process. -/
def statementOf (process value : String) : Option Statement :=
  match networkStatements.lookup (routingProtocolOf process) with
  | none => none
  | some pattern =>
    match pattern.match (collapse value), split value with
    | some _, [base] => some ⟨addressNumber base, none, none⟩
    | some _, base :: wildcard :: rest =>
      some ⟨Int.land (addressNumber base) (2 ^ 32 - 1 - addressNumber wildcard),
        some (addressNumber wildcard), rest[1]?.map addressNumber⟩
    | _, _ => none

/-- What a step denotes: the prefix of a route, or a network statement. -/
inductive Denotation where
  | route (destination mask : String)
  | network (statement : Statement)
  deriving DecidableEq

/-- What a step denotes, for the change types that denote a prefix or a statement. -/
def AcceptedStep.denotes (a : AcceptedStep) : Option Denotation :=
  match a.step.changeType with
  | .staticRoute => (prefixParts a.step.target).map fun parts => .route parts.1 parts.2
  | .routerNetwork | .routerNetworkRemove =>
    (statementOf a.step.target a.step.desiredValue).map .network
  | _ => none

/-- A default route, and a network statement that covers every address, are high risk. -/
structure HighWhenAll (a : AcceptedStep) : Prop where
  route : a.step.changeType = .staticRoute → a.denotes = some (.route "0.0.0.0" "0.0.0.0") →
    a.risk = some .high
  network : a.step.changeType = .routerNetwork → ∀ s, a.denotes = some (.network s) →
    s.CoversAll → a.risk = some .high

/-- The risk of two steps is decided by what they reach. -/
structure RiskByReach (a b : AcceptedStep) : Prop where
  left : HighWhenAll a
  right : HighWhenAll b
  same : a.step.changeType = b.step.changeType → a.denotes ≠ none → a.denotes = b.denotes →
    a.previous = b.previous → a.risk = b.risk

/-- The step is spelled as the comparison expects: a first default route as `0.0.0.0/0`, and a
statement that covers every address, in a process that runs, with the address `0.0.0.0` and the
wildcard `255.255.255.255` in front. -/
structure SpelledOut (a : AcceptedStep) : Prop where
  route : a.step.changeType = .staticRoute → a.denotes = some (.route "0.0.0.0" "0.0.0.0") →
    a.previous = some none → strip a.step.target = "0.0.0.0/0"
  network : a.step.changeType = .routerNetwork → ∀ s, a.denotes = some (.network s) →
    s.CoversAll → a.previous ≠ some none →
      startswith (collapse a.step.desiredValue) "0.0.0.0 255.255.255.255" = true

/-! ## Risk -/

variable {a b : AcceptedStep}

/-- The risk of a static route is judged by its prefix and the route before. -/
lemma risk_of_staticRoute (h : a.step.changeType = .staticRoute) :
    a.risk = a.previous.map (staticRouteRisk a.step.target) := by
  unfold AcceptedStep.risk classifyRisk
  simp [h]

/-- The risk of a network statement is judged by the process before. -/
lemma risk_of_routerNetwork (h : a.step.changeType = .routerNetwork) :
    a.risk = a.previous.map (routerNetworkRisk a.step.desiredValue) := by
  unfold AcceptedStep.risk classifyRisk
  simp [h]

/-- Taking out a network statement is of high risk. -/
lemma risk_of_routerNetworkRemove (h : a.step.changeType = .routerNetworkRemove) :
    a.risk = a.previous.map fun _ => .high := by
  unfold AcceptedStep.risk classifyRisk
  simp [h]

/-- The next hop that an accepted route replaces, if any. -/
lemma exists_previous_of_staticRoute (h : a.step.changeType = .staticRoute) :
    ∃ previous, a.previous = some previous ∧ strip a.step.target ≠ "0.0.0.0 0.0.0.0" := by
  have hvalid := a.valid
  rw [validateChange, h] at hvalid
  obtain ⟨-, destination, mask, hparts⟩ := staticRoute_of_validateStaticRoute hvalid
  refine ⟨_, by rw [AcceptedStep.previous, h, previousValue, hparts]; rfl, fun htarget => ?_⟩
  rw [prefixParts, htarget] at hparts
  exact absurd hparts (by rw [if_pos (by decide)]; exact Option.some_ne_none _ |>.symm)

/-- The previous value of a network statement is the name of its process. -/
lemma previous_of_routerNetwork (h : a.step.changeType = .routerNetwork) :
    a.previous = some ((a.context.routingProcess a.step.target).map RoutingProcessFacts.name) := by
  rw [AcceptedStep.previous, h, previousValue]

omit [UnicodeDatabase] in
/-- The expected spelling is one of the default prefix. -/
lemma prefixParts_of_strip {target : String} (h : strip target = "0.0.0.0/0") :
    prefixParts target = some ("0.0.0.0", "0.0.0.0") := by
  have hnetwork : Ipv4.network "0.0.0.0/0" = some (0, 0) := by decide
  have htext : Ipv4.text 0 = "0.0.0.0" := by decide
  rw [prefixParts, h, if_neg (by decide), hnetwork, Option.map_some, htext]

omit [UnicodeDatabase] in
/-- The first word of a joined text that begins with a word and a blank. -/
lemma eq_of_startswith_join {v base rest : String} {words : List String} (hv : IsWord v)
    (hbase : IsWord base) (h : startswith (join (base :: words)) (v ++ " " ++ rest) = true) :
    base = v ∧ words ≠ [] ∧ startswith (join words) rest = true := by
  have hblank : ∀ {w : String}, IsWord w → ∀ c ∈ w.toList, (c != ' ') = true := by
    intro w hw c hc
    rw [bne_iff_ne]
    rintro rfl
    exact absurd (hw.2 _ hc) (by decide)
  have hfront : ∀ {w : String} (t : List Char), IsWord w →
      (w.toList ++ ' ' :: t).takeWhile (· != ' ') = w.toList := by
    intro w t hw
    rw [List.takeWhile_append_of_pos (hblank hw)]
    simp
  rw [startswith, List.isPrefixOf_iff_prefix] at h
  obtain ⟨t, ht⟩ := h
  have ht' : v.toList ++ ' ' :: (rest.toList ++ t) = (join (base :: words)).toList := by
    rw [← ht]
    simp
  cases words with
  | nil =>
    rw [join_singleton] at ht'
    have hmem : ' ' ∈ base.toList := by
      rw [← ht']
      simp
    exact absurd (hbase.2 _ hmem) (by decide)
  | cons w words =>
    have hjoin : (join (base :: w :: words)).toList =
        base.toList ++ ' ' :: (join (w :: words)).toList := by
      rw [join_cons_cons]
      simp
    rw [hjoin] at ht'
    have hword : v.toList = base.toList := by
      rw [← hfront (rest.toList ++ t) hv, ht', hfront _ hbase]
    refine ⟨(String.toList_inj.mp hword).symm, List.cons_ne_nil _ _, ?_⟩
    rw [hword] at ht'
    have htail := List.append_cancel_left ht'
    rw [startswith, List.isPrefixOf_iff_prefix]
    exact ⟨t, (List.cons.inj htail).2⟩

omit [UnicodeDatabase] in
/-- A dotted address that begins with `255.255.255.255` is this one. -/
lemma eq_allOnes_of_startswith {w : String} {words : List String} (hw : IsDotted w)
    (h : startswith (join (w :: words)) "255.255.255.255" = true) : w = "255.255.255.255" := by
  obtain ⟨tail, htail, hjoin⟩ : ∃ tail : List Char, (tail = [] ∨ ∃ r, tail = ' ' :: r) ∧
      (join (w :: words)).toList = w.toList ++ tail := by
    cases words with
    | nil => exact ⟨[], .inl rfl, by rw [join_singleton, List.append_nil]⟩
    | cons v words =>
      exact ⟨' ' :: (join (v :: words)).toList, .inr ⟨_, rfl⟩, by rw [join_cons_cons]; simp⟩
  rw [startswith, List.isPrefixOf_iff_prefix, hjoin] at h
  have hfront : "255.255.255.255".toList <+: w.toList := by
    rcases List.prefix_or_prefix_of_prefix h (List.prefix_append w.toList tail) with hp | ⟨u, hu⟩
    · exact hp
    · rw [← hu, List.prefix_append_right_inj] at h
      have hnil : u = [] := by
        rcases htail with rfl | ⟨r, rfl⟩
        · exact List.prefix_nil.mp h
        · cases u with
          | nil => rfl
          | cons c u =>
            obtain rfl := (List.cons_prefix_cons.mp h).1
            have hmem : ' ' ∈ "255.255.255.255".toList := by
              rw [← hu]
              simp
            exact absurd hmem (by decide)
      rw [hnil, List.append_nil] at hu
      rw [hu]
  obtain ⟨t, ht⟩ := hfront
  obtain ⟨a, b, c, d, hsplit, hlength⟩ := hw.groups
  -- The first three groups are full, and the fourth has room for no more than three digits.
  have hgroups : w.toList.splitOn '.' =
      ['2', '5', '5'] :: ['2', '5', '5'] :: ['2', '5', '5'] ::
        (['2', '5', '5'] ++ t).splitOn '.' := by
    have hdot : '.' ∉ ['2', '5', '5'] := by decide
    rw [← ht, show "255.255.255.255".toList ++ t = ['2', '5', '5'] ++ '.' :: (['2', '5', '5'] ++
      '.' :: (['2', '5', '5'] ++ '.' :: (['2', '5', '5'] ++ t))) from rfl,
      List.splitOn_append_cons_self_of_not_mem hdot, List.splitOn_append_cons_self_of_not_mem hdot,
      List.splitOn_append_cons_self_of_not_mem hdot]
  rw [hsplit] at hgroups
  simp only [List.cons.injEq] at hgroups
  have hlast := hgroups.2.2.2
  have hd : d = ['2', '5', '5'] ++ t := by
    have hjoin : ['.'].intercalate ((['2', '5', '5'] ++ t).splitOn '.') = ['2', '5', '5'] ++ t :=
      List.intercalate_splitOn '.'
    rw [← hlast] at hjoin
    simpa using hjoin
  have h3 := hlength d (by simp)
  have ht0 : t = [] := by
    rw [hd, List.length_append] at h3
    exact List.eq_nil_of_length_eq_zero (by simpa using h3)
  rw [ht0, List.append_nil] at ht
  exact (String.toList_inj.mp ht).symm

/-- The number of the wildcard that leaves every bit open. -/
lemma addressNumber_allOnes : addressNumber "255.255.255.255" = 2 ^ 32 - 1 := by
  have hint : int "255" = some 255 := int_of_numeral (n := 255) (by decide) (by decide)
  have hsplit : splitAt '.' "255.255.255.255" = ["255", "255", "255", "255"] := by decide
  rw [addressNumber, hsplit]
  simp [hint]

/-- What begins as the comparison expects covers every address. -/
lemma coversAll_of_startswith {process value : String} {s : Statement}
    (hs : statementOf process value = some s)
    (hstart : startswith (collapse value) "0.0.0.0 255.255.255.255" = true) : s.CoversAll := by
  unfold statementOf at hs
  cases hpattern : networkStatements.lookup (routingProtocolOf process) with
  | none => simp [hpattern] at hs
  | some pattern =>
    cases hmatch : pattern.match (collapse value) with
    | none => simp [hpattern, hmatch] at hs
    | some g =>
      have hbegins : ∀ {base words}, IsWord base →
          startswith (join (base :: words)) "0.0.0.0 255.255.255.255" = true →
          base = "0.0.0.0" ∧ words ≠ [] ∧ startswith (join words) "255.255.255.255" = true :=
        fun hbase h => eq_of_startswith_join (by decide) hbase h
      obtain ⟨base, hbase, hwords | ⟨wildcard, rest, hwildcard, hwords⟩⟩ :=
        words_of_networkStatement hpattern hmatch
      · rw [collapse, hwords] at hstart
        exact absurd rfl (hbegins hbase.word hstart).2.1
      · rw [collapse, hwords] at hstart
        have hrest := (hbegins hbase.word hstart).2.2
        obtain rfl := eq_allOnes_of_startswith hwildcard hrest
        simp only [hpattern, hmatch, hwords, Option.some.injEq] at hs
        rw [← hs]
        exact .inl (congrArg some addressNumber_allOnes)

/-! ## The exact condition -/

/-- A step that covers everything is high risk exactly when it is spelled out. -/
lemma highWhenAll_iff : HighWhenAll a ↔ SpelledOut a := by
  constructor
  · rintro ⟨hroute, hnetwork⟩
    refine ⟨fun htype hdefault hprevious => ?_, fun htype s hs hall hprevious => ?_⟩
    · have hrisk := hroute htype hdefault
      rw [risk_of_staticRoute htype, hprevious, Option.map_some, Option.some.injEq,
        staticRouteRisk] at hrisk
      obtain ⟨-, -, hother⟩ := exists_previous_of_staticRoute htype
      by_contra hspelled
      simp [hspelled, hother] at hrisk
    · have hrisk := hnetwork htype s hs hall
      rw [risk_of_routerNetwork htype] at hrisk
      obtain ⟨previous, hsome, hrisk⟩ := Option.map_eq_some_iff.mp hrisk
      rw [hsome] at hprevious
      rw [routerNetworkRisk] at hrisk
      by_contra hspelled
      have hne : previous ≠ none := fun h => hprevious (by rw [h])
      simp [hspelled, hne] at hrisk
  · rintro ⟨hroute, hnetwork⟩
    refine ⟨fun htype hdefault => ?_, fun htype s hs hall => ?_⟩
    · obtain ⟨previous, hsome, -⟩ := exists_previous_of_staticRoute htype
      rw [risk_of_staticRoute htype, hsome, Option.map_some, staticRouteRisk]
      cases previous with
      | none => rw [if_pos (.inl (hroute htype hdefault hsome))]
      | some nextHop => simp
    · have hsome := previous_of_routerNetwork htype
      rw [risk_of_routerNetwork htype, hsome, Option.map_some, routerNetworkRisk]
      cases hprocess : a.context.routingProcess a.step.target with
      | none => simp
      | some facts =>
        have hne : a.previous ≠ some none := by
          rw [hsome, hprocess]
          simp
        rw [if_pos (hnetwork htype s hs hall hne)]

/-- Two spelled out routes of one prefix, or statements that cover the same, are one risk. -/
lemma risk_eq_of_spelledOut (ha : SpelledOut a) (hb : SpelledOut b)
    (htype : a.step.changeType = b.step.changeType) (hne : a.denotes ≠ none)
    (hdenotes : a.denotes = b.denotes) (hprevious : a.previous = b.previous) :
    a.risk = b.risk := by
  cases ht : a.step.changeType with
  | staticRoute =>
    have ht' : b.step.changeType = .staticRoute := htype ▸ ht
    obtain ⟨previous, hsome, hother⟩ := exists_previous_of_staticRoute ht
    obtain ⟨-, -, hother'⟩ := exists_previous_of_staticRoute ht'
    rw [risk_of_staticRoute ht, risk_of_staticRoute ht', ← hprevious, hsome, Option.map_some,
      Option.map_some]
    cases previous with
    | some nextHop => simp [staticRouteRisk]
    | none =>
      -- A spelled out default route is one by its prefix, and the prefixes agree.
      have hspelled : ∀ {c : AcceptedStep}, c.step.changeType = .staticRoute →
          strip c.step.target = "0.0.0.0/0" →
            c.denotes = some (.route "0.0.0.0" "0.0.0.0") := by
        intro c hc htarget
        rw [AcceptedStep.denotes, hc]
        simp only [prefixParts_of_strip htarget, Option.map_some]
      have hiff : strip a.step.target = "0.0.0.0/0" ↔ strip b.step.target = "0.0.0.0/0" :=
        ⟨fun h => hb.route ht' (hdenotes ▸ hspelled ht h) (hprevious ▸ hsome),
          fun h => ha.route ht (hdenotes ▸ hspelled ht' h) hsome⟩
      simp [staticRouteRisk, hiff, hother, hother']
  | routerNetwork =>
    have ht' : b.step.changeType = .routerNetwork := htype ▸ ht
    rw [risk_of_routerNetwork ht, risk_of_routerNetwork ht', ← hprevious]
    by_cases hnone : a.previous = some none
    · simp [hnone, routerNetworkRisk]
    · have hstatement : ∀ {c : AcceptedStep}, c.step.changeType = .routerNetwork →
          c.denotes = (statementOf c.step.target c.step.desiredValue).map .network := by
        intro c hc
        rw [AcceptedStep.denotes, hc]
      rw [hstatement ht] at hne
      obtain ⟨s, hs⟩ := Option.ne_none_iff_exists'.mp (Option.map_eq_none_iff.not.mp hne)
      have hs' : b.denotes = some (.network s) := by
        rw [← hdenotes, hstatement ht, hs]
        rfl
      have hsb : statementOf b.step.target b.step.desiredValue = some s := by
        rw [hstatement ht'] at hs'
        obtain ⟨s', hs', heq⟩ := Option.map_eq_some_iff.mp hs'
        cases heq
        exact hs'
      have hiff : startswith (collapse a.step.desiredValue) "0.0.0.0 255.255.255.255" = true ↔
          startswith (collapse b.step.desiredValue) "0.0.0.0 255.255.255.255" = true :=
        ⟨fun h => hb.network ht' s hs' (coversAll_of_startswith hs h) (hprevious ▸ hnone),
          fun h => ha.network ht s (hdenotes ▸ hs') (coversAll_of_startswith hsb h) hnone⟩
      cases hprev : a.previous with
      | none => rfl
      | some previous => simp [routerNetworkRisk, hiff]
  | routerNetworkRemove =>
    have ht' : b.step.changeType = .routerNetworkRemove := htype ▸ ht
    rw [risk_of_routerNetworkRemove ht, risk_of_routerNetworkRemove ht', hprevious]
  | interfaceDescription | interfaceAdminState | vlanName | interfaceAccessVlan
  | interfaceTrunkVlans | routerRipVersion | bgpNeighbor | hostname | domainLookup =>
    exact absurd (by rw [AcceptedStep.denotes, ht]) hne

/-- The risk of two accepted steps is decided by their reach exactly when both are spelled
out. -/
theorem riskByReach_iff (a b : AcceptedStep) : RiskByReach a b ↔ SpelledOut a ∧ SpelledOut b := by
  constructor
  · rintro ⟨ha, hb, -⟩
    exact ⟨highWhenAll_iff.mp ha, highWhenAll_iff.mp hb⟩
  · rintro ⟨ha, hb⟩
    exact ⟨highWhenAll_iff.mpr ha, highWhenAll_iff.mpr hb, risk_eq_of_spelledOut ha hb⟩

end

/-- A first default route, its length written with two digits. -/
def paddedDefaultRoute : @AcceptedStep asciiDatabase :=
  letI := asciiDatabase
  { context := {}
    step := ⟨.staticRoute, "0.0.0.0/00", "192.0.2.1"⟩
    valid := by decide +kernel }

/-- A padded default route is low risk. -/
theorem not_riskByReach_paddedDefaultRoute :
    letI := asciiDatabase
    ¬ RiskByReach paddedDefaultRoute paddedDefaultRoute := by
  let _ := asciiDatabase
  intro h
  exact absurd (h.left.route rfl (by decide +kernel)) (by decide +kernel)

end Terraformer
