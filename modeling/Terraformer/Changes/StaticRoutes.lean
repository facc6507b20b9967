import Mathlib
import Terraformer.Device.Components
import Terraformer.Device.Reports

/-!
# Undoing a static route

A change of a static route withdraws the line the driver found for the prefix and adds the
desired one; its inverse withdraws the desired line and puts the found one back.  The change
touches no other prefix, and leaves the desired route in place.  It is undone unless the
device already held the desired route as an alternative to the line found, for then the
inverse takes that alternative away (`reverts_staticRoute_iff`).
-/

namespace Terraformer

open Text Compensation Device

section

variable {Port : Type*} [DecidableEq Port] [UnicodeDatabase] {naming : Naming Port}
  {c : Config Port}

/-! ## Replacing a route -/

/-- A new route is undone by withdrawing it. -/
lemma reverts_addRoute {key : RouteKey} {options : List String} {add withdraw : String}
    (hadd : ∀ s, executeLine naming s add =
      some ⟨s.config.setRoute key (some options), .global⟩)
    (hwithdraw : ∀ s, executeLine naming s withdraw =
      some ⟨s.config.setRoute key none, .global⟩)
    (hkey : c.routes key = none) : Reverts naming c ⟨[add], [withdraw]⟩ := by
  refine undoes_of_frame (fun s => ∃ o, s.config = c.setRoute key o) ?_ ?_ ?_
  · exact ⟨none, by rw [← hkey, Config.setRoute_self]⟩
  · rintro line hline s t ⟨o, ho⟩ hexec
    obtain rfl := List.mem_singleton.mp hline
    rw [hadd, ho, Config.setRoute_setRoute] at hexec
    cases hexec
    exact ⟨_, rfl⟩
  · rintro s ⟨o, ho⟩
    rw [send, execute_cons_of_some (hwithdraw _), execute_nil, ho, Config.setRoute_setRoute,
      ← hkey, Config.setRoute_self]

/-- Replacing a route is undone by the reverse replacement exactly when the new route is the
old one, or was not there before. -/
lemma reverts_replaceRoute_iff {old new : RouteKey} {options newOptions : List String}
    {add withdraw restore remove : String}
    (hwithdraw : ∀ s, executeLine naming s withdraw =
      some ⟨s.config.setRoute old none, .global⟩)
    (hadd : ∀ s, executeLine naming s add =
      some ⟨s.config.setRoute new (some newOptions), .global⟩)
    (hremove : ∀ s, executeLine naming s remove =
      some ⟨s.config.setRoute new none, .global⟩)
    (hrestore : ∀ s, executeLine naming s restore =
      some ⟨s.config.setRoute old (some options), .global⟩)
    (hold : c.routes old = some options) :
    Reverts naming c ⟨[withdraw, add], [remove, restore]⟩ ↔ old = new ∨ c.routes new = none := by
  have hinverse : ∀ d : Config Port, send (fun c => ⟨c, .global⟩) Session.config
      (executeLine naming) d [remove, restore] =
        (d.setRoute new none).setRoute old (some options) := by
    intro d
    rw [send, execute_cons_of_some (hremove _), execute_cons_of_some (hrestore _), execute_nil]
  have hself : c.setRoute old (some options) = c := by rw [← hold, Config.setRoute_self]
  rw [Reverts, undoes_iff_le]
  simp only [hinverse]
  constructor
  · intro h
    by_cases hne : old = new
    · exact Or.inl hne
    · -- stopped before the first command, the inverse still removes the desired route
      have h0 := congrArg (fun d : Config Port => d.routes new) (h 0 (Nat.zero_le _))
      right
      rw [← h0]
      simp [send, Config.setRoute, Function.update_of_ne (Ne.symm hne)]
  · intro h k hk
    simp only [List.length_cons, List.length_nil] at hk
    rcases h with rfl | hnew
    · interval_cases k <;>
        simp [send, execute_cons_of_some (hwithdraw _), execute_cons_of_some (hadd _), hself]
    · have hrestored : ∀ o, (((c.setRoute old none).setRoute new o).setRoute new none).setRoute old
          (some options) = c := by
        intro o
        rw [Config.setRoute_setRoute]
        by_cases hne : old = new
        · rw [hne, hnew] at hold
          cases hold
        · rw [Config.setRoute_comm _ hne, ← hnew, Config.setRoute_self, Config.setRoute_setRoute,
            hself]
      have hnone : c.setRoute new none = c := by rw [← hnew, Config.setRoute_self]
      interval_cases k
      · simp [send, hnone, hself]
      · have := hrestored none
        rw [Config.setRoute_setRoute] at this
        simpa [send, execute_cons_of_some (hwithdraw _)] using this
      · simpa [send, execute_cons_of_some (hwithdraw _), execute_cons_of_some (hadd _)] using
          hrestored (some newOptions)

/-! ## The change -/

/-- The configuration after a route change: the routes of every other prefix are as they were,
and the prefix has the desired route. -/
def RoutesOnlyPrefix (before after : Config Port) (step : ChangeStepIntent) : Prop :=
  ∀ destination mask : Ipv4, prefixParts step.target = some (destination.text, mask.text) →
    (∀ key, ¬(key.destination = destination ∧ key.mask = mask) →
      after.routes key = before.routes key) ∧
    after.routes ⟨destination, mask, strip step.desiredValue⟩ ≠ none

/-- What an undone route change needs: a line found for the prefix is the desired route, or the
desired route was not configured. -/
def StaticRouteReverts (c : Config Port) (step : ChangeStepIntent) (context : ChangeContext) :
    Prop :=
  ∀ (destination mask : Ipv4) (existing : StaticRouteFacts),
    prefixParts step.target = some (destination.text, mask.text) →
    context.staticRoute destination.text mask.text = some existing →
      existing.nextHop = strip step.desiredValue ∨
        c.routes ⟨destination, mask, strip step.desiredValue⟩ = none

omit [DecidableEq Port] [UnicodeDatabase] in
/-- A change of one route of the prefix touches the prefix only. -/
lemma routesOnlyPrefix_of_update {after : Config Port} {step : ChangeStepIntent}
    {destination mask : Ipv4}
    (hparts : prefixParts step.target = some (destination.text, mask.text))
    (hother : ∀ key, ¬(key.destination = destination ∧ key.mask = mask) →
      after.routes key = c.routes key)
    (hroute : after.routes ⟨destination, mask, strip step.desiredValue⟩ ≠ none) :
    RoutesOnlyPrefix c after step := by
  intro d m hdm
  rw [hparts, Option.some.injEq, Prod.mk.injEq] at hdm
  obtain rfl := Ipv4.text_injective hdm.1
  obtain rfl := Ipv4.text_injective hdm.2
  exact ⟨hother, hroute⟩

/-- An accepted route change adds the desired route, behind the withdrawal of the line that the
driver found for the prefix if there is one; its inverse goes the other way. -/
lemma staticRoute_cases {step : ChangeStepIntent} {context : ChangeContext}
    {rendered : RenderedChange} (naming : Naming Port) (hc : c.RoutesWellFormed)
    (hctx : ∀ destination mask, context.staticRoute destination mask ≠ none →
      ReportsRoutes c context) (hv : validateStaticRoute step = [])
    (hr : renderStaticRoute step context = .ok rendered) :
    ∃ (destination mask : Ipv4) (add remove : String),
      prefixParts step.target = some (destination.text, mask.text) ∧
      (∀ s, executeLine naming s add = some
        ⟨s.config.setRoute ⟨destination, mask, strip step.desiredValue⟩ (some []), .global⟩) ∧
      (∀ s, executeLine naming s remove = some
        ⟨s.config.setRoute ⟨destination, mask, strip step.desiredValue⟩ none, .global⟩) ∧
      (context.staticRoute destination.text mask.text = none ∧ rendered = ⟨[add], [remove]⟩ ∨
        ∃ nextHop options withdraw restore,
          c.routes ⟨destination, mask, nextHop⟩ = some options ∧
          context.staticRoute destination.text mask.text =
            some (routeFacts (⟨destination, mask, nextHop⟩, options)) ∧
          (∀ s, executeLine naming s withdraw = some
            ⟨s.config.setRoute ⟨destination, mask, nextHop⟩ none, .global⟩) ∧
          (∀ s, executeLine naming s restore = some
            ⟨s.config.setRoute ⟨destination, mask, nextHop⟩ (some options), .global⟩) ∧
          rendered = ⟨[withdraw, add], [remove, restore]⟩) := by
  obtain ⟨hhop, destination, mask, hparts⟩ := staticRoute_of_validateStaticRoute hv
  -- the value as it is interpolated is the desired next hop without options
  have hsplit : split step.desiredValue = [strip step.desiredValue] := by
    rw [← split_strip, split_eq_singleton hhop]
  refine ⟨destination, mask, _, _, hparts,
    fun s => executeLine_route destination mask naming s hsplit,
    fun s => executeLine_noRoute destination mask naming s hsplit, ?_⟩
  unfold renderStaticRoute at hr
  simp only [hparts] at hr
  cases hfound : context.staticRoute destination.text mask.text with
  | none =>
    simp only [hfound, Except.ok.injEq] at hr
    exact Or.inl ⟨rfl, hr.symm⟩
  | some existing =>
    simp only [hfound, Except.ok.injEq] at hr
    have hreports := hctx destination.text mask.text (by simp [hfound])
    obtain ⟨nextHop, options, hroute, rfl⟩ := hreports.staticRoute hc hfound
    obtain ⟨hnext, hoptions⟩ := hc _ _ hroute
    have hline : (routeFacts (⟨destination, mask, nextHop⟩, options)).asCommand =
        "ip route " ++ destination.text ++ " " ++ mask.text ++ " " ++
          join (nextHop :: options) := by
      rw [asCommand_routeFacts hnext hoptions, routeLine, routeText_eq_append]
    have hwords : split (join (nextHop :: options)) = nextHop :: options :=
      split_join fun w hw => (List.mem_cons.mp hw).elim (· ▸ hnext) (hoptions w)
    rw [hline] at hr
    exact Or.inr ⟨nextHop, options, _, _, hroute, rfl,
      fun s => executeLine_noRoute destination mask naming s hwords,
      fun s => executeLine_route destination mask naming s hwords, hr.symm⟩

/-- The inverse of an accepted route change undoes it exactly when a line found for the prefix is
the desired route or the desired route was not configured. -/
lemma reverts_routeChange_iff {step : ChangeStepIntent} {context : ChangeContext}
    {rendered : RenderedChange} (hc : c.RoutesWellFormed) (hctx : ReportsRoutes c context)
    (hv : validateStaticRoute step = []) (hr : renderStaticRoute step context = .ok rendered) :
    Reverts naming c rendered ↔ StaticRouteReverts c step context := by
  obtain ⟨destination, mask, add, remove, hparts, hadd, hremove, ⟨hfound, rfl⟩ |
    ⟨nextHop, options, withdraw, restore, hroute, hfound, hwithdraw, hrestore, rfl⟩⟩ :=
      staticRoute_cases naming hc (fun _ _ _ => hctx) hv hr
  · refine iff_of_true (reverts_addRoute hadd hremove (hctx.staticRoute_none hc hfound _)) ?_
    intro d m existing hdm hexisting
    rw [hparts, Option.some.injEq, Prod.mk.injEq] at hdm
    rw [← hdm.1, ← hdm.2, hfound] at hexisting
    cases hexisting
  · rw [reverts_replaceRoute_iff hwithdraw hadd hremove hrestore hroute]
    constructor
    · intro h d m existing hdm hexisting
      rw [hparts, Option.some.injEq, Prod.mk.injEq] at hdm
      obtain rfl := Ipv4.text_injective hdm.1
      obtain rfl := Ipv4.text_injective hdm.2
      rw [hfound, Option.some.injEq] at hexisting
      subst hexisting
      exact h.imp_left fun hkey => congrArg RouteKey.nextHop hkey
    · intro h
      exact (h destination mask _ hparts hfound).imp_left fun hhops => by rw [← hhops]; rfl

/-- An accepted route change touches its own prefix only, and leaves the desired route in place. -/
lemma routesOnlyPrefix_routeChange {step : ChangeStepIntent} {context : ChangeContext}
    {rendered : RenderedChange} (hc : c.RoutesWellFormed) (hctx : ReportsRoutes c context)
    (hv : validateStaticRoute step = []) (hr : renderStaticRoute step context = .ok rendered) :
    RoutesOnlyPrefix c (sendConfig naming c rendered.commands) step := by
  obtain ⟨destination, mask, add, remove, hparts, hadd, -, ⟨-, rfl⟩ |
    ⟨nextHop, options, withdraw, restore, -, -, hwithdraw, -, rfl⟩⟩ :=
      staticRoute_cases naming hc (fun _ _ _ => hctx) hv hr
  · rw [sendConfig, send, execute_cons_of_some (hadd _), execute_nil]
    refine routesOnlyPrefix_of_update hparts (fun key hkey => ?_) (by simp)
    refine Function.update_of_ne ?_ _ _
    rintro rfl
    exact hkey ⟨rfl, rfl⟩
  · rw [sendConfig, send, execute_cons_of_some (hwithdraw _), execute_cons_of_some (hadd _),
      execute_nil]
    refine routesOnlyPrefix_of_update hparts (fun key hkey => ?_) (by simp)
    have hne : ∀ hop, key ≠ ⟨destination, mask, hop⟩ := by
      rintro hop rfl
      exact hkey ⟨rfl, rfl⟩
    simp [Config.setRoute, Function.update_of_ne (hne _)]

/-- The inverse of an accepted route change undoes it, whole or partial, and the change touches
its own prefix only, exactly when a line found for the prefix is the desired route or the
desired route was not configured. -/
theorem reverts_staticRoute_iff {step : ChangeStepIntent} {context : ChangeContext}
    {rendered : RenderedChange} (htype : step.changeType = .staticRoute)
    (hc : c.RoutesWellFormed) (hctx : ReportsRoutes c context)
    (hv : validateChange step context = []) (hr : renderChange step context = .ok rendered) :
    (Reverts naming c rendered ∧
      RoutesOnlyPrefix c (sendConfig naming c rendered.commands) step) ↔
        StaticRouteReverts c step context := by
  simp only [validateChange, htype] at hv
  simp only [renderChange, htype] at hr
  rw [and_iff_left (routesOnlyPrefix_routeChange hc hctx hv hr)]
  exact reverts_routeChange_iff hc hctx hv hr

end

/-! ## A sample router -/

/-- A router that reaches `10.0.0.0/8` over the given next hops, with a distance each. -/
@[reducible] def sampleRouter (nextHops : List String) : Config Unit where
  hostname := "R1"
  domainLookup := true
  ports _ := ⟨none, false, .staticAccess, 1, .dot1q, allVlans⟩
  vlans _ := none
  routes key :=
    if key.destination = 0x0A000000 ∧ key.mask = 0xFF000000 ∧ key.nextHop ∈ nextHops then
      some ["250"]
    else none
  processes _ := none

/-- The static routes of the sample router, as parsed. -/
@[reducible] def sampleRoutes (nextHops : List String) : ChangeContext where
  staticRoutes := nextHops.map fun hop => routeFacts (⟨0x0A000000, 0xFF000000, hop⟩, ["250"])

/-- The sample router is well formed. -/
lemma sampleRouter_wellFormed {nextHops : List String} (h : ∀ hop ∈ nextHops, IsWord hop) :
    (sampleRouter nextHops).RoutesWellFormed := by
  intro key options hkey
  simp only at hkey
  split at hkey
  · rename_i hroute
    cases hkey
    refine ⟨h _ hroute.2.2, fun w hw => ?_⟩
    obtain rfl := List.mem_singleton.mp hw
    decide
  · cases hkey

/-- The context reports the sample router. -/
lemma sampleRouter_reports {nextHops : List String} (h : ∀ hop ∈ nextHops, IsWord hop) :
    letI := asciiDatabase
    ReportsRoutes (sampleRouter nextHops) (sampleRoutes nextHops) := by
  let _ := asciiDatabase
  refine ⟨nextHops.map fun hop => (⟨0x0A000000, 0xFF000000, hop⟩, ["250"]), ?_, ?_⟩
  · rintro ⟨d, m, nextHop⟩ options
    simp only [List.mem_map, Prod.mk.injEq, RouteKey.mk.injEq]
    constructor
    · rintro ⟨hop, hhop, ⟨rfl, rfl, rfl⟩, rfl⟩
      simp [hhop]
    · intro hroute
      split at hroute
      · rename_i hkey
        cases hroute
        exact ⟨nextHop, hkey.2.2, ⟨hkey.1.symm, hkey.2.1.symm, rfl⟩, rfl⟩
      · cases hroute
  · rw [parseStaticRoutes_joinLines]
    · simp
    · intro route hroute
      obtain ⟨hop, hhop, rfl⟩ := List.mem_map.mp hroute
      refine ⟨h hop hhop, fun w hw => ?_⟩
      obtain rfl := List.mem_singleton.mp hw
      decide

/-- Replacing the only route of a prefix. -/
@[reducible] def replaceOnlyRoute : @AcceptedChange asciiDatabase (sampleRoutes ["192.0.2.1"]) :=
  letI := asciiDatabase
  ⟨⟨.staticRoute, "10.0.0.0/8", "192.0.2.2"⟩,
    ⟨["no ip route 10.0.0.0 255.0.0.0 192.0.2.1 250", "ip route 10.0.0.0 255.0.0.0 192.0.2.2"],
      ["no ip route 10.0.0.0 255.0.0.0 192.0.2.2",
        "ip route 10.0.0.0 255.0.0.0 192.0.2.1 250"]⟩,
    by decide +kernel, by decide +kernel⟩

/-- Replacing the first of two routes of a prefix by the second. -/
@[reducible] def replaceFirstRoute :
    @AcceptedChange asciiDatabase (sampleRoutes ["192.0.2.1", "192.0.2.2"]) :=
  letI := asciiDatabase
  ⟨⟨.staticRoute, "10.0.0.0/8", "192.0.2.2"⟩,
    ⟨["no ip route 10.0.0.0 255.0.0.0 192.0.2.1 250", "ip route 10.0.0.0 255.0.0.0 192.0.2.2"],
      ["no ip route 10.0.0.0 255.0.0.0 192.0.2.2",
        "ip route 10.0.0.0 255.0.0.0 192.0.2.1 250"]⟩,
    by decide +kernel, by decide +kernel⟩

/-- Replacing the only route of a prefix is undone, its distance included, and touches no other
prefix. -/
theorem reverts_replaced_route :
    letI := asciiDatabase
    Reverts sampleNaming (sampleRouter ["192.0.2.1"])
        ⟨["no ip route 10.0.0.0 255.0.0.0 192.0.2.1 250", "ip route 10.0.0.0 255.0.0.0 192.0.2.2"],
          ["no ip route 10.0.0.0 255.0.0.0 192.0.2.2",
            "ip route 10.0.0.0 255.0.0.0 192.0.2.1 250"]⟩ ∧
      RoutesOnlyPrefix (sampleRouter ["192.0.2.1"])
        (sendConfig sampleNaming (sampleRouter ["192.0.2.1"])
          ["no ip route 10.0.0.0 255.0.0.0 192.0.2.1 250",
            "ip route 10.0.0.0 255.0.0.0 192.0.2.2"])
        ⟨.staticRoute, "10.0.0.0/8", "192.0.2.2"⟩ := by
  let _ := asciiDatabase
  have hhops : ∀ hop ∈ ["192.0.2.1"], IsWord hop := by decide
  refine (reverts_staticRoute_iff (by rfl) (sampleRouter_wellFormed hhops)
    (sampleRouter_reports hhops) replaceOnlyRoute.valid replaceOnlyRoute.renders).mpr ?_
  intro destination mask existing _ _
  right
  have hdesired : strip "192.0.2.2" = "192.0.2.2" := strip_eq_self (by decide)
  simp [hdesired]

/-- With two next hops for a prefix, a change to the second one is accepted, and undoing it
takes the second one away. -/
theorem not_reverts_second_next_hop :
    letI := asciiDatabase
    let step : ChangeStepIntent := ⟨.staticRoute, "10.0.0.0/8", "192.0.2.2"⟩
    let nextHops := ["192.0.2.1", "192.0.2.2"]
    (sampleRouter nextHops).RoutesWellFormed ∧
      ReportsRoutes (sampleRouter nextHops) (sampleRoutes nextHops) ∧
      validateChange step (sampleRoutes nextHops) = [] ∧
      ∃ rendered, renderChange step (sampleRoutes nextHops) = .ok rendered ∧
        ¬Reverts sampleNaming (sampleRouter nextHops) rendered := by
  let _ := asciiDatabase
  have hhops : ∀ hop ∈ ["192.0.2.1", "192.0.2.2"], IsWord hop := by decide
  refine ⟨sampleRouter_wellFormed hhops, sampleRouter_reports hhops, replaceFirstRoute.valid, _,
    replaceFirstRoute.renders, ?_⟩
  intro h
  have hall := congrArg
    (fun d : Config Unit => d.routes ⟨0x0A000000, 0xFF000000, "192.0.2.2"⟩) h.all
  revert hall
  decide +kernel

end Terraformer
