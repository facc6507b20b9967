import Terraformer.Admission.Gate

/-!
# The limits of the connection gate

A permit is live from its admission until it is released or has expired.  `LimitsHold` says that
the live permits keep the limits and that each of the gate's active sets counts the live permits
it should; `along_keepsLimits` says so of every world that clients can reach, in any order of their
steps, with what a release and a denied acquire leave as it was.

`Counted` is the invariant behind it: the permits that are held, in the log, and what the store
holds of them agree.
-/

namespace Terraformer.Admission

open Expiring Optimistic

/-- The gate's clients and what they share. -/
abbrev GateWorld (C : Type) :=
  World TextKey SetKey GateText Uuid (Except AppError Unit) GateRequest GateOrder C

/-- What a client of the gate, or the time, may do next. -/
abbrev GateAction (C : Type) := Action GateRequest GateOrder C

/-! ## Permits -/

/-- A permit that was admitted, with the time its admission was told. -/
def admissionOf : Event GateRequest GateOrder → Option (ConnectionPermit × ℤ)
  | .committed (.acquire permit) time _ => some (permit, time)
  | _ => none

/-- A permit that was released. -/
def releaseOf : Event GateRequest GateOrder → Option ConnectionPermit
  | .committed (.release permit) _ _ => some permit
  | _ => none

/-- The permits that were granted, with the time of each. -/
def admitted (core : GateCore) : List (ConnectionPermit × ℤ) := core.log.filterMap admissionOf

/-- The permits that were given back. -/
def released (core : GateCore) : List ConnectionPermit := core.log.filterMap releaseOf

/-- The permits that were admitted and are not released. -/
def held (core : GateCore) : List (ConnectionPermit × ℤ) :=
  (admitted core).filter fun entry => entry.1 ∉ released core

variable (settings : GateSettings)

/-- When a permit that was admitted expires. -/
def expiry (entry : ConnectionPermit × ℤ) : ℤ := entry.2 + settings.permitTtl

/-- The permits that are held and have not expired. -/
def live (core : GateCore) : List (ConnectionPermit × ℤ) :=
  (held core).filter fun entry => core.clock < expiry settings entry

/-- How many permits a set may count. -/
def limitOf : SetKey → ℕ
  | .globalActive => settings.maxDeviceConnections
  | .deviceActive _ => settings.maxConnectionsPerDevice
  | .terminalActive => settings.maxTerminalSessions
  | .terminalDeviceActive _ => settings.maxTerminalSessionsPerDevice
  | .connectionTestRate _ | .terminalRate _ | .authenticationFailures _ => 0

/-- The live permits that a set counts. -/
def counted (core : GateCore) (key : SetKey) : List (ConnectionPermit × ℤ) :=
  (live settings core).filter fun entry => key ∈ activeKeys entry.1

/-- The live permits for a device. -/
def forDevice (deviceId : Uuid) (entries : List (ConnectionPermit × ℤ)) :
    List (ConnectionPermit × ℤ) :=
  entries.filter fun entry => entry.1.target.deviceId = some deviceId

/-- The live permits of terminal sessions. -/
def ofTerminals (entries : List (ConnectionPermit × ℤ)) : List (ConnectionPermit × ℤ) :=
  entries.filter fun entry => entry.1.operation = .terminal

/-- The live permits keep the limits, and the active sets count them. -/
structure LimitsHold (core : GateCore) : Prop where
  overall : (live settings core).length ≤ settings.maxDeviceConnections
  device : ∀ deviceId,
    (forDevice deviceId (live settings core)).length ≤ settings.maxConnectionsPerDevice
  terminal : (ofTerminals (live settings core)).length ≤ settings.maxTerminalSessions
  terminalDevice : ∀ deviceId, (ofTerminals (forDevice deviceId (live settings core))).length ≤
    settings.maxTerminalSessionsPerDevice
  /-- A member that has not expired is a live permit that the set counts, and conversely. -/
  members : ∀ key, key.isActive = true → ∀ identifier score, core.clock < score →
    ((identifier, score) ∈ core.store.members key ↔
      ∃ entry ∈ live settings core, key ∈ activeKeys entry.1 ∧
        entry.1.identifier = identifier ∧ expiry settings entry = score)

/-! ## The invariant -/

/-- The permits that are held and the store agree. -/
structure Counted (core : GateCore) : Prop where
  identifiers : ((held core).map fun entry => entry.1.identifier).Nodup
  drawn : ∀ entry ∈ admitted core, entry.1.identifier ∈ core.drawn (gate settings)
  released : ∀ permit ∈ released core, ∃ entry ∈ admitted core, entry.1 = permit
  time_le : ∀ entry ∈ held core, entry.2 ≤ core.clock
  /-- The key of a live permit holds its fingerprint. -/
  stored : ∀ entry ∈ held core, core.clock < expiry settings entry →
    ∃ time, core.store.texts (.permit entry.1.identifier) =
      ⟨some (permitFingerprint entry.1), some time⟩ ∧ expiry settings entry ≤ time
  /-- A stored fingerprint is that of a permit that is held. -/
  known : ∀ identifier text, core.store.get (.permit identifier) = some text →
    ∃ entry ∈ held core, entry.1.identifier = identifier ∧ permitFingerprint entry.1 = text
  /-- A member of an active set is a permit that is held, and that the set counts. -/
  member : ∀ key, key.isActive = true → ∀ member ∈ core.store.members key,
    ∃ entry ∈ held core, key ∈ activeKeys entry.1 ∧
      member = (entry.1.identifier, expiry settings entry)
  /-- A live permit is a member of the sets that count it. -/
  complete : ∀ entry ∈ held core, core.clock < expiry settings entry →
    ∀ key ∈ activeKeys entry.1,
      (entry.1.identifier, expiry settings entry) ∈ core.store.members key
  /-- An active set is kept until its members have expired. -/
  kept : ∀ key, key.isActive = true → ∀ member ∈ core.store.members key,
    ∃ time, (core.store.sets key).expiresAt = some time ∧ member.2 ≤ time

variable {settings} {core : GateCore}

/-- A permit is held from its grant until it is given back. -/
lemma mem_held {entry : ConnectionPermit × ℤ} :
    entry ∈ held core ↔ entry ∈ admitted core ∧ entry.1 ∉ released core := by
  rw [held, List.mem_filter, decide_eq_true_eq]

/-- A permit is live while it is held and has not expired. -/
lemma mem_live {entry : ConnectionPermit × ℤ} :
    entry ∈ live settings core ↔ entry ∈ held core ∧ core.clock < expiry settings entry := by
  rw [live, List.mem_filter, decide_eq_true_eq]

/-- The sets count the permits they should. -/
lemma mem_activeKeys_iff {permit : ConnectionPermit} {key : SetKey} :
    key ∈ activeKeys permit ↔ key = .globalActive ∨
      (∃ deviceId, permit.target.deviceId = some deviceId ∧ key = .deviceActive deviceId) ∨
      (permit.operation = .terminal ∧ (key = .terminalActive ∨
        ∃ deviceId, permit.target.deviceId = some deviceId ∧
          key = .terminalDeviceActive deviceId)) := by
  rw [activeKeys]
  cases permit.target.deviceId with
  | none => by_cases h : permit.operation = .terminal <;> simp [h]
  | some deviceId => by_cases h : permit.operation = .terminal <;> simp [h]

/-- A set that counts a live permit has it among its members with later scores. -/
lemma Counted.length_counted_le (h : Counted settings core) {key : SetKey} {now : ℤ}
    (hnow : now ≤ core.clock) :
    (counted settings core key).length ≤ core.store.zcount key now := by
  rw [Store.zcount, List.countP_eq_length_filter,
    ← List.length_map fun entry => (entry.1.identifier, expiry settings entry)]
  refine List.Subperm.length_le (List.Nodup.subperm ?_ fun member hmember => ?_)
  · have hsub : ((counted settings core key).map fun entry => entry.1.identifier).Nodup :=
      h.identifiers.sublist ((List.filter_sublist.trans List.filter_sublist).map _)
    refine List.Nodup.of_map Prod.fst ?_
    rw [List.map_map]
    exact hsub
  · obtain ⟨entry, hentry, rfl⟩ := List.mem_map.mp hmember
    obtain ⟨hlive, hkey⟩ := List.mem_filter.mp hentry
    rw [decide_eq_true_eq] at hkey
    obtain ⟨hheld, hexpiry⟩ := mem_live.mp hlive
    refine List.mem_filter.mpr ⟨h.complete entry hheld hexpiry key hkey, ?_⟩
    rw [decide_eq_true_eq]
    exact lt_of_le_of_lt hnow hexpiry

/-! ## The steps of the core -/

section Steps

variable {clock : ℤ} {store : GateStore} {permit : ConnectionPermit} {now : ℤ}
  {event : Event GateRequest GateOrder}

/-- A noted event adds the permit that it grants. -/
lemma admitted_note : admitted ((core.write clock store).note event) =
    admitted core ++ (admissionOf event).toList := by
  rw [admitted, Core.note, List.filterMap_append, List.filterMap_cons, List.filterMap_nil]
  cases admissionOf event <;> rfl

/-- A noted event adds the permit that it gives back. -/
lemma released_note : released ((core.write clock store).note event) =
    released core ++ (releaseOf event).toList := by
  rw [released, Core.note, List.filterMap_append, List.filterMap_cons, List.filterMap_nil]
  cases releaseOf event <;> rfl

/-- An event that is no admission and no release leaves the permits that are held. -/
lemma held_note_other (hadmission : admissionOf event = none) (hrelease : releaseOf event = none) :
    held ((core.write clock store).note event) = held core := by
  rw [held, admitted_note, released_note, hadmission, hrelease, Option.toList_none,
    Option.toList_none, List.append_nil, List.append_nil, held]

/-- A permit with a new identifier is held once it is admitted. -/
lemma held_note_acquire (h : Counted settings core)
    (hfresh : permit.identifier ∉ core.drawn (gate settings)) :
    held ((core.write clock store).note (.committed (.acquire permit) now clock)) =
      held core ++ [(permit, now)] := by
  have hnot : permit ∉ released core := by
    intro hreleased
    obtain ⟨entry, hentry, rfl⟩ := h.released permit hreleased
    exact hfresh (h.drawn entry hentry)
  rw [held, admitted_note, released_note]
  simp only [admissionOf, releaseOf, Option.toList_some, Option.toList_none, List.append_nil,
    List.filter_append, List.filter_cons, List.filter_nil, hnot, not_false_eq_true, decide_true,
    if_true]
  rfl

/-- A permit that is released is no longer held. -/
lemma held_note_release :
    held ((core.write clock store).note (.committed (.release permit) now clock)) =
      (held core).filter fun entry => entry.1 ≠ permit := by
  rw [held, admitted_note, released_note, held, List.filter_filter]
  simp only [admissionOf, releaseOf, Option.toList_some, Option.toList_none, List.append_nil]
  refine List.filter_congr fun entry _ => ?_
  simp only [List.mem_append, List.mem_singleton, not_or, ne_eq, Bool.decide_and]
  rw [Bool.and_comm]

/-- The identifiers of a log grow. -/
lemma mem_drawn_note {identifier : Uuid} (h : identifier ∈ core.drawn (gate settings)) :
    identifier ∈ ((core.write clock store).note event).drawn (gate settings) := by
  rw [Core.drawn, Core.note, List.filterMap_append]
  exact List.mem_append_left _ h

/-- The identifier of a noted event has been drawn. -/
lemma mem_drawn_note_self {identifier : Uuid} (h : event.drawn (gate settings) = some identifier) :
    identifier ∈ ((core.write clock store).note event).drawn (gate settings) := by
  rw [Core.drawn, Core.note, List.filterMap_append, List.filterMap_cons, h]
  exact List.mem_append_right _ (List.mem_singleton_self _)

/-- Time passes. -/
lemma Counted.tick (h : Counted settings core) (duration : ℕ) :
    Counted settings (core.write (core.clock + duration)
      (core.store.purge (core.clock + duration))) := by
  have hclock : core.clock ≤ core.clock + duration := by omega
  have hset : ∀ key, ∀ member ∈ (core.store.purge (core.clock + duration)).members key,
      (core.store.purge (core.clock + duration)).sets key = core.store.sets key :=
    fun key member hmember => Timed.purge_eq_of_value (List.ne_nil_of_mem hmember)
  have hmembers : ∀ key, ∀ member ∈ (core.store.purge (core.clock + duration)).members key,
      member ∈ core.store.members key := by
    intro key member hmember
    have hsame := congrArg Timed.value (hset key member hmember)
    rw [Store.members, hsame] at hmember
    exact hmember
  refine ⟨h.identifiers, h.drawn, h.released, fun entry hentry => ?_, ?_, ?_, ?_, ?_, ?_⟩
  · exact (h.time_le entry hentry).trans hclock
  · intro entry hentry hlive
    obtain ⟨time, htext, hle⟩ := h.stored entry hentry (lt_of_le_of_lt hclock hlive)
    have hkept : (core.store.texts (.permit entry.1.identifier)).purge (core.clock + duration) =
        core.store.texts (.permit entry.1.identifier) := by
      refine Timed.purge_of_lt ?_ (lt_of_lt_of_le hlive hle)
      rw [htext]
    exact ⟨time, hkept.trans htext, hle⟩
  · intro identifier text htext
    refine h.known identifier text ?_
    have hkept : (core.store.purge (core.clock + duration)).texts (.permit identifier) =
        core.store.texts (.permit identifier) := by
      refine Timed.purge_eq_of_value fun hnone => ?_
      exact absurd (htext.symm.trans hnone) (Option.some_ne_none text)
    exact (congrArg Timed.value hkept).symm.trans htext
  · exact fun key hkey member hmember => h.member key hkey member (hmembers key member hmember)
  · intro entry hentry hlive key hkey
    have hbefore := h.complete entry hentry (lt_of_le_of_lt hclock hlive) key hkey
    obtain ⟨time, htime, hle⟩ := h.kept key (isActive_of_mem hkey) _ hbefore
    have hsame : (core.store.purge (core.clock + duration)).sets key = core.store.sets key :=
      Timed.purge_of_lt htime (lt_of_lt_of_le hlive hle)
    rw [Core.write_store, Store.members, hsame]
    exact hbefore
  · intro key hkey member hmember
    obtain ⟨time, htime, hle⟩ := h.kept key hkey member (hmembers key member hmember)
    exact ⟨time, (congrArg Timed.expiresAt (hset key member hmember)).trans htime, hle⟩

/-- A step that is about no permit leaves the permits as they are. -/
lemma Counted.other {commands : List GateCommand} (h : Counted settings core)
    (hadmission : admissionOf event = none) (hrelease : releaseOf event = none)
    (htexts : ∀ identifier, (performAll core.clock core.store commands).texts (.permit identifier) =
      core.store.texts (.permit identifier))
    (hsets : ∀ key, key.isActive = true →
      (performAll core.clock core.store commands).sets key = core.store.sets key) :
    Counted settings (performed core commands event) := by
  have hheld : held (performed core commands event) = held core :=
    held_note_other hadmission hrelease
  have hmembers : ∀ key, key.isActive = true →
      (performed core commands event).store.members key = core.store.members key :=
    fun key hkey => congrArg Timed.value (hsets key hkey)
  refine ⟨?_, fun entry hentry => ?_, fun permit hpermit => ?_, ?_, ?_, ?_, ?_, ?_, ?_⟩
  · rw [hheld]
    exact h.identifiers
  · rw [admitted_note, hadmission, Option.toList_none, List.append_nil] at hentry
    exact mem_drawn_note (h.drawn entry hentry)
  · rw [released_note, hrelease, Option.toList_none, List.append_nil] at hpermit
    obtain ⟨entry, hentry, heq⟩ := h.released permit hpermit
    exact ⟨entry, by rw [admitted_note]; exact List.mem_append_left _ hentry, heq⟩
  · rw [hheld]
    exact h.time_le
  · rw [hheld]
    intro entry hentry hlive
    obtain ⟨time, htext, hle⟩ := h.stored entry hentry hlive
    exact ⟨time, (htexts _).trans htext, hle⟩
  · rw [hheld]
    intro identifier text htext
    exact h.known identifier text ((congrArg Timed.value (htexts identifier)).symm.trans htext)
  · rw [hheld]
    intro key hkey member hmember
    rw [hmembers key hkey] at hmember
    exact h.member key hkey member hmember
  · rw [hheld]
    intro entry hentry hlive key hkey
    rw [hmembers key (isActive_of_mem hkey)]
    exact h.complete entry hentry hlive key hkey
  · intro key hkey member hmember
    rw [hmembers key hkey] at hmember
    obtain ⟨time, htime, hle⟩ := h.kept key hkey member hmember
    exact ⟨time, (congrArg Timed.expiresAt (hsets key hkey)).trans htime, hle⟩

/-- The identifier of an admitted permit is none of those that are held. -/
lemma Counted.identifier_ne (h : Counted settings core)
    (hfresh : permit.identifier ∉ core.drawn (gate settings)) :
    ∀ entry ∈ held core, entry.1.identifier ≠ permit.identifier := by
  intro entry hentry heq
  exact hfresh (heq ▸ h.drawn entry (mem_held.mp hentry).1)

/-- A member of an active set was one before the admission, or is the new permit. -/
lemma mem_admission_active {store : GateStore} {clock : ℤ} {key : SetKey} {member : Uuid × ℤ}
    (hkey : key.isActive = true)
    (hmember : member ∈ (performAll clock store (admission settings permit now)).members key) :
    member ∈ store.members key ∨
      (key ∈ activeKeys permit ∧ member = (permit.identifier, expiry settings (permit, now))) := by
  rw [Store.members, sets_admission_active hkey] at hmember
  split at hmember
  · next hin =>
    rw [entered, List.mem_append, List.mem_singleton] at hmember
    rcases hmember with hmember | hmember
    · exact Or.inl (List.mem_of_mem_filter (List.mem_of_mem_filter hmember))
    · exact Or.inr ⟨hin, hmember⟩
  · exact Or.inl hmember

/-- Behind an admission every live permit is a member of its sets. -/
lemma Counted.complete_admission (h : Counted settings core) (hnow : now ≤ core.clock)
    (hfresh : permit.identifier ∉ core.drawn (gate settings)) {entry : ConnectionPermit × ℤ}
    (hentry : entry ∈ held core ++ [(permit, now)]) (hlive : core.clock < expiry settings entry)
    {key : SetKey} (hkey : key ∈ activeKeys entry.1) :
    (entry.1.identifier, expiry settings entry) ∈
      (performAll core.clock core.store (admission settings permit now)).members key := by
  rw [Store.members, sets_admission_active (isActive_of_mem hkey)]
  rcases List.mem_append.mp hentry with hentry | hentry
  · have hbefore := h.complete entry hentry hlive key hkey
    split
    · refine List.mem_append_left _ (List.mem_filter.mpr ⟨List.mem_filter.mpr ⟨hbefore, ?_⟩, ?_⟩)
      · rw [decide_eq_true_eq]
        exact lt_of_le_of_lt hnow hlive
      · rw [decide_eq_true_eq]
        exact h.identifier_ne hfresh entry hentry
    · exact hbefore
  · obtain rfl := List.mem_singleton.mp hentry
    rw [if_pos hkey]
    exact List.mem_append_right _ (List.mem_singleton_self _)

/-- Behind an admission an active set is kept for as long as its members are live. -/
lemma Counted.kept_admission (h : Counted settings core) (hnow : now ≤ core.clock) {key : SetKey}
    (hkey : key.isActive = true) {member : Uuid × ℤ}
    (hin : member ∈ (performAll core.clock core.store (admission settings permit now)).members key) :
    ∃ time, ((performAll core.clock core.store (admission settings permit now)).sets key).expiresAt =
      some time ∧ member.2 ≤ time := by
  rw [sets_admission_active hkey]
  split
  · next hcounts =>
    refine ⟨_, rfl, ?_⟩
    rcases mem_admission_active hkey hin with hold | ⟨-, rfl⟩
    · obtain ⟨entry, hentry, -, rfl⟩ := h.member key hkey member hold
      have htime := h.time_le entry hentry
      rw [expiry]
      omega
    · rw [expiry]
      omega
  · next hcounts =>
    rcases mem_admission_active hkey hin with hold | ⟨hcounts', -⟩
    · exact h.kept key hkey member hold
    · exact absurd hcounts' hcounts

/-- A permit is admitted. -/
lemma Counted.acquire (h : Counted settings core) (hnow : now ≤ core.clock)
    (hfresh : permit.identifier ∉ core.drawn (gate settings)) :
    Counted settings (performed core (admission settings permit now)
      (.committed (.acquire permit) now core.clock)) := by
  have hheld : held (performed core (admission settings permit now)
      (.committed (.acquire permit) now core.clock)) = held core ++ [(permit, now)] :=
    held_note_acquire h hfresh
  have hidentifier := h.identifier_ne hfresh
  refine ⟨?_, fun entry hentry => ?_, fun other hother => ?_, ?_, ?_, ?_, ?_, ?_, ?_⟩
  · rw [hheld, List.map_append, List.map_singleton]
    refine List.nodup_append.mpr ⟨h.identifiers, List.nodup_singleton _, ?_⟩
    intro identifier hmem other hother heq
    obtain ⟨entry, hentry, rfl⟩ := List.mem_map.mp hmem
    rw [List.mem_singleton] at hother
    exact hidentifier entry hentry (heq.trans hother)
  · rw [admitted_note, List.mem_append] at hentry
    rcases hentry with hentry | hentry
    · exact mem_drawn_note (h.drawn entry hentry)
    · obtain rfl := List.mem_singleton.mp hentry
      exact mem_drawn_note_self rfl
  · rw [released_note] at hother
    simp only [releaseOf, Option.toList_none, List.append_nil] at hother
    obtain ⟨entry, hentry, heq⟩ := h.released other hother
    exact ⟨entry, by rw [admitted_note]; exact List.mem_append_left _ hentry, heq⟩
  · rw [hheld]
    intro entry hentry
    rcases List.mem_append.mp hentry with hentry | hentry
    · exact h.time_le entry hentry
    · obtain rfl := List.mem_singleton.mp hentry
      exact hnow
  · rw [hheld]
    intro entry hentry hlive
    rw [Core.note_store, Core.write_store, texts_admission]
    rcases List.mem_append.mp hentry with hentry | hentry
    · obtain ⟨time, htext, hle⟩ := h.stored entry hentry hlive
      refine ⟨time, ?_, hle⟩
      rw [if_neg fun heq => hidentifier entry hentry (TextKey.permit.inj heq)]
      exact htext
    · obtain rfl := List.mem_singleton.mp hentry
      refine ⟨_, if_pos rfl, ?_⟩
      rw [expiry]
      omega
  · rw [hheld]
    intro identifier text htext
    rw [Store.get, Core.note_store, Core.write_store, texts_admission] at htext
    split at htext
    · next heq =>
      refine ⟨(permit, now), List.mem_append_right _ (List.mem_singleton_self _),
        (TextKey.permit.inj heq).symm, Option.some.inj htext⟩
    · obtain ⟨entry, hentry, hknown⟩ := h.known identifier text htext
      exact ⟨entry, List.mem_append_left _ hentry, hknown⟩
  · rw [hheld]
    intro key hkey member hin
    rcases mem_admission_active hkey hin with hold | ⟨hcounts, hnew⟩
    · obtain ⟨entry, hentry, hcounted⟩ := h.member key hkey member hold
      exact ⟨entry, List.mem_append_left _ hentry, hcounted⟩
    · exact ⟨(permit, now), List.mem_append_right _ (List.mem_singleton_self _), hcounts, hnew⟩
  · rw [hheld]
    exact fun entry hentry hlive key hkey => h.complete_admission hnow hfresh hentry hlive hkey
  · exact fun key hkey member hin => h.kept_admission hnow hkey hin

/-- A permit that is stored is held, and no other has its identifier. -/
lemma Counted.held_of_stored (h : Counted settings core)
    (hstored : core.store.get (.permit permit.identifier) = some (permitFingerprint permit)) :
    (∃ entry ∈ held core, entry.1 = permit) ∧
      ∀ entry ∈ held core, entry.1.identifier = permit.identifier → entry.1 = permit := by
  obtain ⟨entry, hentry, hidentifier, hfingerprint⟩ := h.known _ _ hstored
  obtain ⟨hoperation, htarget⟩ := GateText.fingerprint.inj hfingerprint
  have hpermit : entry.1 = permit := by
    obtain ⟨⟨identifier, operation, target⟩, time⟩ := entry
    obtain ⟨identifier', operation', target'⟩ := permit
    obtain rfl : identifier = identifier' := hidentifier
    obtain rfl : operation = operation' := hoperation
    obtain rfl : target = target' := htarget
    rfl
  refine ⟨⟨entry, hentry, hpermit⟩, fun other hother heq => ?_⟩
  have hsame := List.inj_on_of_nodup_map h.identifiers hother hentry (heq.trans hidentifier.symm)
  rw [hsame, hpermit]

/-- A permit is released. -/
lemma Counted.release (h : Counted settings core)
    (hstored : core.store.get (.permit permit.identifier) = some (permitFingerprint permit)) :
    Counted settings (performed core (releaseCommands permit)
      (.committed (.release permit) now core.clock)) := by
  have hheld : held (performed core (releaseCommands permit)
      (.committed (.release permit) now core.clock)) =
      (held core).filter fun entry => entry.1 ≠ permit := held_note_release
  obtain ⟨⟨own, hown, howner⟩, honly⟩ := h.held_of_stored hstored
  have hmem : ∀ {entry}, entry ∈ (held core).filter (fun entry => entry.1 ≠ permit) ↔
      entry ∈ held core ∧ entry.1.identifier ≠ permit.identifier := by
    intro entry
    rw [List.mem_filter, decide_eq_true_eq]
    refine and_congr_right fun hentry => not_congr ⟨fun heq => by rw [heq], honly entry hentry⟩
  have hadmitted : ∀ {entry}, entry ∈ admitted (performed core (releaseCommands permit)
      (.committed (.release permit) now core.clock)) ↔ entry ∈ admitted core := by
    intro entry
    rw [admitted_note]
    simp [admissionOf]
  refine ⟨?_, fun entry hentry => ?_, fun other hother => ?_, ?_, ?_, ?_, ?_, ?_, ?_⟩
  · rw [hheld]
    exact h.identifiers.sublist (List.filter_sublist.map _)
  · exact mem_drawn_note (h.drawn entry (hadmitted.mp hentry))
  · rw [released_note, List.mem_append] at hother
    rcases hother with hother | hother
    · obtain ⟨entry, hentry, heq⟩ := h.released other hother
      exact ⟨entry, hadmitted.mpr hentry, heq⟩
    · obtain rfl := List.mem_singleton.mp hother
      exact ⟨own, hadmitted.mpr (mem_held.mp hown).1, howner⟩
  · rw [hheld]
    exact fun entry hentry => h.time_le entry (List.mem_of_mem_filter hentry)
  · rw [hheld]
    intro entry hentry hlive
    obtain ⟨hentry, hother⟩ := hmem.mp hentry
    obtain ⟨time, htext, hle⟩ := h.stored entry hentry hlive
    refine ⟨time, ?_, hle⟩
    rw [Core.note_store, Core.write_store, texts_release,
      if_neg fun heq => hother (TextKey.permit.inj heq)]
    exact htext
  · rw [hheld]
    intro identifier text htext
    rw [Store.get, Core.note_store, Core.write_store, texts_release] at htext
    split at htext
    · cases htext
    · next hother =>
      obtain ⟨entry, hentry, rfl, hfingerprint⟩ := h.known identifier text htext
      exact ⟨entry, hmem.mpr ⟨hentry, fun heq => hother (congrArg TextKey.permit heq)⟩, rfl,
        hfingerprint⟩
  · rw [hheld]
    intro key hkey member hmember
    rw [Core.note_store, Core.write_store, members_release] at hmember
    split at hmember
    · obtain ⟨hmember, hother⟩ := List.mem_filter.mp hmember
      rw [decide_eq_true_eq] at hother
      obtain ⟨entry, hentry, hcounts, rfl⟩ := h.member key hkey member hmember
      exact ⟨entry, hmem.mpr ⟨hentry, hother⟩, hcounts, rfl⟩
    · next hnot =>
      obtain ⟨entry, hentry, hcounts, rfl⟩ := h.member key hkey member hmember
      refine ⟨entry, hmem.mpr ⟨hentry, fun heq => hnot ?_⟩, hcounts, rfl⟩
      rw [← honly entry hentry heq]
      exact hcounts
  · rw [hheld]
    intro entry hentry hlive key hkey
    obtain ⟨hentry, hother⟩ := hmem.mp hentry
    have hbefore := h.complete entry hentry hlive key hkey
    rw [Core.note_store, Core.write_store, members_release]
    split
    · exact List.mem_filter.mpr ⟨hbefore, decide_eq_true_eq.mpr hother⟩
    · exact hbefore
  · intro key hkey member hmember
    have hexpires := expiresAt_release hmember
    rw [Core.note_store, Core.write_store, members_release] at hmember
    have hbefore : member ∈ core.store.members key := by
      split at hmember
      · exact List.mem_of_mem_filter hmember
      · exact hmember
    obtain ⟨time, htime, hle⟩ := h.kept key hkey member hbefore
    exact ⟨time, hexpires.trans htime, hle⟩

/-- Recording a failure is about no permit. -/
lemma Counted.failed {target : ConnectionTarget} {identifier : Uuid} {failures : ℕ}
    (h : Counted settings core) :
    Counted settings (performed core (failureCommands settings target identifier now failures)
      (.committed (.authenticationFailed target identifier) now core.clock)) := by
  refine h.other rfl rfl (fun id => ?_) (fun key hkey => ?_)
  · rw [texts_failure, if_neg fun heq => by cases heq.1]
  · rw [sets_failure, if_neg]
    rintro rfl
    cases hkey

/-- Forgetting the failures of an endpoint is about no permit. -/
lemma Counted.succeeded {target : ConnectionTarget} (h : Counted settings core) :
    Counted settings (performed core
      ((gate settings).order (.authenticationSucceeded target))
      (.ordered (.authenticationSucceeded target) core.clock)) := by
  refine h.other rfl rfl (fun id => rfl) (fun key hkey => ?_)
  refine Function.update_of_ne ?_ _ _
  rintro rfl
  cases hkey

/-- The permits that are held and the store agree after every step of the gate. -/
lemma Counted.step {core' : GateCore} (h : Counted settings core)
    (hstep : GateStep settings core core') : Counted settings core' := by
  cases hstep with
  | quiet => exact h
  | tick duration => exact h.tick duration
  | acquire _ hnow _ hfresh => exact h.acquire hnow hfresh
  | failed => exact h.failed
  | release hstored => exact h.release hstored
  | succeeded target => exact h.succeeded

end Steps

/-! ## The limits -/

/-- Every active set counts at most as many permits as it may. -/
def WithinLimits (settings : GateSettings) (core : GateCore) : Prop :=
  ∀ key, key.isActive = true → (counted settings core key).length ≤ limitOf settings key

/-- A permit is admitted when the sets that are to count it are below their limits. -/
lemma Admits.below_limit {permit : ConnectionPermit} {now : ℤ}
    (h : Admits settings core.store permit now) {key : SetKey} (hkey : key ∈ activeKeys permit) :
    core.store.zcount key now < limitOf settings key := by
  rcases mem_activeKeys_iff.mp hkey with
    rfl | ⟨deviceId, hdevice, rfl⟩ | ⟨hoperation, rfl | ⟨deviceId, hdevice, rfl⟩⟩
  · exact h.overall
  · exact h.device deviceId hdevice
  · exact h.terminal hoperation
  · exact h.terminalDevice hoperation deviceId hdevice

/-- Permits that were held are counted less and less. -/
lemma length_counted_le {core' : GateCore} (hclock : core.clock ≤ core'.clock)
    (hheld : (held core').Sublist (held core)) (key : SetKey) :
    (counted settings core' key).length ≤ (counted settings core key).length := by
  refine List.Sublist.length_le (List.Sublist.filter _ ?_)
  rw [live, live]
  refine (hheld.filter _).trans (List.monotone_filter_right _ fun entry hentry => ?_)
  rw [decide_eq_true_eq] at hentry ⊢
  exact lt_of_le_of_lt hclock hentry

/-- An admitted permit is counted by the sets that should count it. -/
lemma length_counted_acquire {permit : ConnectionPermit} {now : ℤ} {commands : List GateCommand}
    (h : Counted settings core) (hfresh : permit.identifier ∉ core.drawn (gate settings))
    (key : SetKey) :
    (counted settings (performed core commands
      (.committed (.acquire permit) now core.clock)) key).length ≤
      (counted settings core key).length + if key ∈ activeKeys permit then 1 else 0 := by
  rw [counted, live, held_note_acquire h hfresh, List.filter_append, List.filter_append,
    List.length_append]
  refine Nat.add_le_add (le_refl (counted settings core key).length) ?_
  rw [List.filter_filter]
  by_cases hkey : key ∈ activeKeys permit
  · rw [if_pos hkey]
    exact (List.length_filter_le _ _)
  · rw [if_neg hkey]
    simp [hkey]

/-- The limits are kept by every step of the gate. -/
lemma WithinLimits.step {core' : GateCore} (h : WithinLimits settings core)
    (hcounted : Counted settings core) (hstep : GateStep settings core core') :
    WithinLimits settings core' := by
  have hless : core.clock ≤ core'.clock → (held core').Sublist (held core) →
      WithinLimits settings core' := fun hclock hheld key hkey =>
    (length_counted_le hclock hheld key).trans (h key hkey)
  cases hstep with
  | quiet => exact h
  | tick duration =>
    refine hless ?_ (List.Sublist.refl _)
    rw [Core.write_clock]
    omega
  | @acquire permit now hadmits hnow _ hfresh =>
    intro key hkey
    refine (length_counted_acquire hcounted hfresh key).trans ?_
    by_cases hcounts : key ∈ activeKeys permit
    · rw [if_pos hcounts]
      exact lt_of_le_of_lt (hcounted.length_counted_le hnow) (hadmits.below_limit hcounts)
    · rw [if_neg hcounts]
      exact h key hkey
  | failed => exact hless le_rfl (by rw [held_note_other rfl rfl])
  | release => exact hless le_rfl (by rw [held_note_release]; exact List.filter_sublist)
  | succeeded target => exact hless le_rfl (by rw [held_note_other rfl rfl])

/-- Permits that are held and counted keep the limits. -/
lemma limitsHold (h : Counted settings core) (hwithin : WithinLimits settings core) :
    LimitsHold settings core where
  overall := by
    have hall : counted settings core .globalActive = live settings core := by
      refine List.filter_eq_self.mpr fun entry _ => ?_
      rw [decide_eq_true_eq]
      exact globalActive_mem
    exact hall ▸ hwithin .globalActive rfl
  device deviceId := by
    have hsome : counted settings core (.deviceActive deviceId) =
        forDevice deviceId (live settings core) := by
      refine List.filter_congr fun entry _ => decide_eq_decide.mpr ?_
      rw [mem_activeKeys_iff]
      simp [eq_comm]
    exact hsome ▸ hwithin (.deviceActive deviceId) rfl
  terminal := by
    have hsome : counted settings core .terminalActive = ofTerminals (live settings core) := by
      refine List.filter_congr fun entry _ => decide_eq_decide.mpr ?_
      rw [mem_activeKeys_iff]
      simp
    exact hsome ▸ hwithin .terminalActive rfl
  terminalDevice deviceId := by
    have hsome : counted settings core (.terminalDeviceActive deviceId) =
        ofTerminals (forDevice deviceId (live settings core)) := by
      rw [ofTerminals, forDevice, List.filter_filter, counted]
      refine List.filter_congr fun entry _ => ?_
      rw [← Bool.decide_and]
      refine decide_eq_decide.mpr ?_
      rw [mem_activeKeys_iff]
      simp [eq_comm]
    exact hsome ▸ hwithin (.terminalDeviceActive deviceId) rfl
  members key hkey identifier score hscore := by
    constructor
    · intro hmember
      obtain ⟨entry, hentry, hcounts, heq⟩ := h.member key hkey _ hmember
      obtain ⟨rfl, rfl⟩ := Prod.mk.inj heq
      exact ⟨entry, mem_live.mpr ⟨hentry, hscore⟩, hcounts, rfl, rfl⟩
    · rintro ⟨entry, hentry, hcounts, rfl, rfl⟩
      exact h.complete entry (mem_live.mp hentry).1 hscore key hcounts

/-- At the beginning nothing is counted. -/
lemma counted_initial (clock : ℤ) : Counted settings (Core.initial clock : GateCore) where
  identifiers := List.nodup_nil
  drawn _ hentry := by cases hentry
  released _ hpermit := by cases hpermit
  time_le _ hentry := by cases hentry
  stored _ hentry := by cases hentry
  known _ _ htext := by cases htext
  member _ _ _ hmember := by cases hmember
  complete _ hentry := by cases hentry
  kept _ _ _ hmember := by cases hmember

/-! ## Every run -/

/-- What is kept of one core in another, the permit's own apart. -/
structure OthersKept (settings : GateSettings) (permit : ConnectionPermit)
    (core core' : GateCore) : Prop where
  live : ∀ entry, entry.1 ≠ permit → (entry ∈ live settings core' ↔ entry ∈ live settings core)
  gone : ∀ entry ∈ Admission.live settings core', entry ∈ Admission.live settings core
  texts : ∀ identifier ≠ permit.identifier,
    core'.store.texts (.permit identifier) = core.store.texts (.permit identifier)
  members : ∀ key member, member.1 ≠ permit.identifier →
    (member ∈ core'.store.members key ↔ member ∈ core.store.members key)

/-- What a step of the gate keeps: the limits, and what its client is not to change. -/
structure KeepsLimits {C : Type} (settings : GateSettings) (w : GateWorld C)
    (action : GateAction C) (w' : GateWorld C) : Prop where
  limits : LimitsHold settings w'.core
  /-- A release, of whatever permit, changes no other. -/
  release : ∀ client permit, action.client? = some client →
    (w.clients client).request? = some (.release permit) →
      OthersKept settings permit w.core w'.core
  /-- An `acquire` changes nothing unless it is performed. -/
  denied : ∀ client permit, action.client? = some client →
    (w.clients client).request? = some (.acquire permit) →
      w'.core = w.core ∨ w'.clients client = .ended (.acquire permit) .performed

/-- Where nothing happens the other permits are kept. -/
lemma othersKept_refl (permit : ConnectionPermit) : OthersKept settings permit core core :=
  ⟨fun _ _ => Iff.rfl, fun _ h => h, fun _ _ => rfl, fun _ _ _ => Iff.rfl⟩

/-- A permit that is released takes no other with it. -/
lemma othersKept_release {permit : ConnectionPermit} {now : ℤ} :
    OthersKept settings permit core
      (performed core (releaseCommands permit)
        (.committed (.release permit) now core.clock)) where
  live entry hother := by
    rw [mem_live, mem_live, held_note_release, List.mem_filter, decide_eq_true_eq]
    exact ⟨fun h => ⟨h.1.1, h.2⟩, fun h => ⟨⟨h.1, hother⟩, h.2⟩⟩
  gone entry hentry := by
    rw [mem_live, held_note_release, List.mem_filter] at hentry
    exact mem_live.mpr ⟨hentry.1.1, hentry.2⟩
  texts identifier hother := by
    rw [Core.note_store, Core.write_store, texts_release,
      if_neg fun heq => hother (TextKey.permit.inj heq)]
  members key member hother := by
    rw [Core.note_store, Core.write_store, members_release]
    split
    · rw [List.mem_filter, decide_eq_true_eq]
      exact and_iff_left hother
    · exact Iff.rfl


/-! ### The steps of the clients -/

variable {C : Type}

/-- What is known of every world that is reached. -/
structure GateInvariant (settings : GateSettings) (w : GateWorld C) : Prop where
  sound : Sound (gate settings) w
  counted : Counted settings w.core
  within : WithinLimits settings w.core

/-- The invariant holds at the beginning. -/
lemma gateInvariant_initial (clock : ℤ) :
    GateInvariant settings (World.initial clock : GateWorld C) where
  sound := sound_initial clock
  counted := counted_initial clock
  within _ _ := Nat.zero_le _

/-- A client that releases a permit, or fails to, leaves the others. -/
lemma othersKept_of_step [DecidableEq C] {w w' : GateWorld C} {action : GateAction C} {client : C}
    {permit : ConnectionPermit} (h : Sound (gate settings) w)
    (hclient : action.client? = some client)
    (hrequest : (w.clients client).request? = some (.release permit))
    (hstep : step (gate settings) w action = some w') :
    OthersKept settings permit w.core w'.core := by
  rcases core_of_step h hclient hrequest hstep with ⟨hcore, -⟩ | ⟨-, now, commands, heval, hcore⟩
  · rw [hcore]
    exact othersKept_refl permit
  · obtain ⟨-, rfl⟩ := eval_release heval
    rw [hcore]
    exact othersKept_release

/-- A step keeps to the limits and keeps the invariant. -/
lemma keepsLimits_of_step [DecidableEq C] {w w' : GateWorld C} {action : GateAction C}
    (h : GateInvariant settings w) (hstep : step (gate settings) w action = some w') :
    KeepsLimits settings w action w' ∧ GateInvariant settings w' := by
  obtain ⟨hsound, hevolves⟩ := evolves_of_step h.sound hstep
  have hgate := gateStep_of_evolves hevolves
  have hcounted := h.counted.step hgate
  have hwithin := h.within.step h.counted hgate
  refine ⟨⟨limitsHold hcounted hwithin, fun client permit hclient hrequest =>
    othersKept_of_step h.sound hclient hrequest hstep, fun client permit hclient hrequest => ?_⟩,
    hsound, hcounted, hwithin⟩
  rcases core_of_step h.sound hclient hrequest hstep with ⟨hcore, -⟩ | ⟨hended, -⟩
  · exact Or.inl hcore
  · exact Or.inr hended

/-- Whatever the clients of a gate do, and in whichever order they take their steps, the limits are
kept, a release takes no other permit with it, and an `acquire` that is denied changes nothing. -/
theorem along_keepsLimits [DecidableEq C] (settings : GateSettings) (clock : ℤ)
    (actions : List (GateAction C)) :
    Along (step (gate settings)) (KeepsLimits settings) (World.initial clock) actions :=
  along_of_inv (fun _ _ _ h hstep _ => keepsLimits_of_step h hstep)
    (gateInvariant_initial clock) (along_true _ actions)

end Terraformer.Admission
