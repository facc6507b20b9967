import Terraformer.Admission.Limits
import Terraformer.Windows

/-!
# The rates and the cooldown of the connection gate

Admissions that are rationed keep their limit in every interval of the window's width
(`RatesHold`).  An endpoint at which authentication has failed too often is `Cooling`: nothing is
admitted to it until the cooldown is over.  `along_keepsRates` says both of every world that
clients can reach, with what neither failures nor refused admissions change.

`Recorded` is the invariant: the windows in the store still hold what the log has of them, and an
endpoint that is cooling has its mark.
-/

namespace Terraformer.Admission

open Expiring Optimistic

/-- What the gate notes in its log. -/
abbrev GateEvent := Event GateRequest GateOrder

variable (settings : GateSettings)

/-! ## Rates -/

/-- The window that rations a permit. -/
def rateKey (permit : ConnectionPermit) : Option SetKey :=
  (rateLimit settings permit.operation permit.target).map Prod.fst

/-- The admissions that a window rations, with their times. -/
def rationed (core : GateCore) (key : SetKey) : List (Uuid × ℤ) :=
  ((admitted core).filter fun entry => rateKey settings entry.1 = some key).map fun entry =>
    (entry.1.identifier, entry.2)

/-- No interval of the window's width has more admissions than the limit. -/
def RatesHold (core : GateCore) : Prop :=
  ∀ operation target key limit, rateLimit settings operation target = some (key, limit) →
    ∀ time, (recent settings.rateWindow time (rationed settings core key)).length ≤ limit

/-! ## The cooldown -/

/-- The failures of an endpoint after one more event. -/
def noteFailure (endpoint : Endpoint) (failures : List (Uuid × ℤ)) : GateEvent → List (Uuid × ℤ)
  | .committed (.authenticationFailed target identifier) time _ =>
    if target.endpoint = endpoint then failures ++ [(identifier, time)] else failures
  | .ordered (.authenticationSucceeded target) _ =>
    if target.endpoint = endpoint then [] else failures
  | .committed (.acquire _) _ _ | .committed (.release _) _ _ => failures

/-- The failures of an endpoint since authentication last succeeded there, with their times. -/
def failuresSince (endpoint : Endpoint) (log : List GateEvent) : List (Uuid × ℤ) :=
  log.foldl (noteFailure endpoint) []

/-- When an event took place. -/
def eventClock : GateEvent → ℤ
  | .committed _ _ clock | .ordered _ clock => clock

/-- After the events before it, an event is a failure of the endpoint with which the failures of
one window reach the limit. -/
def BeginsCooldown (endpoint : Endpoint) (front : List GateEvent) (event : GateEvent) : Prop :=
  ∃ target identifier time clock, event = .committed (.authenticationFailed target identifier) time
    clock ∧ target.endpoint = endpoint ∧ settings.authenticationFailureLimit ≤
      (recent settings.failureWindow time (failuresSince endpoint (front ++ [event]))).length

/-- A cooldown has begun at an endpoint and is not over. -/
def Cooling (core : GateCore) (endpoint : Endpoint) : Prop :=
  ∃ front event back, core.log = front ++ event :: back ∧
    BeginsCooldown settings endpoint front event ∧
    core.clock < eventClock event + settings.cooldown

/-! ## The invariant -/

/-- An endpoint has the mark of a cooldown, at least until a time. -/
def Marked (store : GateStore) (endpoint : Endpoint) (limit : ℤ) : Prop :=
  ∃ time, store.texts (.authenticationCooldown endpoint) = ⟨some .mark, some time⟩ ∧ limit ≤ time

/-- The store agrees with the log. -/
structure Recorded (core : GateCore) : Prop where
  rates : ∀ key, (∃ permit, rateKey settings permit = some key) →
    Records settings.rateWindow (core.changedAt (.inr key)) (core.store.sets key)
      (rationed settings core key)
  failures : ∀ endpoint, Records settings.failureWindow
    (core.changedAt (.inr (.authenticationFailures endpoint)))
    (core.store.sets (.authenticationFailures endpoint)) (failuresSince endpoint core.log)
  drawn : ∀ endpoint, ∀ entry ∈ failuresSince endpoint core.log,
    entry.1 ∈ core.drawn (gate settings)
  clock_le : ∀ event ∈ core.log, eventClock event ≤ core.clock
  /-- The mark of a cooldown is kept until the cooldown is over. -/
  cooldown : ∀ endpoint front event back, core.log = front ++ event :: back →
    BeginsCooldown settings endpoint front event →
    core.clock < eventClock event + settings.cooldown →
    Marked core.store endpoint (eventClock event + settings.cooldown)

variable {settings} {core : GateCore}

/-- The window that rations a permit is watched. -/
lemma mem_watched_rate {permit : ConnectionPermit} {rate : SetKey × ℕ}
    (hdevice : namesDevice permit = true)
    (h : rateLimit settings permit.operation permit.target = some rate) :
    .inr rate.1 ∈ ((gate settings).transaction (.acquire permit)).watched := by
  change .inr rate.1 ∈ (acquire settings permit).watched
  rw [acquire, if_pos hdevice]
  refine List.mem_append_right _ ?_
  rw [h]
  exact List.mem_singleton_self _

/-- A window that rations admissions counts no live permits, and no failures. -/
lemma rateKey_ne {permit : ConnectionPermit} {key : SetKey} (h : rateKey settings permit = some key) :
    key.isActive = false ∧ ∀ endpoint, key ≠ .authenticationFailures endpoint := by
  obtain ⟨⟨key', limit⟩, hlimit, rfl⟩ := Option.map_eq_some_iff.mp h
  refine ⟨isActive_rateLimit hlimit, ?_⟩
  rintro endpoint rfl
  exact isFailures_rateLimit hlimit

/-- At the beginning nothing is recorded. -/
lemma recorded_initial (clock : ℤ) : Recorded settings (Core.initial clock : GateCore) where
  rates _ _ := records_absent
  failures _ := records_absent
  drawn _ _ hentry := by cases hentry
  clock_le _ hevent := by cases hevent
  cooldown _ front event back hlog := by
    exact absurd hlog.symm (List.append_ne_nil_of_right_ne_nil front (List.cons_ne_nil event back))


/-! ### Windows -/

section Steps

variable {commands : List GateCommand} {event : GateEvent} {key : SetKey} {width : ℤ}
  {entries : List (Uuid × ℤ)} {permit : ConnectionPermit} {identifier : Uuid} {now : ℤ}

/-- A window that commands leave as it is records what it did. -/
lemma records_performed_same
    (h : Records width (core.changedAt (.inr key)) (core.store.sets key) entries)
    (hset : (performAll core.clock core.store commands).sets key = core.store.sets key) :
    Records width ((performed core commands event).changedAt (.inr key))
      ((performed core commands event).store.sets key) entries := by
  have hchanged : (performed core commands event).changedAt (.inr key) = core.changedAt (.inr key) :=
    if_pos hset
  rw [hchanged, Core.note_store, Core.write_store, hset]
  exact h

/-- A window that something new enters records it. -/
lemma records_performed_enter
    (h : Records width (core.changedAt (.inr key)) (core.store.sets key) entries)
    (hchanged : core.changedAt (.inr key) ≤ now) (hnow : now ≤ core.clock)
    (hfresh : identifier ∉ entries.map Prod.fst)
    (hset : (performAll core.clock core.store commands).sets key =
      entered core.clock (now - width) identifier now width (core.store.sets key)) :
    Records width ((performed core commands event).changedAt (.inr key))
      ((performed core commands event).store.sets key) (entries ++ [(identifier, now)]) := by
  have hother : ∀ entry ∈ (core.store.sets key).value, entry.1 ≠ identifier := by
    rintro entry hentry rfl
    exact hfresh (List.mem_map_of_mem (h.member entry hentry))
  have hsame : ¬SameAt core.store (performAll core.clock core.store commands) (.inr key) := by
    intro heq
    exact entered_ne hother (hset.symm.trans heq)
  have hclock : (performed core commands event).changedAt (.inr key) = core.clock := if_neg hsame
  rw [hclock, Core.note_store, Core.write_store, hset]
  exact h.enter hchanged hnow hfresh

/-- An event that grants no permit does not count towards a rate. -/
lemma rationed_note_other {clock : ℤ} {store : GateStore} (h : admissionOf event = none)
    (key : SetKey) :
    rationed settings ((core.write clock store).note event) key = rationed settings core key := by
  rw [rationed, admitted_note, h, Option.toList_none, List.append_nil, rationed]

/-- A granted permit counts towards the rate of its key. -/
lemma rationed_note_acquire {clock : ℤ} {store : GateStore} (key : SetKey) :
    rationed settings ((core.write clock store).note (.committed (.acquire permit) now clock)) key =
      rationed settings core key ++
        if rateKey settings permit = some key then [(permit.identifier, now)] else [] := by
  rw [rationed, admitted_note, admissionOf, Option.toList_some, List.filter_append,
    List.map_append, rationed]
  by_cases h : rateKey settings permit = some key
  · simp [h]
  · simp [h]

/-- A noted event is taken into account by the failures of the endpoint. -/
lemma failuresSince_concat (endpoint : Endpoint) (log : List GateEvent) :
    failuresSince endpoint (log ++ [event]) =
      noteFailure endpoint (failuresSince endpoint log) event :=
  List.foldl_concat _ _ _ _

/-- What was admitted has drawn its identifier. -/
lemma fresh_rationed (hcounted : Counted settings core)
    (hfresh : identifier ∉ core.drawn (gate settings)) :
    identifier ∉ (rationed settings core key).map Prod.fst := by
  intro hmem
  obtain ⟨entry, hentry, rfl⟩ := List.mem_map.mp hmem
  obtain ⟨admission, hadmission, rfl⟩ := List.mem_map.mp hentry
  exact hfresh (hcounted.drawn admission (List.mem_filter.mp hadmission).1)

/-- A fresh identifier is not among the failures. -/
lemma Recorded.fresh_failures (h : Recorded settings core) (endpoint : Endpoint)
    (hfresh : identifier ∉ core.drawn (gate settings)) :
    identifier ∉ (failuresSince endpoint core.log).map Prod.fst := by
  intro hmem
  obtain ⟨entry, hentry, rfl⟩ := List.mem_map.mp hmem
  exact hfresh (h.drawn endpoint entry hentry)

/-! ### Marks -/

/-- Commands that leave the marks, and make one where a cooldown begins, leave every endpoint that
is cooling with its mark. -/
lemma Recorded.marked (h : Recorded settings core) (hclock : eventClock event = core.clock)
    (hold : ∀ endpoint limit, limit ≤ core.clock + settings.cooldown →
      Marked core.store endpoint limit →
      Marked (performAll core.clock core.store commands) endpoint limit)
    (hnew : ∀ endpoint, BeginsCooldown settings endpoint core.log event →
      Marked (performAll core.clock core.store commands) endpoint
        (core.clock + settings.cooldown))
    (endpoint : Endpoint) (front : List GateEvent) (event' : GateEvent) (back : List GateEvent)
    (hlog : core.log ++ [event] = front ++ event' :: back)
    (hbegins : BeginsCooldown settings endpoint front event')
    (hbefore : core.clock < eventClock event' + settings.cooldown) :
    Marked (performAll core.clock core.store commands) endpoint
      (eventClock event' + settings.cooldown) := by
  rcases List.eq_nil_or_concat' back with rfl | ⟨back', last, rfl⟩
  · obtain ⟨rfl, hlast⟩ := List.append_inj' hlog rfl
    obtain rfl := List.singleton_inj.mp hlast
    rw [hclock]
    exact hnew endpoint hbegins
  · have hsplit : front ++ event' :: (back' ++ [last]) = (front ++ event' :: back') ++ [last] := by
      rw [List.append_assoc, List.cons_append]
    obtain ⟨hfront, -⟩ := List.append_inj' (hlog.trans hsplit) rfl
    have hle := h.clock_le event' (by
      rw [hfront]
      exact List.mem_append_right _ List.mem_cons_self)
    exact hold endpoint _ (by omega) (h.cooldown endpoint front event' back' hfront hbegins hbefore)

/-- The clock is not behind any noted event. -/
lemma clock_le_performed (h : Recorded settings core) (hclock : eventClock event = core.clock) :
    ∀ event' ∈ (performed core commands event).log,
      eventClock event' ≤ (performed core commands event).clock := by
  intro event' hevent
  rcases List.mem_append.mp hevent with hold | hnew
  · exact h.clock_le event' hold
  · rw [List.mem_singleton.mp hnew]
    exact hclock.le

/-- Only a failed login begins a cooldown. -/
lemma not_beginsCooldown {endpoint : Endpoint} {front : List GateEvent}
    (h : ∀ target identifier time clock,
      event ≠ .committed (.authenticationFailed target identifier) time clock) :
    ¬BeginsCooldown settings endpoint front event := by
  rintro ⟨target, identifier, time, clock, rfl, -⟩
  exact h target identifier time clock rfl

/-! ### The steps of the core -/

/-- Time passes. -/
lemma Recorded.tick (h : Recorded settings core) (hle : ∀ key, core.changedAt key ≤ core.clock)
    (duration : ℕ) : Recorded settings (core.write (core.clock + duration)
      (core.store.purge (core.clock + duration))) := by
  have hclock : core.clock ≤ core.clock + duration := by omega
  refine ⟨fun key hkey => ?_, fun endpoint => ?_, h.drawn, fun event hevent =>
    (h.clock_le event hevent).trans hclock, ?_⟩
  · exact (h.rates key hkey).purge (fun hsame => if_pos hsame) (fun hgone => if_neg hgone)
      ((hle _).trans hclock)
  · exact (h.failures endpoint).purge (fun hsame => if_pos hsame) (fun hgone => if_neg hgone)
      ((hle _).trans hclock)
  · intro endpoint front event back hlog hbegins hbefore
    obtain ⟨time, htext, htime⟩ :=
      h.cooldown endpoint front event back hlog hbegins (lt_of_le_of_lt hclock hbefore)
    refine ⟨time, ?_, htime⟩
    rw [← htext]
    refine Timed.purge_of_lt ?_ (lt_of_lt_of_le hbefore htime)
    rw [htext]

/-- A permit is admitted. -/
lemma Recorded.acquire {permit : ConnectionPermit} {now : ℤ} (h : Recorded settings core)
    (hcounted : Counted settings core) (hnow : now ≤ core.clock)
    (hquiet : QuietSince settings core (.acquire permit) now)
    (hdevice : namesDevice permit = true)
    (hfresh : permit.identifier ∉ core.drawn (gate settings)) :
    Recorded settings (performed core (admission settings permit now)
      (.committed (.acquire permit) now core.clock)) := by
  have htexts : ∀ endpoint limit, Marked core.store endpoint limit →
      Marked (performAll core.clock core.store (admission settings permit now)) endpoint limit := by
    rintro endpoint limit ⟨time, htext, htime⟩
    refine ⟨time, ?_, htime⟩
    rw [texts_admission, if_neg (by simp), htext]
  have hfailures : ∀ endpoint, failuresSince endpoint (performed core
      (admission settings permit now) (.committed (.acquire permit) now core.clock)).log =
      failuresSince endpoint core.log := fun endpoint => failuresSince_concat endpoint core.log
  refine ⟨fun key hkey => ?_, fun endpoint => ?_, fun endpoint entry hentry => ?_,
    clock_le_performed h rfl, ?_⟩
  · obtain ⟨other, hother⟩ := hkey
    have hinactive := (rateKey_ne hother).1
    rw [rationed_note_acquire]
    by_cases hrate : rateKey settings permit = some key
    · rw [if_pos hrate]
      refine records_performed_enter (h.rates key ⟨other, hother⟩) ?_ hnow
        (fresh_rationed hcounted hfresh) ?_
      · refine hquiet (.inr key) ?_
        obtain ⟨rate, hlimit, rfl⟩ := Option.map_eq_some_iff.mp hrate
        exact mem_watched_rate hdevice hlimit
      · rw [sets_admission_inactive hinactive]
        exact if_pos hrate
    · rw [if_neg hrate, List.append_nil]
      refine records_performed_same (h.rates key ⟨other, hother⟩) ?_
      rw [sets_admission_inactive hinactive]
      exact if_neg hrate
  · rw [hfailures]
    refine records_performed_same (h.failures endpoint) ?_
    rw [sets_admission_inactive rfl]
    exact if_neg fun hrate => (rateKey_ne hrate).2 endpoint rfl
  · rw [hfailures] at hentry
    exact mem_drawn_note (h.drawn endpoint entry hentry)
  · refine h.marked rfl (fun endpoint limit _ => htexts endpoint limit) fun endpoint hbegins => ?_
    exact absurd hbegins (not_beginsCooldown (by simp))

/-- A permit is released. -/
lemma Recorded.release {permit : ConnectionPermit} {now : ℤ} (h : Recorded settings core) :
    Recorded settings (performed core (releaseCommands permit)
      (.committed (.release permit) now core.clock)) := by
  have hsets : ∀ key, key.isActive = false →
      (performAll core.clock core.store (releaseCommands permit)).sets key =
        core.store.sets key := by
    intro key hinactive
    rw [sets_release, if_neg]
    intro hkey
    rw [isActive_of_mem hkey] at hinactive
    cases hinactive
  have hfailures : ∀ endpoint, failuresSince endpoint (performed core (releaseCommands permit)
      (.committed (.release permit) now core.clock)).log = failuresSince endpoint core.log :=
    fun endpoint => failuresSince_concat endpoint core.log
  refine ⟨fun key hkey => ?_, fun endpoint => ?_, fun endpoint entry hentry => ?_,
    clock_le_performed h rfl, ?_⟩
  · obtain ⟨other, hother⟩ := hkey
    rw [rationed_note_other rfl]
    exact records_performed_same (h.rates key ⟨other, hother⟩) (hsets key (rateKey_ne hother).1)
  · rw [hfailures]
    exact records_performed_same (h.failures endpoint) (hsets _ rfl)
  · rw [hfailures] at hentry
    exact mem_drawn_note (h.drawn endpoint entry hentry)
  · refine h.marked rfl ?_ fun endpoint hbegins => ?_
    · rintro endpoint limit - ⟨time, htext, htime⟩
      refine ⟨time, ?_, htime⟩
      rw [texts_release, if_neg (by simp), htext]
    · exact absurd hbegins (not_beginsCooldown (by simp))

/-- Authentication has succeeded at an endpoint. -/
lemma Recorded.succeeded {target : ConnectionTarget} (h : Recorded settings core) :
    Recorded settings (performed core [.deleteSet (.authenticationFailures target.endpoint)]
      (.ordered (.authenticationSucceeded target) core.clock)) := by
  have hfailures : ∀ endpoint, failuresSince endpoint (performed core
      [.deleteSet (.authenticationFailures target.endpoint)]
      (.ordered (.authenticationSucceeded target) core.clock)).log =
      if target.endpoint = endpoint then [] else failuresSince endpoint core.log :=
    fun endpoint => failuresSince_concat endpoint core.log
  have hsets : ∀ key, key ≠ .authenticationFailures target.endpoint →
      (performAll core.clock core.store
        [.deleteSet (.authenticationFailures target.endpoint)]).sets key = core.store.sets key :=
    fun key hkey => Function.update_of_ne hkey _ _
  refine ⟨fun key hkey => ?_, fun endpoint => ?_, fun endpoint entry hentry => ?_,
    clock_le_performed h rfl, ?_⟩
  · obtain ⟨other, hother⟩ := hkey
    rw [rationed_note_other rfl]
    exact records_performed_same (h.rates key ⟨other, hother⟩) (hsets key ((rateKey_ne hother).2 _))
  · rw [hfailures]
    by_cases hendpoint : target.endpoint = endpoint
    · subst hendpoint
      have hgone : (performed core [.deleteSet (.authenticationFailures target.endpoint)]
          (.ordered (.authenticationSucceeded target) core.clock)).store.sets
            (.authenticationFailures target.endpoint) = absent := Function.update_self _ _ _
      rw [if_pos rfl, hgone]
      exact records_absent
    · rw [if_neg hendpoint]
      refine records_performed_same (h.failures endpoint) (hsets _ fun heq => hendpoint ?_)
      exact (SetKey.authenticationFailures.inj heq).symm
  · rw [hfailures] at hentry
    split at hentry
    · cases hentry
    · exact mem_drawn_note (h.drawn endpoint entry hentry)
  · refine h.marked rfl (fun _ _ _ hmarked => hmarked) fun endpoint hbegins => ?_
    exact absurd hbegins (not_beginsCooldown (by simp))

/-- A failure is recorded, and begins a cooldown where it should. -/
lemma Recorded.failed {target : ConnectionTarget} {identifier : Uuid} {now : ℤ}
    (h : Recorded settings core) (hnow : now ≤ core.clock)
    (hquiet : QuietSince settings core (.authenticationFailed target identifier) now)
    (hfresh : identifier ∉ core.drawn (gate settings)) :
    Recorded settings (performed core (failureCommands settings target identifier now
        (core.store.zcount (.authenticationFailures target.endpoint)
          (now - settings.failureWindow)))
      (.committed (.authenticationFailed target identifier) now core.clock)) := by
  have hfailures : ∀ endpoint, failuresSince endpoint (core.log ++
      [.committed (.authenticationFailed target identifier) now core.clock]) =
      if target.endpoint = endpoint then
        failuresSince endpoint core.log ++ [(identifier, now)]
      else failuresSince endpoint core.log :=
    fun endpoint => failuresSince_concat endpoint core.log
  have hchanged : core.changedAt (.inr (.authenticationFailures target.endpoint)) ≤ now :=
    hquiet _ List.mem_cons_self
  refine ⟨fun key hkey => ?_, fun endpoint => ?_, fun endpoint entry hentry => ?_,
    clock_le_performed h rfl, ?_⟩
  · obtain ⟨other, hother⟩ := hkey
    rw [rationed_note_other rfl]
    refine records_performed_same (h.rates key ⟨other, hother⟩) ?_
    rw [sets_failure, if_neg ((rateKey_ne hother).2 _)]
  · change Records _ _ _ (failuresSince endpoint (core.log ++ _))
    rw [hfailures]
    by_cases hendpoint : target.endpoint = endpoint
    · subst hendpoint
      rw [if_pos rfl]
      refine records_performed_enter (h.failures target.endpoint) hchanged hnow
        (h.fresh_failures target.endpoint hfresh) ?_
      rw [sets_failure, if_pos rfl]
    · rw [if_neg hendpoint]
      refine records_performed_same (h.failures endpoint) ?_
      rw [sets_failure, if_neg fun heq => hendpoint ?_]
      exact (SetKey.authenticationFailures.inj heq).symm
  · change entry ∈ failuresSince endpoint (core.log ++ _) at hentry
    rw [hfailures] at hentry
    split at hentry
    · rcases List.mem_append.mp hentry with hold | hnew
      · exact mem_drawn_note (h.drawn endpoint entry hold)
      · rw [List.mem_singleton.mp hnew]
        exact mem_drawn_note_self rfl
    · exact mem_drawn_note (h.drawn endpoint entry hentry)
  · refine h.marked rfl ?_ ?_
    · rintro endpoint limit hlimit ⟨time, htext, htime⟩
      rw [Marked, texts_failure]
      split
      · exact ⟨_, rfl, hlimit⟩
      · exact ⟨time, htext, htime⟩
    · rintro endpoint ⟨target', identifier', time, clock, heq, rfl, hreached⟩
      obtain ⟨hrequest, rfl, rfl⟩ := Event.committed.inj heq
      obtain ⟨rfl, rfl⟩ := GateRequest.authenticationFailed.inj hrequest
      -- the failures that the log has in the window are counted in the store
      have hcount := (h.failures target.endpoint).length_recent_le hchanged
      rw [hfailures, if_pos rfl] at hreached
      have hlength := hreached.trans (length_recent_concat_le now (identifier, now))
      refine ⟨_, (texts_failure _).trans (if_pos ⟨rfl, ?_⟩), le_rfl⟩
      exact hlength.trans (Nat.succ_le_succ hcount)

/-- The store agrees with the log after every step of the gate. -/
lemma Recorded.step {core' : GateCore} (h : Recorded settings core)
    (hcounted : Counted settings core) (hle : ∀ key, core.changedAt key ≤ core.clock)
    (hstep : GateStep settings core core') : Recorded settings core' := by
  cases hstep with
  | quiet => exact h
  | tick duration => exact h.tick hle duration
  | acquire hadmits hnow hquiet hfresh =>
    exact h.acquire hcounted hnow hquiet hadmits.names_device hfresh
  | failed hnow hquiet hfresh => exact h.failed hnow hquiet hfresh
  | release => exact h.release
  | succeeded target => exact h.succeeded

end Steps


/-! ## Rates -/

/-- How many admissions a window allows. -/
def rateLimitOf (settings : GateSettings) : SetKey → ℕ
  | .connectionTestRate _ => settings.connectionTestRateLimit
  | .terminalRate _ => settings.terminalOpenRateLimit
  | _ => 0

/-- The limit of a rate is that of its key. -/
lemma rateLimit_eq {operation : ConnectionOperation} {target : ConnectionTarget} {key : SetKey}
    {limit : ℕ} (h : rateLimit settings operation target = some (key, limit)) :
    limit = rateLimitOf settings key := by
  cases operation with
  | connectionTest =>
    obtain ⟨rfl, rfl⟩ := Prod.mk.inj (Option.some.inj h)
    rfl
  | terminal =>
    obtain ⟨deviceId, -, heq⟩ := Option.map_eq_some_iff.mp h
    obtain ⟨rfl, rfl⟩ := Prod.mk.inj heq
    rfl
  | structuredRead => cases h
  | structuredWrite => cases h

/-- The rates are kept by every step of the gate. -/
lemma RatesHold.step {core' : GateCore} (h : RatesHold settings core)
    (hrecorded : Recorded settings core) (hstep : GateStep settings core core') :
    RatesHold settings core' := by
  intro operation target key limit hlimit time
  have hbefore := h operation target key limit hlimit
  cases hstep with
  | quiet => exact hbefore time
  | tick duration => exact hbefore time
  | failed =>
    rw [rationed_note_other rfl]
    exact hbefore time
  | release =>
    rw [rationed_note_other rfl]
    exact hbefore time
  | succeeded target =>
    rw [rationed_note_other rfl]
    exact hbefore time
  | @acquire permit now hadmits hnow hquiet hfresh =>
    rw [rationed_note_acquire]
    by_cases hrate : rateKey settings permit = some key
    · rw [if_pos hrate]
      obtain ⟨⟨key', limit'⟩, hlimit', heq⟩ := Option.map_eq_some_iff.mp hrate
      obtain rfl : key' = key := heq
      obtain rfl : limit' = limit := (rateLimit_eq hlimit').trans (rateLimit_eq hlimit).symm
      have hrecords := hrecorded.rates key' ⟨permit, hrate⟩
      have hchanged : core.changedAt (.inr key') ≤ now :=
        hquiet _ (mem_watched_rate hadmits.names_device hlimit')
      refine length_recent_concat (fun entry hentry => ?_) ?_ hbefore time
      · exact (hrecords.time_le entry hentry).trans hchanged
      · exact lt_of_le_of_lt (hrecords.length_recent_le hchanged) (hadmits.rate key' limit' hlimit')
    · rw [if_neg hrate, List.append_nil]
      exact hbefore time

/-- At the beginning the rates hold. -/
lemma ratesHold_initial (clock : ℤ) : RatesHold settings (Core.initial clock : GateCore) :=
  fun _ _ _ _ _ _ => Nat.zero_le _

/-! ## Other endpoints -/

/-- What an `acquire` watches are the cooldown of its endpoint, its permit, and sets that hold no
failures. -/
lemma watched_acquire {permit : ConnectionPermit} {key : TextKey ⊕ SetKey}
    (h : key ∈ (acquire settings permit).watched) :
    key = .inl (.authenticationCooldown permit.target.endpoint) ∨
      key = .inl (.permit permit.identifier) ∨
      ∃ set, key = .inr set ∧ ∀ endpoint, set ≠ .authenticationFailures endpoint := by
  rw [acquire] at h
  split at h
  · rcases List.mem_append.mp h with hfirst | hrate
    · rcases List.mem_cons.mp hfirst with rfl | hfirst
      · exact Or.inl rfl
      · rcases List.mem_cons.mp hfirst with rfl | hactive
        · exact Or.inr (Or.inl rfl)
        · obtain ⟨set, hset, rfl⟩ := List.mem_map.mp hactive
          refine Or.inr (Or.inr ⟨set, rfl, ?_⟩)
          rintro endpoint rfl
          have hactive := isActive_of_mem hset
          cases hactive
    · obtain ⟨rate, hlimit, rfl⟩ := Option.map_eq_some_iff.mp (Option.mem_toList.mp hrate)
      have hkey : rateKey settings permit = some rate.1 :=
        Option.map_eq_some_iff.mpr ⟨rate, hlimit, rfl⟩
      exact Or.inr (Or.inr ⟨rate.1, rfl, (rateKey_ne hkey).2⟩)
  · cases h

/-- A failure that is recorded changes nothing that an `acquire` for another endpoint watches. -/
lemma sameAt_failure {target : ConnectionTarget} {identifier : Uuid} {now : ℤ} {failures : ℕ}
    {permit : ConnectionPermit} (hother : permit.target.endpoint ≠ target.endpoint)
    {key : TextKey ⊕ SetKey} (hkey : key ∈ (acquire settings permit).watched) :
    SameAt core.store (performAll core.clock core.store
      (failureCommands settings target identifier now failures)) key := by
  rcases watched_acquire hkey with rfl | rfl | ⟨set, rfl, hset⟩
  · refine (texts_failure _).trans (if_neg fun h => hother ?_)
    exact TextKey.authenticationCooldown.inj h.1
  · exact (texts_failure _).trans (if_neg (by simp))
  · exact (sets_failure set).trans (if_neg (hset _))

/-- That authentication has succeeded changes nothing that an `acquire` watches. -/
lemma sameAt_succeeded {target : ConnectionTarget} {permit : ConnectionPermit}
    {key : TextKey ⊕ SetKey} (hkey : key ∈ (acquire settings permit).watched) :
    SameAt core.store (performAll core.clock core.store
      [.deleteSet (.authenticationFailures target.endpoint)]) key := by
  rcases watched_acquire hkey with rfl | rfl | ⟨set, rfl, hset⟩
  · rfl
  · rfl
  · exact Function.update_of_ne (hset _) _ _

/-! ## Every run -/

variable {C : Type}

/-- A step is about the authentication at an endpoint. -/
def AboutAuthentication (w : GateWorld C) (action : GateAction C) (endpoint : Endpoint) : Prop :=
  (∃ client target identifier, action.client? = some client ∧
    (w.clients client).request? = some (.authenticationFailed target identifier) ∧
    target.endpoint = endpoint) ∨
  ∃ target, action = .order (.authenticationSucceeded target) ∧ target.endpoint = endpoint

/-- What a step of the gate keeps: the rates and the cooldown, and what neither failures nor
refused admissions are to change. -/
structure KeepsRates (settings : GateSettings) (w : GateWorld C) (action : GateAction C)
    (w' : GateWorld C) : Prop where
  rates : RatesHold settings w'.core
  /-- At an endpoint that is cooling, no `acquire` is performed, of whichever client. -/
  cooling : ∀ client permit, action.client? = some client →
    (w.clients client).request? = some (.acquire permit) →
    Cooling settings w.core permit.target.endpoint →
      w'.core = w.core ∧ w'.clients client ≠ .ended (.acquire permit) .performed
  /-- An `acquire` that reads there is refused because of the cooldown. -/
  refusal : ∀ permit, namesDevice permit = true →
    Cooling settings w'.core permit.target.endpoint →
      ∀ now, (((gate settings).transaction (.acquire permit)).body now).eval w'.core.store =
        .error (.error DeviceAuthenticationRateLimitedError)
  /-- What authentication comes to at one endpoint disturbs no `acquire` for another, and changes
  none of its reads. -/
  others : ∀ endpoint, AboutAuthentication w action endpoint →
    ∀ permit : ConnectionPermit, permit.target.endpoint ≠ endpoint →
      (∀ key ∈ ((gate settings).transaction (.acquire permit)).watched,
        w'.versions key = w.versions key) ∧
      ∀ now, (((gate settings).transaction (.acquire permit)).body now).eval w'.core.store =
        (((gate settings).transaction (.acquire permit)).body now).eval w.core.store
  /-- An `acquire` that is not performed uses nothing up. -/
  refused : ∀ client permit, action.client? = some client →
    (w.clients client).request? = some (.acquire permit) →
      w'.clients client ≠ .ended (.acquire permit) .performed → w'.core = w.core

/-- What is known of every world that is reached. -/
structure RatesInvariant (settings : GateSettings) (w : GateWorld C) : Prop where
  gate : GateInvariant settings w
  recorded : Recorded settings w.core
  rates : RatesHold settings w.core

/-- The invariant holds at the beginning. -/
lemma ratesInvariant_initial (clock : ℤ) :
    RatesInvariant settings (World.initial clock : GateWorld C) where
  gate := gateInvariant_initial clock
  recorded := recorded_initial clock
  rates := ratesHold_initial clock

/-- An endpoint that is cooling has its mark. -/
lemma Recorded.get_cooldown (h : Recorded settings core) {endpoint : Endpoint}
    (hcooling : Cooling settings core endpoint) :
    core.store.get (.authenticationCooldown endpoint) = some .mark := by
  obtain ⟨front, event, back, hlog, hbegins, hbefore⟩ := hcooling
  obtain ⟨time, htext, -⟩ := h.cooldown endpoint front event back hlog hbegins hbefore
  exact congrArg Timed.value htext

/-- An `acquire` that finds the mark is refused. -/
lemma eval_acquire_cooling {permit : ConnectionPermit} {store : GateStore} {text : GateText}
    {now : ℤ} (hdevice : namesDevice permit = true)
    (h : store.get (.authenticationCooldown permit.target.endpoint) = some text) :
    ((acquire settings permit).body now).eval store =
      .error (.error DeviceAuthenticationRateLimitedError) := by
  rw [acquire, if_pos hdevice]
  change (admitPermit settings permit now).eval store = _
  rw [admitPermit, Callback.eval, h]
  rfl

/-- What authentication comes to changes nothing that an `acquire` for another endpoint watches. -/
lemma sameAt_of_step [DecidableEq C] {w w' : GateWorld C} {action : GateAction C}
    {endpoint : Endpoint} {permit : ConnectionPermit} (h : Sound (gate settings) w)
    (habout : AboutAuthentication w action endpoint) (hother : permit.target.endpoint ≠ endpoint)
    (hstep : step (gate settings) w action = some w') {key : TextKey ⊕ SetKey}
    (hkey : key ∈ (acquire settings permit).watched) :
    SameAt w.core.store w'.core.store key := by
  rcases habout with ⟨client, target, identifier, hclient, hrequest, rfl⟩ | ⟨target, rfl, rfl⟩
  · rcases core_of_step h hclient hrequest hstep with ⟨hcore, -⟩ | ⟨-, now, commands, heval, hcore⟩
    · rw [hcore]
      exact sameAt_refl key
    · obtain rfl := eval_authenticationFailed heval
      rw [hcore]
      exact sameAt_failure hother hkey
  · obtain rfl := Option.some.inj hstep
    exact sameAt_succeeded hkey

/-- A step keeps to the rates and keeps the invariant. -/
lemma keepsRates_of_step [DecidableEq C] {w w' : GateWorld C} {action : GateAction C}
    (h : RatesInvariant settings w) (hstep : step (gate settings) w action = some w') :
    KeepsRates settings w action w' ∧ RatesInvariant settings w' := by
  obtain ⟨-, hgate⟩ := keepsLimits_of_step h.gate hstep
  have hsound := h.gate.sound
  have hmoves := gateStep_of_evolves (evolves_of_step hsound hstep).2
  have hrecorded := h.recorded.step h.gate.counted hsound.changedAt_le hmoves
  have hrates := h.rates.step h.recorded hmoves
  refine ⟨⟨hrates, ?_, ?_, ?_, ?_⟩, hgate, hrecorded, hrates⟩
  · intro client permit hclient hrequest hcooling
    rcases core_of_step hsound hclient hrequest hstep with hcore | ⟨-, now, commands, heval, -⟩
    · exact hcore
    · have hmark := h.recorded.get_cooldown hcooling
      have hnone := (admits_of_eval heval).1.cooldown
      rw [hmark] at hnone
      cases hnone
  · exact fun permit hdevice hcooling now =>
      eval_acquire_cooling hdevice (hrecorded.get_cooldown hcooling)
  · intro endpoint habout permit hother
    have hsame : ∀ key ∈ ((gate settings).transaction (.acquire permit)).watched,
        SameAt w.core.store w'.core.store key :=
      fun key hkey => sameAt_of_step hsound habout hother hstep hkey
    refine ⟨fun key hkey => versions_of_step hstep (hsame key hkey), fun now => ?_⟩
    exact Callback.eval_congr hsame (((gate settings).transaction (.acquire permit)).readsOnly now)
  · intro client permit hclient hrequest hended
    rcases core_of_step hsound hclient hrequest hstep with ⟨hcore, -⟩ | ⟨hperformed, -⟩
    · exact hcore
    · exact absurd hperformed hended

/-- Whatever the clients of a gate do, and in whichever order they take their steps, the rates and
the cooldowns are kept, failures at one endpoint do not disturb another, and an `acquire` that is
refused uses nothing up. -/
theorem along_keepsRates [DecidableEq C] (settings : GateSettings) (clock : ℤ)
    (actions : List (GateAction C)) :
    Along (step (gate settings)) (KeepsRates settings) (World.initial clock) actions :=
  along_of_inv (fun _ _ _ h hstep _ => keepsRates_of_step h hstep)
    (ratesInvariant_initial clock) (along_true _ actions)

end Terraformer.Admission
