import Terraformer.Transitions

/-!
# The allowance of Auto mode

`apply_change_plan` for requests that carry one assistant session, and `set_mode`.  A request
locks and loads the row of the session, checks its plan and the device, commits the job (with that
the lock is gone), hands it to the queue, and at last writes the count it has loaded, plus one.
Each of these transactions is one action of `step`; those of any number of requests come in any
order, but for the row lock: while a request holds it no other loads or writes the row.

Whether the plan is a draft, the device free and the queue there is given from outside, by the
action that a request takes next.  `along_keepsAllowance` says when the count is right.
-/

namespace Terraformer.Changes.Allowance

/-- `AssistantSessionMode`. -/
inductive AssistantSessionMode where
  | confirm
  | auto
  deriving DecidableEq

/-- `MAX_AUTO_APPLIES_PER_SESSION`. -/
def maxAutoAppliesPerSession : ℕ := 5

/-- Where a request is in `apply_change_plan`.  Its object of the session is the count as it was
loaded, or `none` for a session that is not in Auto mode. -/
inductive ApplyRequest where
  | idle
  | refused
  /-- The row of the session is locked and loaded. -/
  | checking (chatSession : Option ℕ)
  /-- The job is committed, and the queue is called. -/
  | queueing (chatSession : Option ℕ)
  /-- The queue has taken the job; the apply is still to be counted. -/
  | queued (autoApplyCount : ℕ)
  | done
  deriving DecidableEq

/-- What has happened to the allowance. -/
inductive Event (ι : Type) where
  | switchedToAuto
  /-- The queue has taken the job of a request in Auto mode. -/
  | enqueued (request : ι)
  deriving DecidableEq

/-- The row of the session with its lock, the requests, and what has happened, the latest first. -/
structure World (ι : Type) where
  mode : AssistantSessionMode
  autoApplyCount : ℕ
  lock : Option ι
  requests : ι → ApplyRequest
  log : List (Event ι)

/-- A session that was just created. -/
def World.initial {ι : Type} : World ι := ⟨.confirm, 0, none, fun _ => .idle, []⟩

/-- What may happen next to the session, or to a request that it sent. -/
inductive Action (ι : Type) where
  /-- `AssistantChatService.set_mode`. -/
  | setMode (mode : AssistantSessionMode) (riskAcknowledged : Bool)
  /-- `sessions.get(…, for_update=True)`, and the check of the count. -/
  | load (request : ι)
  /-- The plan is no draft, or its device is locked or gone. -/
  | refuse (request : ι)
  /-- The checks have passed, and the job is committed. -/
  | insert (request : ι)
  | queueTakes (request : ι)
  | queueRaises (request : ι)
  /-- `record_auto_apply` and the commit behind it. -/
  | recordAutoApply (request : ι)

variable {ι : Type} [DecidableEq ι]

/-- A request moves on. -/
def World.put (w : World ι) (i : ι) (request : ApplyRequest) : World ι :=
  { w with requests := Function.update w.requests i request }

/-- A request is where it was put. -/
@[simp] lemma World.requests_put_self (w : World ι) (i : ι) (request : ApplyRequest) :
    (w.put i request).requests i = request :=
  Function.update_self ..

/-- Putting a request leaves the others. -/
lemma World.requests_put_of_ne (w : World ι) {i j : ι} (h : j ≠ i) (request : ApplyRequest) :
    (w.put i request).requests j = w.requests j :=
  Function.update_of_ne h ..

/-- One transaction. -/
def step (w : World ι) : Action ι → Option (World ι)
  | .setMode mode riskAcknowledged =>
    if w.lock ≠ none then none
    else if mode = .auto then
      if riskAcknowledged then
        some { w with mode := .auto, autoApplyCount := 0, log := .switchedToAuto :: w.log }
      else some w
    else some { w with mode := mode }
  | .load i =>
    if w.lock ≠ none ∨ w.requests i ≠ .idle then none
    else if w.mode = .auto then
      if maxAutoAppliesPerSession ≤ w.autoApplyCount then some (w.put i .refused)
      else some { w.put i (.checking (some w.autoApplyCount)) with lock := some i }
    else some { w.put i (.checking none) with lock := some i }
  | .refuse i =>
    match w.requests i with
    | .checking _ => some { w.put i .refused with lock := none }
    | _ => none
  | .insert i =>
    match w.requests i with
    | .checking chatSession => some { w.put i (.queueing chatSession) with lock := none }
    | _ => none
  | .queueTakes i =>
    match w.requests i with
    | .queueing (some count) =>
      some { w.put i (.queued count) with log := .enqueued i :: w.log }
    | .queueing none => some (w.put i .done)
    | _ => none
  | .queueRaises i =>
    match w.requests i with
    | .queueing _ => some (w.put i .refused)
    | _ => none
  | .recordAutoApply i =>
    match w.requests i with
    | .queued count =>
      if w.lock ≠ none then none
      else some { w.put i .done with autoApplyCount := count + 1 }
    | _ => none

/-! ## The allowance -/

/-- How many applies were enqueued since the session was last switched to Auto mode. -/
def enqueuedSince (log : List (Event ι)) : ℕ := (log.takeWhile (· ≠ .switchedToAuto)).length

/-- The switch to automatic mode starts the count. -/
@[simp] lemma enqueuedSince_switched (log : List (Event ι)) :
    enqueuedSince (.switchedToAuto :: log) = 0 := by
  simp [enqueuedSince]

/-- Every enqueued job counts. -/
@[simp] lemma enqueuedSince_enqueued (i : ι) (log : List (Event ι)) :
    enqueuedSince (.enqueued i :: log) = enqueuedSince log + 1 := by
  simp [enqueuedSince]

namespace ApplyRequest

/-- The request has begun and not ended. -/
def inFlight : ApplyRequest → Bool
  | checking _ | queueing _ | queued _ => true
  | idle | refused | done => false

/-- The count that a request has loaded and is going to write. -/
def loaded : ApplyRequest → Option ℕ
  | checking chatSession | queueing chatSession => chatSession
  | queued count => some count
  | idle | refused | done => none

/-- The job is committed in Auto mode, and its apply is not counted. -/
def uncounted : ApplyRequest → Bool
  | queueing chatSession => chatSession.isSome
  | queued _ => true
  | idle | refused | checking _ | done => false

end ApplyRequest

/-- What one step leaves of the allowance. -/
structure KeepsAllowance (s : World ι) (_ : Action ι) (t : World ι) : Prop where
  bounded : enqueuedSince t.log ≤ maxAutoAppliesPerSession
  counted : (∀ i, (t.requests i).inFlight = false) → t.autoApplyCount = enqueuedSince t.log
  /-- A request that is refused was not enqueued, and the step that refuses it changes nothing. -/
  refused : ∀ i, t.requests i = .refused → .enqueued i ∉ t.log ∧
    (s.requests i ≠ .refused → t.autoApplyCount = s.autoApplyCount ∧ t.log = s.log)

/-- No request in Auto mode commits its job, and the session is not switched to Auto mode, while
another request has committed its own and not counted it yet. -/
def Undisturbed (s : World ι) (a : Action ι) (_ : World ι) : Prop :=
  match a with
  | .insert i => (s.requests i).loaded.isSome = true → ∀ j, (s.requests j).uncounted = false
  | .setMode mode riskAcknowledged =>
    mode = .auto → riskAcknowledged = true → ∀ j, (s.requests j).uncounted = false
  | _ => True

/-- Whether an action is undisturbed can be decided when the requests are finitely many. -/
instance [Fintype ι] (s t : World ι) (a : Action ι) : Decidable (Undisturbed s a t) :=
  match a with
  | .insert i => inferInstanceAs (Decidable ((s.requests i).loaded.isSome = true →
      ∀ j, (s.requests j).uncounted = false))
  | .setMode mode riskAcknowledged => inferInstanceAs (Decidable (mode = .auto →
      riskAcknowledged = true → ∀ j, (s.requests j).uncounted = false))
  | .load _ | .refuse _ | .queueTakes _ | .queueRaises _ | .recordAutoApply _ =>
    inferInstanceAs (Decidable True)

/-! ## The invariant -/

/-- The row is as every request has loaded it that is going to write it, and is behind what was
enqueued by the one that the queue has taken. -/
structure Counted (w : World ι) : Prop where
  locked : ∀ i chatSession, w.requests i = .checking chatSession → w.lock = some i
  current : ∀ i count, (w.requests i).loaded = some count →
    w.autoApplyCount = count ∧ count < maxAutoAppliesPerSession
  single : ∀ i j, (w.requests i).uncounted = true → (w.requests j).uncounted = true → i = j
  settled : (∀ i count, w.requests i ≠ .queued count) → enqueuedSince w.log = w.autoApplyCount
  taken : ∀ i count, w.requests i = .queued count → enqueuedSince w.log = w.autoApplyCount + 1
  within : w.autoApplyCount ≤ maxAutoAppliesPerSession
  logged : ∀ i, .enqueued i ∈ w.log →
    w.requests i = .done ∨ ∃ count, w.requests i = .queued count

/-- The invariant holds at the beginning. -/
lemma counted_initial : Counted (World.initial : World ι) where
  locked := fun _ _ h => by cases h
  current := fun _ _ h => by cases h
  single := fun _ _ h => by cases h
  settled := fun _ => rfl
  taken := fun _ _ h => by cases h
  within := Nat.zero_le _
  logged := fun _ h => by cases h

namespace Counted

variable {w t : World ι}

/-- The row is never behind what was enqueued by more than the allowance. -/
lemma bounded (h : Counted w) : enqueuedSince w.log ≤ maxAutoAppliesPerSession := by
  by_cases hqueued : ∀ i count, w.requests i ≠ .queued count
  · rw [h.settled hqueued]
    exact h.within
  · push Not at hqueued
    obtain ⟨i, count, hi⟩ := hqueued
    obtain ⟨hcount, hlt⟩ := h.current i count (by rw [hi]; rfl)
    rw [h.taken i count hi, hcount]
    exact hlt

/-- Between the requests the counter is the number of jobs that were enqueued. -/
lemma counted (h : Counted w) (hidle : ∀ i, (w.requests i).inFlight = false) :
    w.autoApplyCount = enqueuedSince w.log := by
  refine (h.settled fun i count hi => ?_).symm
  have := hidle i
  rw [hi] at this
  cases this

/-- A request that is not through has logged no job. -/
lemma not_logged (h : Counted w) {i : ι} (hdone : w.requests i ≠ .done)
    (hqueued : ∀ count, w.requests i ≠ .queued count) : .enqueued i ∉ w.log := by
  intro hi
  rcases h.logged i hi with hi | ⟨count, hi⟩
  · exact hdone hi
  · exact hqueued count hi

/-- What a step is said to keep follows from the invariant behind it, but for its refusals. -/
lemma keeps {s t : World ι} {a : Action ι} (h : Counted t)
    (hrefused : ∀ i, t.requests i = .refused → s.requests i ≠ .refused →
      t.autoApplyCount = s.autoApplyCount ∧ t.log = s.log) : KeepsAllowance s a t where
  bounded := h.bounded
  counted := h.counted
  refused i hi :=
    ⟨h.not_logged (by rw [hi]; simp) (by rw [hi]; simp), hrefused i hi⟩

/-- A request moves on without the queue and without the count. -/
lemma move (h : Counted w) {i : ι} {request : ApplyRequest} {lock : Option ι}
    (hold : (w.requests i ≠ .done) ∧ ∀ count, w.requests i ≠ .queued count)
    (hnew : ∀ count, request ≠ .queued count)
    (hlock : (∀ chatSession, request = .checking chatSession → lock = some i) ∧
      ∀ j, j ≠ i → ∀ chatSession, w.requests j = .checking chatSession → lock = some j)
    (hloaded : ∀ count, request.loaded = some count →
      w.autoApplyCount = count ∧ count < maxAutoAppliesPerSession)
    (huncounted : request.uncounted = true → ∀ j, j ≠ i → (w.requests j).uncounted = false) :
    Counted { w.put i request with lock := lock } := by
  have hself : (w.put i request).requests i = request := w.requests_put_self i request
  have hother : ∀ j, j ≠ i → (w.put i request).requests j = w.requests j :=
    fun j hj => w.requests_put_of_ne hj request
  refine ⟨fun j chatSession hj => ?_, fun j count hj => ?_, fun j k hj hk => ?_, fun hnone => ?_,
    fun j count hj => ?_, h.within, fun j hj => ?_⟩
  · by_cases hji : j = i
    · subst hji
      exact hlock.1 chatSession (hself.symm.trans hj)
    · exact hlock.2 j hji chatSession ((hother j hji).symm.trans hj)
  · by_cases hji : j = i
    · subst hji
      exact hloaded count ((congrArg ApplyRequest.loaded hself).symm.trans hj)
    · exact h.current j count ((congrArg ApplyRequest.loaded (hother j hji)).symm.trans hj)
  · dsimp only at hj hk
    by_cases hji : j = i
    · by_cases hki : k = i
      · rw [hji, hki]
      · rw [hji, hself] at hj
        rw [hother k hki, huncounted hj k hki] at hk
        cases hk
    · by_cases hki : k = i
      · rw [hki, hself] at hk
        rw [hother j hji, huncounted hk j hji] at hj
        cases hj
      · rw [hother j hji] at hj
        rw [hother k hki] at hk
        exact h.single j k hj hk
  · refine h.settled fun j count hj => ?_
    have hji : j ≠ i := by
      rintro rfl
      exact hold.2 count hj
    exact hnone j count ((hother j hji).trans hj)
  · by_cases hji : j = i
    · subst hji
      exact absurd (hself.symm.trans hj) (hnew count)
    · exact h.taken j count ((hother j hji).symm.trans hj)
  · have hji : j ≠ i := by
      rintro rfl
      exact h.not_logged hold.1 hold.2 hj
    rw [show ({ w.put i request with lock := lock } : World ι).requests j = w.requests j from
      hother j hji]
    exact h.logged j hj

end Counted

/-! ### One step -/

/-- A request that has loaded a count is checking it, or does not count yet. -/
lemma ApplyRequest.checking_or_uncounted {request : ApplyRequest} {count : ℕ}
    (h : request.loaded = some count) :
    request = .checking (some count) ∨ request.uncounted = true := by
  cases request with
  | checking chatSession => exact Or.inl (congrArg _ h)
  | queueing chatSession =>
    obtain rfl : chatSession = some count := h
    exact Or.inr rfl
  | queued count => exact Or.inr rfl
  | idle | refused | done => cases h

namespace Counted

variable {w : World ι}

/-- While nobody holds the lock, only what is uncounted is going to write the row. -/
lemma uncounted_of_loaded (h : Counted w) (hlock : w.lock = none) {i : ι} {count : ℕ}
    (hi : (w.requests i).loaded = some count) : (w.requests i).uncounted = true := by
  rcases ApplyRequest.checking_or_uncounted hi with hi | hi
  · have := h.locked i _ hi
    rw [hlock] at this
    cases this
  · exact hi

/-- The switch to automatic mode keeps the invariant when no request is under way. -/
lemma switch (h : Counted w) (hlock : w.lock = none)
    (hnone : ∀ i, (w.requests i).uncounted = false) :
    Counted { w with
      mode := .auto, autoApplyCount := 0, log := .switchedToAuto :: w.log } where
  locked := h.locked
  current i count hi := by
    have := h.uncounted_of_loaded hlock hi
    rw [hnone i] at this
    cases this
  single := h.single
  settled _ := by classical exact enqueuedSince_switched w.log
  taken i count hi := by
    have := hnone i
    rw [show w.requests i = _ from hi] at this
    cases this
  within := Nat.zero_le _
  logged i hi := h.logged i (List.mem_of_ne_of_mem (by simp) hi)

/-- The queue takes the job of the only request that is uncounted. -/
lemma take (h : Counted w) {i : ι} {count : ℕ} (hi : w.requests i = .queueing (some count)) :
    Counted { w.put i (.queued count) with log := .enqueued i :: w.log } := by
  have hself := w.requests_put_self i (.queued count)
  have hother : ∀ j, j ≠ i → (w.put i (.queued count)).requests j = w.requests j :=
    fun j hj => w.requests_put_of_ne hj _
  have hiuncounted : (w.requests i).uncounted = true := by rw [hi]; rfl
  have hcurrent := h.current i count (by rw [hi]; rfl)
  have honly : ∀ j, (w.requests j).uncounted = true → j = i :=
    fun j hj => h.single j i hj hiuncounted
  have hbefore : enqueuedSince w.log = w.autoApplyCount := by
    refine h.settled fun j c hj => ?_
    obtain rfl := honly j (by rw [hj]; rfl)
    rw [hi] at hj
    cases hj
  refine ⟨fun j chatSession hj => ?_, fun j c hj => ?_, fun j k hj hk => ?_, fun hnone => ?_,
    fun j c hj => ?_, h.within, fun j hj => ?_⟩
  · by_cases hji : j = i
    · subst hji
      cases hself.symm.trans hj
    · exact h.locked j chatSession ((hother j hji).symm.trans hj)
  · by_cases hji : j = i
    · subst hji
      have hcount : some count = some c :=
        (congrArg ApplyRequest.loaded hself).symm.trans hj
      exact Option.some.inj hcount ▸ hcurrent
    · exact h.current j c ((congrArg ApplyRequest.loaded (hother j hji)).symm.trans hj)
  · have hall : ∀ m, ((w.put i (.queued count)).requests m).uncounted = true → m = i := by
      intro m hm
      by_contra hmi
      rw [hother m hmi] at hm
      exact hmi (honly m hm)
    rw [hall j hj, hall k hk]
  · exact absurd hself (hnone i count)
  · show enqueuedSince (.enqueued i :: w.log) = _
    rw [enqueuedSince_enqueued, hbefore]
    rfl
  · by_cases hji : j = i
    · subst hji
      exact Or.inr ⟨count, hself⟩
    · rw [show ({ w.put i (.queued count) with log := .enqueued i :: w.log } :
        World ι).requests j = w.requests j from hother j hji]
      exact h.logged j (List.mem_of_ne_of_mem (by simpa using hji) hj)

/-- A request loads the row. -/
lemma load (h : Counted w) {i : ι} (hlock : w.lock = none) (hidle : w.requests i = .idle)
    {chatSession : Option ℕ} (hloaded : ∀ count, chatSession = some count →
      w.autoApplyCount = count ∧ count < maxAutoAppliesPerSession) :
    Counted { w.put i (.checking chatSession) with lock := some i } := by
  refine h.move (by simp [hidle]) (by simp) ⟨fun _ _ => rfl, fun j _ chatSession' hj => ?_⟩
    hloaded (by simp [ApplyRequest.uncounted])
  have hholder := h.locked j chatSession' hj
  rw [hlock] at hholder
  cases hholder

/-- A request ends, and nothing of it is left to be counted. -/
lemma quit (h : Counted w) {i : ι} {request : ApplyRequest} {lock : Option ι}
    (hrequest : request = .refused ∨ request = .done)
    (hold : (w.requests i ≠ .done) ∧ ∀ count, w.requests i ≠ .queued count)
    (hlock : ∀ j, j ≠ i → ∀ chatSession, w.requests j = .checking chatSession → lock = some j) :
    Counted { w.put i request with lock := lock } := by
  rcases hrequest with rfl | rfl
  · exact h.move hold (by simp) ⟨by simp, hlock⟩ (by simp [ApplyRequest.loaded])
      (by simp [ApplyRequest.uncounted])
  · exact h.move hold (by simp) ⟨by simp, hlock⟩ (by simp [ApplyRequest.loaded])
      (by simp [ApplyRequest.uncounted])

/-- While a request checks, no other one does. -/
lemma checking_single (h : Counted w) {i j : ι} {chatSession chatSession' : Option ℕ}
    (hi : w.requests i = .checking chatSession) (hj : w.requests j = .checking chatSession') :
    j = i :=
  Option.some.inj ((h.locked j _ hj).symm.trans (h.locked i _ hi))

/-- The count catches up with what was enqueued. -/
lemma record (h : Counted w) (hlock : w.lock = none) {i : ι} {count : ℕ}
    (hi : w.requests i = .queued count) :
    Counted { w.put i .done with autoApplyCount := count + 1 } := by
  have hself := w.requests_put_self i .done
  have hother : ∀ j, j ≠ i → (w.put i .done).requests j = w.requests j :=
    fun j hj => w.requests_put_of_ne hj _
  obtain ⟨hcount, hlt⟩ := h.current i count (by rw [hi]; rfl)
  have honly : ∀ j, (w.requests j).uncounted = true → j = i :=
    fun j hj => h.single j i hj (by rw [hi]; rfl)
  have hnone : ∀ j, ((w.put i .done).requests j).uncounted = false := by
    intro j
    by_cases hji : j = i
    · subst hji
      rw [hself]
      rfl
    · rw [hother j hji, ← Bool.not_eq_true]
      exact fun hj => hji (honly j hj)
  refine ⟨fun j chatSession hj => ?_, fun j c hj => ?_, fun j k hj _ => ?_, fun _ => ?_,
    fun j c hj => ?_, hlt, fun j hj => ?_⟩
  · by_cases hji : j = i
    · subst hji
      cases hself.symm.trans hj
    · exact h.locked j chatSession ((hother j hji).symm.trans hj)
  · by_cases hji : j = i
    · subst hji
      cases (congrArg ApplyRequest.loaded hself).symm.trans hj
    · have hloaded := (congrArg ApplyRequest.loaded (hother j hji)).symm.trans hj
      exact absurd (honly j (h.uncounted_of_loaded hlock hloaded)) hji
  · have := hnone j
    rw [show ((w.put i .done).requests j).uncounted = true from hj] at this
    cases this
  · show enqueuedSince w.log = count + 1
    rw [h.taken i count hi, hcount]
  · have := hnone j
    rw [show (w.put i .done).requests j = .queued c from hj] at this
    cases this
  · by_cases hji : j = i
    · subst hji
      exact Or.inl hself
    · rw [show ({ w.put i .done with autoApplyCount := count + 1 } : World ι).requests j =
        w.requests j from hother j hji]
      exact h.logged j hj

end Counted

/-- A step of a request that does not refuse another one. -/
lemma refused_put {w : World ι} {i j : ι} {request : ApplyRequest} (hrequest : request ≠ .refused)
    (hj : (w.put i request).requests j = .refused) : w.requests j = .refused := by
  by_cases hji : j = i
  · subst hji
    rw [w.requests_put_self] at hj
    exact absurd hj hrequest
  · rwa [w.requests_put_of_ne hji] at hj

/-- An undisturbed step keeps the row in step with the requests, and the allowance. -/
lemma counted_of_step {s t : World ι} {a : Action ι} (h : Counted s) (hstep : step s a = some t)
    (hC : Undisturbed s a t) : KeepsAllowance s a t ∧ Counted t := by
  have hsame : ∀ u : World ι, u.requests = s.requests → ∀ i, u.requests i = .refused →
      s.requests i ≠ .refused → u.autoApplyCount = s.autoApplyCount ∧ u.log = s.log :=
    fun u hu i hi hnot => absurd (congrFun hu i ▸ hi) hnot
  have hput : ∀ (i : ι) (request : ApplyRequest), request ≠ .refused → ∀ u : World ι,
      u.requests = (s.put i request).requests → ∀ j, u.requests j = .refused →
      s.requests j ≠ .refused → u.autoApplyCount = s.autoApplyCount ∧ u.log = s.log :=
    fun i request hrequest u hu j hj hnot =>
      absurd (refused_put hrequest (congrFun hu j ▸ hj)) hnot
  cases a with
  | setMode mode riskAcknowledged =>
    simp only [step] at hstep
    split_ifs at hstep with hlock hmode hrisk
    · obtain rfl := Option.some.inj hstep
      have ht := h.switch (not_not.mp hlock) (hC hmode hrisk)
      exact ⟨ht.keeps (hsame _ rfl), ht⟩
    · obtain rfl := Option.some.inj hstep
      exact ⟨h.keeps (hsame _ rfl), h⟩
    · obtain rfl := Option.some.inj hstep
      have ht : Counted { s with mode := mode } :=
        ⟨h.locked, h.current, h.single, h.settled, h.taken, h.within, h.logged⟩
      exact ⟨ht.keeps (hsame _ rfl), ht⟩
  | load i =>
    simp only [step] at hstep
    split_ifs at hstep with hguard hmode hfull
    all_goals
      obtain rfl := Option.some.inj hstep
      obtain ⟨hlock, hidle⟩ := not_or.mp hguard
      replace hlock := not_not.mp hlock
      replace hidle := not_not.mp hidle
    · have ht : Counted { s.put i .refused with lock := s.lock } :=
        h.quit (Or.inl rfl) (by simp [hidle]) fun j _ chatSession => h.locked j chatSession
      exact ⟨ht.keeps fun _ _ _ => ⟨rfl, rfl⟩, ht⟩
    · have ht : Counted { s.put i (.checking (some s.autoApplyCount)) with lock := some i } := by
        refine h.load hlock hidle fun count hcount => ?_
        obtain rfl : s.autoApplyCount = count := Option.some.inj hcount
        exact ⟨rfl, not_le.mp hfull⟩
      exact ⟨ht.keeps (hput i _ (by simp) _ rfl), ht⟩
    · have ht : Counted { s.put i (.checking none) with lock := some i } :=
        h.load hlock hidle fun _ hcount => by cases hcount
      exact ⟨ht.keeps (hput i _ (by simp) _ rfl), ht⟩
  | refuse i =>
    simp only [step] at hstep
    split at hstep
    · rename_i chatSession hi
      obtain rfl := Option.some.inj hstep
      have ht : Counted { s.put i .refused with lock := none } :=
        h.quit (Or.inl rfl) (by simp [hi]) fun j hj _ hc => absurd (h.checking_single hi hc) hj
      exact ⟨ht.keeps fun _ _ _ => ⟨rfl, rfl⟩, ht⟩
    · cases hstep
  | insert i =>
    simp only [step] at hstep
    split at hstep
    · rename_i chatSession hi
      obtain rfl := Option.some.inj hstep
      have ht : Counted { s.put i (.queueing chatSession) with lock := none } := by
        refine h.move (by simp [hi]) (by simp)
          ⟨by simp, fun j hj _ hc => absurd (h.checking_single hi hc) hj⟩
          (fun count hcount => h.current i count (by rw [hi]; exact hcount))
          fun huncounted j _ => hC (by rw [hi]; exact huncounted) j
      exact ⟨ht.keeps (hput i _ (by simp) _ rfl), ht⟩
    · cases hstep
  | queueTakes i =>
    simp only [step] at hstep
    split at hstep
    · rename_i count hi
      obtain rfl := Option.some.inj hstep
      have ht := h.take hi
      exact ⟨ht.keeps (hput i _ (by simp) _ rfl), ht⟩
    · rename_i hi
      obtain rfl := Option.some.inj hstep
      have ht : Counted { s.put i .done with lock := s.lock } :=
        h.quit (Or.inr rfl) (by simp [hi]) fun j _ chatSession => h.locked j chatSession
      exact ⟨ht.keeps (hput i _ (by simp) _ rfl), ht⟩
    · cases hstep
  | queueRaises i =>
    simp only [step] at hstep
    split at hstep
    · rename_i chatSession hi
      obtain rfl := Option.some.inj hstep
      have ht : Counted { s.put i .refused with lock := s.lock } :=
        h.quit (Or.inl rfl) (by simp [hi]) fun j _ chatSession => h.locked j chatSession
      exact ⟨ht.keeps fun _ _ _ => ⟨rfl, rfl⟩, ht⟩
    · cases hstep
  | recordAutoApply i =>
    simp only [step] at hstep
    split at hstep
    · rename_i count hi
      split_ifs at hstep with hlock
      obtain rfl := Option.some.inj hstep
      have ht := h.record (not_not.mp hlock) hi
      exact ⟨ht.keeps (hput i _ (by simp) _ rfl), ht⟩
    · cases hstep

/-- In a run whose requests in Auto mode do not overlap between the commit of a job and that of
its count, and that is not switched to Auto mode in between, every step keeps the allowance. -/
theorem along_keepsAllowance {actions : List (Action ι)}
    (h : Along step Undisturbed (World.initial : World ι) actions) :
    Along step KeepsAllowance (World.initial : World ι) actions :=
  along_of_inv (fun _ _ _ hInv hstep hC => counted_of_step hInv hstep hC) counted_initial h

/-- The transactions of an apply that nothing refuses. -/
def applied (request : ι) : List (Action ι) :=
  [.load request, .insert request, .queueTakes request, .recordAutoApply request]

/-- Two applies, the second of which commits its job when the first is counted. -/
def inTurn : List (Action Bool) :=
  .setMode .auto true :: (applied false ++ applied true)

/-- Both applies are counted. -/
theorem keepsAllowance_applied : Along step KeepsAllowance World.initial inTurn ∧
    (after step World.initial inTurn).map World.autoApplyCount = some 2 :=
  ⟨along_keepsAllowance (by decide), by decide⟩

/-- Four applies are counted; a fifth has committed its job and with that let go of the row, so a
sixth loads the same count and is enqueued as well. -/
def overlapping : List (Action ℕ) :=
  .setMode .auto true :: ([0, 1, 2, 3].flatMap applied ++
    [.load 4, .insert 4, .load 5, .insert 5, .queueTakes 4, .queueTakes 5])

/-- Two requests that load the counter at once are enqueued on one allowance. -/
theorem not_keepsAllowance_overlapping :
    ¬Along step KeepsAllowance (World.initial : World ℕ) overlapping := by
  intro h
  have hbounded : Along step
      (fun _ _ t => enqueuedSince t.log ≤ maxAutoAppliesPerSession) World.initial overlapping :=
    h.mono fun _ _ _ hkeeps => hkeeps.bounded
  exact absurd hbounded (by decide)

end Terraformer.Changes.Allowance
