import Terraformer.Changes.Service
import Terraformer.Jobs.Execution

/-!
# Requests for an apply

`apply_change_plan` over the table of jobs, and the guard of `ChangeService.apply`.  A request
reads its plan, looks for an active apply of the device, and enqueues a job as every request does
(`Jobs.step`); a worker that is delivered the job locks the plan and takes it from draft to
applying before it sends anything.  Each of these transactions is one action of `step`.

`along_oneAtATime_iff` says in which runs no two jobs that exclude each other are active, and that
a plan is sent by one delivery at most.
-/

namespace Terraformer.Changes.Requests

open Jobs

/-- The columns of a plan that are looked at. -/
structure PlanRow (Id : Type) where
  deviceId : Id
  status : ChangePlanStatus

/-- Where a request is in `apply_change_plan`, before it enqueues. -/
inductive ApplyRequest (Id : Type) where
  | idle
  | refused
  /-- The plan is a draft. -/
  | read (plan deviceId : Id)
  /-- No apply of the device is active. -/
  | free (plan deviceId : Id)

/-- The tables, the requests and workers, and which delivery of a job has begun to send which
plan.  The input of a job is the plan that it applies. -/
structure Office (Id Result : Type) where
  jobs : Jobs.World Id (Option Id) Result
  plans : Id → PlanRow Id
  requests : Id → ApplyRequest Id
  sent : List (Id × Id)

variable {Id Result : Type} [DecidableEq Id] [DecidableEq Result]

/-- No job was enqueued yet. -/
def Office.initial (plans : Id → PlanRow Id) : Office Id Result :=
  ⟨World.empty, plans, fun _ => .idle, []⟩

/-- What may happen next to the plans and their jobs. -/
inductive Action (Id Result : Type) where
  /-- The request `r` reads the plan. -/
  | readPlan (r plan : Id)
  /-- It looks for an active apply of the device. -/
  | lookForActive (r : Id)
  /-- A transaction of `JobService.enqueue` or of a worker. -/
  | job (a : Jobs.Action Id (Option Id) Result)
  /-- The delivery `d` runs `ChangeService.apply`, up to the first commit. -/
  | beginApply (d : Id)
  /-- The apply of a plan commits how it ended. -/
  | endApply (plan : Id) (status : ChangePlanStatus)

/-- A request enqueues an apply of the plan that it has checked, and of its device. -/
def Office.allows (w : Office Id Result) : Jobs.Action Id (Option Id) Result → Bool
  | .check r type deviceId input _ =>
    if type = .applyChange then
      match w.requests r with
      | .free plan device => decide (deviceId = some device) && decide (input = some plan)
      | _ => false
    else true
  | _ => true

/-- A plan gets a new status. -/
def Office.setStatus (w : Office Id Result) (plan : Id) (status : ChangePlanStatus) :
    Office Id Result :=
  { w with plans := Function.update w.plans plan { w.plans plan with status } }

/-- The plan that a delivery applies. -/
def Office.planOf (w : Office Id Result) (d : Id) : Option Id :=
  match w.jobs.deliveries d with
  | .executing j .running =>
    match w.jobs.jobs.lookup j with
    | some row => if row.type = .applyChange then row.input else none
    | none => none
  | _ => none

variable (sanitizeText : String → String)

/-- One transaction. -/
def step (w : Office Id Result) : Action Id Result → Option (Office Id Result)
  | .readPlan r plan =>
    match w.requests r with
    | .idle =>
      let request := if (w.plans plan).status ≠ .draft then .refused
        else .read plan (w.plans plan).deviceId
      some { w with requests := Function.update w.requests r request }
    | _ => none
  | .lookForActive r =>
    match w.requests r with
    | .read plan deviceId =>
      let request := if w.jobs.hasActive .applyChange (some deviceId) then .refused
        else .free plan deviceId
      some { w with requests := Function.update w.requests r request }
    | _ => none
  | .job a =>
    if w.allows a then (Jobs.step sanitizeText w.jobs a).map fun jobs => { w with jobs }
    else none
  | .beginApply d =>
    match w.planOf d with
    | some plan =>
      -- a plan that is no draft raises, which is for the worker to end
      if (w.plans plan).status ≠ .draft then some w
      else some { w.setStatus plan .applying with sent := (d, plan) :: w.sent }
    | none => none
  | .endApply plan status =>
    if (w.plans plan).status = .applying ∧ status ≠ .draft then some (w.setStatus plan status)
    else none

/-! ## Jobs that exclude each other -/

/-- The state is one of those that `has_active` looks for. -/
def Active (row : Job Id (Option Id) Result) : Prop :=
  row.state = .queued ∨ row.state = .started

/-- Two jobs are not to be active together: those of an exclusive type, and applies of one
device. -/
def Excludes (row row' : Job Id (Option Id) Result) : Prop :=
  row.type = row'.type ∧ ((exclusiveJobTypes row.type).isSome = true ∨
    row.type = .applyChange ∧ ∃ device, row.deviceId = some device ∧ row'.deviceId = some device)

/-- No two jobs are active that exclude each other. -/
def Exclusive (w : Jobs.World Id (Option Id) Result) : Prop :=
  ∀ j k row row', w.jobs.lookup j = some row → w.jobs.lookup k = some row' →
    Active row → Active row' → Excludes row row' → j = k

/-- Jobs that exclude each other are not active together, and no plan is sent twice. -/
structure OneAtATime (w : Office Id Result) : Prop where
  exclusive : Exclusive w.jobs
  once : (w.sent.map Prod.snd).Nodup

/-- A job is committed only while `has_active` has the answer that the request was given. -/
def StillFree (w : Office Id Result) (a : Action Id Result) (_ : Office Id Result) : Prop :=
  match a with
  | .job (.insert r _) =>
    match w.jobs.requests r with
    | .checked type deviceId _ =>
      ((exclusiveJobTypes type).isSome = true → w.jobs.hasActive type = false) ∧
        (type = .applyChange → ∀ device, deviceId = some device →
          w.jobs.hasActive .applyChange (some device) = false)
    | _ => True
  | _ => True

omit [DecidableEq Result] in
/-- `has_active` finds an active row. -/
lemma hasActive_eq_true {w : Jobs.World Id (Option Id) Result} {type : JobType}
    {deviceId : Option Id} : w.hasActive type deviceId = true ↔
      ∃ j row, w.jobs.lookup j = some row ∧ row.type = type ∧ Active row ∧
        (deviceId = none ∨ row.deviceId = deviceId) := by
  simp only [World.hasActive, List.any_eq_true, Bool.and_eq_true, beq_iff_eq, Bool.or_eq_true,
    Option.isNone_iff_eq_none, Active]
  constructor
  · rintro ⟨⟨j, row⟩, hmem, ⟨htype, hstate⟩, hdevice⟩
    exact ⟨j, row, AList.mem_lookup_iff.mpr hmem, htype, hstate, hdevice⟩
  · rintro ⟨j, row, hlookup, htype, hstate, hdevice⟩
    exact ⟨⟨j, row⟩, AList.mem_lookup_iff.mp hlookup, ⟨htype, hstate⟩, hdevice⟩

/-! ## What happens to the rows -/

/-- Every active job was active before, with the same type and device. -/
def Kept (w w' : Jobs.World Id (Option Id) Result) : Prop :=
  ∀ j row', w'.jobs.lookup j = some row' → Active row' →
    ∃ row, w.jobs.lookup j = some row ∧ Active row ∧ row.type = row'.type ∧
      row.deviceId = row'.deviceId

section Rows

variable {w w' : Jobs.World Id (Option Id) Result} {j k : Id}
  {row new copy : Job Id (Option Id) Result}

omit [DecidableEq Result] in
/-- An action that leaves the jobs keeps what is active. -/
lemma kept_of_jobs_eq (h : w'.jobs = w.jobs) : Kept w w' :=
  fun _ row' hrow' hactive => ⟨row', h ▸ hrow', hactive, rfl, rfl⟩

omit [DecidableEq Result] in
/-- An action on one job keeps what is active if this job does not become so. -/
lemma kept_setJob (hrow : w.jobs.lookup k = some row)
    (hjobs : w'.jobs = (w.setJob k new).jobs) (htype : row.type = new.type)
    (hdevice : row.deviceId = new.deviceId) (hactive : Active new → Active row) : Kept w w' := by
  intro j row' hrow' hrowActive
  rw [hjobs, World.setJob] at hrow'
  by_cases hjk : j = k
  · subst hjk
    rw [AList.lookup_insert] at hrow'
    obtain rfl := Option.some.inj hrow'
    exact ⟨row, hrow, hactive hrowActive, htype, hdevice⟩
  · rw [AList.lookup_insert_ne hjk] at hrow'
    exact ⟨row', hrow', hrowActive, rfl, rfl⟩

omit [DecidableEq Id] in
/-- A row becomes active by a flush only where the object was made active. -/
lemma active_of_flush (h : Active (Job.flush copy new row)) :
    Active row ∨ copy.state ≠ new.state ∧ Active new := by
  have hstate : (Job.flush copy new row).state = Job.written copy.state new.state row.state := rfl
  unfold Active at h ⊢
  rw [hstate, Job.written] at h
  split at h
  · exact Or.inl h
  · rename_i hne
    exact Or.inr ⟨fun heq => hne heq.symm, h⟩

omit [DecidableEq Id] [DecidableEq Result] in
/-- A job that is failed is not active. -/
lemma not_active_fail {code message : String}
    (hne : row.state ≠ (row.fail sanitizeText code message).state) :
    ¬ Active (row.fail sanitizeText code message) := by
  by_cases hterminal : row.state ∈ terminalStates
  · rw [Job.fail_of_terminal hterminal] at hne
    exact absurd rfl hne
  · rw [Active, Job.state_fail hterminal]
    simp

/-- Failing a job makes no job active. -/
lemma kept_fail (hrow : w.jobs.lookup k = some row) {code message : String}
    (hjobs : w'.jobs =
      (w.setJob k (Job.flush copy (copy.fail sanitizeText code message) row)).jobs) :
    Kept w w' := by
  refine kept_setJob hrow hjobs rfl rfl fun h => ?_
  rcases active_of_flush h with h | ⟨hne, h⟩
  · exact h
  · exact absurd h (not_active_fail sanitizeText hne)

end Rows

/-- Only an insertion makes a job active. -/
lemma kept_of_step {w w' : Jobs.World Id (Option Id) Result}
    {a : Jobs.Action Id (Option Id) Result} (hinsert : ∀ r j, a ≠ .insert r j)
    (h : Jobs.step sanitizeText w a = some w') : Kept w w' := by
  cases a with
  | check r type deviceId input deviceFound =>
    simp only [Jobs.step] at h
    split at h
    · split_ifs at h
      all_goals
        obtain rfl := Option.some.inj h
        exact kept_of_jobs_eq rfl
    · cases h
  | insert r j => exact absurd rfl (hinsert r j)
  | queueReturns r rqJobId =>
    simp only [Jobs.step] at h
    split at h
    · rename_i j copy hr
      obtain ⟨row, hrow, rfl⟩ := Option.map_eq_some_iff.mp h
      refine kept_setJob hrow rfl rfl rfl fun hactive => ?_
      rcases active_of_flush hactive with hactive | ⟨hne, -⟩
      · exact hactive
      · exact absurd rfl hne
    · cases h
  | queueRaises r =>
    simp only [Jobs.step] at h
    split at h
    · rename_i j copy hr
      obtain ⟨row, hrow, rfl⟩ := Option.map_eq_some_iff.mp h
      exact kept_fail sanitizeText hrow rfl
    · cases h
  | deliver d j =>
    simp only [Jobs.step] at h
    split at h
    · split at h
      · obtain rfl := Option.some.inj h
        exact kept_of_jobs_eq rfl
      · rename_i row hrow
        split at h
        · obtain rfl := Option.some.inj h
          exact kept_of_jobs_eq rfl
        · rename_i job hjob
          obtain ⟨hqueued, rfl⟩ := Job.start_eq_ok_iff.mp hjob
          obtain rfl := Option.some.inj h
          exact kept_setJob hrow rfl rfl rfl fun _ => Or.inl hqueued
    · cases h
  | bodyReturns d result =>
    simp only [Jobs.step] at h
    split at h
    · obtain rfl := Option.some.inj h
      exact kept_of_jobs_eq rfl
    · cases h
  | bodyRaises d exc =>
    simp only [Jobs.step] at h
    split at h
    · obtain rfl := Option.some.inj h
      exact kept_of_jobs_eq rfl
    · cases h
  | finish d =>
    simp only [Jobs.step] at h
    split at h
    · obtain ⟨row, hrow, hw⟩ := Option.map_eq_some_iff.mp h
      split at hw
      · obtain rfl := hw
        exact kept_of_jobs_eq rfl
      · rename_i job hjob
        obtain rfl := hw
        obtain ⟨-, rfl⟩ := Job.succeed_eq_ok_iff.mp hjob
        refine kept_setJob hrow rfl rfl rfl fun hactive => ?_
        rcases active_of_flush hactive with hactive | ⟨-, hactive⟩
        · exact hactive
        · exact absurd hactive (by simp [Active])
    · obtain ⟨row, hrow, rfl⟩ := Option.map_eq_some_iff.mp h
      exact kept_fail sanitizeText hrow rfl
    · cases h

omit [DecidableEq Result] in
/-- The exclusion survives whatever makes no job active. -/
lemma Exclusive.of_kept {w w' : Jobs.World Id (Option Id) Result} (h : Exclusive w)
    (hkept : Kept w w') : Exclusive w' := by
  intro j k row row' hj hk hrow hrow' hexcludes
  obtain ⟨old, hold, holdActive, htype, hdevice⟩ := hkept j row hj hrow
  obtain ⟨old', hold', holdActive', htype', hdevice'⟩ := hkept k row' hk hrow'
  refine h j k old old' hold hold' holdActive holdActive' ⟨?_, ?_⟩
  · rw [htype, htype', hexcludes.1]
  · rw [htype, hdevice, hdevice']
    exact hexcludes.2

/-! ## One step -/

omit [DecidableEq Id] [DecidableEq Result] in
/-- Two jobs exclude each other, in either order. -/
lemma Excludes.symm {row row' : Job Id (Option Id) Result} (h : Excludes row row') :
    Excludes row' row := by
  obtain ⟨htype, hkind⟩ := h
  refine ⟨htype.symm, ?_⟩
  rw [← htype]
  exact hkind.imp_right fun ⟨happly, device, hdevice, hdevice'⟩ =>
    ⟨happly, device, hdevice', hdevice⟩

omit [DecidableEq Result] in
/-- An insertion keeps the jobs exclusive exactly when no active job excludes the new one. -/
lemma exclusive_insert_iff {w w' : Jobs.World Id (Option Id) Result} (h : Exclusive w) {j : Id}
    {new : Job Id (Option Id) Result} (hnew : w.jobs.lookup j = none) (hqueued : new.state = .queued)
    (hjobs : w'.jobs = w.jobs.insert j new) :
    Exclusive w' ↔ ∀ k row, w.jobs.lookup k = some row → Active row → ¬ Excludes new row := by
  have hself : w'.jobs.lookup j = some new := by rw [hjobs, AList.lookup_insert]
  have hother : ∀ k, k ≠ j → w'.jobs.lookup k = w.jobs.lookup k := fun k hk => by
    rw [hjobs, AList.lookup_insert_ne hk]
  constructor
  · intro hexclusive k row hrow hactive hexcludes
    have hkj : k ≠ j := by
      rintro rfl
      rw [hnew] at hrow
      cases hrow
    exact hkj (hexclusive j k new row hself ((hother k hkj).trans hrow) (Or.inl hqueued) hactive
      hexcludes).symm
  · intro hfree k l row row' hk hl hactive hactive' hexcludes
    by_cases hkj : k = j
    · by_cases hlj : l = j
      · rw [hkj, hlj]
      · rw [hkj, hself] at hk
        obtain rfl := Option.some.inj hk
        exact absurd hexcludes (hfree l row' ((hother l hlj).symm.trans hl) hactive')
    · by_cases hlj : l = j
      · rw [hlj, hself] at hl
        obtain rfl := Option.some.inj hl
        exact absurd hexcludes.symm (hfree k row ((hother k hkj).symm.trans hk) hactive)
      · exact h k l row row' ((hother k hkj).symm.trans hk) ((hother l hlj).symm.trans hl)
          hactive hactive' hexcludes

omit [DecidableEq Result] in
/-- `has_active` finds what excludes a new job. -/
lemma free_iff {w : Jobs.World Id (Option Id) Result} {new : Job Id (Option Id) Result} :
    (∀ k row, w.jobs.lookup k = some row → Active row → ¬ Excludes new row) ↔
      ((exclusiveJobTypes new.type).isSome = true → w.hasActive new.type = false) ∧
        (new.type = .applyChange → ∀ device, new.deviceId = some device →
          w.hasActive .applyChange (some device) = false) := by
  constructor
  · intro h
    refine ⟨fun hexclusive => ?_, fun happly device hdevice => ?_⟩
    · rw [← Bool.not_eq_true]
      intro hfound
      obtain ⟨k, row, hrow, htype, hactive, -⟩ := hasActive_eq_true.mp hfound
      exact h k row hrow hactive ⟨htype.symm, Or.inl hexclusive⟩
    · rw [← Bool.not_eq_true]
      intro hfound
      obtain ⟨k, row, hrow, htype, hactive, hnone | hrowDevice⟩ := hasActive_eq_true.mp hfound
      · cases hnone
      · exact h k row hrow hactive
          ⟨happly.trans htype.symm, Or.inr ⟨happly, device, hdevice, hrowDevice⟩⟩
  · rintro ⟨hexclusive, happly⟩ k row hrow hactive ⟨htype, hkind | ⟨hnew, device, hdevice, hrowDevice⟩⟩
    · have hfound : w.hasActive new.type = true :=
        hasActive_eq_true.mpr ⟨k, row, hrow, htype.symm, hactive, Or.inl rfl⟩
      rw [hexclusive hkind] at hfound
      cases hfound
    · have hfound : w.hasActive .applyChange (some device) = true :=
        hasActive_eq_true.mpr ⟨k, row, hrow, htype.symm.trans hnew, hactive, Or.inr hrowDevice⟩
      rw [happly hnew device hdevice] at hfound
      cases hfound

/-- The plans that were sent are no drafts any more, and none was sent twice. -/
structure SentOnce (w : Office Id Result) : Prop where
  once : (w.sent.map Prod.snd).Nodup
  begun : ∀ plan ∈ w.sent.map Prod.snd, (w.plans plan).status ≠ .draft

omit [DecidableEq Result] in
/-- A plan that gets another status than `draft` has still been sent at most once. -/
lemma SentOnce.setStatus {w : Office Id Result} (h : SentOnce w) {plan : Id}
    {status : ChangePlanStatus} (hstatus : status ≠ .draft) : SentOnce (w.setStatus plan status) where
  once := h.once
  begun other hother := by
    show (Function.update w.plans plan _ other).status ≠ .draft
    by_cases heq : other = plan
    · subst heq
      rw [Function.update_self]
      exact hstatus
    · rw [Function.update_of_ne heq]
      exact h.begun other hother

variable {sanitizeText} {w w' : Office Id Result} {a : Action Id Result}

/-- The guard of an apply lets one delivery through for each plan. -/
lemma SentOnce.step (h : SentOnce w) (hstep : Requests.step sanitizeText w a = some w') :
    SentOnce w' := by
  cases a with
  | readPlan r plan =>
    simp only [Requests.step] at hstep
    split at hstep
    · obtain rfl := Option.some.inj hstep
      exact ⟨h.once, h.begun⟩
    · cases hstep
  | lookForActive r =>
    simp only [Requests.step] at hstep
    split at hstep
    · obtain rfl := Option.some.inj hstep
      exact ⟨h.once, h.begun⟩
    · cases hstep
  | job a =>
    simp only [Requests.step] at hstep
    split_ifs at hstep
    obtain ⟨jobs, -, rfl⟩ := Option.map_eq_some_iff.mp hstep
    exact ⟨h.once, h.begun⟩
  | beginApply d =>
    simp only [Requests.step] at hstep
    split at hstep
    · rename_i plan _
      split_ifs at hstep with hdraft
      · obtain rfl := Option.some.inj hstep
        exact h
      · obtain rfl := Option.some.inj hstep
        have hnew : plan ∉ w.sent.map Prod.snd :=
          fun hmem => h.begun plan hmem (not_not.mp hdraft)
        have hset : SentOnce (w.setStatus plan .applying) := h.setStatus (by simp)
        refine ⟨List.nodup_cons.mpr ⟨hnew, h.once⟩, fun other hother => ?_⟩
        rcases List.mem_cons.mp hother with heq | hother
        · show (Function.update w.plans plan _ other).status ≠ .draft
          rw [show other = plan from heq, Function.update_self]
          simp
        · exact hset.begun other hother
    · cases hstep
  | endApply plan status =>
    simp only [Requests.step] at hstep
    split_ifs at hstep with hguard
    obtain rfl := Option.some.inj hstep
    exact h.setStatus hguard.2

/-- Only a transaction of `JobService.enqueue` or of a worker changes the table of jobs. -/
lemma jobs_of_step (hstep : Requests.step sanitizeText w a = some w') :
    ((∀ a', a ≠ .job a') ∧ w'.jobs = w.jobs) ∨
      ∃ a', a = .job a' ∧ Jobs.step sanitizeText w.jobs a' = some w'.jobs := by
  cases a with
  | job a =>
    simp only [Requests.step] at hstep
    split_ifs at hstep
    obtain ⟨jobs, hjobs, rfl⟩ := Option.map_eq_some_iff.mp hstep
    exact Or.inr ⟨a, rfl, hjobs⟩
  | readPlan | lookForActive =>
    simp only [Requests.step] at hstep
    split at hstep
    · obtain rfl := Option.some.inj hstep
      exact Or.inl ⟨fun _ h => (by cases h), rfl⟩
    · cases hstep
  | beginApply d =>
    simp only [Requests.step] at hstep
    split at hstep
    · split_ifs at hstep
      · obtain rfl := Option.some.inj hstep
        exact Or.inl ⟨fun _ h => (by cases h), rfl⟩
      · obtain rfl := Option.some.inj hstep
        exact Or.inl ⟨fun _ h => (by cases h), rfl⟩
    · cases hstep
  | endApply plan status =>
    simp only [Requests.step] at hstep
    split_ifs at hstep
    obtain rfl := Option.some.inj hstep
    exact Or.inl ⟨fun _ h => (by cases h), rfl⟩

/-- A step keeps the jobs exclusive exactly when the check of an insertion still holds. -/
lemma exclusive_iff_of_step (h : Exclusive w.jobs)
    (hstep : Requests.step sanitizeText w a = some w') :
    Exclusive w'.jobs ↔ StillFree w a w' := by
  rcases jobs_of_step hstep with ⟨hnot, hsame⟩ | ⟨a, rfl, hjobs⟩
  · refine iff_of_true (hsame ▸ h) ?_
    cases a with
    | job a => exact absurd rfl (hnot a)
    | _ => trivial
  · by_cases hinsert : ∃ r j, a = .insert r j
    · obtain ⟨r, j, rfl⟩ := hinsert
      simp only [Jobs.step] at hjobs
      split at hjobs
      · rename_i type deviceId input hr hj
        have hrows := congrArg World.jobs (Option.some.inj hjobs)
        rw [exclusive_insert_iff h hj rfl hrows.symm, free_iff, StillFree]
        simp only [hr]
      · cases hjobs
    · have hkept := kept_of_step sanitizeText (fun r j heq => hinsert ⟨r, j, heq⟩) hjobs
      refine iff_of_true (h.of_kept hkept) ?_
      cases a with
      | insert r j => exact absurd ⟨r, j, rfl⟩ hinsert
      | _ => trivial

/-! ## Runs -/

/-- What every run keeps whose insertions find the device still free. -/
structure Orderly (w : Office Id Result) : Prop where
  exclusive : Exclusive w.jobs
  sent : SentOnce w

omit [DecidableEq Result] in
/-- The invariant holds at the beginning. -/
lemma orderly_initial (plans : Id → PlanRow Id) :
    Orderly (Office.initial plans : Office Id Result) where
  exclusive _ _ _ _ h := by cases h
  sent := ⟨List.nodup_nil, fun _ h => by cases h⟩

/-- In every run the plans are sent once, and no two jobs are active that exclude each other
exactly when every job is committed while the answer of `has_active` still holds. -/
theorem along_oneAtATime_iff (sanitizeText : String → String) (plans : Id → PlanRow Id)
    (actions : List (Action Id Result)) :
    Along (Requests.step sanitizeText) (fun _ _ t => OneAtATime t)
        (Office.initial plans : Office Id Result) actions ↔
      Along (Requests.step sanitizeText) StillFree (Office.initial plans) actions := by
  have hstep : ∀ (s : Office Id Result) (a : Action Id Result) (t : Office Id Result),
      Orderly s → Requests.step sanitizeText s a = some t →
        (OneAtATime t ↔ StillFree s a t) := by
    intro s a t h hstep
    rw [← exclusive_iff_of_step h.exclusive hstep]
    exact ⟨fun h' => h'.exclusive, fun h' => ⟨h', (h.sent.step hstep).once⟩⟩
  have hkeep : ∀ (s : Office Id Result) (a : Action Id Result) (t : Office Id Result),
      Orderly s → Requests.step sanitizeText s a = some t → StillFree s a t → Orderly t :=
    fun s a t h hstep hfree =>
      ⟨(exclusive_iff_of_step h.exclusive hstep).mpr hfree, h.sent.step hstep⟩
  exact along_iff_of_inv hstep hkeep (orderly_initial plans)

/-- Two requests apply two plans of one device, and each looks for an active apply before the
other has committed its job. -/
def together : List (Action ℕ Unit) :=
  [.readPlan 0 10, .readPlan 1 11, .lookForActive 0, .lookForActive 1,
    .job (.check 0 .applyChange (some 7) (some 10) true),
    .job (.check 1 .applyChange (some 7) (some 11) true),
    .job (.insert 0 20), .job (.insert 1 21)]

/-- Two requests that ask before either inserts leave two active jobs on one device. -/
theorem not_oneAtATime_together :
    ¬Along (Requests.step id) (fun _ _ t => OneAtATime t)
      (Office.initial (fun _ => ⟨7, .draft⟩) : Office ℕ Unit) together := by
  intro h
  rw [show together = together.take 7 ++ .job (.insert 1 21) :: [] from rfl] at h
  have hlast := h.holds rfl rfl
  have hsame : (20 : ℕ) = 21 := hlast.exclusive 20 21 _ _ rfl rfl (Or.inl rfl) (Or.inl rfl)
    ⟨rfl, Or.inr ⟨rfl, 7, rfl, rfl⟩⟩
  cases hsame

end Terraformer.Changes.Requests
