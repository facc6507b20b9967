import Terraformer.Jobs.Execution

/-!
# A job runs at most once and its state tells the truth

`TellsTruth` is what a state of the world should say of a job, and `Moves` are the ways in which
its state may change.  They hold along every run in which a request that fails its job finds it
queued, and along no other (`along_staysTrue_iff`): a job that the queue has handed to a worker
before the call raised is failed although it runs or has succeeded.

`Fits` is the invariant: what the table holds of a job agrees with the one worker that executes it.
-/

namespace Terraformer.Jobs

variable {Id Input Result : Type} [DecidableEq Id] {w w' : World Id Input Result} {j : Id}

/-- `d` executes the job `j`, or has executed it. -/
def World.Executes (w : World Id Input Result) (d j : Id) : Prop :=
  ∃ phase, w.deliveries d = .executing j phase

/-- The body of the job `j` has returned in some delivery. -/
def World.BodyReturned (w : World Id Input Result) (j : Id) : Prop :=
  ∃ d phase, w.deliveries d = .executing j phase ∧ phase.bodyReturned = true

/-- The ways in which the state of a job may change in one step. -/
inductive Moves : Option JobState → Option JobState → Prop
  | stays (state) : Moves state state
  | queued : Moves none (some .queued)
  | started : Moves (some .queued) (some .started)
  | succeeded : Moves (some .started) (some .succeeded)
  | failed : Moves (some .started) (some .failed)
  | neverStarted : Moves (some .queued) (some .failed)

/-- What the world says of the job `j` is true. -/
structure TellsTruth (w : World Id Input Result) (j : Id) : Prop where
  once : ∀ d d', w.Executes d j → w.Executes d' j → d = d'
  ends : ∀ state ∈ w.state j, state ∈ terminalStates → (state = .succeeded ↔ w.BodyReturned j)
  not_executed : ∀ r, w.requests r = .failed j → ∀ d, ¬ w.Executes d j

/-- The state of every job moves as it may, and afterwards tells the truth. -/
def StaysTrue (w : World Id Input Result) (_ : Action Id Input Result)
    (w' : World Id Input Result) : Prop :=
  ∀ j, Moves (w.state j) (w'.state j) ∧ TellsTruth w' j

/-- A request that fails its job finds it queued. -/
def FailsQueued (w : World Id Input Result) (a : Action Id Input Result)
    (_ : World Id Input Result) : Prop :=
  ∀ r, a = .queueRaises r → ∀ j, (w.requests r).jobId = some j → w.state j = some .queued

/-! ## The invariant -/

/-- The state of a job while a delivery of it is in this phase. -/
def Phase.state : Phase Result → Option JobState
  | running | returned _ | failing (.error _) _ => some .started
  | failing (.ok _) _ => none
  | ended (.ok _) => some .succeeded
  | ended (.error _) => some .failed

/-- What the table holds of the job `j` agrees with the deliveries and requests. -/
inductive Fits (w : World Id Input Result) (j : Id) : Prop
  | absent (hrow : w.state j = none) (hd : ∀ d, ¬ w.Executes d j)
      (hr : ∀ r, (w.requests r).jobId ≠ some j)
  | waiting (hrow : w.state j = some .queued) (hd : ∀ d, ¬ w.Executes d j)
      (hr : ∀ r, w.requests r ≠ .failed j)
  | neverStarted (r : Id) (hrow : w.state j = some .failed) (hd : ∀ d, ¬ w.Executes d j)
      (hr : w.requests r = .failed j)
  | executed (d : Id) (phase : Phase Result) (hd : w.deliveries d = .executing j phase)
      (honce : ∀ d', w.Executes d' j → d' = d) (hrow : w.state j = phase.state)
      (hsome : phase.state ≠ none) (hr : ∀ r, w.requests r ≠ .failed j)

/-- The invariant of the whole world. -/
structure Consistent (w : World Id Input Result) : Prop where
  fits : ∀ j, Fits w j
  /-- A request still holds its job as it was inserted. -/
  copies : ∀ r j copy, w.requests r = .queueing j copy → copy.state = .queued
  /-- A job was inserted by one request. -/
  owner : ∀ r r' j, (w.requests r).jobId = some j → (w.requests r').jobId = some j → r = r'

/-- Nothing has been executed or failed in the empty world. -/
lemma consistent_empty : Consistent (World.empty : World Id Input Result) where
  fits _ := .absent rfl (fun _ h => by obtain ⟨_, h⟩ := h; cases h) (fun _ h => by cases h)
  copies _ _ _ h := by cases h
  owner _ _ _ h _ := by cases h

omit [DecidableEq Id] in
/-- A phase with a terminal state has succeeded exactly when the body has returned. -/
lemma Phase.bodyReturned_iff {phase : Phase Result} {state : JobState}
    (h : phase.state = some state) (hterminal : state ∈ terminalStates) :
    state = .succeeded ↔ phase.bodyReturned = true := by
  have hnotStarted : state ≠ .started := by
    rintro rfl
    exact absurd hterminal (by decide)
  match phase, h with
  | .running, h => exact absurd (Option.some.inj h).symm hnotStarted
  | .returned _, h => exact absurd (Option.some.inj h).symm hnotStarted
  | .failing (.error _) _, h => exact absurd (Option.some.inj h).symm hnotStarted
  | .ended (.ok _), h => exact iff_of_true (Option.some.inj h).symm rfl
  | .ended (.error _), h =>
    obtain rfl := Option.some.inj h
    exact iff_of_false (by decide) (by simp [bodyReturned, Except.toBool])

/-- The invariant of a job says that its state tells the truth. -/
lemma Fits.tellsTruth (h : Fits w j) : TellsTruth w j := by
  have hnot : (∀ d, ¬ w.Executes d j) → ¬ w.BodyReturned j := by
    rintro hd ⟨d, phase, hphase, -⟩
    exact hd d ⟨phase, hphase⟩
  cases h with
  | absent hrow hd hr =>
    exact ⟨fun d _ h _ => absurd h (hd d), fun state hs => by simp [hrow] at hs, fun _ _ => hd⟩
  | waiting hrow hd hr =>
    refine ⟨fun d _ h _ => absurd h (hd d), fun state hs hterminal => ?_, fun _ _ => hd⟩
    obtain rfl := Option.some.inj (hrow.symm.trans hs)
    exact absurd hterminal (by decide)
  | neverStarted r hrow hd hr =>
    refine ⟨fun d _ h _ => absurd h (hd d), fun state hs _ => ?_, fun _ _ => hd⟩
    obtain rfl := Option.some.inj (hrow.symm.trans hs)
    exact iff_of_false (by decide) (hnot hd)
  | executed d phase hd honce hrow hsome hr =>
    refine ⟨fun d d' h h' => (honce d h).trans (honce d' h').symm, fun state hs hterminal => ?_,
      fun r h => absurd h (hr r)⟩
    rw [Phase.bodyReturned_iff (hrow.symm.trans hs) hterminal]
    refine ⟨fun h => ⟨d, phase, hd, h⟩, ?_⟩
    rintro ⟨d', phase', hd', hreturned⟩
    obtain rfl := honce d' ⟨phase', hd'⟩
    rw [hd] at hd'
    cases hd'
    exact hreturned

/-! ## One step -/

section Setters

variable {k : Id} {row : Job Id Input Result}

/-- A written row has its state. -/
@[simp] lemma state_setJob_self : (w.setJob k row).state k = some row.state := by
  simp [World.state, World.setJob]

/-- Writing a row leaves the states of the other jobs. -/
lemma state_setJob_of_ne (h : j ≠ k) : (w.setJob k row).state j = w.state j := by
  simp [World.state, World.setJob, AList.lookup_insert_ne h]

/-- A request that moves on leaves the states. -/
@[simp] lemma state_setRequest (r : Id) (request : Request Id Input Result) :
    (w.setRequest r request).state j = w.state j := rfl

/-- A delivery that moves on leaves the states. -/
@[simp] lemma state_setDelivery (d : Id) (delivery : Delivery Id Result) :
    (w.setDelivery d delivery).state j = w.state j := rfl

omit [DecidableEq Id] in
/-- A job is started or ended in a row that was just read. -/
lemma state_flush_self [DecidableEq Result] (job : Job Id Input Result) :
    (Job.flush row job row).state = job.state := Job.written_self _ _

end Setters

/-- What an action changes. -/
inductive Change (w : World Id Input Result) : Action Id Input Result → World Id Input Result → Prop
  | asks {a} (r : Id) (request : Request Id Input Result) (hr : (w.requests r).jobId = none)
      (hrequest : request.jobId = none) : Change w a (w.setRequest r request)
  | inserts {a} (r k : Id) (job : Job Id Input Result) (hr : (w.requests r).jobId = none)
      (hrow : w.state k = none) (hjob : job.state = .queued) :
      Change w a ((w.setJob k job).setRequest r (.queueing k job))
  | answers {a} (r k : Id) (copy row : Job Id Input Result) (hr : w.requests r = .queueing k copy)
      (hrow : w.state k = some row.state) :
      Change w a ((w.setJob k row).setRequest r (.queued k))
  | failsJob (r k : Id) (copy row : Job Id Input Result) (hr : w.requests r = .queueing k copy)
      (hrow : copy.state = .queued → row.state = .failed) :
      Change w (.queueRaises r) ((w.setJob k row).setRequest r (.failed k))
  | refuses {a} (d : Id) (hd : w.deliveries d = .idle) : Change w a (w.setDelivery d .refused)
  | starts {a} (d k : Id) (row : Job Id Input Result) (hd : w.deliveries d = .idle)
      (hqueued : w.state k = some .queued) (hrow : row.state = .started) :
      Change w a ((w.setJob k row).setDelivery d (.executing k .running))
  | bodyEnds {a} (d k : Id) (phase : Phase Result) (hd : w.deliveries d = .executing k .running)
      (hphase : phase.state = some .started) : Change w a (w.setDelivery d (.executing k phase))
  | conflicts {a} (d k : Id) (result : Result) (exc : Raised) (state : JobState)
      (hd : w.deliveries d = .executing k (.returned result)) (hstate : w.state k = some state)
      (hterminal : state ∈ terminalStates) :
      Change w a (w.setDelivery d (.executing k (.failing (.ok result) exc)))
  | succeeds {a} (d k : Id) (result : Result) (row : Job Id Input Result)
      (hd : w.deliveries d = .executing k (.returned result)) (hrow : row.state = .succeeded) :
      Change w a ((w.setJob k row).setDelivery d (.executing k (.ended (.ok result))))
  | failsSilently {a} (d k : Id) (outcome : Except Raised Result) (exc : Raised)
      (row : Job Id Input Result) (hd : w.deliveries d = .executing k (.failing outcome exc))
      (hrow : w.state k = some .started → row.state = .failed) :
      Change w a ((w.setJob k row).setDelivery d (.executing k (.ended outcome)))

/-- The state of a row that is in the table. -/
lemma state_eq_some {row : Job Id Input Result} (h : w.jobs.lookup j = some row) :
    w.state j = some row.state := by
  simp [World.state, h]

/-- Every action changes the world in one of these ways. -/
lemma step_cases [DecidableEq Result] {sanitizeText : String → String}
    {a : Action Id Input Result} (h : step sanitizeText w a = some w') : Change w a w' := by
  cases a with
  | check r type deviceId input deviceFound =>
    simp only [step] at h
    split at h
    · rename_i hr
      have hnone : (w.requests r).jobId = none := by rw [hr]; rfl
      split at h
      · obtain rfl := Option.some.inj h
        exact .asks r _ hnone rfl
      · split at h
        · obtain rfl := Option.some.inj h
          exact .asks r _ hnone rfl
        · obtain rfl := Option.some.inj h
          exact .asks r _ hnone rfl
    · cases h
  | insert r k =>
    simp only [step] at h
    split at h
    · rename_i type deviceId input hr hk
      obtain rfl := Option.some.inj h
      exact .inserts r k _ (by rw [hr]; rfl) (by simp [World.state, hk]) rfl
    · cases h
  | queueReturns r rqJobId =>
    simp only [step] at h
    split at h
    · rename_i k copy hr
      obtain ⟨row, hk, rfl⟩ := Option.map_eq_some_iff.mp h
      refine .answers r k copy _ hr ((state_eq_some hk).trans ?_)
      exact congrArg some (Job.written_of_eq copy.state row.state).symm
    · cases h
  | queueRaises r =>
    simp only [step] at h
    split at h
    · rename_i k copy hr
      obtain ⟨row, hk, rfl⟩ := Option.map_eq_some_iff.mp h
      refine .failsJob r k copy _ hr fun hcopy => ?_
      have hfail : (copy.fail sanitizeText queueUnavailableError.code
          queueUnavailableError.message).state = .failed :=
        Job.state_fail (by rw [hcopy]; decide)
      show Job.written _ _ _ = _
      rw [hfail, hcopy]
      rfl
    · cases h
  | deliver d k =>
    simp only [step] at h
    split at h
    · rename_i hd
      split at h
      · obtain rfl := Option.some.inj h
        exact .refuses d hd
      · rename_i row hk
        split at h
        · obtain rfl := Option.some.inj h
          exact .refuses d hd
        · rename_i job hjob
          obtain ⟨hqueued, rfl⟩ := Job.start_eq_ok_iff.mp hjob
          obtain rfl := Option.some.inj h
          exact .starts d k _ hd ((state_eq_some hk).trans (congrArg some hqueued))
            (state_flush_self _)
    · cases h
  | bodyReturns d result =>
    simp only [step] at h
    split at h
    · rename_i k hd
      obtain rfl := Option.some.inj h
      exact .bodyEnds d k _ hd rfl
    · cases h
  | bodyRaises d exc =>
    simp only [step] at h
    split at h
    · rename_i k hd
      obtain rfl := Option.some.inj h
      exact .bodyEnds d k _ hd rfl
    · cases h
  | finish d =>
    simp only [step] at h
    split at h
    · rename_i k result hd
      obtain ⟨row, hk, hw⟩ := Option.map_eq_some_iff.mp h
      split at hw
      · rename_i exc hexc
        obtain rfl := hw
        refine .conflicts d k result exc row.state hd (state_eq_some hk) ?_
        by_contra hterminal
        rw [Job.succeed, if_neg hterminal] at hexc
        cases hexc
      · rename_i job hjob
        obtain rfl := hw
        obtain ⟨-, rfl⟩ := Job.succeed_eq_ok_iff.mp hjob
        exact .succeeds d k result _ hd (state_flush_self _)
    · rename_i k outcome exc hd
      obtain ⟨row, hk, rfl⟩ := Option.map_eq_some_iff.mp h
      refine .failsSilently d k outcome exc _ hd fun hstarted => ?_
      have hrow : row.state = .started := Option.some.inj ((state_eq_some hk).symm.trans hstarted)
      exact (state_flush_self _).trans (Job.state_fail (by rw [hrow]; decide))
    · cases h

/-! ## What is left alone -/

/-- The invariant of a job depends on its state and on the deliveries and requests of it. -/
lemma Fits.frame (h : Fits w j) (hstate : w'.state j = w.state j)
    (hd : ∀ d phase, w'.deliveries d = .executing j phase ↔ w.deliveries d = .executing j phase)
    (hr : ∀ r, (w'.requests r).jobId = some j → (w.requests r).jobId = some j)
    (hf : ∀ r, w'.requests r = .failed j ↔ w.requests r = .failed j) : Fits w' j := by
  have hexecutes : ∀ d, w'.Executes d j ↔ w.Executes d j := fun d => exists_congr (hd d)
  cases h with
  | absent hrow hnot hnone =>
    exact .absent (hstate.trans hrow) (fun d h => hnot d ((hexecutes d).mp h))
      fun r h => hnone r (hr r h)
  | waiting hrow hnot hnone =>
    exact .waiting (hstate.trans hrow) (fun d h => hnot d ((hexecutes d).mp h))
      fun r h => hnone r ((hf r).mp h)
  | neverStarted r hrow hnot hfailed =>
    exact .neverStarted r (hstate.trans hrow) (fun d h => hnot d ((hexecutes d).mp h))
      ((hf r).mpr hfailed)
  | executed d phase hphase honce hrow hsome hnone =>
    exact .executed d phase ((hd d phase).mpr hphase) (fun d' h => honce d' ((hexecutes d').mp h))
      (hstate.trans hrow) hsome fun r h => hnone r ((hf r).mp h)

/-- Writing the row of another job keeps the invariant of a job. -/
lemma Fits.setJob_of_ne (h : Fits w j) {k : Id} (hne : j ≠ k) (row : Job Id Input Result) :
    Fits (w.setJob k row) j :=
  h.frame (state_setJob_of_ne hne) (fun _ _ => Iff.rfl) (fun _ h => h) fun _ => Iff.rfl

/-- Writing a row with the same state keeps the invariant of its job. -/
lemma Fits.setJob_self (h : Fits w j) {row : Job Id Input Result}
    (hrow : w.state j = some row.state) : Fits (w.setJob j row) j :=
  h.frame (state_setJob_self.trans hrow.symm) (fun _ _ => Iff.rfl) (fun _ h => h) fun _ => Iff.rfl

/-- A request that moves on keeps the invariant of a job that it neither takes up nor fails. -/
lemma Fits.setRequest (h : Fits w j) {r : Id} {request : Request Id Input Result}
    (hjob : request.jobId = some j → (w.requests r).jobId = some j)
    (hold : w.requests r ≠ .failed j) (hnew : request ≠ .failed j) :
    Fits (w.setRequest r request) j := by
  refine h.frame rfl (fun _ _ => Iff.rfl) (fun r' h' => ?_) fun r' => ?_
  · simp only [World.setRequest, Function.update_apply] at h'
    split at h'
    · rename_i hr
      rw [hr]
      exact hjob h'
    · exact h'
  · simp only [World.setRequest, Function.update_apply]
    split
    · rename_i hr
      rw [hr]
      exact iff_of_false hnew hold
    · exact Iff.rfl

/-- A delivery that moves on keeps the invariant of a job that it does not execute. -/
lemma Fits.setDelivery (h : Fits w j) {d : Id} {delivery : Delivery Id Result}
    (hold : ¬ w.Executes d j) (hnew : ∀ phase, delivery ≠ .executing j phase) :
    Fits (w.setDelivery d delivery) j := by
  refine h.frame rfl (fun d' phase => ?_) (fun _ h => h) fun _ => Iff.rfl
  simp only [World.setDelivery, Function.update_apply]
  split
  · rename_i hd
    rw [hd]
    exact iff_of_false (hnew phase) fun h => hold ⟨phase, h⟩
  · exact Iff.rfl

/-- A worker that executes a job is the only one, and the row agrees with its phase. -/
lemma Fits.of_executing (h : Fits w j) {d : Id} {phase : Phase Result}
    (hd : w.deliveries d = .executing j phase) :
    (∀ d', w.Executes d' j → d' = d) ∧ w.state j = phase.state ∧ phase.state ≠ none ∧
      ∀ r, w.requests r ≠ .failed j := by
  cases h with
  | absent _ hnot _ => exact absurd ⟨phase, hd⟩ (hnot d)
  | waiting _ hnot _ => exact absurd ⟨phase, hd⟩ (hnot d)
  | neverStarted _ _ hnot _ => exact absurd ⟨phase, hd⟩ (hnot d)
  | executed d' phase' hd' honce hrow hsome hr =>
    obtain rfl := honce d ⟨phase, hd⟩
    rw [hd] at hd'
    cases hd'
    exact ⟨honce, hrow, hsome, hr⟩

/-- A queued job is not executed and was not failed. -/
lemma Fits.of_queued (h : Fits w j) (hqueued : w.state j = some .queued) :
    (∀ d, ¬ w.Executes d j) ∧ ∀ r, w.requests r ≠ .failed j := by
  cases h with
  | absent hrow _ _ => exact absurd (hrow.symm.trans hqueued) (by decide)
  | waiting _ hd hr => exact ⟨hd, hr⟩
  | neverStarted _ hrow _ _ => exact absurd (hrow.symm.trans hqueued) (by decide)
  | executed d phase _ _ hrow _ _ =>
    have hphase := hrow.symm.trans hqueued
    unfold Phase.state at hphase
    split at hphase <;> cases hphase

/-! ## The invariant is kept -/

/-- The invariant of the world is that of the jobs when the requests stay. -/
lemma Consistent.of_requests_eq (h : Consistent w) (hrequests : w'.requests = w.requests)
    (hfits : ∀ j, Fits w' j) : Consistent w' where
  fits := hfits
  copies := by
    rw [hrequests]
    exact h.copies
  owner := by
    rw [hrequests]
    exact h.owner

/-- A request that moves on keeps the invariant of the world when nobody else has its job. -/
lemma Consistent.of_setRequest (h : Consistent w) {r : Id} {request : Request Id Input Result}
    (hrequests : w'.requests = Function.update w.requests r request) (hfits : ∀ j, Fits w' j)
    (hcopy : ∀ j copy, request = .queueing j copy → copy.state = .queued)
    (howner : ∀ j, request.jobId = some j → ∀ r', (w.requests r').jobId = some j → r' = r) :
    Consistent w' where
  fits := hfits
  copies := by
    intro r' j copy h'
    simp only [hrequests, Function.update_apply] at h'
    split at h'
    · exact hcopy j copy h'
    · exact h.copies r' j copy h'
  owner := by
    intro r₁ r₂ j h₁ h₂
    simp only [hrequests, Function.update_apply] at h₁ h₂
    split at h₁
    · rename_i hr₁
      split at h₂
      · rename_i hr₂
        rw [hr₁, hr₂]
      · rw [hr₁, howner j h₁ r₂ h₂]
    · split at h₂
      · rename_i hr₂
        rw [hr₂, howner j h₂ r₁ h₁]
      · exact h.owner r₁ r₂ j h₁ h₂

/-- A job moves as its new row says, and no other job moves. -/
lemma moves_setJob {k : Id} {row : Job Id Input Result}
    (h : Moves (w.state k) (some row.state)) (j : Id) :
    Moves (w.state j) ((w.setJob k row).state j) := by
  by_cases hj : j = k
  · rw [hj, state_setJob_self]
    exact h
  · rw [state_setJob_of_ne hj]
    exact .stays _

/-- A worker goes on with its job. -/
lemma Consistent.advance (h : Consistent w) {d k : Id} {phase phase' : Phase Result}
    (hd : w.deliveries d = .executing k phase) {v : World Id Input Result}
    (hrequests : v.requests = w.requests) (hdeliveries : v.deliveries = w.deliveries)
    (hother : ∀ j, j ≠ k → Fits v j) (hstate : v.state k = phase'.state)
    (hsome : phase'.state ≠ none) : Consistent (v.setDelivery d (.executing k phase')) := by
  obtain ⟨honce, -, -, hr⟩ := (h.fits k).of_executing hd
  refine h.of_requests_eq hrequests fun j => ?_
  by_cases hj : j = k
  · subst hj
    refine .executed d phase' (Function.update_self ..) (fun d' h' => ?_) hstate hsome fun r => ?_
    · by_contra hne
      obtain ⟨phase'', h'⟩ := h'
      simp only [World.setDelivery, Function.update_of_ne hne, hdeliveries] at h'
      exact hne (honce d' ⟨phase'', h'⟩)
    · show v.requests r ≠ _
      rw [hrequests]
      exact hr r
  · refine (hother j hj).setDelivery ?_ fun phase'' h' => hj (by cases h'; rfl)
    rintro ⟨phase'', h'⟩
    rw [hdeliveries, hd] at h'
    cases h'
    exact hj rfl

section Steps

variable {r k d : Id} {request : Request Id Input Result} {copy row : Job Id Input Result}

omit [DecidableEq Id] in
/-- A request without a job has not failed one. -/
lemma ne_failed_of_jobId_eq_none (hr : (w.requests r).jobId = none) : w.requests r ≠ .failed j := by
  intro h'
  rw [h'] at hr
  cases hr

/-- A job that is not in the table is neither executed nor held by a request. -/
lemma Fits.of_absent (h : Fits w j) (hrow : w.state j = none) :
    (∀ d, ¬ w.Executes d j) ∧ ∀ r, (w.requests r).jobId ≠ some j := by
  cases h with
  | absent _ hd hnone => exact ⟨hd, hnone⟩
  | waiting hrow' _ _ => exact absurd (hrow'.symm.trans hrow) (by decide)
  | neverStarted _ hrow' _ _ => exact absurd (hrow'.symm.trans hrow) (by decide)
  | executed _ _ _ _ hrow' hsome _ => exact absurd (hrow'.symm.trans hrow) hsome

/-- A request that checks, or is turned away, keeps the invariant. -/
lemma Consistent.asks (h : Consistent w) (hr : (w.requests r).jobId = none)
    (hrequest : request.jobId = none) : Consistent (w.setRequest r request) := by
  have hno : ∀ j, request.jobId ≠ some j := by simp [hrequest]
  refine h.of_setRequest rfl (fun j => (h.fits j).setRequest (fun h' => absurd h' (hno j))
    (ne_failed_of_jobId_eq_none hr) ?_) ?_ fun j h' => absurd h' (hno j)
  · rintro rfl
    exact hno j rfl
  · rintro j copy rfl
    exact absurd rfl (hno j)

/-- A request that inserts a new job keeps the invariant. -/
lemma Consistent.inserts (h : Consistent w) (hr : (w.requests r).jobId = none)
    (hrow : w.state k = none) (hjob : row.state = .queued) :
    Consistent ((w.setJob k row).setRequest r (.queueing k row)) := by
  obtain ⟨hnot, hnone⟩ := (h.fits k).of_absent hrow
  refine h.of_setRequest rfl (fun j => ?_) ?_ ?_
  · by_cases hj : j = k
    · subst hj
      refine .waiting (state_setJob_self.trans (congrArg some hjob)) hnot fun r' h' => ?_
      simp only [World.setRequest, Function.update_apply] at h'
      split at h'
      · cases h'
      · exact hnone r' (by rw [show w.requests r' = _ from h']; rfl)
    · refine ((h.fits j).setJob_of_ne hj row).setRequest (fun h' => ?_)
        (ne_failed_of_jobId_eq_none hr) (by simp)
      exact absurd (Option.some.inj h').symm hj
  · rintro j copy ⟨⟩
    exact hjob
  · intro j h' r' hr'
    obtain rfl := Option.some.inj h'
    exact absurd hr' (hnone r')

/-- A request whose job the queue has taken keeps the invariant. -/
lemma Consistent.answers (h : Consistent w) (hr : w.requests r = .queueing k copy)
    (hrow : w.state k = some row.state) :
    Consistent ((w.setJob k row).setRequest r (.queued k)) := by
  have hjob : (w.requests r).jobId = some k := by rw [hr]; rfl
  have hold : ∀ j, w.requests r ≠ .failed j := by simp [hr]
  refine h.of_setRequest rfl (fun j => ?_) (by simp) fun j h' r' hr' =>
    h.owner r' r j hr' (hjob.trans h')
  have hfits : Fits (w.setJob k row) j := by
    by_cases hj : j = k
    · subst hj
      exact (h.fits j).setJob_self hrow
    · exact (h.fits j).setJob_of_ne hj row
  exact hfits.setRequest (fun h' => hjob.trans h') (hold j) (by simp)

/-- A request that fails the job it finds queued keeps the invariant. -/
lemma Consistent.failsJob (h : Consistent w) (hr : w.requests r = .queueing k copy)
    (hk : w.state k = some .queued) (hfailed : row.state = .failed) :
    Consistent ((w.setJob k row).setRequest r (.failed k)) := by
  have hjob : (w.requests r).jobId = some k := by rw [hr]; rfl
  have hold : ∀ j, w.requests r ≠ .failed j := by simp [hr]
  refine h.of_setRequest rfl (fun j => ?_) (by simp) fun j h' r' hr' =>
    h.owner r' r j hr' (hjob.trans h')
  by_cases hj : j = k
  · subst hj
    exact .neverStarted r (state_setJob_self.trans (congrArg some hfailed))
      ((h.fits j).of_queued hk).1 (Function.update_self ..)
  · refine ((h.fits j).setJob_of_ne hj row).setRequest (fun h' => hjob.trans h') (hold j)
      fun h' => ?_
    cases h'
    exact hj rfl

omit [DecidableEq Id] in
/-- An idle delivery executes no job. -/
lemma not_executes_of_idle (hd : w.deliveries d = .idle) : ¬ w.Executes d j := by
  rintro ⟨phase, h'⟩
  rw [hd] at h'
  cases h'

/-- A worker that refuses its delivery keeps the invariant. -/
lemma Consistent.refuses (h : Consistent w) (hd : w.deliveries d = .idle) :
    Consistent (w.setDelivery d .refused) :=
  h.of_requests_eq rfl fun j => (h.fits j).setDelivery (not_executes_of_idle hd) (by simp)

/-- A worker that starts a queued job keeps the invariant: nobody else executes it. -/
lemma Consistent.starts (h : Consistent w) (hd : w.deliveries d = .idle)
    (hk : w.state k = some .queued) (hrow : row.state = .started) :
    Consistent ((w.setJob k row).setDelivery d (.executing k .running)) := by
  obtain ⟨hnot, hr⟩ := (h.fits k).of_queued hk
  refine h.of_requests_eq rfl fun j => ?_
  by_cases hj : j = k
  · subst hj
    refine .executed d .running (Function.update_self ..) (fun d' h' => ?_)
      (state_setJob_self.trans (congrArg some hrow)) (by simp [Phase.state]) hr
    by_contra hne
    obtain ⟨phase, h'⟩ := h'
    simp only [World.setDelivery, Function.update_of_ne hne] at h'
    exact hnot d' ⟨phase, h'⟩
  · exact ((h.fits j).setJob_of_ne hj row).setDelivery (not_executes_of_idle (w := w) hd)
      fun phase h' => hj (by cases h'; rfl)

/-- A worker that ends its job, having found it started, keeps the invariant. -/
lemma Consistent.ends (h : Consistent w) {phase phase' : Phase Result}
    (hd : w.deliveries d = .executing k phase) (hrow : phase'.state = some row.state) :
    Consistent ((w.setJob k row).setDelivery d (.executing k phase')) :=
  h.advance hd rfl rfl (fun j hj => (h.fits j).setJob_of_ne hj row)
    (state_setJob_self.trans hrow.symm) (by simp [hrow])

end Steps

/-- An action keeps the invariant, and moves no job as it may not, when a request that fails its
job finds it queued. -/
lemma Change.keeps {a : Action Id Input Result} (h : Consistent w) (hchange : Change w a w')
    (hqueued : FailsQueued w a w') :
    Consistent w' ∧ ∀ j, Moves (w.state j) (w'.state j) := by
  cases hchange with
  | asks r request hr hrequest => exact ⟨h.asks hr hrequest, fun j => .stays _⟩
  | inserts r k job hr hrow hjob =>
    exact ⟨h.inserts hr hrow hjob, moves_setJob (by rw [hrow, hjob]; exact .queued)⟩
  | answers r k copy row hr hrow =>
    exact ⟨h.answers hr hrow, moves_setJob (by rw [hrow]; exact .stays _)⟩
  | failsJob r k copy row hr hrow =>
    have hk := hqueued r rfl k (by rw [hr]; rfl)
    have hfailed := hrow (h.copies r k copy hr)
    exact ⟨h.failsJob hr hk hfailed, moves_setJob (by rw [hk, hfailed]; exact .neverStarted)⟩
  | refuses d hd => exact ⟨h.refuses hd, fun j => .stays _⟩
  | starts d k row hd hk hrow =>
    exact ⟨h.starts hd hk hrow, moves_setJob (by rw [hk, hrow]; exact .started)⟩
  | bodyEnds d k phase hd hphase =>
    obtain ⟨-, hstate, -, -⟩ := (h.fits k).of_executing hd
    exact ⟨h.advance hd rfl rfl (fun j _ => h.fits j) (hstate.trans hphase.symm) (by simp [hphase]),
      fun j => .stays _⟩
  | conflicts d k result exc state hd hstate hterminal =>
    -- The worker finds its job started, and `started` is not terminal.
    obtain ⟨-, hstarted, -, -⟩ := (h.fits k).of_executing hd
    obtain rfl := Option.some.inj (hstate.symm.trans hstarted)
    exact absurd hterminal (by decide)
  | succeeds d k result row hd hrow =>
    obtain ⟨-, hstarted, -, -⟩ := (h.fits k).of_executing hd
    exact ⟨h.ends hd (by rw [hrow]; rfl), moves_setJob (by rw [hstarted, hrow]; exact .succeeded)⟩
  | failsSilently d k outcome exc row hd hrow =>
    obtain ⟨-, hstarted, hsome, -⟩ := (h.fits k).of_executing hd
    obtain ⟨raised, rfl⟩ : ∃ raised, outcome = .error raised := by
      cases outcome with
      | error raised => exact ⟨raised, rfl⟩
      | ok result => exact absurd rfl hsome
    have hfailed := hrow hstarted
    exact ⟨h.ends hd (by rw [hfailed]; rfl),
      moves_setJob (by rw [hstarted, hfailed]; exact .failed)⟩

/-- A step that leaves the truth told was no late failure. -/
lemma failsQueued_of_staysTrue [DecidableEq Result] {sanitizeText : String → String}
    {a : Action Id Input Result} (h : Consistent w) (hstep : step sanitizeText w a = some w')
    (htrue : StaysTrue w a w') : FailsQueued w a w' := by
  rintro r rfl j hjob
  simp only [step] at hstep
  split at hstep
  · rename_i k copy hr
    rw [hr] at hjob
    obtain rfl := Option.some.inj hjob
    obtain ⟨row, hk, rfl⟩ := Option.map_eq_some_iff.mp hstep
    -- The job now counts as failed by the request, so it was not executed.
    have hnot := (htrue k).2.not_executed r (Function.update_self ..)
    cases h.fits k with
    | absent hrow _ _ => exact absurd (hrow.symm.trans (state_eq_some hk)) (by simp)
    | waiting hrow _ _ => exact hrow
    | neverStarted r' _ _ hr' =>
      obtain rfl := h.owner r r' k (by rw [hr]; rfl) (by rw [hr']; rfl)
      rw [hr] at hr'
      cases hr'
    | executed d phase hd _ _ _ _ => exact absurd ⟨phase, hd⟩ (hnot d)
  · cases hstep

/-- Along a run every job moves only as it may and its state tells the truth, if and only if every
request that fails its job finds it queued. -/
theorem along_staysTrue_iff [DecidableEq Result] (sanitizeText : String → String)
    (actions : List (Action Id Input Result)) :
    Along (step sanitizeText) StaysTrue World.empty actions ↔
      Along (step sanitizeText) FailsQueued World.empty actions := by
  refine along_iff_of_inv (fun w a w' h hstep => ⟨failsQueued_of_staysTrue h hstep, ?_⟩)
    (fun w a w' h hstep hqueued => ((step_cases hstep).keeps h hqueued).1) consistent_empty
  intro hqueued j
  obtain ⟨hconsistent, hmoves⟩ := (step_cases hstep).keeps h hqueued
  exact ⟨hmoves j, (hconsistent.fits j).tellsTruth⟩

/-- A job is handed to a worker and succeeds, and then the call of the queue raises. -/
def lateFailure : List (Action ℕ Unit Unit) :=
  [.check 0 .refreshDevice (some 7) () true, .insert 0 1, .deliver 0 1, .bodyReturns 0 (),
    .finish 0, .queueRaises 0]

/-- The job that has succeeded is failed. -/
theorem not_staysTrue_lateFailure : ¬ Along (step id) StaysTrue World.empty lateFailure := by
  intro h
  have hlast : Along (step id) StaysTrue World.empty
      (lateFailure.dropLast ++ .queueRaises 0 :: []) := h
  have hmoves : Moves (some .succeeded) (some .failed) := (hlast.holds rfl rfl 1).1
  cases hmoves

end Terraformer.Jobs
