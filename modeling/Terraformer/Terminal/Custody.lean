import Terraformer.Log
import Terraformer.Terminal.Handler
import Terraformer.Transitions

/-!
# What a terminal takes, it gives back

`Rule` says when each thing may be done, and `Settled` what must have been done when the handler
ends.  `Careful` is the condition on a step under which they hold, and `Inv` the invariant of the
runs whose steps all meet it.  It keeps two accounts against the log: whether a permit is held and
whether a connection stands open (`Balanced`).

A step that does not meet the condition spoils the log for good (`Spoilt`), so the condition is
exact for the runs that end.
-/

namespace Terraformer.Terminal

/-! ## The property -/

/-- The phase in which an exception of the body fails. -/
def Exc.phase : Exc → Option Phase
  | .terminal code => failurePhase code
  | .app code => some ((failurePhase code).getD .terminalIo)
  | _ => some .terminalIo

namespace Effect

/-- A permitted attempt failed in phase `authentication`. -/
def isAuthFailure : Effect → Bool
  | .failed exc permitted => permitted && exc.phase = some .authentication
  | _ => false

/-- An audit row is written. -/
def isAudit : Effect → Bool
  | .audited _ _ _ => true
  | _ => false

end Effect

/-- No admission audit is recorded yet. -/
def Unaudited (log : List Effect) : Prop := ∀ e ∈ log, e.isAudit = false

/-- A permitted attempt failed in phase `authentication`. -/
def AuthFailed (log : List Effect) : Prop := ∃ e ∈ log, e.isAuthFailure = true

/-- What must have been done before, for each thing that is done. -/
def Rule (before : List Effect) : Effect → Prop
  | .acquired => .acquired ∉ before ∧ Unaudited before
  | .opened => .acquired ∈ before ∧ .released ∉ before ∧ .opened ∉ before
  | .closed => .opened ∈ before ∧ .closed ∉ before
  | .released =>
    .acquired ∈ before ∧ .released ∉ before ∧ (.opened ∈ before → .closed ∈ before)
  | .decrypted transport =>
    transport = some .ssh ∧ .accepted ∈ before ∧ .policyPassed ∈ before ∧ .acquired ∈ before
  | .reportedFailed => AuthFailed before ∧ .reportedFailed ∉ before
  | .audited _ allowed _ => Unaudited before ∧ (allowed = true ↔ .acquired ∈ before)
  | _ => True

/-- What must have been done in the end. -/
structure Settled (log : List Effect) : Prop where
  released : .acquired ∈ log → .released ∈ log
  closed : .opened ∈ log → .closed ∈ log
  reported : AuthFailed log → .reportedFailed ∈ log

/-! ## The condition -/

/-- An `AppError` whose code stands for a failed authentication.  The clause for these does not
report to the gate. -/
def Exc.skipsReport : Exc → Bool
  | .app code => failurePhase code = some .authentication
  | _ => false

/-- A step that does not lose what the handler holds. -/
def Careful (s : State) (action : Action) : Prop :=
  match s.pc, action with
  -- A second cancellation ends the cleanup where nothing swallows it.
  | .cleaning .gathering true, .cancel _ | .cleaning .closingWebsocket true, .cancel _ =>
    s.permit = false
  -- So does an exception that `_close_websocket` does not expect.
  | .cleaning .closingWebsocket _, .raises exc => s.permit = false ∨ closeSwallows exc = true
  -- Or it drops the call that waits for a thread.
  | .cleaning .releasing true, .cancel ran => ran = true
  | .reportingFailed, .cancel ran => ran = true
  -- A permit that came after the cancellation is audited as denied.
  | .cleaning .auditing false, .cancel _ => True
  | .cleaning .auditing _, .raises _ => True
  | .cleaning .auditing _, action =>
    action.ran = true → s.permit = true ∨ .acquired ∉ s.log
  | .cleaning _ _, _ | .creatingProcess, _ | .reportingFailed, _ | .reportingLateSuccess, _
  | .sendingError, _ | .done, _ => True
  | .closingConnection exc, .ok => exc.skipsReport = false
  | .closingConnection _, _ => True
  | _, .raises exc => s.permit = false ∨ exc.skipsReport = false
  | _, _ => True

/-- Whether an action is careful is decided by the place and the action. -/
instance (s : State) (action : Action) : Decidable (Careful s action) := by
  unfold Careful
  split <;> infer_instance

/-! ## The accounts -/

/-- What is logged after an effect is the effect, or was logged before. -/
@[simp] lemma mem_emit {s : State} {e effect : Effect} :
    e ∈ (s.emit effect).log ↔ e ∈ s.log ∨ e = effect := by
  simp [State.emit]

/-- Going to another place logs nothing. -/
@[simp] lemma log_goto (s : State) (pc : Pc) : (s.goto pc).log = s.log := rfl

/-- A log stays without audit rows if the new effect is none. -/
@[simp] lemma unaudited_concat {log : List Effect} {e : Effect} :
    Unaudited (log ++ [e]) ↔ Unaudited log ∧ e.isAudit = false := by
  simp [Unaudited, or_imp, forall_and]

/-- A login has failed when it had failed before, or the new effect says so. -/
@[simp] lemma authFailed_concat {log : List Effect} {e : Effect} :
    AuthFailed (log ++ [e]) ↔ AuthFailed log ∨ e.isAuthFailure = true := by
  simp [AuthFailed, or_and_right, exists_or]

/-- The log agrees with what is held: a permit, and an open connection. -/
structure Balanced (log : List Effect) (permit session : Bool) : Prop where
  obeys : Obeys Rule log
  acquired : permit = true → .acquired ∈ log
  released : .released ∈ log ↔ .acquired ∈ log ∧ permit = false
  opened : session = true → .opened ∈ log ∧ permit = true
  closed : .closed ∈ log ↔ .opened ∈ log ∧ session = false
  permitted : .opened ∈ log → .acquired ∈ log

/-- Taking or giving back the permit or the connection. -/
def Effect.moves : Effect → Bool
  | .acquired | .released | .opened | .closed => true
  | _ => false

namespace Balanced

variable {log : List Effect} {permit session : Bool} {e : Effect}

/-- An effect that moves neither permit nor session keeps the balance. -/
lemma concat (h : Balanced log permit session) (hrule : Rule log e) (he : e.moves = false) :
    Balanced (log ++ [e]) permit session := by
  have hmem : ∀ m : Effect, m.moves = true → (m ∈ log ++ [e] ↔ m ∈ log) := by
    intro m hm
    have hne : m ≠ e := by rintro rfl; simp [he] at hm
    simp [hne]
  have hacquired := hmem .acquired rfl
  have hreleased := hmem .released rfl
  have hopened := hmem .opened rfl
  have hclosed := hmem .closed rfl
  exact ⟨obeys_concat.mpr ⟨h.obeys, hrule⟩, by rw [hacquired]; exact h.acquired,
    by rw [hreleased, hacquired]; exact h.released, by rw [hopened]; exact h.opened,
    by rw [hclosed, hopened]; exact h.closed, by rw [hopened, hacquired]; exact h.permitted⟩

/-- The permit is acquired once, before any audit row. -/
lemma acquire (h : Balanced log false false) (hnew : .acquired ∉ log) (haudit : Unaudited log) :
    Balanced (log ++ [.acquired]) true false where
  obeys := obeys_concat.mpr ⟨h.obeys, hnew, haudit⟩
  acquired _ := by simp
  released := by simp [h.released, hnew]
  opened := nofun
  closed := by simp [h.closed]
  permitted _ := by simp

/-- The permit is given back while no session is open. -/
lemma release (h : Balanced log true false) : Balanced (log ++ [.released]) false false where
  obeys := obeys_concat.mpr ⟨h.obeys, h.acquired rfl, by simp [h.released], by simp [h.closed]⟩
  acquired := nofun
  released := by simp [h.acquired]
  opened := nofun
  closed := by simp [h.closed]
  permitted := by simpa using h.permitted

/-- The session is opened under a permit. -/
lemma connect (h : Balanced log true false) (hnew : .opened ∉ log) :
    Balanced (log ++ [.opened]) true true where
  obeys := obeys_concat.mpr ⟨h.obeys, h.acquired rfl, by simp [h.released], hnew⟩
  acquired _ := by simp [h.acquired]
  released := by simp [h.released]
  opened _ := by simp
  closed := by simp [h.closed, hnew]
  permitted _ := by simp [h.acquired]

/-- The open session is closed, and the permit is still held. -/
lemma disconnect (h : Balanced log true true) : Balanced (log ++ [.closed]) true false where
  obeys := obeys_concat.mpr ⟨h.obeys, (h.opened rfl).1, by simp [h.closed]⟩
  acquired _ := by simp [h.acquired]
  released := by simp [h.released]
  opened := nofun
  closed := by simp [(h.opened rfl).1]
  permitted := by simpa using h.permitted

end Balanced

/-- The handler's body goes on: nothing failed, and nothing is audited or reported. -/
structure Running (log : List Effect) (permit session : Bool) : Prop where
  balanced : Balanced log permit session
  unaudited : Unaudited log
  unfailed : ¬AuthFailed log
  unreported : .reportedFailed ∉ log

namespace Running

variable {log : List Effect} {permit session : Bool} {e : Effect}

/-- An effect that moves nothing, audits nothing and reports no failure keeps the handler
running. -/
lemma concat (h : Running log permit session) (hrule : Rule log e) (hmoves : e.moves = false)
    (haudit : e.isAudit = false) (hfail : e.isAuthFailure = false) (hreport : e ≠ .reportedFailed) :
    Running (log ++ [e]) permit session :=
  ⟨h.balanced.concat hrule hmoves, unaudited_concat.mpr ⟨h.unaudited, haudit⟩,
    by simp [h.unfailed, hfail], by simp [h.unreported, hreport.symm]⟩

/-- Taking or giving back is no failure. -/
lemma moved {permit' session' : Bool} (h : Running log permit session)
    (hbalanced : Balanced (log ++ [e]) permit' session') (he : e.moves = true) :
    Running (log ++ [e]) permit' session' := by
  refine ⟨hbalanced, unaudited_concat.mpr ⟨h.unaudited, ?_⟩, ?_, ?_⟩
  · cases e <;> first | rfl | simp [Effect.moves] at he
  · rw [authFailed_concat]
    rintro (hfailed | hfailed)
    · exact h.unfailed hfailed
    · cases e <;> simp [Effect.moves, Effect.isAuthFailure] at he hfailed
  · rw [List.mem_append, List.mem_singleton]
    rintro (hmem | rfl)
    · exact h.unreported hmem
    · simp [Effect.moves] at he

end Running

/-- The body is over and what it had to report is reported. -/
structure Ended (log : List Effect) (permit session allowed : Bool) : Prop where
  balanced : Balanced log permit session
  unaudited : Unaudited log
  reported : .reportedFailed ∈ log ↔ AuthFailed log
  allowed : allowed = permit

/-- The session is closed, and the audit is done or left out. -/
structure Closing (log : List Effect) (permit : Bool) : Prop where
  balanced : Balanced log permit false
  reported : .reportedFailed ∈ log ↔ AuthFailed log

/-- The invariant, for each await. -/
def Inv (s : State) : Prop :=
  match s.pc with
  | .acknowledging =>
    Running s.log s.permit s.session ∧ s.auditAllowed = s.permit ∧ .acquired ∉ s.log
  | .readingTarget _ =>
    Running s.log s.permit s.session ∧ s.auditAllowed = s.permit ∧ .acquired ∉ s.log ∧
      .accepted ∈ s.log
  | .acquiring | .rollingBack =>
    Running s.log s.permit s.session ∧ s.auditAllowed = s.permit ∧ .acquired ∉ s.log ∧
      .accepted ∈ s.log ∧ .policyPassed ∈ s.log ∧ s.target.isSome
  -- The late permit is not the handler's.
  | .releasingLate =>
    Running s.log true false ∧ s.auditAllowed = s.permit ∧ s.permit = false ∧ s.session = false
  | .sendingConnecting =>
    Running s.log s.permit s.session ∧ s.auditAllowed = s.permit ∧ s.permit = true ∧
      .opened ∉ s.log ∧ .accepted ∈ s.log ∧ .policyPassed ∈ s.log ∧ s.target.isSome
  | .decrypting =>
    Running s.log s.permit s.session ∧ s.auditAllowed = s.permit ∧ s.permit = true ∧
      .opened ∉ s.log ∧ .accepted ∈ s.log ∧ .policyPassed ∈ s.log ∧
      s.target.map (·.consoleTransport) = some .ssh
  | .openingTelnet | .connecting =>
    Running s.log s.permit s.session ∧ s.auditAllowed = s.permit ∧ s.permit = true ∧
      .opened ∉ s.log
  -- The connection is open, but not yet the handler's session.
  | .creatingProcess | .closingConnection _ =>
    Running s.log s.permit true ∧ s.auditAllowed = s.permit ∧ s.permit = true ∧
      s.session = false
  | .reportingSuccess | .recordingOpened | .sendingConnected | .relaying =>
    Running s.log s.permit s.session ∧ s.auditAllowed = s.permit ∧ s.permit = true
  | .reportingFailed =>
    Balanced s.log s.permit s.session ∧ Unaudited s.log ∧ AuthFailed s.log ∧
      .reportedFailed ∉ s.log ∧ s.auditAllowed = s.permit
  | .reportingLateSuccess | .sendingError | .cleaning .gathering _ =>
    Ended s.log s.permit s.session s.auditAllowed
  | .cleaning .closingSession _ =>
    Ended s.log s.permit s.session s.auditAllowed ∧ s.session = true
  | .cleaning .auditing _ => Ended s.log s.permit s.session s.auditAllowed ∧ s.session = false
  | .cleaning .recordingClosed _ | .cleaning .closingWebsocket _ => Closing s.log s.permit
  | .cleaning .releasing _ => Closing s.log s.permit ∧ s.permit = true
  | .done => Obeys Rule s.log ∧ Settled s.log

/-- The step after this one cannot report a failure any more. -/
def Pc.pastReport : Pc → Bool
  | .sendingError | .cleaning _ _ | .done => true
  | _ => false

/-- What can no longer be made good. -/
inductive Spoilt (s : State) : Prop where
  | disobeyed (h : ¬Obeys Rule s.log)
  | permitKept (hdone : s.pc = .done) (hacquired : .acquired ∈ s.log)
      (hreleased : .released ∉ s.log)
  | unreported (hpast : s.pc.pastReport = true) (hfailed : AuthFailed s.log)
      (hreported : .reportedFailed ∉ s.log)

/-! ## From await to await -/

section Helpers

variable {s : State} {interrupted : Bool}

/-- Going on to the release keeps the invariant once the session is closed. -/
lemma Closing.release (h : Closing s.log s.permit) : Inv (s.release interrupted) := by
  unfold State.release
  split
  · exact ⟨h, ‹_›⟩
  · next hpermit =>
    refine ⟨h.balanced.obeys, ⟨fun hacquired => ?_, fun hopened => ?_, h.reported.mpr⟩⟩
    · exact h.balanced.released.mpr ⟨hacquired, by simpa using hpermit⟩
    · exact h.balanced.closed.mpr ⟨hopened, rfl⟩

/-- Going on to the closing event keeps the invariant once the session is closed. -/
lemma Closing.recordClosed (h : Closing s.log s.permit) : Inv (s.recordClosed interrupted) := by
  unfold State.recordClosed
  split <;> exact h

variable (h : Ended s.log s.permit s.session s.auditAllowed)
include h

/-- A body that is over and left no open session has nothing to close. -/
lemma Ended.closing (hsession : s.session = false) : Closing s.log s.permit :=
  ⟨hsession ▸ h.balanced, h.reported⟩

/-- Going on to the audit row keeps the invariant once the session is closed. -/
lemma Ended.audit (hsession : s.session = false) : Inv (s.audit interrupted) := by
  unfold State.audit
  split
  · exact ⟨h, hsession⟩
  · exact (h.closing hsession).recordClosed

/-- Going on to the open session keeps the invariant once the body is over. -/
lemma Ended.closeSession : Inv (s.closeSession interrupted) := by
  unfold State.closeSession
  split
  · exact ⟨h, ‹_›⟩
  · next hsession => exact Ended.audit h (by simpa using hsession)

/-- Entering the `finally` block keeps the invariant once the body is over. -/
lemma Ended.toFinally : Inv s.toFinally := by
  unfold State.toFinally
  split
  · exact h
  · exact Ended.closeSession h

/-- Going on to the error message keeps the invariant once the body is over. -/
lemma Ended.sendError (code : String) : Inv (s.sendError code) := by
  unfold State.sendError
  split
  · exact Ended.toFinally h
  · exact h

end Helpers

/-- The cleanup goes on and does nothing on the way. -/
structure Closes (s t : State) : Prop where
  log : t.log = s.log
  past : t.pc.pastReport = true

section Logs

variable (s : State) (interrupted : Bool)

/-- Going on to the release does nothing on the way. -/
lemma closes_release : Closes s (s.release interrupted) := by
  unfold State.release
  split <;> exact ⟨rfl, rfl⟩

/-- Going on to the closing event does nothing on the way. -/
lemma closes_recordClosed : Closes s (s.recordClosed interrupted) := by
  unfold State.recordClosed
  split <;> exact ⟨rfl, rfl⟩

/-- Going on to the audit row does nothing on the way. -/
lemma closes_audit : Closes s (s.audit interrupted) := by
  unfold State.audit
  split
  · exact ⟨rfl, rfl⟩
  · exact closes_recordClosed s interrupted

/-- Going on to the open session does nothing on the way. -/
lemma closes_closeSession : Closes s (s.closeSession interrupted) := by
  unfold State.closeSession
  split
  · exact ⟨rfl, rfl⟩
  · exact closes_audit s interrupted

/-- Entering the `finally` block does nothing on the way. -/
lemma closes_toFinally : Closes s s.toFinally := by
  unfold State.toFinally
  split
  · exact ⟨rfl, rfl⟩
  · exact closes_closeSession s false

/-- Going on to the error message does nothing on the way. -/
lemma closes_sendError (code : String) : Closes s (s.sendError code) := by
  unfold State.sendError
  split
  · exact closes_toFinally s
  · exact ⟨rfl, rfl⟩

/-- The clause for a terminal error does nothing before its first await. -/
lemma log_failTerminal (code : String) : (s.failTerminal code).log = s.log := by
  unfold State.failTerminal
  split
  · exact (closes_toFinally s).log
  · split_ifs <;> rfl

/-- A failure logs itself and whether the permit was held. -/
@[simp] lemma log_fail (exc : Exc) : (s.fail exc).log = s.log ++ [.failed exc s.permit] := by
  unfold State.fail
  cases exc with
  | terminal code => exact log_failTerminal _ code
  | disconnect | cancelled => exact (closes_toFinally _).log
  | _ => exact (closes_sendError _ _).log

end Logs

/-! ## How the body ends -/

/-- With the condition the invariant goes on, and without it the log is spoilt. -/
def Verdict (careful : Prop) (t : State) : Prop :=
  (careful → Inv t) ∧ (¬careful → Spoilt t)

/-- A state that keeps the invariant passes the verdict of any condition that holds. -/
lemma verdict_of_inv {careful : Prop} {t : State} (hcareful : careful) (h : Inv t) :
    Verdict careful t :=
  ⟨fun _ => h, fun hnot => absurd hcareful hnot⟩

/-- The verdict depends on the truth of its condition only. -/
lemma Verdict.congr {careful other : Prop} {t : State} (h : Verdict other t)
    (hiff : careful ↔ other) : Verdict careful t :=
  ⟨fun hcareful => h.1 (hiff.mp hcareful), fun hcareful => h.2 (mt hiff.mpr hcareful)⟩

section Fail

variable {s : State} (exc : Exc) (h : Running s.log s.permit s.session)
include h

/-- The exception is not one that has to be reported. -/
lemma Running.fail (hallowed : s.auditAllowed = s.permit)
    (hexc : (Effect.failed exc s.permit).isAuthFailure = false) : Inv (s.fail exc) := by
  have hrun := h.concat (e := .failed exc s.permit) trivial rfl rfl hexc nofun
  have hended : Ended (s.emit (.failed exc s.permit)).log s.permit s.session s.auditAllowed :=
    ⟨hrun.balanced, hrun.unaudited, iff_of_false hrun.unreported hrun.unfailed, hallowed⟩
  unfold State.fail
  cases exc with
  | terminal code =>
    simp only [State.failTerminal]
    split
    · exact Ended.toFinally hended
    · next phase hphase =>
      have hother : ¬(s.permit && phase = .authentication) = true := by
        simpa [Effect.isAuthFailure, Exc.phase, hphase] using hexc
      rw [if_neg (by exact hother)]
      split <;> exact hended
  | disconnect | cancelled => exact Ended.toFinally hended
  | _ => exact Ended.sendError hended _

/-- A failure of the authentication is reported next. -/
lemma Running.fail_authentication {code : String} (hallowed : s.auditAllowed = s.permit)
    (hpermit : s.permit = true) (hcode : failurePhase code = some .authentication) :
    Inv (s.fail (.terminal code)) := by
  have hbalanced := h.balanced.concat (e := .failed (.terminal code) s.permit) trivial rfl
  simp only [State.fail, State.failTerminal, hcode]
  rw [if_pos (by simp [State.emit, hpermit])]
  refine ⟨hbalanced, unaudited_concat.mpr ⟨h.unaudited, rfl⟩, authFailed_concat.mpr (Or.inr ?_),
    ?_, hallowed⟩
  · simp [Effect.isAuthFailure, Exc.phase, hcode, hpermit]
  · simpa [State.note, State.goto] using h.unreported

/-- A failure that the clause for `AppError` takes is never reported. -/
lemma Running.fail_spoilt (hpermit : s.permit = true) (hexc : exc.skipsReport = true) :
    Spoilt (s.fail exc) := by
  cases exc with
  | app code =>
    have hcode : failurePhase code = some .authentication := by
      simpa [Exc.skipsReport] using hexc
    refine .unreported (closes_sendError _ _).past ?_ ?_
    · rw [log_fail, authFailed_concat]
      exact Or.inr (by simp [Effect.isAuthFailure, Exc.phase, hcode, hpermit])
    · simpa using h.unreported
  | _ => cases hexc

/-- A failure with the permit in hand is reported, unless it is of a kind that skips the report. -/
lemma Running.fail_verdict (hallowed : s.auditAllowed = s.permit) :
    Verdict (s.permit = false ∨ exc.skipsReport = false) (s.fail exc) := by
  refine ⟨fun hcareful => ?_, fun hcareful => ?_⟩
  · by_cases hexc : (Effect.failed exc s.permit).isAuthFailure = true
    · have hboth : s.permit = true ∧ exc.phase = some .authentication := by
        simpa [Effect.isAuthFailure] using hexc
      obtain ⟨hpermit, hphase⟩ := hboth
      cases exc with
      | terminal code => exact h.fail_authentication hallowed hpermit hphase
      | app code =>
        have hnot : failurePhase code ≠ some .authentication := by
          simpa [hpermit, Exc.skipsReport] using hcareful
        cases hcode : failurePhase code with
        | none => simp [Exc.phase, hcode] at hphase
        | some phase => exact absurd (by simpa [Exc.phase, hcode] using hphase) (hcode ▸ hnot)
      | _ => cases hphase
    · exact h.fail exc hallowed (by simpa using hexc)
  · obtain ⟨hpermit, hexc⟩ := not_or.mp hcareful
    exact h.fail_spoilt exc (by simpa using hpermit) (by simpa using hexc)

end Fail

/-! ## The steps -/

variable {request : Request} {s t : State} {action : Action}

/-- Translating the failure to connect does not change whether the report is skipped. -/
@[simp] lemma skipsReport_connectFailure (exc : Exc) :
    (connectFailure exc).skipsReport = exc.skipsReport := by
  cases exc <;> rfl

/-- Translating the failure of Telnet does not change whether the report is skipped. -/
@[simp] lemma skipsReport_telnetFailure (exc : Exc) :
    (telnetFailure exc).skipsReport = exc.skipsReport := by
  cases exc <;> rfl

/-- Translating the failure of the process does not change whether the report is skipped. -/
lemma skipsReport_processFailure (exc : Exc) :
    (processFailure exc).skipsReport = exc.skipsReport := by
  cases exc with
  | ssh kind => cases kind <;> rfl
  | _ => rfl

/-- An await of the body whose exceptions keep their code. -/
lemma await_verdict {u next : State} {translate : Exc → Exc}
    (hrun : Running u.log u.permit u.session) (hallowed : u.auditAllowed = u.permit)
    (htranslate : ∀ exc, (translate exc).skipsReport = exc.skipsReport)
    (hnext : action = .ok → Inv next) (h : u.await next translate action = some t) :
    Verdict (∀ exc, action = .raises exc → u.permit = false ∨ exc.skipsReport = false) t := by
  cases action with
  | ok =>
    obtain rfl := Option.some.inj h
    exact verdict_of_inv nofun (hnext rfl)
  | raises exc =>
    obtain rfl := Option.some.inj h
    simpa [htranslate] using hrun.fail_verdict (translate exc) hallowed
  | cancel ran =>
    obtain rfl := Option.some.inj h
    exact verdict_of_inv nofun (hrun.fail _ hallowed (by simp [Effect.isAuthFailure, Exc.phase]))
  | _ => cases h

/-- A handler that never acquired the permit does not hold it. -/
lemma permit_of_fresh {log : List Effect} {permit session : Bool} (h : Running log permit session)
    (hnew : .acquired ∉ log) : permit = false :=
  Bool.eq_false_iff.mpr fun hpermit => hnew (h.balanced.acquired hpermit)

/-- Without a permit every exception ends the body well. -/
lemma Running.fail_fresh {u : State} (exc : Exc) (h : Running u.log u.permit u.session)
    (hallowed : u.auditAllowed = u.permit) (hnew : .acquired ∉ u.log) : Inv (u.fail exc) :=
  h.fail exc hallowed (by simp [Effect.isAuthFailure, permit_of_fresh h hnew])

/-- The acknowledgement is awaited before anything is held. -/
lemma step_acknowledging (hpc : s.pc = .acknowledging) (hs : Inv s)
    (h : step request s action = some t) : Inv t := by
  simp only [Inv, hpc] at hs
  obtain ⟨hrun, hallowed, hnew⟩ := hs
  have hfail := fun exc => hrun.fail_fresh exc hallowed hnew
  simp only [step.eq_def, hpc] at h
  cases action with
  | message message =>
    dsimp only at h
    split at h
    · obtain rfl := Option.some.inj h
      exact hfail _
    · have haccept := hrun.concat (e := .accepted) trivial rfl rfl rfl nofun
      have hnew' : .acquired ∉ s.log ++ [Effect.accepted] := by simpa using hnew
      obtain rfl := Option.some.inj h
      split
      · exact ⟨haccept, hallowed, hnew', by simp⟩
      · exact Running.fail_fresh (u := s.emit .accepted) _ haccept hallowed hnew'
  | raises exc =>
    have hexc : ∃ raised, s.fail raised = t := by
      split at h <;> first | exact ⟨_, Option.some.inj h⟩ | contradiction
    obtain ⟨raised, rfl⟩ := hexc
    exact hfail raised
  | cancel ran =>
    obtain rfl := Option.some.inj h
    exact hfail _
  | _ => cases h

/-- Reading the target ends the handler or asks for the permit, with nothing held. -/
lemma step_readingTarget {ack : Acknowledgement} (hpc : s.pc = .readingTarget ack) (hs : Inv s)
    (h : step request s action = some t) : Inv t := by
  simp only [Inv, hpc] at hs
  obtain ⟨hrun, hallowed, hnew, haccepted⟩ := hs
  simp only [step.eq_def, hpc] at h
  cases action with
  | target target =>
    dsimp only at h
    split at h
    · obtain rfl := Option.some.inj h
      exact Running.fail_fresh _ hrun hallowed hnew
    · obtain rfl := Option.some.inj h
      exact ⟨hrun.concat trivial rfl rfl rfl nofun, hallowed, by simpa using hnew,
        by simp [haccepted], by simp, rfl⟩
  | raises exc =>
    obtain rfl := Option.some.inj h
    exact hrun.fail_fresh _ hallowed hnew
  | cancel ran =>
    obtain rfl := Option.some.inj h
    exact hrun.fail_fresh _ hallowed hnew
  | _ => cases h

/-- The permit is the handler's when the call returns to it, and nobody's otherwise. -/
lemma step_acquiring (hpc : s.pc = .acquiring ∨ s.pc = .rollingBack) (hs : Inv s)
    (h : step request s action = some t) : Inv t := by
  have hs' : Running s.log s.permit s.session ∧ s.auditAllowed = s.permit ∧ .acquired ∉ s.log ∧
      .accepted ∈ s.log ∧ .policyPassed ∈ s.log ∧ s.target.isSome := by
    rcases hpc with hpc | hpc <;> simpa only [Inv, hpc] using hs
  obtain ⟨hrun, hallowed, hnew, haccepted, hpassed, htarget⟩ := hs'
  have hpermit := permit_of_fresh hrun hnew
  have hunopened : .opened ∉ s.log := fun hopened => hnew (hrun.balanced.permitted hopened)
  have hsession : s.session = false :=
    Bool.eq_false_iff.mpr fun hsession => hunopened (hrun.balanced.opened hsession).1
  have hacquired : Running (s.log ++ [.acquired]) true false :=
    hrun.moved ((hpermit ▸ hsession ▸ hrun.balanced).acquire hnew hrun.unaudited) rfl
  rcases hpc with hpc | hpc
  · simp only [step.eq_def, hpc] at h
    cases action with
    | ok =>
      obtain rfl := Option.some.inj h
      exact ⟨hsession ▸ hacquired, rfl, rfl, by simpa using hunopened,
        by simp [haccepted], by simp [hpassed], htarget⟩
    | raises exc =>
      obtain rfl := Option.some.inj h
      exact hrun.fail_fresh _ hallowed hnew
    | cancel ran =>
      obtain rfl := Option.some.inj h
      exact ⟨hrun, hallowed, hnew, haccepted, hpassed, htarget⟩
    | _ => cases h
  · simp only [step.eq_def, hpc] at h
    cases action with
    | ok =>
      obtain rfl := Option.some.inj h
      exact ⟨hacquired, hallowed, hpermit, hsession⟩
    | raises exc =>
      obtain rfl := Option.some.inj h
      exact hrun.fail_fresh _ hallowed hnew
    | cancel ran =>
      obtain rfl := Option.some.inj h
      exact hs
    | _ => cases h

/-- A permit that arrives after the cancellation is given back. -/
lemma step_releasingLate (hpc : s.pc = .releasingLate) (hs : Inv s)
    (h : step request s action = some t) : Inv t := by
  have hs' := hs
  simp only [Inv, hpc] at hs'
  obtain ⟨hrun, hallowed, hpermit, hsession⟩ := hs'
  have hreleased : Running (s.log ++ [.released]) s.permit s.session := by
    rw [hpermit, hsession]
    exact hrun.moved hrun.balanced.release rfl
  have hfail : Inv ((s.emit .released).fail .cancelled) :=
    Running.fail (s := s.emit .released) _ hreleased hallowed
      (by simp [Effect.isAuthFailure, Exc.phase])
  simp only [step.eq_def, hpc] at h
  cases action with
  | ok => exact Option.some.inj h ▸ hfail
  | raises exc => exact Option.some.inj h ▸ hfail
  | cancel ran => exact Option.some.inj h ▸ hs
  | _ => cases h

/-- The awaits of the body from the permit on whose exceptions end it as they are. -/
def Pc.permitted : Pc → Bool
  | .sendingConnecting | .openingTelnet | .decrypting | .connecting | .reportingSuccess
  | .recordingOpened | .sendingConnected | .relaying => true
  | _ => false

/-- While the permit is held, care means that no exception skips the report. -/
lemma careful_permitted (hpc : s.pc.permitted = true) :
    Careful s action ↔ ∀ exc, action = .raises exc → s.permit = false ∨ exc.skipsReport = false := by
  unfold Careful
  cases hs : s.pc <;> simp [hs, Pc.permitted] at hpc <;> cases action <;> simp

/-- Until the session is open, a failure is reported if the action is careful. -/
lemma step_connecting (hpc : s.pc = .sendingConnecting ∨ s.pc = .openingTelnet ∨ s.pc = .connecting)
    (hs : Inv s) (h : step request s action = some t) :
    Verdict (∀ exc, action = .raises exc → s.permit = false ∨ exc.skipsReport = false) t := by
  rcases hpc with hpc | hpc | hpc <;> simp only [Inv, hpc] at hs <;>
    simp only [step.eq_def, hpc] at h
  · obtain ⟨hrun, hallowed, hpermit, hunopened, haccepted, hpassed, htarget⟩ := hs
    refine await_verdict hrun hallowed (fun _ => rfl) (fun _ => ?_) h
    obtain ⟨target, hsome⟩ := Option.isSome_iff_exists.mp htarget
    rw [hsome]
    obtain ⟨compatibility, _ | _, isLab⟩ := target
    · exact ⟨hrun, hallowed, hpermit, hunopened, haccepted, hpassed, by simp [State.goto, hsome]⟩
    · exact ⟨hrun, hallowed, hpermit, hunopened⟩
  · obtain ⟨hrun, hallowed, hpermit, hunopened⟩ := hs
    refine await_verdict hrun hallowed skipsReport_telnetFailure (fun _ => ?_) h
    have hsession : s.session = false :=
      Bool.eq_false_iff.mpr fun hsession => hunopened (hrun.balanced.opened hsession).1
    have hbalanced := (hpermit ▸ hsession ▸ hrun.balanced).connect hunopened
    exact ⟨hrun.moved (hpermit.symm ▸ hbalanced) rfl, hallowed, hpermit⟩
  · obtain ⟨hrun, hallowed, hpermit, hunopened⟩ := hs
    refine await_verdict hrun hallowed skipsReport_connectFailure (fun _ => ?_) h
    have hsession : s.session = false :=
      Bool.eq_false_iff.mpr fun hsession => hunopened (hrun.balanced.opened hsession).1
    have hbalanced := (hpermit ▸ hsession ▸ hrun.balanced).connect hunopened
    exact ⟨hrun.moved (hpermit.symm ▸ hbalanced) rfl, hallowed, hpermit, hsession⟩

/-- A call that is no news for the accounts, made or not. -/
lemma Running.call (action : Action) {u : State} {e : Effect} (h : Running u.log u.permit u.session)
    (hrule : Rule u.log e) (hmoves : e.moves = false) (haudit : e.isAudit = false)
    (hfail : e.isAuthFailure = false) (hreport : e ≠ .reportedFailed) :
    Running (u.call e action).log (u.call e action).permit (u.call e action).session := by
  unfold State.call
  split
  · exact h.concat hrule hmoves haudit hfail hreport
  · exact h

/-- A call changes nothing but the place and may log its own effect. -/
lemma fields_call (action : Action) (u : State) (e : Effect) :
    (u.call e action).auditAllowed = u.auditAllowed ∧
    (u.call e action).permit = u.permit ∧ (u.call e action).session = u.session ∧
    ∀ m ∈ (u.call e action).log, m = e ∨ m ∈ u.log := by
  unfold State.call
  split
  · exact ⟨rfl, rfl, rfl, fun m hm => (mem_emit.mp hm).symm⟩
  · exact ⟨rfl, rfl, rfl, fun m hm => Or.inr hm⟩

/-- Decrypting the credential fails like the connection does. -/
lemma step_decrypting (hpc : s.pc = .decrypting) (hs : Inv s)
    (h : step request s action = some t) :
    Verdict (∀ exc, action = .raises exc → s.permit = false ∨ exc.skipsReport = false) t := by
  simp only [Inv, hpc] at hs
  obtain ⟨hrun, hallowed, hpermit, hunopened, haccepted, hpassed, htransport⟩ := hs
  have hcall := hrun.call action (e := .decrypted (s.target.map (·.consoleTransport)))
    ⟨htransport, haccepted, hpassed, hrun.balanced.acquired hpermit⟩ rfl rfl rfl nofun
  obtain ⟨hallowed', hpermit', -, hmem⟩ :=
    fields_call action s (.decrypted (s.target.map (·.consoleTransport)))
  have hallowed'' := hallowed'.trans (hallowed.trans hpermit'.symm)
  simp only [step.eq_def, hpc] at h
  generalize s.call (.decrypted (s.target.map (·.consoleTransport))) action = u
    at h hcall hallowed' hpermit' hmem hallowed''
  cases action with
  | parameters unknownHost =>
    cases unknownHost with
    | true =>
      obtain rfl := Option.some.inj h
      have hphase : failurePhase "device_host_key_unknown" ≠ some .authentication := by decide
      exact verdict_of_inv nofun
        (hcall.fail _ hallowed'' (by simp [Effect.isAuthFailure, Exc.phase, hphase]))
    | false =>
      obtain rfl := Option.some.inj h
      refine verdict_of_inv nofun ⟨hcall, hallowed'', hpermit'.trans hpermit, fun hopened => ?_⟩
      rcases hmem _ hopened with heq | hopened
      · exact nomatch heq
      · exact hunopened hopened
  | raises exc =>
    obtain rfl := Option.some.inj h
    simpa [hpermit'] using hcall.fail_verdict exc hallowed''
  | cancel ran =>
    obtain rfl := Option.some.inj h
    exact verdict_of_inv nofun
      (hcall.fail _ hallowed'' (by simp [Effect.isAuthFailure, Exc.phase]))
  | _ => cases h

/-- Creating the process opens the session, or closes the connection first. -/
lemma step_creatingProcess (hpc : s.pc = .creatingProcess) (hs : Inv s)
    (h : step request s action = some t) : Inv t := by
  simp only [Inv, hpc] at hs
  obtain ⟨hrun, hallowed, hpermit, hsession⟩ := hs
  simp only [step.eq_def, hpc] at h
  cases action with
  | ok => exact Option.some.inj h ▸ ⟨hrun, hallowed, hpermit⟩
  | raises exc => exact Option.some.inj h ▸ ⟨hrun, hallowed, hpermit, hsession⟩
  | cancel ran => exact Option.some.inj h ▸ ⟨hrun, hallowed, hpermit, hsession⟩
  | _ => cases h

/-- The connection of a failed process is closed before the body fails with it. -/
lemma step_closingConnection {exc : Exc} (hpc : s.pc = .closingConnection exc) (hs : Inv s)
    (h : step request s action = some t) :
    Verdict (action = .ok → exc.skipsReport = false) t := by
  have hs' := hs
  simp only [Inv, hpc] at hs'
  obtain ⟨hrun, hallowed, hpermit, hsession⟩ := hs'
  have hclosed : Running (s.log ++ [.closed]) s.permit s.session := by
    rw [hpermit] at hrun ⊢
    rw [hsession]
    exact hrun.moved hrun.balanced.disconnect rfl
  simp only [step.eq_def, hpc] at h
  cases action with
  | ok =>
    obtain rfl := Option.some.inj h
    simpa [State.emit, hpermit, skipsReport_processFailure] using
      Running.fail_verdict (s := s.emit .closed) (processFailure exc) hclosed hallowed
  | cancel ran =>
    exact verdict_of_inv nofun (Option.some.inj h ▸ hs)
  | _ => cases h

/-- With the session open, a failure is reported if the action is careful. -/
lemma step_connected (hpc : s.pc = .reportingSuccess ∨ s.pc = .recordingOpened ∨
      s.pc = .sendingConnected ∨ s.pc = .relaying) (hs : Inv s)
    (h : step request s action = some t) :
    Verdict (∀ exc, action = .raises exc → s.permit = false ∨ exc.skipsReport = false) t := by
  have hs' : Running s.log s.permit s.session ∧ s.auditAllowed = s.permit ∧ s.permit = true := by
    rcases hpc with hpc | hpc | hpc | hpc <;> simpa only [Inv, hpc] using hs
  obtain ⟨hrun, hallowed, hpermit⟩ := hs'
  rcases hpc with hpc | hpc | hpc | hpc <;> simp only [step.eq_def, hpc] at h
  · have hcall := hrun.call action (e := .reportedSucceeded) trivial rfl rfl rfl nofun
    obtain ⟨hallowed', hpermit', -, -⟩ := fields_call action s .reportedSucceeded
    have hallowed'' := hallowed'.trans (hallowed.trans hpermit'.symm)
    rw [← hpermit']
    refine await_verdict hcall hallowed'' (fun _ => rfl) (fun _ => ?_) h
    exact ⟨hcall, hallowed'', hpermit'.trans hpermit⟩
  · cases action with
    | ok =>
      obtain rfl := Option.some.inj h
      exact verdict_of_inv nofun
        ⟨hrun.concat (e := .eventOpened) trivial rfl rfl rfl nofun, hallowed, hpermit⟩
    | raises exc =>
      obtain rfl := Option.some.inj h
      simpa using hrun.fail_verdict exc hallowed
    | _ => cases h
  · refine await_verdict hrun hallowed (fun _ => rfl) (fun _ => ?_) h
    exact ⟨hrun, hallowed, hpermit⟩
  · refine await_verdict hrun hallowed (fun exc => ?_) (fun _ => ?_) h
    · split
      · next hexc => rw [hexc]; rfl
      · rfl
    · exact Ended.toFinally (s := s.note .complete "success")
        ⟨hrun.balanced, hrun.unaudited, iff_of_false hrun.unreported hrun.unfailed, hallowed⟩

/-- The gate is told of the failure, unless its call is dropped. -/
lemma step_reportingFailed (hpc : s.pc = .reportingFailed) (hs : Inv s)
    (h : step request s action = some t) : Verdict (action.ran = true) t := by
  simp only [Inv, hpc] at hs
  obtain ⟨hbalanced, hunaudited, hfailed, hunreported, hallowed⟩ := hs
  have hended : Ended (s.log ++ [.reportedFailed]) s.permit s.session s.auditAllowed :=
    ⟨hbalanced.concat ⟨hfailed, hunreported⟩ rfl, unaudited_concat.mpr ⟨hunaudited, rfl⟩,
      iff_of_true (by simp) (authFailed_concat.mpr (Or.inl hfailed)), hallowed⟩
  simp only [step.eq_def, hpc, State.call] at h
  cases action with
  | ok => exact verdict_of_inv rfl (Option.some.inj h ▸ hended)
  | raises exc =>
    refine verdict_of_inv rfl ?_
    cases exc <;> first
      | exact Option.some.inj h ▸ Ended.sendError (s := s.emit .reportedFailed) hended _
      | exact Option.some.inj h ▸ Ended.toFinally (s := s.emit .reportedFailed) hended
  | cancel ran =>
    cases ran with
    | true =>
      exact verdict_of_inv rfl
        (Option.some.inj h ▸ Ended.toFinally (s := s.emit .reportedFailed) hended)
    | false =>
      obtain rfl := Option.some.inj h
      have hlog := (closes_toFinally s).log
      exact ⟨nofun, fun _ => .unreported (closes_toFinally s).past (hlog ▸ hfailed)
        (hlog ▸ hunreported)⟩
  | _ => cases h

/-- A late report of the success keeps the invariant, made or not. -/
lemma step_reportingLateSuccess (hpc : s.pc = .reportingLateSuccess) (hs : Inv s)
    (h : step request s action = some t) : Inv t := by
  simp only [Inv, hpc] at hs
  have hcall : Ended (s.call .reportedSucceeded action).log
      (s.call .reportedSucceeded action).permit (s.call .reportedSucceeded action).session
      (s.call .reportedSucceeded action).auditAllowed := by
    unfold State.call
    split
    · exact ⟨hs.balanced.concat trivial rfl, unaudited_concat.mpr ⟨hs.unaudited, rfl⟩,
        by simp [hs.reported, State.emit, Effect.isAuthFailure], hs.allowed⟩
    · exact hs
  simp only [step.eq_def, hpc] at h
  generalize s.call .reportedSucceeded action = u at h hcall
  cases action with
  | ok => exact Option.some.inj h ▸ hcall
  | raises exc =>
    cases exc <;> first
      | exact Option.some.inj h ▸ Ended.sendError hcall _
      | exact Option.some.inj h ▸ Ended.toFinally hcall
  | cancel ran => exact Option.some.inj h ▸ Ended.toFinally hcall
  | _ => cases h

/-- The error message is followed by the cleanup, whatever becomes of it. -/
lemma step_sendingError (hpc : s.pc = .sendingError) (hs : Inv s)
    (h : step request s action = some t) : Inv t := by
  simp only [Inv, hpc] at hs
  simp only [step.eq_def, hpc] at h
  cases action with
  | ok => exact Option.some.inj h ▸ Ended.toFinally hs
  | raises exc => exact Option.some.inj h ▸ Ended.toFinally hs
  | cancel ran => exact Option.some.inj h ▸ Ended.toFinally hs
  | _ => cases h

/-- A balanced log without permit or session is settled. -/
lemma Balanced.done {log : List Effect} (h : Balanced log false false)
    (hreported : AuthFailed log → .reportedFailed ∈ log) : Obeys Rule log ∧ Settled log :=
  ⟨h.obeys, fun hacquired => h.released.mpr ⟨hacquired, rfl⟩,
    fun hopened => h.closed.mpr ⟨hopened, rfl⟩, hreported⟩

/-- Where the cleanup ends early, the condition says that no permit is held. -/
lemma early_verdict {session : Bool} (hbalanced : Balanced s.log s.permit session)
    (hreported : AuthFailed s.log → .reportedFailed ∈ s.log) :
    Verdict (s.permit = false) (s.goto .done) := by
  refine ⟨fun hpermit => ?_, fun hpermit => ?_⟩
  · rw [hpermit] at hbalanced
    have hsession : session = false :=
      Bool.eq_false_iff.mpr fun hsession => nomatch (hbalanced.opened hsession).2
    exact Balanced.done (hsession ▸ hbalanced) hreported
  · have hheld : s.permit = true := by simpa using hpermit
    exact .permitKept rfl (hbalanced.acquired hheld)
      fun hreleased => hpermit (hbalanced.released.mp hreleased).2

/-- The log of a handler that has ended: everything in it was allowed, and nothing is missing. -/
structure GivesBack (log : List Effect) : Prop where
  obeys : Obeys Rule log
  settled : Settled log

section Cleanup

variable {interrupted : Bool}

/-- A cancellation while the tasks are gathered ends the cleanup, and a held permit is lost. -/
lemma cleanup_gathering (hs : Ended s.log s.permit s.session s.auditAllowed)
    (h : s.cleanup .gathering interrupted action = some t) :
    Verdict (∀ ran, action = .cancel ran → s.permit = false) t := by
  cases action with
  | ok =>
    exact verdict_of_inv nofun (Option.some.inj h ▸ Ended.closeSession hs)
  | cancel ran =>
    simpa [← Option.some.inj h] using early_verdict hs.balanced hs.reported.mpr
  | _ => cases h

/-- The session is closed whether the call returns or raises, and a cancellation waits for it. -/
lemma cleanup_closingSession (hpc : s.pc = .cleaning .closingSession interrupted) (hinv : Inv s)
    (h : s.cleanup .closingSession interrupted action = some t) : Inv t := by
  have hs := hinv
  simp only [Inv, hpc] at hs
  obtain ⟨hended, hsession⟩ := hs
  have hpermit := (hended.balanced.opened hsession).2
  have hclosed : Balanced (s.log ++ [.closed]) s.permit false := by
    rw [hpermit]
    exact (hpermit ▸ hsession ▸ hended.balanced).disconnect
  have hnext : Inv (({ s with session := false }.emit .closed).audit interrupted) :=
    Ended.audit (s := { s with session := false }.emit .closed)
      ⟨hclosed, unaudited_concat.mpr ⟨hended.unaudited, rfl⟩,
        by simp [hended.reported, State.emit, Effect.isAuthFailure], hended.allowed⟩ rfl
  cases action with
  | ok => exact Option.some.inj h ▸ hnext
  | raises exc => exact Option.some.inj h ▸ hnext
  | cancel ran => exact Option.some.inj h ▸ hinv
  | _ => cases h

/-- The decision that is audited is whether the handler holds a permit. -/
lemma cleanup_auditing (hs : Ended s.log s.permit s.session s.auditAllowed)
    (hsession : s.session = false) (h : s.cleanup .auditing interrupted action = some t) :
    Verdict ((∃ exc, action = .raises exc) ∨
      (action.ran = true → s.permit = true ∨ .acquired ∉ s.log)) t := by
  have hrecord : action.ran = true →
      Verdict (s.permit = true ∨ .acquired ∉ s.log)
        ((s.emit (.audited s.auditPhase s.auditAllowed s.auditResult)).recordClosed
          interrupted) := by
    intro hran
    refine ⟨fun hcareful => ?_, fun hcareful => ?_⟩
    · have hrule : s.auditAllowed = true ↔ .acquired ∈ s.log := by
        rw [hs.allowed]
        refine ⟨hs.balanced.acquired, fun hacquired => ?_⟩
        exact hcareful.resolve_right (not_not.mpr hacquired)
      refine Closing.recordClosed ⟨?_, ?_⟩
      · exact (hsession ▸ hs.balanced).concat ⟨hs.unaudited, hrule⟩ rfl
      · simp [State.emit, hs.reported, Effect.isAuthFailure]
    · refine .disobeyed fun hobeys => hcareful ?_
      rw [(closes_recordClosed _ _).log] at hobeys
      have hrule := (obeys_concat.mp hobeys).2.2
      rw [hs.allowed] at hrule
      exact or_iff_not_imp_right.mpr fun hacquired => hrule.mpr (not_not.mp hacquired)
  cases action with
  | raises exc =>
    exact verdict_of_inv (Or.inl ⟨exc, rfl⟩)
      (Option.some.inj h ▸ (Ended.closing hs hsession).recordClosed)
  | ok => simpa [← Option.some.inj h, State.call, Action.ran] using hrecord rfl
  | cancel ran =>
    cases ran with
    | true => simpa [← Option.some.inj h, State.call, Action.ran] using hrecord rfl
    | false =>
      exact verdict_of_inv (Or.inr nofun)
        (Option.some.inj h ▸ (Ended.closing hs hsession).recordClosed)
  | _ => cases h

/-- The closing event moves neither permit nor session. -/
lemma cleanup_recordingClosed (hs : Closing s.log s.permit)
    (h : s.cleanup .recordingClosed interrupted action = some t) : Inv t := by
  have hevent : Closing (s.log ++ [.eventClosed]) s.permit :=
    ⟨hs.balanced.concat trivial rfl, by simp [hs.reported, Effect.isAuthFailure]⟩
  cases action with
  | ok => exact Option.some.inj h ▸ hevent
  | raises exc => exact Option.some.inj h ▸ hs
  | cancel ran =>
    cases ran with
    | true => exact Option.some.inj h ▸ hevent
    | false => exact Option.some.inj h ▸ hs
  | _ => cases h

/-- The websocket's closing loses a held permit when it is cancelled or raises what nothing
swallows. -/
lemma cleanup_closingWebsocket (hs : Closing s.log s.permit)
    (h : s.cleanup .closingWebsocket interrupted action = some t) :
    Verdict ((∀ ran, action = .cancel ran → s.permit = false) ∧
      ∀ exc, action = .raises exc → s.permit = false ∨ closeSwallows exc = true) t := by
  have hearly := early_verdict hs.balanced hs.reported.mpr
  cases action with
  | ok => exact verdict_of_inv ⟨nofun, nofun⟩ (Option.some.inj h ▸ hs.release)
  | raises exc =>
    obtain rfl := Option.some.inj h
    by_cases hexc : closeSwallows exc = true
    · rw [if_pos hexc]
      exact verdict_of_inv (by simp [hexc]) hs.release
    · rw [if_neg hexc]
      simpa [hexc] using hearly
  | cancel ran => simpa [← Option.some.inj h] using hearly
  | _ => cases h

/-- The permit is given back exactly when the call for it runs. -/
lemma cleanup_releasing (hs : Closing s.log s.permit) (hpermit : s.permit = true)
    (h : s.cleanup .releasing interrupted action = some t) : Verdict (action.ran = true) t := by
  have hreleased : Balanced (s.log ++ [.released]) false false := (hpermit ▸ hs.balanced).release
  have hdone : Obeys Rule (s.log ++ [.released]) ∧ Settled (s.log ++ [.released]) := by
    refine hreleased.done fun hfailed => ?_
    have hold : AuthFailed s.log := by simpa [Effect.isAuthFailure] using hfailed
    simp [hs.reported.mpr hold]
  cases action with
  | ok => exact verdict_of_inv rfl (Option.some.inj h ▸ hdone)
  | raises exc => exact verdict_of_inv rfl (Option.some.inj h ▸ hdone)
  | cancel ran =>
    cases ran with
    | true => exact verdict_of_inv rfl (Option.some.inj h ▸ hdone)
    | false =>
      obtain rfl := Option.some.inj h
      refine ⟨nofun, fun _ => .permitKept rfl (hs.balanced.acquired hpermit) fun hreleased => ?_⟩
      simpa [hpermit] using (hs.balanced.released.mp hreleased).2
  | _ => cases h

end Cleanup

/-- The handler is past its report: it does not report any more. -/
structure Unreporting (s t : State) : Prop where
  grows : s.log <+: t.log
  past : t.pc.pastReport = true
  unreported : .reportedFailed ∈ t.log → .reportedFailed ∈ s.log

/-- Without a permit every action outside the closing and reporting is careful. -/
lemma careful_of_unpermitted (hpermit : s.permit = false)
    (hpc : ∀ stage interrupted, s.pc ≠ .cleaning stage interrupted)
    (hpc' : s.pc ≠ .reportingFailed) (hpc'' : ∀ exc, s.pc ≠ .closingConnection exc) :
    Careful s action := by
  unfold Careful
  split <;> simp_all

/-- The first cancellation interrupts the wait, and the cleanup goes on. -/
lemma step_interrupted {stage : Stage} {ran : Bool} (hpc : s.pc = .cleaning stage false)
    (hs : Inv s) : Verdict (Careful s (.cancel ran)) (s.goto (.cleaning stage true)) := by
  have hcareful : Careful s (.cancel ran) := by
    cases stage <;> simp [Careful, hpc]
  refine verdict_of_inv hcareful ?_
  simp only [Inv, hpc] at hs
  cases stage <;> exact hs

/-- A step of the `finally` block passes the verdict of its care. -/
lemma step_cleaning {stage : Stage} {interrupted : Bool}
    (hpc : s.pc = .cleaning stage interrupted) (hs : Inv s)
    (h : step request s action = some t) : Verdict (Careful s action) t := by
  have hcases : (interrupted = false ∧ (∃ ran, action = .cancel ran) ∧
      t = s.goto (.cleaning stage true)) ∨
      ((∀ ran, action = .cancel ran → interrupted = true) ∧
        s.cleanup stage interrupted action = some t) := by
    simp only [step.eq_def, hpc] at h
    split at h
    · exact Or.inl ⟨rfl, ⟨_, rfl⟩, (Option.some.inj h).symm⟩
    · next hnot => exact Or.inr ⟨by simpa using fun ran hran hfalse => hnot ran hfalse hran, h⟩
  rcases hcases with ⟨rfl, ⟨ran, rfl⟩, rfl⟩ | ⟨hfirst, hcleanup⟩
  · exact step_interrupted hpc hs
  · have hinv := hs
    simp only [Inv, hpc] at hs
    cases stage with
    | gathering =>
      have hcareful : Careful s action ↔ ∀ ran, action = .cancel ran → s.permit = false := by
        cases action <;> simp_all [Careful]
      exact (cleanup_gathering hs hcleanup).congr hcareful
    | closingSession =>
      exact verdict_of_inv (by simp [Careful, hpc]) (cleanup_closingSession hpc hinv hcleanup)
    | auditing =>
      have hcareful : Careful s action ↔ (∃ exc, action = .raises exc) ∨
          (action.ran = true → s.permit = true ∨ .acquired ∉ s.log) := by
        cases action <;> simp_all [Careful]
      exact (cleanup_auditing hs.1 hs.2 hcleanup).congr hcareful
    | recordingClosed =>
      exact verdict_of_inv (by simp [Careful, hpc]) (cleanup_recordingClosed hs hcleanup)
    | closingWebsocket =>
      have hcareful : Careful s action ↔ (∀ ran, action = .cancel ran → s.permit = false) ∧
          ∀ exc, action = .raises exc → s.permit = false ∨ closeSwallows exc = true := by
        cases action <;> simp_all [Careful]
      exact (cleanup_closingWebsocket hs hcleanup).congr hcareful
    | releasing =>
      have hcareful : Careful s action ↔ action.ran = true := by
        cases action <;> simp_all [Careful, Action.ran]
      exact (cleanup_releasing hs.1 hs.2 hcleanup).congr hcareful

/-- Every step either keeps the invariant or spoils the log, as the condition says. -/
theorem step_verdict (hs : Inv s) (h : step request s action = some t) :
    Verdict (Careful s action) t := by
  have hpermitted : s.pc.permitted = true →
      Verdict (∀ exc, action = .raises exc → s.permit = false ∨ exc.skipsReport = false) t →
      Verdict (Careful s action) t :=
    fun hpc hverdict => hverdict.congr (careful_permitted hpc)
  have hinv := hs
  cases hpc : s.pc with
  | acknowledging =>
    simp only [Inv, hpc] at hs
    exact verdict_of_inv (careful_of_unpermitted (permit_of_fresh hs.1 hs.2.2) (by simp [hpc])
      (by simp [hpc]) (by simp [hpc])) (step_acknowledging hpc hinv h)
  | readingTarget ack =>
    simp only [Inv, hpc] at hs
    exact verdict_of_inv (careful_of_unpermitted (permit_of_fresh hs.1 hs.2.2.1) (by simp [hpc])
      (by simp [hpc]) (by simp [hpc])) (step_readingTarget hpc hinv h)
  | acquiring =>
    simp only [Inv, hpc] at hs
    exact verdict_of_inv (careful_of_unpermitted (permit_of_fresh hs.1 hs.2.2.1) (by simp [hpc])
      (by simp [hpc]) (by simp [hpc])) (step_acquiring (Or.inl hpc) hinv h)
  | rollingBack =>
    simp only [Inv, hpc] at hs
    exact verdict_of_inv (careful_of_unpermitted (permit_of_fresh hs.1 hs.2.2.1) (by simp [hpc])
      (by simp [hpc]) (by simp [hpc])) (step_acquiring (Or.inr hpc) hinv h)
  | releasingLate =>
    simp only [Inv, hpc] at hs
    exact verdict_of_inv (careful_of_unpermitted hs.2.2.1 (by simp [hpc])
      (by simp [hpc]) (by simp [hpc])) (step_releasingLate hpc hinv h)
  | sendingConnecting =>
    exact hpermitted (by rw [hpc]; rfl) (step_connecting (Or.inl hpc) hinv h)
  | openingTelnet =>
    exact hpermitted (by rw [hpc]; rfl) (step_connecting (Or.inr (Or.inl hpc)) hinv h)
  | connecting =>
    exact hpermitted (by rw [hpc]; rfl) (step_connecting (Or.inr (Or.inr hpc)) hinv h)
  | decrypting => exact hpermitted (by rw [hpc]; rfl) (step_decrypting hpc hinv h)
  | creatingProcess =>
    exact verdict_of_inv (by simp [Careful, hpc]) (step_creatingProcess hpc hinv h)
  | closingConnection exc =>
    have hcareful : Careful s action ↔ (action = .ok → exc.skipsReport = false) := by
      cases action <;> simp_all [Careful]
    exact (step_closingConnection hpc hinv h).congr hcareful
  | reportingSuccess | recordingOpened | sendingConnected | relaying =>
    exact hpermitted (by rw [hpc]; rfl) (step_connected (by simp [hpc]) hinv h)
  | reportingFailed =>
    have hcareful : Careful s action ↔ action.ran = true := by
      cases action <;> simp_all [Careful, Action.ran]
    exact (step_reportingFailed hpc hinv h).congr hcareful
  | reportingLateSuccess =>
    exact verdict_of_inv (by simp [Careful, hpc]) (step_reportingLateSuccess hpc hinv h)
  | sendingError =>
    exact verdict_of_inv (by simp [Careful, hpc]) (step_sendingError hpc hinv h)
  | cleaning stage interrupted => exact step_cleaning hpc hinv h
  | done => simp [step.eq_def, hpc] at h

/-! ## The log only grows -/

/-- An effect extends the log. -/
lemma prefix_emit (u : State) (e : Effect) : u.log <+: (u.emit e).log := List.prefix_append _ _

/-- A call extends the log, or leaves it. -/
lemma prefix_call (action : Action) (u : State) (e : Effect) : u.log <+: (u.call e action).log := by
  unfold State.call
  split
  · exact prefix_emit u e
  · exact List.prefix_refl _

/-- A failure extends the log. -/
lemma prefix_fail (u : State) (exc : Exc) : u.log <+: (u.fail exc).log := by
  rw [log_fail]
  exact List.prefix_append _ _

/-- What is awaited extends the log if its continuation does. -/
lemma prefix_await {u next : State} {translate : Exc → Exc} (hnext : u.log <+: next.log)
    (h : u.await next translate action = some t) : u.log <+: t.log := by
  cases action with
  | ok => exact Option.some.inj h ▸ hnext
  | raises exc => exact Option.some.inj h ▸ prefix_fail u _
  | cancel ran => exact Option.some.inj h ▸ prefix_fail u _
  | _ => cases h

/-- What follows the report of a failure does nothing before its first await. -/
lemma log_report {u : State} (h : u.report action = some t) : t.log = u.log := by
  cases action with
  | ok => exact Option.some.inj h ▸ rfl
  | raises exc =>
    cases exc <;> first
      | exact Option.some.inj h ▸ (closes_sendError _ _).log
      | exact Option.some.inj h ▸ (closes_toFinally _).log
  | cancel ran => exact Option.some.inj h ▸ (closes_toFinally _).log
  | _ => cases h

/-- What closes without a report is unreporting. -/
lemma Closes.unreporting (h : Closes s t) : Unreporting s t :=
  ⟨by rw [h.log], h.past, by rw [h.log]; exact id⟩

/-- Another effect than the report, and then a closing, is unreporting. -/
lemma Closes.unreporting_emit {u : State} {e : Effect} (he : e ≠ .reportedFailed)
    (hlog : u.log = s.log ++ [e]) (h : Closes u t) : Unreporting s t := by
  refine ⟨?_, h.past, ?_⟩ <;> rw [h.log, hlog]
  · exact List.prefix_append _ _
  · simp [he.symm]

/-- Another call than the report, and then a closing, is unreporting. -/
lemma Closes.unreporting_call {e : Effect} (he : e ≠ .reportedFailed)
    (h : Closes (s.call e action) t) : Unreporting s t := by
  unfold State.call at h
  split at h
  · exact h.unreporting_emit he rfl
  · exact h.unreporting

/-- The `finally` block does not report a failed login. -/
lemma cleanup_unreporting {stage : Stage} {interrupted : Bool}
    (hpc : s.pc = .cleaning stage interrupted)
    (h : s.cleanup stage interrupted action = some t) : Unreporting s t := by
  have hhere : Closes s s := ⟨rfl, by rw [hpc]; rfl⟩
  have hdone : Closes s (s.goto .done) := ⟨rfl, rfl⟩
  have hwebsocket : ∀ u : State, Closes u (u.closeWebsocket interrupted) := fun u => ⟨rfl, rfl⟩
  cases stage with
  | gathering =>
    cases action with
    | ok => exact Option.some.inj h ▸ (closes_closeSession s interrupted).unreporting
    | cancel ran => exact Option.some.inj h ▸ hdone.unreporting
    | _ => cases h
  | closingSession =>
    cases action with
    | ok | raises exc =>
      obtain rfl := Option.some.inj h
      exact (closes_audit _ interrupted).unreporting_emit (e := .closed) nofun rfl
    | cancel ran => exact Option.some.inj h ▸ hhere.unreporting
    | _ => cases h
  | auditing =>
    cases action with
    | raises exc => exact Option.some.inj h ▸ (closes_recordClosed s interrupted).unreporting
    | ok | cancel ran =>
      obtain rfl := Option.some.inj h
      exact (closes_recordClosed _ interrupted).unreporting_call
        (e := .audited s.auditPhase s.auditAllowed s.auditResult) nofun
    | _ => cases h
  | recordingClosed =>
    cases action with
    | raises exc => exact Option.some.inj h ▸ (hwebsocket s).unreporting
    | ok | cancel ran =>
      obtain rfl := Option.some.inj h
      exact (hwebsocket _).unreporting_call (e := .eventClosed) nofun
    | _ => cases h
  | closingWebsocket =>
    cases action with
    | ok => exact Option.some.inj h ▸ (closes_release s interrupted).unreporting
    | raises exc =>
      obtain rfl := Option.some.inj h
      split
      · exact (closes_release s interrupted).unreporting
      · exact hdone.unreporting
    | cancel ran => exact Option.some.inj h ▸ hdone.unreporting
    | _ => cases h
  | releasing =>
    cases action with
    | ok | raises exc | cancel ran =>
      obtain rfl := Option.some.inj h
      exact Closes.unreporting_call (e := .released) nofun ⟨rfl, rfl⟩
    | _ => cases h

/-- Past the report no step reports a failed login. -/
lemma step_past (hpc : s.pc.pastReport = true) (h : step request s action = some t) :
    Unreporting s t := by
  cases hs : s.pc with
  | sendingError =>
    simp only [step.eq_def, hs] at h
    cases action with
    | ok | raises exc | cancel ran =>
      exact Option.some.inj h ▸ (closes_toFinally s).unreporting
    | _ => cases h
  | cleaning stage interrupted =>
    simp only [step.eq_def, hs] at h
    split at h
    · exact Option.some.inj h ▸ ⟨List.prefix_refl _, rfl, id⟩
    · exact cleanup_unreporting hs h
  | done => simp [step.eq_def, hs] at h
  | _ => simp [hs, Pc.pastReport] at hpc

/-- No step takes anything out of the log. -/
lemma step_grows (h : step request s action = some t) : s.log <+: t.log := by
  by_cases hpast : s.pc.pastReport = true
  · exact (step_past hpast h).grows
  have hhere := List.prefix_refl s.log
  have hfail := fun exc => prefix_fail s exc
  cases hs : s.pc <;> simp only [step.eq_def, hs] at h
  case acknowledging =>
    cases action with
    | message message =>
      dsimp only at h
      split at h
      · exact Option.some.inj h ▸ hfail _
      · obtain rfl := Option.some.inj h
        split
        · exact prefix_emit s .accepted
        · exact (prefix_emit s .accepted).trans (prefix_fail _ _)
    | raises exc =>
      split at h <;> first | exact Option.some.inj h ▸ hfail _ | contradiction
    | cancel ran => exact Option.some.inj h ▸ hfail _
    | _ => cases h
  case readingTarget ack =>
    cases action with
    | target target =>
      dsimp only at h
      split at h <;> obtain rfl := Option.some.inj h
      · exact prefix_fail { s with pc := .readingTarget ack, target := some target } _
      · exact prefix_emit _ .policyPassed
    | raises exc | cancel ran => exact Option.some.inj h ▸ hfail _
    | _ => cases h
  case acquiring =>
    cases action with
    | ok => exact Option.some.inj h ▸ prefix_emit s .acquired
    | raises exc => exact Option.some.inj h ▸ hfail _
    | cancel ran => exact Option.some.inj h ▸ hhere
    | _ => cases h
  case rollingBack =>
    cases action with
    | ok => exact Option.some.inj h ▸ prefix_emit s .acquired
    | raises exc => exact Option.some.inj h ▸ hfail _
    | cancel ran => exact Option.some.inj h ▸ hhere
    | _ => cases h
  case releasingLate =>
    cases action with
    | ok | raises exc =>
      exact Option.some.inj h ▸ (prefix_emit s .released).trans (prefix_fail _ _)
    | cancel ran => exact Option.some.inj h ▸ hhere
    | _ => cases h
  case sendingConnecting | sendingConnected => exact prefix_await (by exact hhere) h
  case openingTelnet | connecting => exact prefix_await (by exact prefix_emit s .opened) h
  case decrypting =>
    refine (prefix_call action s (.decrypted (s.target.map (·.consoleTransport)))).trans ?_
    generalize s.call (.decrypted (s.target.map (·.consoleTransport))) action = u at h
    cases action with
    | parameters unknownHost =>
      cases unknownHost with
      | true =>
        exact Option.some.inj h ▸ prefix_fail u _
      | false => exact Option.some.inj h ▸ List.prefix_refl _
    | raises exc | cancel ran =>
      exact Option.some.inj h ▸ prefix_fail u _
    | _ => cases h
  case creatingProcess =>
    cases action with
    | ok | raises exc | cancel ran => exact Option.some.inj h ▸ hhere
    | _ => cases h
  case closingConnection exc =>
    cases action with
    | ok => exact Option.some.inj h ▸ (prefix_emit s .closed).trans (prefix_fail _ _)
    | cancel ran => exact Option.some.inj h ▸ hhere
    | _ => cases h
  case reportingSuccess =>
    exact (prefix_call action s .reportedSucceeded).trans
      (prefix_await (by exact List.prefix_refl _) h)
  case recordingOpened =>
    cases action with
    | ok => exact Option.some.inj h ▸ prefix_emit s .eventOpened
    | raises exc => exact Option.some.inj h ▸ hfail _
    | _ => cases h
  case relaying => exact prefix_await (by rw [(closes_toFinally _).log]; exact hhere) h
  case reportingFailed | reportingLateSuccess =>
    rw [log_report h]
    exact prefix_call action s _
  all_goals simp [hs, Pc.pastReport] at hpast

/-- What is spoilt stays so. -/
lemma Spoilt.step (hs : Spoilt s) (h : step request s action = some t) : Spoilt t := by
  cases hs with
  | disobeyed hrule =>
    obtain ⟨more, hmore⟩ := step_grows h
    exact .disobeyed fun hobeys => hrule (hmore ▸ hobeys).of_append
  | permitKept hdone _ _ => simp [step.eq_def, hdone] at h
  | unreported hpast hfailed hreported =>
    have hstep := step_past hpast h
    obtain ⟨e, he, hfailure⟩ := hfailed
    exact .unreported hstep.past ⟨e, hstep.grows.subset he, hfailure⟩
      fun hreport => hreported (hstep.unreported hreport)

/-- A spoilt log disobeys a rule or leaves something undone. -/
lemma Spoilt.not_settled (hs : Spoilt s) : ¬(Obeys Rule s.log ∧ Settled s.log) := by
  rintro ⟨hobeys, hsettled⟩
  cases hs with
  | disobeyed hrule => exact hrule hobeys
  | permitKept _ hacquired hreleased => exact hreleased (hsettled.released hacquired)
  | unreported _ hfailed hreported => exact hreported (hsettled.reported hfailed)

/-- The invariant says that the log obeys the rules. -/
lemma Inv.obeys (hs : Inv s) : Obeys Rule s.log := by
  unfold Inv at hs
  split at hs <;> first
    | exact hs.1.balanced.obeys
    | exact hs.balanced.obeys
    | exact hs.1.obeys
    | exact hs.1

/-! ## Every run -/

/-- The handler starts with the invariant. -/
lemma inv_start : Inv start := by
  refine ⟨⟨⟨obeys_nil, nofun, ?_, nofun, ?_, nofun⟩, nofun, ?_, nofun⟩, rfl, nofun⟩ <;>
    simp [start, AuthFailed]

/-- A run whose steps all meet the condition does everything in its place, and one that ends gives
everything back exactly when they do. -/
theorem givesBack_iff {actions : List Action}
    (h : after (step request) start actions = some s) :
    (Along (step request) (fun s action _ => Careful s action) start actions →
      Obeys Rule s.log) ∧
    (s.pc = .done →
      (GivesBack s.log ↔
        Along (step request) (fun s action _ => Careful s action) start actions)) := by
  have hrun : (Along (step request) (fun s action _ => Careful s action) start actions ∧ Inv s) ∨
      (¬Along (step request) (fun s action _ => Careful s action) start actions ∧ Spoilt s) :=
    along_or_spoilt (fun _ _ _ hs hstep => (step_verdict hs hstep).1)
      (fun _ _ _ hs hstep => (step_verdict hs hstep).2)
      (fun _ _ _ hs hstep => hs.step hstep) inv_start h
  refine ⟨fun hcareful => ?_, fun hdone => ⟨fun hgives => ?_, fun hcareful => ?_⟩⟩
  · exact (hrun.resolve_right fun hspoilt => hspoilt.1 hcareful).2.obeys
  · refine (hrun.resolve_right fun hspoilt => ?_).1
    exact hspoilt.2.not_settled ⟨hgives.obeys, hgives.settled⟩
  · have hinv := (hrun.resolve_right fun hspoilt => hspoilt.1 hcareful).2
    simp only [Inv, hdone] at hinv
    exact ⟨hinv.1, hinv.2⟩

/-- A lab request, and the actions of a handler up to the end of the relay. -/
def labRequest : Request :=
  ⟨⟨⟨true, true, true⟩, true, true⟩, true⟩

/-- The actions of a session up to the end of the relay. -/
def labSession : List Action :=
  [.message (.obj [("type", .str "accept_direct_mode")]), .target ⟨.modern, .ssh, true⟩, .ok, .ok,
    .parameters false, .ok, .ok, .ok, .ok, .ok, .ok]

/-- The relay ends, and the cleanup is left in peace. -/
theorem givesBack_labSession : ∃ s, after (step labRequest) start
    (labSession ++ [.ok, .ok, .ok, .ok, .ok, .ok]) = some s ∧ s.pc = .done ∧ GivesBack s.log := by
  obtain ⟨s, hs, hdone⟩ : ∃ s, after (step labRequest) start
      (labSession ++ [.ok, .ok, .ok, .ok, .ok, .ok]) = some s ∧ decide (s.pc = .done) = true :=
    (Option.any_eq_true _ _).mp (by decide +kernel)
  have hdone := of_decide_eq_true hdone
  exact ⟨s, hs, hdone, ((givesBack_iff hs).2 hdone).mpr (by decide +kernel)⟩

/-- A second cancellation while the socket is closed, and the permit is kept. -/
theorem not_givesBack_cancelledTwice : ¬∀ (request : Request) (actions : List Action) (s : State),
    after (step request) start actions = some s → s.pc = .done → GivesBack s.log := by
  intro hclaim
  obtain ⟨s, hs, hlost⟩ : ∃ s, after (step labRequest) start
      (labSession ++ [.ok, .ok, .ok, .cancel true, .ok, .cancel true]) = some s ∧
      decide (s.pc = .done ∧ .acquired ∈ s.log ∧ .released ∉ s.log) = true :=
    (Option.any_eq_true _ _).mp (by decide +kernel)
  obtain ⟨hdone, hacquired, hreleased⟩ := of_decide_eq_true hlost
  exact hreleased ((hclaim _ _ s hs hdone).settled.released hacquired)

end Terraformer.Terminal
