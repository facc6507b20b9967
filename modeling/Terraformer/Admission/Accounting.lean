import Terraformer.Admission.Connection

/-!
# Accounting of connections

Every ending of `admitted_connection` with its effects: a denial, a missing host key, missing
credentials, or a body with the accounting of how it ended.  `accounts_for_connection` says what
is done exactly once in all of them, and which audit records a failure leaves committed.
-/

namespace Terraformer.Admission

variable {δ ω α : Type}

/-! ## What is counted -/

namespace Effect

/-- The effect takes a permit or gives one back. -/
def isPermit : Effect δ ω → Bool
  | .acquire _ | .release _ => true
  | _ => false

/-- The effect reports to the gate how the authentication went. -/
def isReport : Effect δ ω → Bool
  | .authenticationSucceeded _ | .authenticationFailed _ => true
  | _ => false

/-- The effect belongs to the body. -/
def isBody : Effect δ ω → Bool
  | .enter _ | .body _ => true
  | _ => false

/-- The audit record that is written. -/
def audit? : Effect δ ω → Option AdmissionAudit
  | .audit record => some record
  | _ => none

end Effect

/-- The permits that are taken and given back. -/
def permits (effects : List (Effect δ ω)) : List (Effect δ ω) :=
  effects.filter Effect.isPermit

/-- The reports to the gate. -/
def reports (effects : List (Effect δ ω)) : List (Effect δ ω) :=
  effects.filter Effect.isReport

/-- The audit records. -/
def audits (effects : List (Effect δ ω)) : List AdmissionAudit :=
  effects.filterMap Effect.audit?

/-- The rows that stay when the caller ends its transaction without a commit. -/
def keptRows (effects : List (Effect δ ω)) : List (Row ω) :=
  (Journal.play {} (entries effects ++ [.rollback])).durable

variable {β : Type} [DecidableEq β]

/-- The decision that an attempt reaches, if it reaches one. -/
def decision (service : DeviceService β) (moment : Moment β) (call : AdmissionCall) :
    Option Decision :=
  if enforceCompatibilityPolicy call.sshCompatibility service.settings
      call.group1RiskAcknowledged call.veryOldRiskAcknowledged = false then some .denied
  else
    match service.gate with
    | none => some .denied
    | some gate =>
      match pinnedKnownHosts service moment call with
      | .error _ => none
      | .ok _ =>
        match gate.acquire call.operation (targetOf call) with
        | .error _ => some .denied
        | .ok _ => some .allowed

/-! ## The endings -/

section Endings

variable {service : DeviceService β} {moment : Moment β} {call : AdmissionCall}
  {body : ConnectionParameters → Run (BodyEffect δ ω) Fault α}

/-- A connection is denied, has no host key, or gets a permit. -/
lemma admittedConnection_cases (service : DeviceService β) (moment : Moment β)
    (call : AdmissionCall) (body : ConnectionParameters → Run (BodyEffect δ ω) Fault α) :
    (∃ veryOld error, decision service moment call = some .denied ∧
        admittedConnection service moment call body = deny call veryOld error) ∨
      (∃ fault, decision service moment call = none ∧
        admittedConnection service moment call body = .raise fault) ∨
      ∃ gate permit knownHosts, decision service moment call = some .allowed ∧
        enforceCompatibilityPolicy call.sshCompatibility service.settings
          call.group1RiskAcknowledged call.veryOldRiskAcknowledged = true ∧
        service.gate = some gate ∧ pinnedKnownHosts service moment call = .ok knownHosts ∧
        gate.acquire call.operation (targetOf call) = .ok permit ∧
        (admittedConnection service moment call body).effects =
          .acquire permit :: (connect service gate call knownHosts body).effects ++
            [.release permit] := by
  unfold admittedConnection decision
  by_cases hpolicy : enforceCompatibilityPolicy call.sshCompatibility service.settings
      call.group1RiskAcknowledged call.veryOldRiskAcknowledged = false
  · rw [if_pos hpolicy, if_pos hpolicy]
    exact Or.inl ⟨_, _, rfl, rfl⟩
  · rw [if_neg hpolicy, if_neg hpolicy]
    cases hgate : service.gate with
    | none => exact Or.inl ⟨_, _, rfl, rfl⟩
    | some gate =>
      cases hpinned : pinnedKnownHosts service moment call with
      | error error => exact Or.inr (Or.inl ⟨.app error, rfl, rfl⟩)
      | ok knownHosts =>
        cases hacquire : gate.acquire call.operation (targetOf call) with
        | error error =>
          exact Or.inl ⟨false, error, by simp [hacquire], by simp [Except.mapError, hacquire]⟩
        | ok permit =>
          refine Or.inr (Or.inr ⟨gate, permit, knownHosts, by simp [hacquire],
            by simpa using hpolicy, rfl, rfl, hacquire, ?_⟩)
          simp [Except.mapError, hacquire, gateCall]

omit [DecidableEq β] in
/-- A permitted connection lacks its credentials, or its body is entered and accounted for. -/
lemma connect_cases (service : DeviceService β) (gate : Gate) (call : AdmissionCall)
    (knownHosts : String) (body : ConnectionParameters → Run (BodyEffect δ ω) Fault α) :
    (connect service gate call knownHosts body).effects = [] ∨
      ∃ parameters : ConnectionParameters, parameters.knownHosts = knownHosts ∧
        (connect service gate call knownHosts body).effects =
          .enter parameters :: ((body parameters).effects.map .body ++
            (account gate call (body parameters).result : Run (Effect δ ω) Fault α).effects) := by
  unfold connect
  cases service.credentials call.credentialProfileId with
  | error fault => exact Or.inl rfl
  | ok material => exact Or.inr ⟨_, rfl, rfl⟩

/-- What is reported to the gate of how a body ended. -/
def report (gate : Gate) (target : ConnectionTarget) :
    Except Fault α → Run (Effect δ ω) Fault Unit
  | .ok _ => gateCall (.authenticationSucceeded target) (gate.authenticationSucceeded target)
  | .error (.app error) => reportFailure gate target error.phase
  | .error _ => pure ()

/-- The audit record of how a body ended. -/
def auditOf (call : AdmissionCall) : Except Fault α → List AdmissionAudit
  | .ok _ => [allowedAudit call "complete" "success"]
  | .error (.app error) => [allowedAudit call (auditPhase error.phase) error.code]
  | .error .exception => [allowedAudit call "complete" "internal_error"]
  | .error .interrupt => []

/-- The commit of a failed body. -/
def commitOf (call : AdmissionCall) : Except Fault α → List (Effect δ ω)
  | .ok _ | .error .interrupt => []
  | .error _ => if call.commit then [.commit] else []

/-- A commit on condition and a fault. -/
lemma effects_commitIf_raise (commit : Bool) (fault : Fault) :
    (commitIf commit >>= fun _ => (Run.raise fault : Run (Effect δ ω) Fault α)).effects =
      if commit then [.commit] else [] := by
  cases commit <;> rfl

/-- The accounting reports, and when the gate takes the report it audits. -/
lemma effects_account (gate : Gate) (call : AdmissionCall) (result : Except Fault α) :
    (account gate call result : Run (Effect δ ω) Fault α).effects =
      (report gate (targetOf call) result).effects ++
        match (report (δ := δ) (ω := ω) gate (targetOf call) result).result with
        | .ok () => (auditOf call result).map .audit ++ commitOf call result
        | .error _ => [] := by
  rcases result with (error | - | -) | a
  · show (reportFailure gate (targetOf call) error.phase >>= fun _ => _).effects = _
    rw [Run.effects_bind]
    unfold report
    cases (reportFailure (δ := δ) (ω := ω) gate (targetOf call) error.phase).result with
    | ok _ => simp [auditOf, commitOf, effects_commitIf_raise]
    | error _ => rfl
  · show (Run.emit _ >>= fun _ => _).effects = _
    simp [report, auditOf, commitOf, effects_commitIf_raise]
  · rfl
  · show (gateCall _ _ >>= fun _ => _).effects = _
    rw [Run.effects_bind]
    unfold report gateCall
    cases gate.authenticationSucceeded (targetOf call) <;> rfl

/-- The gate takes a report that is made to it. -/
def Gate.Takes (gate : Gate) : Effect δ ω → Prop
  | .authenticationSucceeded target => gate.authenticationSucceeded target = .ok ()
  | .authenticationFailed target => gate.authenticationFailed target = .ok ()
  | _ => True

/-- The report that is made of how a body ended. -/
def reportOf (target : ConnectionTarget) : Except Fault α → List (Effect δ ω)
  | .ok _ => [.authenticationSucceeded target]
  | .error (.app error) =>
    if error.phase = some "authentication" then [.authenticationFailed target]
    else if error.phase.any (postAuthenticationPhases.contains ·) then
      [.authenticationSucceeded target]
    else []
  | .error _ => []

/-- The report of a result has one effect or none. -/
lemma effects_report (gate : Gate) (target : ConnectionTarget) (result : Except Fault α) :
    (report gate target result : Run (Effect δ ω) Fault Unit).effects = reportOf target result := by
  rcases result with (error | - | -) | a
  · simp only [report, reportFailure, reportOf]
    split_ifs <;> rfl
  all_goals rfl

/-- A report is taken, or the run ends with the fault of the gate. -/
lemma result_report (gate : Gate) (target : ConnectionTarget) (result : Except Fault α) :
    (report gate target result : Run (Effect δ ω) Fault Unit).result = .ok () ↔
      ∀ e ∈ (reportOf target result : List (Effect δ ω)), gate.Takes e := by
  have hcall : ∀ (e : Effect δ ω) (outcome : Except AppError Unit),
      (gateCall e outcome).result = .ok () ↔ outcome = .ok () := by
    intro e outcome
    cases outcome <;> simp [gateCall, Except.mapError]
  rcases result with (error | - | -) | a
  · simp only [report, reportFailure, reportOf]
    split_ifs
    · simpa [Gate.Takes] using hcall _ _
    · simpa [Gate.Takes] using hcall _ _
    · simp
  · simp [report, reportOf]
  · simp [report, reportOf]
  · simpa [report, reportOf, Gate.Takes] using hcall _ _

/-- What follows the body: the report, and once it is taken the audit record and the commit. -/
lemma tail_of_account (gate : Gate) (call : AdmissionCall) (result : Except Fault α) :
    ∃ tail : List (Effect δ ω), (account gate call result).effects =
        reportOf (targetOf call) result ++ tail ∧
      (tail = [] ∨ tail = (auditOf call result).map .audit ++ commitOf call result) ∧
      ((∀ e ∈ (reportOf (targetOf call) result : List (Effect δ ω)), gate.Takes e) →
        tail = (auditOf call result).map .audit ++ commitOf call result) := by
  rw [effects_account, effects_report]
  refine ⟨_, rfl, ?_⟩
  rw [← result_report]
  cases (report (δ := δ) (ω := ω) gate (targetOf call) result).result with
  | ok _ => exact ⟨Or.inr rfl, fun _ => rfl⟩
  | error _ => exact ⟨Or.inl rfl, fun h => by cases h⟩

/-- The effects of an attempt, by how far it came. -/
inductive Shape (service : DeviceService β) (moment : Moment β) (call : AdmissionCall)
    (body : ConnectionParameters → Run (BodyEffect δ ω) Fault α) : List (Effect δ ω) → Prop
  | denied (record : AdmissionAudit) (hdecision : decision service moment call = some .denied)
      (hrecord : record.policyDecision = .denied) :
      Shape service moment call body (.audit record :: if call.commit then [.commit] else [])
  | unpinned (hdecision : decision service moment call = none) : Shape service moment call body []
  | withoutCredentials (permit : ConnectionPermit)
      (hdecision : decision service moment call = some .allowed) :
      Shape service moment call body [.acquire permit, .release permit]
  | entered (gate : Gate) (permit : ConnectionPermit) (parameters : ConnectionParameters)
      (tail : List (Effect δ ω)) (hdecision : decision service moment call = some .allowed)
      (hpolicy : enforceCompatibilityPolicy call.sshCompatibility service.settings
        call.group1RiskAcknowledged call.veryOldRiskAcknowledged = true)
      (hgate : service.gate = some gate)
      (hpinned : pinnedKnownHosts service moment call = .ok parameters.knownHosts)
      (hacquire : gate.acquire call.operation (targetOf call) = .ok permit)
      (htail : tail = [] ∨ tail = (auditOf call (body parameters).result).map .audit ++
        commitOf call (body parameters).result)
      (htaken : (∀ e ∈ (reportOf (targetOf call) (body parameters).result : List (Effect δ ω)),
          gate.Takes e) →
        tail = (auditOf call (body parameters).result).map .audit ++
          commitOf call (body parameters).result) :
      Shape service moment call body
        (.acquire permit :: (.enter parameters :: ((body parameters).effects.map .body ++
          (reportOf (targetOf call) (body parameters).result ++ tail))) ++ [.release permit])

/-- Every attempt has one of the shapes. -/
lemma shape_admittedConnection (service : DeviceService β) (moment : Moment β)
    (call : AdmissionCall) (body : ConnectionParameters → Run (BodyEffect δ ω) Fault α) :
    Shape service moment call body (admittedConnection service moment call body).effects := by
  rcases admittedConnection_cases service moment call body with
    ⟨veryOld, error, hdecision, heq⟩ | ⟨fault, hdecision, heq⟩ |
      ⟨gate, permit, knownHosts, hdecision, hpolicy, hgate, hpinned, hacquire, heffects⟩
  · rw [heq]
    have heffects : (deny call veryOld error : Run (Effect δ ω) Fault α).effects = _ :=
      congrArg (_ :: ·) (effects_commitIf_raise call.commit (.app error))
    rw [heffects]
    exact .denied _ hdecision rfl
  · rw [heq]
    exact .unpinned hdecision
  · rw [heffects]
    rcases connect_cases service gate call knownHosts body with hnone | ⟨parameters, rfl, hentered⟩
    · rw [hnone]
      exact .withoutCredentials permit hdecision
    · obtain ⟨tail, haccount, htail, htaken⟩ :=
        tail_of_account (δ := δ) (ω := ω) gate call (body parameters).result
      rw [hentered, haccount]
      exact .entered gate permit parameters tail hdecision hpolicy hgate hpinned hacquire htail
        htaken

/-! ## What a run accounts for -/

/-- What every attempt to connect does exactly once, however it ends. -/
structure Accounts (service : DeviceService β) (moment : Moment β) (call : AdmissionCall)
    (body : ConnectionParameters → Run (BodyEffect δ ω) Fault α)
    (effects : List (Effect δ ω)) : Prop where
  /-- A permit that is acquired is released once, after all else. -/
  released : permits effects = [] ∨ ∃ permit between,
    effects = .acquire permit :: between ++ [.release permit] ∧ permits between = []
  /-- The body is entered behind the policy, with the pinned host key, and behind the gate. -/
  gated : ∀ before e after, effects = before ++ e :: after → e.isBody = true →
    enforceCompatibilityPolicy call.sshCompatibility service.settings
        call.group1RiskAcknowledged call.veryOldRiskAcknowledged = true ∧
      (∃ parameters, (.enter parameters ∈ before ∨ e = .enter parameters) ∧
        pinnedKnownHosts service moment call = .ok parameters.knownHosts) ∧
      ∃ gate permit, service.gate = some gate ∧
        gate.acquire call.operation (targetOf call) = .ok permit ∧ .acquire permit ∈ before
  /-- A failed authentication is reported exactly for a body that failed in that phase. -/
  failed : .authenticationFailed (targetOf call) ∈ effects ↔
    ∃ parameters error, .enter parameters ∈ effects ∧
      (body parameters).result = .error (.app error) ∧ error.phase = some "authentication"
  /-- A successful one is reported exactly for a body that succeeded or failed behind it. -/
  succeeded : .authenticationSucceeded (targetOf call) ∈ effects ↔
    ∃ parameters, .enter parameters ∈ effects ∧
      ((∃ a, (body parameters).result = .ok a) ∨
        ∃ error phase, (body parameters).result = .error (.app error) ∧
          error.phase = some phase ∧ phase ∈ postAuthenticationPhases)
  /-- At most one report is made, and about the endpoint of the call. -/
  reported : reports effects = [] ∨
    reports effects = [.authenticationFailed (targetOf call)] ∨
    reports effects = [.authenticationSucceeded (targetOf call)]

/-- What the accounting of a connection would have to be: on top of the above, every decision is
recorded by one audit record, and a failure that the caller lets through does not lose it. -/
structure AccountsOnce (service : DeviceService β) (moment : Moment β) (call : AdmissionCall)
    (body : ConnectionParameters → Run (BodyEffect δ ω) Fault α)
    (run : Run (Effect δ ω) Fault α) : Prop extends Accounts service moment call body run.effects where
  recorded : ∀ d, decision service moment call = some d →
    ∃ record, audits run.effects = [record] ∧ record.policyDecision = d
  kept : ∀ fault, run.result = .error fault →
    ∀ record ∈ audits run.effects, .audit record ∈ keptRows run.effects

/-- What holds by design: the call keeps its audit record when it owns the commit, and leaves it
to the transaction of its caller otherwise. -/
structure AccountsAsOwned (service : DeviceService β) (moment : Moment β) (call : AdmissionCall)
    (body : ConnectionParameters → Run (BodyEffect δ ω) Fault α)
    (run : Run (Effect δ ω) Fault α) : Prop extends Accounts service moment call body run.effects where
  /-- A denial is recorded. -/
  denied : decision service moment call = some .denied →
    ∃ record, audits run.effects = [record] ∧ record.policyDecision = .denied
  /-- So is an admission whose body was entered and ended, once the gate took the report of it. -/
  allowed : ∀ gate parameters, decision service moment call = some .allowed →
    service.gate = some gate → .enter parameters ∈ run.effects →
    (body parameters).result ≠ .error .interrupt → (∀ e ∈ reports run.effects, gate.Takes e) →
    ∃ record, audits run.effects = [record] ∧ record.policyDecision = .allowed
  /-- No attempt is recorded twice, or with another decision. -/
  once : audits run.effects = [] ∨ ∃ record, audits run.effects = [record] ∧
    decision service moment call = some record.policyDecision
  /-- With `_commit` the record of a denial or of a failed body is committed before the call
  ends. -/
  committed : call.commit = true → ∀ record ∈ audits run.effects,
    (record.policyDecision = .denied ∨ ∃ parameters fault, .enter parameters ∈ run.effects ∧
      (body parameters).result = .error fault) → .audit record ∈ keptRows run.effects
  /-- Without it the record waits in the transaction of the caller, and goes with it. -/
  left : call.commit = false → ∀ record ∈ audits run.effects,
    .audit record ∈ (Journal.play {} (entries run.effects)).pending ∧
      .audit record ∉ keptRows run.effects

/-! ## The parts of a run -/

/-- The permits of two pieces of a run follow each other. -/
@[simp] lemma permits_append (a b : List (Effect δ ω)) :
    permits (a ++ b) = permits a ++ permits b :=
  List.filter_append ..

/-- The reports of two pieces of a run follow each other. -/
@[simp] lemma reports_append (a b : List (Effect δ ω)) :
    reports (a ++ b) = reports a ++ reports b :=
  List.filter_append ..

/-- The audit rows of two pieces of a run follow each other. -/
@[simp] lemma audits_append (a b : List (Effect δ ω)) :
    audits (a ++ b) = audits a ++ audits b :=
  List.filterMap_append

/-- The entries of two pieces of a run follow each other. -/
@[simp] lemma entries_append (a b : List (Effect δ ω)) :
    entries (a ++ b) = entries a ++ entries b :=
  List.filterMap_append

/-- The effects of a body take no permit, report nothing and audit nothing. -/
lemma body_parts (effects : List (BodyEffect δ ω)) :
    permits (effects.map .body) = [] ∧ reports (effects.map .body) = [] ∧
      audits (effects.map .body) = [] := by
  refine ⟨?_, ?_, ?_⟩
  · simp [permits, List.filter_eq_nil_iff, Effect.isPermit]
  · simp [reports, List.filter_eq_nil_iff, Effect.isReport]
  · simp [audits, List.filterMap_eq_nil_iff, Effect.audit?]

/-- The report of an ending is a report, and nothing else that is counted. -/
lemma reportOf_parts (target : ConnectionTarget) (result : Except Fault α) :
    permits (reportOf target result : List (Effect δ ω)) = [] ∧
      reports (reportOf target result : List (Effect δ ω)) = reportOf target result ∧
      audits (reportOf target result : List (Effect δ ω)) = [] ∧
      entries (reportOf target result : List (Effect δ ω)) = [] := by
  rcases result with (error | - | -) | a
  · simp only [reportOf]
    split_ifs <;> exact ⟨rfl, rfl, rfl, rfl⟩
  all_goals exact ⟨rfl, rfl, rfl, rfl⟩

/-- What is written of an ending: at most one record, of an admission. -/
lemma auditOf_parts (call : AdmissionCall) (result : Except Fault α) :
    permits ((auditOf call result).map .audit ++ commitOf call result : List (Effect δ ω)) = [] ∧
      reports ((auditOf call result).map .audit ++ commitOf call result : List (Effect δ ω)) = [] ∧
      audits ((auditOf call result).map .audit ++ commitOf call result : List (Effect δ ω)) =
        auditOf call result := by
  cases hcommit : call.commit <;> rcases result with (error | - | -) | a <;>
    simp [auditOf, commitOf, hcommit, permits, reports, audits, Effect.isPermit, Effect.isReport,
      Effect.audit?]

/-- An ending with a record, unless the body was interrupted. -/
lemma auditOf_cases (call : AdmissionCall) (result : Except Fault α) :
    result = .error .interrupt ∧ auditOf call result = [] ∨
      ∃ record, auditOf call result = [record] ∧ record.policyDecision = .allowed := by
  rcases result with (error | - | -) | a
  · exact Or.inr ⟨_, rfl, rfl⟩
  · exact Or.inr ⟨_, rfl, rfl⟩
  · exact Or.inl ⟨rfl, rfl⟩
  · exact Or.inr ⟨_, rfl, rfl⟩

/-- What is counted of an attempt whose body was entered. -/
lemma entered_parts (call : AdmissionCall) (permit : ConnectionPermit)
    (parameters : ConnectionParameters) (effects : List (BodyEffect δ ω)) (result : Except Fault α)
    {tail : List (Effect δ ω)}
    (htail : tail = [] ∨ tail = (auditOf call result).map .audit ++ commitOf call result) :
    let between :=
      .enter parameters :: (effects.map .body ++ (reportOf (targetOf call) result ++ tail))
    let all := .acquire permit :: between ++ [.release permit]
    permits between = [] ∧ reports all = reportOf (targetOf call) result ∧
      audits all = audits tail ∧ ∀ p, .enter p ∈ all ↔ p = parameters := by
  obtain ⟨hpbody, hrbody, habody⟩ := body_parts (δ := δ) effects
  obtain ⟨hpreport, hrreport, hareport, -⟩ :=
    reportOf_parts (δ := δ) (ω := ω) (targetOf call) result
  have htailparts : permits tail = [] ∧ reports tail = [] ∧ ∀ p, Effect.enter p ∉ tail := by
    rcases htail with rfl | rfl
    · simp [permits, reports]
    · obtain ⟨hp, hr, -⟩ := auditOf_parts (δ := δ) (ω := ω) call result
      refine ⟨hp, hr, fun p hmem => ?_⟩
      rcases List.mem_append.mp hmem with hmem | hmem
      · simp at hmem
      · rcases result with (error | - | -) | a <;> simp [commitOf] at hmem
  obtain ⟨hptail, hrtail, hetail⟩ := htailparts
  have hreport : ∀ p, Effect.enter p ∉ (reportOf (targetOf call) result : List (Effect δ ω)) := by
    intro p hmem
    have : Effect.enter p ∈ reports (reportOf (targetOf call) result : List (Effect δ ω)) := by
      rwa [hrreport]
    simp [reports, Effect.isReport] at this
  refine ⟨?_, ?_, ?_, fun p => ?_⟩
  · show permits ([Effect.enter parameters] ++ (_ ++ (_ ++ tail))) = []
    simp only [permits_append, hpbody, hpreport, hptail]
    rfl
  · show reports (([Effect.acquire permit] ++ ([Effect.enter parameters] ++ (_ ++ (_ ++ tail)))) ++
      [Effect.release permit]) = _
    simp only [reports_append, hrbody, hrreport, hrtail]
    simp [reports, Effect.isReport]
  · show audits (([Effect.acquire permit] ++ ([Effect.enter parameters] ++ (_ ++ (_ ++ tail)))) ++
      [Effect.release permit]) = _
    simp only [audits_append, habody, hareport]
    have hone : ∀ e : Effect δ ω, e.audit? = none → audits [e] = [] := by
      intro e he
      simp [audits, he]
    rw [hone _ rfl, hone _ rfl, hone _ rfl, List.append_nil]
    rfl
  · simp [hetail p, hreport p]

/-- A report that is made is among those that are counted. -/
lemma mem_reports {e : Effect δ ω} (he : e.isReport = true) (effects : List (Effect δ ω)) :
    e ∈ reports effects ↔ e ∈ effects := by
  simp [reports, he]

/-- Which report is made of an ending. -/
lemma mem_reportOf (target : ConnectionTarget) (result : Except Fault α) :
    (.authenticationFailed target ∈ (reportOf target result : List (Effect δ ω)) ↔
        ∃ error, result = .error (.app error) ∧ error.phase = some "authentication") ∧
      (.authenticationSucceeded target ∈ (reportOf target result : List (Effect δ ω)) ↔
        (∃ a, result = .ok a) ∨ ∃ error phase, result = .error (.app error) ∧
          error.phase = some phase ∧ phase ∈ postAuthenticationPhases) ∧
      ((reportOf target result : List (Effect δ ω)) = [] ∨
        (reportOf target result : List (Effect δ ω)) = [.authenticationFailed target] ∨
        (reportOf target result : List (Effect δ ω)) = [.authenticationSucceeded target]) := by
  rcases result with (error | - | -) | a
  · simp only [reportOf]
    split_ifs with h h'
    · have hpost : "authentication" ∉ postAuthenticationPhases := by decide
      simp [h, hpost]
    · obtain ⟨phase, hphase, hpost⟩ : ∃ phase, error.phase = some phase ∧
          phase ∈ postAuthenticationPhases := by
        simpa [Option.any_eq_true] using h'
      rw [hphase] at h
      simp [hphase, hpost]
      simpa using h
    · have hno : ∀ phase, error.phase = some phase → phase ∉ postAuthenticationPhases := by
        simpa [Option.any_eq_true] using h'
      simp [h]
      exact hno
  · simp [reportOf]
  · simp [reportOf]
  · simp [reportOf]

/-- What belongs to the body comes behind the permit and the entry. -/
lemma body_behind_entry {permit : ConnectionPermit} {parameters : ConnectionParameters}
    {rest before after : List (Effect δ ω)} {e : Effect δ ω}
    (heq : .acquire permit :: .enter parameters :: rest = before ++ e :: after)
    (hbody : e.isBody = true) :
    .acquire permit ∈ before ∧ (.enter parameters ∈ before ∨ e = .enter parameters) := by
  rcases before with - | ⟨first, - | ⟨second, before⟩⟩
  · obtain ⟨rfl, -⟩ := List.cons.inj heq
    cases hbody
  · obtain ⟨rfl, hrest⟩ := List.cons.inj heq
    exact ⟨List.mem_singleton_self _, Or.inr (List.cons.inj hrest).1.symm⟩
  · obtain ⟨rfl, hrest⟩ := List.cons.inj heq
    obtain ⟨rfl, -⟩ := List.cons.inj hrest
    simp

/-- Every attempt accounts for its permit, its body and its authentication. -/
lemma accounts_of_shape {service : DeviceService β} {moment : Moment β} {call : AdmissionCall}
    {body : ConnectionParameters → Run (BodyEffect δ ω) Fault α} {effects : List (Effect δ ω)}
    (hshape : Shape service moment call body effects) :
    Accounts service moment call body effects := by
  cases hshape with
  | denied record hdecision hrecord =>
    have hmem : ∀ e ∈ (.audit record :: if call.commit then [.commit] else [] :
        List (Effect δ ω)), e = .audit record ∨ e = .commit := by
      cases call.commit <;> simp
    have hno : ∀ e : Effect δ ω, e ≠ .audit record → e ≠ .commit →
        e ∉ (.audit record :: if call.commit then [.commit] else []) :=
      fun e ha hc hmem' => (hmem e hmem').elim ha hc
    refine ⟨Or.inl ?_, ?_, ?_, ?_, Or.inl ?_⟩
    · cases call.commit <;> rfl
    · intro before e after heq hbody
      have hall : e ∈ before ++ e :: after := by simp
      rw [← heq] at hall
      rcases hmem e hall with rfl | rfl <;> cases hbody
    · refine iff_of_false (hno _ (by simp) (by simp)) ?_
      rintro ⟨p, -, hp, -⟩
      exact hno _ (by simp) (by simp) hp
    · refine iff_of_false (hno _ (by simp) (by simp)) ?_
      rintro ⟨p, hp, -⟩
      exact hno _ (by simp) (by simp) hp
    · cases call.commit <;> rfl
  | unpinned hdecision =>
    exact ⟨Or.inl rfl, fun before e after heq => by simp at heq, by simp, by simp, Or.inl rfl⟩
  | withoutCredentials permit hdecision =>
    refine ⟨Or.inr ⟨permit, [], rfl, rfl⟩, ?_, by simp, by simp, Or.inl rfl⟩
    intro before e after heq hbody
    have hall : e ∈ before ++ e :: after := by simp
    rw [← heq] at hall
    rcases List.mem_pair.mp hall with rfl | rfl <;> cases hbody
  | entered gate permit parameters tail hdecision hpolicy hgate hpinned hacquire htail htaken =>
    obtain ⟨hpermits, hreports, -, henter⟩ :=
      entered_parts call permit parameters (body parameters).effects (body parameters).result htail
    obtain ⟨hfailed, hsucceeded, hreport⟩ :=
      mem_reportOf (δ := δ) (ω := ω) (targetOf call) (body parameters).result
    refine ⟨Or.inr ⟨permit, _, rfl, hpermits⟩, ?_, ?_, ?_, ?_⟩
    · intro before e after heq hbody
      obtain ⟨hbefore, hentry⟩ := body_behind_entry heq hbody
      exact ⟨hpolicy, ⟨parameters, hentry.imp_right id, hpinned⟩, gate, permit, hgate, hacquire,
        hbefore⟩
    · rw [← mem_reports rfl, hreports, hfailed]
      simp only [henter]
      exact ⟨fun ⟨error, h⟩ => ⟨parameters, error, rfl, h⟩, fun ⟨_, error, rfl, h⟩ => ⟨error, h⟩⟩
    · rw [← mem_reports rfl, hreports, hsucceeded]
      simp only [henter]
      exact ⟨fun h => ⟨parameters, rfl, h⟩, fun ⟨_, rfl, h⟩ => h⟩
    · rw [hreports]
      exact hreport

/-- What an attempt writes whose body was entered: the rows of the body, and what follows. -/
lemma entries_entered (call : AdmissionCall) (permit : ConnectionPermit)
    (parameters : ConnectionParameters) (effects : List (BodyEffect δ ω)) (result : Except Fault α)
    (tail : List (Effect δ ω)) :
    entries (.acquire permit :: (.enter parameters :: (effects.map .body ++
        (reportOf (targetOf call) result ++ tail))) ++ [.release permit]) =
      entries (effects.map .body) ++ entries tail := by
  obtain ⟨-, -, -, hreport⟩ := reportOf_parts (δ := δ) (ω := ω) (targetOf call) result
  show entries (([Effect.acquire permit, .enter parameters] ++ (_ ++ (_ ++ tail))) ++
    [Effect.release permit]) = _
  have henter : entries ([.acquire permit, .enter parameters] : List (Effect δ ω)) = [] := rfl
  have hrelease : entries ([.release permit] : List (Effect δ ω)) = [] := rfl
  simp only [entries_append, hreport, henter, hrelease, List.nil_append, List.append_nil]

/-- A body writes no audit record. -/
lemma audit_not_mem_body (record : AdmissionAudit) (effects : List (BodyEffect δ ω)) :
    .write (.audit record) ∉ entries (effects.map Effect.body) := by
  intro hmem
  obtain ⟨e, he, hentry⟩ := List.mem_filterMap.mp hmem
  obtain ⟨b, -, rfl⟩ := List.mem_map.mp he
  cases b <;> simp [Effect.entry] at hentry

section Owned

variable {run : Run (Effect δ ω) Fault α}
  (haccounts : Accounts service moment call body run.effects)

include haccounts

/-- A denial is accounted for by its record, which is committed where the call owns the commit. -/
lemma accountsAsOwned_of_denied {record : AdmissionAudit}
    (hdecision : decision service moment call = some .denied)
    (hrecord : record.policyDecision = .denied)
    (heffects : run.effects = .audit record :: if call.commit then [.commit] else []) :
    AccountsAsOwned service moment call body run := by
  have haudits : audits run.effects = [record] := by
    rw [heffects]
    cases call.commit <;> rfl
  refine ⟨haccounts, fun _ => ⟨record, haudits, hrecord⟩, ?_, Or.inr ⟨record, haudits, ?_⟩, ?_, ?_⟩
  · intro gate parameters hallowed
    rw [hdecision] at hallowed
    cases hallowed
  · rw [hdecision, hrecord]
  · intro hcommit r hr _
    rw [haudits, List.mem_singleton] at hr
    rw [heffects, hcommit, hr]
    exact List.mem_singleton_self _
  · intro hcommit r hr
    rw [haudits, List.mem_singleton] at hr
    rw [heffects, hcommit, hr]
    exact ⟨List.mem_singleton_self _, List.not_mem_nil⟩

/-- An attempt that is not denied and whose body is not entered needs no record. -/
lemma accountsAsOwned_of_not_entered (hdecision : decision service moment call ≠ some .denied)
    (haudits : audits run.effects = []) (hentered : ∀ p, .enter p ∉ run.effects) :
    AccountsAsOwned service moment call body run := by
  refine ⟨haccounts, fun h => absurd h hdecision, ?_, Or.inl haudits, ?_, ?_⟩
  · exact fun gate parameters _ _ hmem => absurd hmem (hentered parameters)
  · rw [haudits]
    simp
  · rw [haudits]
    simp

end Owned

/-- What is audited behind a body: nothing, or one record of an admission with its commit. -/
lemma audits_tail (call : AdmissionCall) (result : Except Fault α) {tail : List (Effect δ ω)}
    (htail : tail = [] ∨ tail = (auditOf call result).map .audit ++ commitOf call result) :
    audits tail = [] ∨ ∃ record, audits tail = [record] ∧ record.policyDecision = .allowed ∧
      auditOf call result = [record] ∧ tail = .audit record :: commitOf call result := by
  rcases htail with rfl | rfl
  · exact Or.inl rfl
  · rw [(auditOf_parts (δ := δ) (ω := ω) call result).2.2]
    rcases auditOf_cases call result with ⟨-, hnone⟩ | ⟨record, hone, hallowed⟩
    · exact Or.inl hnone
    · exact Or.inr ⟨record, hone, hallowed, hone, by simp [hone]⟩

/-- The record of a failed body is kept where the call owns the commit. -/
lemma audit_mem_keptRows {call : AdmissionCall} {result : Except Fault α} {record : AdmissionAudit}
    {effects : List (Effect δ ω)} {written : List (BodyEffect δ ω)}
    (hentries : entries effects = entries (written.map .body) ++
      entries (.audit record :: commitOf call result : List (Effect δ ω)))
    (haudit : auditOf call result = [record]) (hcommit : call.commit = true) {fault : Fault}
    (hfault : result = .error fault) : .audit record ∈ keptRows effects := by
  have hcommits : (commitOf call result : List (Effect δ ω)) = [.commit] := by
    rw [hfault] at haudit ⊢
    rcases fault with error | - | -
    · simp [commitOf, hcommit]
    · simp [commitOf, hcommit]
    · cases haudit
  rw [keptRows, hentries, hcommits]
  show Row.audit record ∈
    (Journal.play {} (_ ++ [.write (Row.audit record), .commit] ++ [.rollback])).durable
  rw [List.append_assoc]
  exact Journal.mem_durable_play {} _ List.not_mem_nil [.rollback]

/-- A record is left to the caller who owns the commit, and goes with his transaction. -/
lemma audit_mem_pending {call : AdmissionCall} {result : Except Fault α} {record : AdmissionAudit}
    {effects : List (Effect δ ω)} {written : List (BodyEffect δ ω)}
    (hentries : entries effects = entries (written.map .body) ++
      entries (.audit record :: commitOf call result : List (Effect δ ω)))
    (hcommit : call.commit = false) :
    .audit record ∈ (Journal.play {} (entries effects)).pending ∧
      .audit record ∉ keptRows effects := by
  have hcommits : (commitOf call result : List (Effect δ ω)) = [] := by
    rcases result with (error | - | -) | a <;> simp [commitOf, hcommit]
  rw [keptRows, hentries, hcommits]
  simp only [entries, List.filterMap_cons_some (show Effect.entry (.audit record) = _ from rfl),
    List.filterMap_nil, Journal.play_append, Journal.play_cons, Journal.play_nil]
  refine ⟨List.mem_append_right _ (List.mem_singleton_self _), fun hkept => ?_⟩
  rcases Journal.mem_of_mem_durable_play hkept with h | h | h
  · cases h
  · cases h
  · exact audit_not_mem_body record _ h

/-- An attempt whose body is entered is accounted for by what the gate and the caller let it
write. -/
lemma accountsAsOwned_of_entered {run : Run (Effect δ ω) Fault α} {gate : Gate}
    {permit : ConnectionPermit} {parameters : ConnectionParameters} {tail : List (Effect δ ω)}
    (haccounts : Accounts service moment call body run.effects)
    (hdecision : decision service moment call = some .allowed) (hgate : service.gate = some gate)
    (htail : tail = [] ∨ tail = (auditOf call (body parameters).result).map .audit ++
      commitOf call (body parameters).result)
    (htaken : (∀ e ∈ (reportOf (targetOf call) (body parameters).result : List (Effect δ ω)),
        gate.Takes e) →
      tail = (auditOf call (body parameters).result).map .audit ++
        commitOf call (body parameters).result)
    (heffects : run.effects = .acquire permit :: (.enter parameters ::
      ((body parameters).effects.map .body ++
        (reportOf (targetOf call) (body parameters).result ++ tail))) ++ [.release permit]) :
    AccountsAsOwned service moment call body run := by
  obtain ⟨-, hreports, haudits, henter⟩ :=
    entered_parts call permit parameters (body parameters).effects (body parameters).result htail
  have hentries := entries_entered call permit parameters (body parameters).effects
    (body parameters).result tail
  rw [← heffects] at hreports haudits henter hentries
  have hwritten := audits_tail call (body parameters).result htail
  rw [← haudits] at hwritten
  refine ⟨haccounts, fun h => ?_, ?_, ?_, ?_, ?_⟩
  · rw [hdecision] at h
    cases h
  · intro gate' p _ hgate' hp hinterrupt htakes
    obtain rfl : gate = gate' := Option.some.inj (hgate.symm.trans hgate')
    obtain rfl := (henter p).mp hp
    rw [hreports] at htakes
    rw [haudits, htaken htakes, (auditOf_parts (δ := δ) (ω := ω) call (body p).result).2.2]
    rcases auditOf_cases call (body p).result with ⟨hresult, -⟩ | hone
    · exact absurd hresult hinterrupt
    · exact hone
  · rcases hwritten with hnone | ⟨record, hone, hallowed, -, -⟩
    · exact Or.inl hnone
    · exact Or.inr ⟨record, hone, by rw [hdecision, hallowed]⟩
  · intro hcommit r hr hended
    rcases hwritten with hnone | ⟨record, hone, hallowed, haudit, rfl⟩
    · rw [hnone] at hr
      cases hr
    rw [hone, List.mem_singleton] at hr
    subst hr
    rcases hended with hdenied | ⟨p, fault, hp, hfault⟩
    · rw [hallowed] at hdenied
      cases hdenied
    · obtain rfl := (henter p).mp hp
      exact audit_mem_keptRows hentries haudit hcommit hfault
  · intro hcommit r hr
    rcases hwritten with hnone | ⟨record, hone, -, -, rfl⟩
    · rw [hnone] at hr
      cases hr
    rw [hone, List.mem_singleton] at hr
    subst hr
    exact audit_mem_pending hentries hcommit

/-- Every attempt keeps its audit record when it owns the commit, and leaves it to its caller
otherwise. -/
theorem accounts_for_connection (service : DeviceService β) (moment : Moment β)
    (call : AdmissionCall) (body : ConnectionParameters → Run (BodyEffect δ ω) Fault α) :
    AccountsAsOwned service moment call body (admittedConnection service moment call body) := by
  have hshape := shape_admittedConnection service moment call body
  generalize admittedConnection service moment call body = run at hshape
  have haccounts := accounts_of_shape hshape
  generalize heffects : run.effects = effects at hshape
  cases hshape with
  | denied record hdecision hrecord =>
    exact accountsAsOwned_of_denied haccounts hdecision hrecord heffects
  | unpinned hdecision =>
    refine accountsAsOwned_of_not_entered haccounts (by simp [hdecision]) ?_ ?_
    · rw [heffects]
      rfl
    · simp [heffects]
  | withoutCredentials permit hdecision =>
    refine accountsAsOwned_of_not_entered haccounts (by simp [hdecision]) ?_ ?_
    · rw [heffects]
      rfl
    · simp [heffects]
  | entered gate permit parameters tail hdecision hpolicy hgate hpinned hacquire htail htaken =>
    exact accountsAsOwned_of_entered haccounts hdecision hgate htail htaken heffects

end Endings

/-! ## A failed connection test -/

/-- A service with a gate that admits and takes every report. -/
def openService : DeviceService Unit where
  settings := ⟨false, false, false⟩
  gate := some
    { acquire := fun operation target => .ok ⟨1, operation, target⟩
      authenticationSucceeded := fun _ => .ok ()
      authenticationFailed := fun _ => .ok ()
      release := fun _ => .ok () }
  candidateDigest := fun _ => ()
  hostKeys := fun _ => some ⟨"ssh-ed25519", "ssh-ed25519 AAAA", "SHA256:AAAA"⟩
  credentials := fun _ => .ok ⟨"admin", "secret", none⟩

/-- The test of a device inside another operation, which owns the commit. -/
def ownedTest (commit : Bool) : AdmissionCall where
  managementAddress := ⟨"core-1", by decide +kernel⟩
  port := ⟨22, by decide⟩
  vendor := .ciscoIosxe
  credentialProfileId := 7
  sshCompatibility := .modern
  deviceId := some 3
  operation := .connectionTest
  commit

/-- A login that the device refuses. -/
def refusedLogin (_ : ConnectionParameters) : Run (BodyEffect Unit Unit) Fault Unit :=
  .raise (.app ⟨"device_authentication_failed", some "authentication"⟩)

/-- A refused login in a test whose caller owns the commit: the admission was recorded, and the
failure takes the record along. -/
theorem not_accountsOnce_owned_test :
    ¬AccountsOnce openService ⟨fun _ => none, 0⟩ (ownedTest false) refusedLogin
      (admittedConnection openService ⟨fun _ => none, 0⟩ (ownedTest false) refusedLogin) := by
  intro h
  have hkept := h.kept (.app ⟨"device_authentication_failed", some "authentication"⟩) rfl
    (allowedAudit (ownedTest false) "authentication" "device_authentication_failed")
    (List.mem_singleton_self _)
  exact absurd hkept (List.not_mem_nil)

end Terraformer.Admission
