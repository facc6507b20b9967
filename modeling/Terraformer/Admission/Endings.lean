import Terraformer.Admission.Accounting

/-!
# Connections that end well

`result_admittedConnection_eq_ok_iff` says what an admitted connection needs to end well, and
`enter_mem_of_result_eq_ok` that it has then entered its body, pinned to its known hosts.
-/

namespace Terraformer.Admission

variable {δ ω α β : Type} [DecidableEq β]
  {service : DeviceService β} {moment : Moment β} {call : AdmissionCall}
  {body : ConnectionParameters → Run (BodyEffect δ ω) Fault α} {a : α}

/-- A denial ends with its error. -/
lemma result_deny (veryOld : Bool) (error : AppError) :
    (deny call veryOld error : Run (Effect δ ω) Fault α).result = .error (.app error) := by
  rw [deny, Run.result_emit_bind, commitIf]
  split <;> rfl

/-- A denial does not end well. -/
lemma result_deny_ne_ok (veryOld : Bool) (error : AppError) :
    (deny call veryOld error : Run (Effect δ ω) Fault α).result ≠ .ok a := by
  rw [result_deny]
  exact fun h => by cases h

/-- The accounting ends well when the body did and the gate takes the report of it. -/
lemma result_account_eq_ok_iff {gate : Gate} {result : Except Fault α} :
    (account gate call result : Run (Effect δ ω) Fault α).result = .ok a ↔
      result = .ok a ∧ gate.authenticationSucceeded (targetOf call) = .ok () := by
  rcases result with (error | - | -) | b
  · refine iff_of_false (fun h => ?_) fun h => by cases h.1
    obtain ⟨_, -, h, -⟩ := Run.exists_of_result_bind_eq_ok h
    obtain ⟨_, -, h, -⟩ := Run.exists_of_result_bind_eq_ok h
    obtain ⟨_, -, h, -⟩ := Run.exists_of_result_bind_eq_ok h
    cases h
  · refine iff_of_false (fun h => ?_) fun h => by cases h.1
    obtain ⟨_, -, h, -⟩ := Run.exists_of_result_bind_eq_ok h
    obtain ⟨_, -, h, -⟩ := Run.exists_of_result_bind_eq_ok h
    cases h
  · exact iff_of_false (fun h => by cases h) fun h => by cases h.1
  · show (gateCall _ _ >>= fun _ => _).result = _ ↔ _
    cases gate.authenticationSucceeded (targetOf call) with
    | error error => simp [gateCall, Except.mapError]
    | ok _ => simp [gateCall, Except.mapError]

omit [DecidableEq β] in
/-- A connection behind the gate ends well with credentials, a body that does and a report that is
taken. -/
lemma result_connect_eq_ok_iff {gate : Gate} {knownHosts : String} :
    (connect service gate call knownHosts body).result = .ok a ↔
      ∃ material, service.credentials call.credentialProfileId = .ok material ∧
        (body ⟨normalizedHost call, call.port.1, material, knownHosts,
          call.sshCompatibility⟩).result = .ok a ∧
        gate.authenticationSucceeded (targetOf call) = .ok () := by
  rw [connect]
  cases service.credentials call.credentialProfileId with
  | error fault => exact iff_of_false (fun h => by cases h) fun ⟨_, h, _⟩ => by cases h
  | ok material =>
    refine Iff.trans result_account_eq_ok_iff ⟨fun h => ⟨material, rfl, h⟩, ?_⟩
    rintro ⟨_, ⟨⟩, h⟩
    exact h

omit [DecidableEq β] in
/-- A run with a last call of the gate ends well when both do. -/
lemma result_andFinally_gateCall {x : Run (Effect δ ω) Fault α} {e : Effect δ ω}
    {outcome : Except AppError Unit} :
    (x.andFinally (gateCall e outcome)).result = .ok a ↔
      x.result = .ok a ∧ outcome = .ok () := by
  cases outcome with
  | error error => simp [Run.andFinally, gateCall, Except.mapError]
  | ok _ => simp [Run.andFinally, gateCall, Except.mapError]

/-- An admitted connection ends well behind the policy, the known hosts, the gate and the
credentials, with a body that does. -/
lemma result_admittedConnection_eq_ok_iff :
    (admittedConnection service moment call body).result = .ok a ↔
      enforceCompatibilityPolicy call.sshCompatibility service.settings
        call.group1RiskAcknowledged call.veryOldRiskAcknowledged = true ∧
      ∃ knownHosts, pinnedKnownHosts service moment call = .ok knownHosts ∧
      ∃ gate permit material, service.gate = some gate ∧
        gate.acquire call.operation (targetOf call) = .ok permit ∧
        service.credentials call.credentialProfileId = .ok material ∧
        (body ⟨normalizedHost call, call.port.1, material, knownHosts,
          call.sshCompatibility⟩).result = .ok a ∧
        gate.authenticationSucceeded (targetOf call) = .ok () ∧ gate.release permit = .ok () := by
  unfold admittedConnection
  by_cases hpolicy : enforceCompatibilityPolicy call.sshCompatibility service.settings
      call.group1RiskAcknowledged call.veryOldRiskAcknowledged = false
  · rw [if_pos hpolicy]
    exact iff_of_false (result_deny_ne_ok _ _) fun h => by simp [hpolicy] at h
  rw [if_neg hpolicy]
  rw [Bool.not_eq_false] at hpolicy
  cases hgate : service.gate with
  | none =>
    exact iff_of_false (result_deny_ne_ok _ _) fun ⟨_, _, _, _, _, _, h, _⟩ => by cases h
  | some gate =>
    cases hpinned : pinnedKnownHosts service moment call with
    | error error =>
      exact iff_of_false (fun h => by cases h) fun ⟨_, _, h, _⟩ => by cases h
    | ok knownHosts =>
      cases hacquire : gate.acquire call.operation (targetOf call) with
      | error error =>
        simp only [hacquire]
        show (deny call false error : Run (Effect δ ω) Fault α).result = _ ↔ _
        refine iff_of_false (result_deny_ne_ok _ _) ?_
        rintro ⟨-, _, -, _, _, _, ⟨⟩, h, -⟩
        cases hacquire.symm.trans h
      | ok permit =>
        simp only [hacquire]
        show (Run.andFinally _ (gateCall (.release permit) (gate.release permit)) :
          Run (Effect δ ω) Fault α).result = _ ↔ _
        refine Iff.trans result_andFinally_gateCall ⟨fun ⟨h, hrelease⟩ => ?_, ?_⟩
        · obtain ⟨material, hmaterial, hbody, hreport⟩ := result_connect_eq_ok_iff.mp h
          exact ⟨hpolicy, knownHosts, rfl, gate, permit, material, rfl, hacquire, hmaterial, hbody,
            hreport, hrelease⟩
        · rintro ⟨-, _, ⟨⟩, _, permit', material, ⟨⟩, hpermit, hmaterial, hbody, hreport, hrelease⟩
          obtain rfl := Except.ok.inj (hacquire.symm.trans hpermit)
          exact ⟨result_connect_eq_ok_iff.mpr ⟨material, hmaterial, hbody, hreport⟩, hrelease⟩

/-- An admitted connection that ends well has entered its body, pinned to its known hosts. -/
lemma enter_mem_of_result_eq_ok (h : (admittedConnection service moment call body).result = .ok a) :
    ∃ parameters, .enter parameters ∈ (admittedConnection service moment call body).effects ∧
      pinnedKnownHosts service moment call = .ok parameters.knownHosts ∧
      (body parameters).result = .ok a ∧ parameters.host = call.managementAddress.1 ∧
      parameters.port = call.port.1 := by
  obtain ⟨hpolicy, knownHosts, hpinned, gate, permit, material, hgate, hacquire, hmaterial, hbody,
    -, -⟩ := result_admittedConnection_eq_ok_iff.mp h
  refine ⟨_, ?_, hpinned, hbody, normalizedHost_eq call, rfl⟩
  simp [admittedConnection, hpolicy, hgate, hpinned, hacquire, connect, hmaterial, Except.mapError]

/-- What holds of a connection's own effects and of those of its body holds of all. -/
lemma all_admittedConnection {P : Effect δ ω → Prop}
    (hown : ∀ e : Effect δ ω, e.entry = none → P e) (haudit : ∀ record, P (.audit record))
    (hcommit : call.commit = true → P .commit)
    (hbody : ∀ parameters, ∀ e ∈ (body parameters).effects, P (.body e)) :
    (admittedConnection service moment call body).All P := by
  have htail : ∀ e : Effect δ ω, e ∈ (if call.commit then [.commit] else []) → P e := by
    intro e he
    split_ifs at he with h
    · exact List.mem_singleton.mp he ▸ hcommit h
    · cases he
  have haccount : ∀ (result : Except Fault α) (e : Effect δ ω),
      e ∈ (auditOf call result).map .audit ++ commitOf call result → P e := by
    intro result e he
    rcases List.mem_append.mp he with he | he
    · obtain ⟨record, -, rfl⟩ := List.mem_map.mp he
      exact haudit record
    · rcases result with (_ | _ | _) | _
      · exact htail e he
      · exact htail e he
      · cases he
      · cases he
  have hshape := shape_admittedConnection service moment call body
  intro e he
  generalize (admittedConnection service moment call body).effects = effects at hshape he
  cases hshape with
  | denied record =>
    rcases List.mem_cons.mp he with rfl | he
    · exact haudit record
    · exact htail e he
  | unpinned => cases he
  | withoutCredentials permit =>
    rcases List.mem_pair.mp he with rfl | rfl
    · exact hown _ rfl
    · exact hown _ rfl
  | entered gate permit parameters tail _ _ _ _ _ htailed =>
    simp only [List.cons_append, List.mem_cons, List.mem_append, List.mem_map,
      List.not_mem_nil, or_false] at he
    rcases he with rfl | rfl | ⟨⟨b, hb, rfl⟩ | he | he⟩ | rfl
    · exact hown _ rfl
    · exact hown _ rfl
    · exact hbody parameters b hb
    · exact hown e (List.filterMap_eq_nil_iff.mp (reportOf_parts _ _).2.2.2 e he)
    · rcases htailed with rfl | rfl
      · cases he
      · exact haccount _ e he
    · exact hown _ rfl

end Terraformer.Admission
