import Terraformer.Assistant.Compaction

/-!
# The stored conversation

Whether a conversation can be replayed after its turns.  An assistant message is stored before
its calls are executed, so a turn leaves calls unanswered when it announces more calls than its
budget, when the execution of one raises an exception that is not caught, and when the consumer
abandons it at the event of a tool; it leaves none unanswered otherwise
(`replayable_iff_completes`).
-/

namespace Terraformer.Assistant

open Exchange Text

/-- The event reports a tool call or its result. -/
def AssistantEvent.isToolEvent : AssistantEvent → Bool
  | .toolCall _ _ | .toolResult _ _ | .changePlanProposed _ _ => true
  | _ => false

/-- The calls a turn announces in the rounds that are left, as far as the streams go. -/
def announcedCalls (input : TurnInput) : ℕ → List ToolCallRequest
  | 0 => []
  | left + 1 =>
    if (roundStream input left).raises ∨ (roundMessage input left).calls = [] then []
    else (roundMessage input left).calls ++ announcedCalls input left

section

variable [UnicodeDatabase] {service : AssistantChatService} {session : ChatSession}
  {input : TurnInput}

/-- The announced calls keep to the budget, and each of them is answered. -/
def CallsComplete (service : AssistantChatService) (input : TurnInput) (callsMade : ℕ)
    (calls : List ToolCallRequest) : Prop :=
  callsMade + calls.length ≤ maxToolCallsPerTurn ∧ Answered service input callsMade calls

/-! ## What a part of a turn stores -/

omit [UnicodeDatabase] in
/-- What is done before a prefix of a prefix is stored first. -/
lemma persisted_part {p effects : List Effect} (h : p <+: effects) :
    persisted p <+: persisted effects :=
  h.filterMap _

omit [UnicodeDatabase] in
/-- An assistant message with fewer tool messages behind it than it announces calls, and then
nothing or another message, cannot be replayed. -/
lemma not_replayable_of_lt {message : AssistantMessage} {answers : List AssistantMessage}
    (hrole : message.role = .assistant) (hanswers : ∀ a ∈ answers, a.role = .tool)
    (hlength : answers.length < message.calls.length) : ¬Replayable (message :: answers) := by
  have hkind : message.kind = .announce (message.calls.map fun call => some call.id) := by
    rw [AssistantMessage.kind, hrole]
  rw [Replayable, settled_announce_iff hkind]
  · intro h
    have hlength' := h.length_eq
    simp only [List.length_map] at hlength'
    omega
  · intro a ha
    rw [AssistantMessage.kind, hanswers a ha]
    rfl

omit [UnicodeDatabase] in
/-- Nothing is stored before a round's stream has ended. -/
lemma persisted_roundHead (left : ℕ) (history : List ChatMessage) :
    persisted (roundHead service session input left history) = [] := by
  rw [roundHead, ← List.singleton_append, persisted_append, persisted_tokens]
  rfl

omit [UnicodeDatabase] in
/-- A part of a round's request and tokens that ends in an event ends in a token. -/
lemma token_of_part_roundHead {left : ℕ} {history : List ChatMessage} {p : List Effect}
    {event : AssistantEvent} (hp : p <+: roundHead service session input left history)
    (hlast : p.getLast? = some (.yield event)) : event.isToolEvent = false := by
  have hmem := hp.subset (List.mem_of_getLast? hlast)
  rw [roundHead, List.mem_cons] at hmem
  rcases hmem with h | h
  · cases h
  · obtain ⟨text, -, htext⟩ := List.mem_map.mp h
    cases htext
    rfl

/-- While calls are executed, every event is one of a tool, and at each of them some call is
not answered yet. -/
lemma event_of_part_answerCalls {calls : List ToolCallRequest} {history : List ChatMessage}
    {callsMade : ℕ} {p : List Effect} {event : AssistantEvent}
    (hp : p <+: (answerCalls service input calls history callsMade).effects)
    (hlast : p.getLast? = some (.yield event)) :
    event.isToolEvent = true ∧ (persisted p).length < calls.length ∧
      ∀ a ∈ persisted p, a.role = .tool := by
  induction calls generalizing history callsMade p with
  | nil =>
    have hnil : p = [] := List.prefix_nil.mp hp
    rw [hnil] at hlast
    cases hlast
  | cons call calls ih =>
    rw [answerCalls] at hp
    split at hp
    · have hnil : p = [] := List.prefix_nil.mp hp
      rw [hnil] at hlast
      cases hlast
    · cases hpayload : callPayload service (input.calls callsMade) call with
      | error fault =>
        rw [answerCall_of_error hpayload, Run.mk_error_bind] at hp
        simp only [List.prefix_cons_iff, List.prefix_nil] at hp
        rcases hp with rfl | ⟨_, rfl, rfl | ⟨_, rfl, rfl⟩⟩
        · cases hlast
        · cases hlast
          exact ⟨rfl, Nat.succ_pos _, by simp [persisted]⟩
        · cases hlast
      | ok payload =>
        rw [answerCall_of_ok hpayload, Run.mk_ok_bind] at hp
        rcases prefix_append_cases hp with hp | ⟨q, rfl, hq⟩
        · simp only [List.prefix_cons_iff, List.prefix_nil] at hp
          rcases hp with rfl | ⟨_, rfl, rfl | ⟨_, rfl, rfl | ⟨_, rfl, rfl | ⟨_, rfl, rfl⟩⟩⟩⟩
          · cases hlast
          · cases hlast
            exact ⟨rfl, Nat.succ_pos _, by simp [persisted]⟩
          · cases hlast
          · cases hlast
            refine ⟨?_, Nat.succ_pos _, by simp [persisted]⟩
            rw [resultEvent]
            split <;> rfl
          · cases hlast
        · cases q with
          | nil => cases hlast
          | cons e q =>
            rw [List.getLast?_append_of_ne_nil _ (List.cons_ne_nil e q)] at hlast
            obtain ⟨htool, hlength, hrole⟩ := ih hq hlast
            refine ⟨htool, ?_, ?_⟩
            · rw [persisted_append, List.length_append, List.length_cons, Nat.add_comm]
              exact Nat.add_lt_add_right hlength 1
            · intro a ha
              rw [persisted_append, List.mem_append] at ha
              rcases ha with ha | ha
              · simp only [persisted, List.filterMap_cons, List.filterMap_nil,
                  List.mem_singleton] at ha
                rw [ha]
                rfl
              · exact hrole a ha

/-! ## The rounds of a turn -/

/-- What the rounds of a turn store begins with an assistant message. -/
lemma persisted_rounds_head {left : ℕ} {history : List ChatMessage} {callsMade : ℕ} :
    ∀ m ∈ (persisted (rounds service session input left history callsMade).effects).head?,
      m.role = .assistant := by
  intro m hm
  cases left with
  | zero => simp [rounds, persisted] at hm
  | succ left =>
    cases hraises : (roundStream input left).raises with
    | true =>
      rw [rounds_of_raises hraises, persisted_roundHead] at hm
      cases hm
    | false =>
      by_cases hcalls : (roundMessage input left).calls = []
      · rw [rounds_of_answer hraises hcalls, List.append_assoc, persisted_append,
          persisted_roundHead, List.nil_append, persisted_append] at hm
        split at hm
        · cases hm
          rfl
        · cases hm
      · rw [rounds_of_calls hraises hcalls, Run.mk_ok_bind, List.append_assoc, persisted_append,
          persisted_roundHead, List.nil_append, persisted_append] at hm
        cases hm
        rfl

omit [UnicodeDatabase] in
/-- Messages that begin with an assistant message may be cut off what was stored before. -/
lemma replayable_append_iff {a b : List AssistantMessage}
    (hb : ∀ m ∈ b.head?, m.role = .assistant) :
    Replayable (a ++ b) ↔ Replayable a ∧ Replayable b := by
  refine settled_append_iff fun m hm => ?_
  rw [AssistantMessage.kind, hb m hm]
  rfl

omit [UnicodeDatabase] in
/-- A round whose calls are answered, and the rest of the turn. -/
lemma replayable_round_iff {left : ℕ} {answers rest : List AssistantMessage}
    (hanswers : IsAnswers (roundMessage input left).calls answers)
    (hrest : ∀ m ∈ rest.head?, m.role = .assistant) :
    Replayable (roundMessage input left :: (answers ++ rest)) ↔ Replayable rest := by
  have hround : Replayable (roundMessage input left :: answers) := by
    have h : Replayable (roundMessage input left :: (answers ++ [])) :=
      .announce rfl (perm_of_isAnswers hanswers) .nil
    rwa [List.append_nil] at h
  rw [← List.cons_append, replayable_append_iff hrest]
  exact and_iff_right hround

/-- The rounds of a turn leave the conversation replayable exactly when their calls keep to the
budget and are all answered. -/
theorem replayable_rounds_iff {left : ℕ} {history : List ChatMessage} {callsMade : ℕ}
    (hmade : callsMade ≤ maxToolCallsPerTurn) :
    Replayable (persisted (rounds service session input left history callsMade).effects) ↔
      CallsComplete service input callsMade (announcedCalls input left) := by
  induction left generalizing history callsMade with
  | zero =>
    refine iff_of_true ?_ ⟨hmade, trivial⟩
    rw [rounds]
    exact .nil
  | succ left ih =>
    rw [announcedCalls]
    cases hraises : (roundStream input left).raises with
    | true =>
      rw [rounds_of_raises hraises, persisted_roundHead, if_pos (Or.inl rfl)]
      exact iff_of_true .nil ⟨hmade, trivial⟩
    | false =>
      by_cases hcalls : (roundMessage input left).calls = []
      · rw [rounds_of_answer hraises hcalls, List.append_assoc, persisted_append,
          persisted_roundHead, if_pos (Or.inr hcalls), List.nil_append]
        refine iff_of_true ?_ ⟨hmade, trivial⟩
        have hmessage : Replayable [roundMessage input left] :=
          (settled_announce_iff (m := roundMessage input left) rfl (by simp)).mpr
            (by rw [hcalls]; exact List.Perm.refl _)
        split
        · exact hmessage
        · exact .nil
      · rw [if_neg (by simp [hcalls]), CallsComplete, answered_append, List.length_append]
        have hpersist : ∀ l, persisted (.persist (roundMessage input left) :: l) =
            roundMessage input left :: persisted l := fun _ => rfl
        have hspec := roundOfCalls_spec service session history hraises hcalls hmade
        cases hspec with
        | all answers hanswered hbudget hanswers hpersisted hexecuted heffects =>
          rw [heffects, persisted_append, persisted_roundHead, List.nil_append, hpersist,
            persisted_append, hpersisted, replayable_round_iff hanswers persisted_rounds_head,
            ih hbudget, CallsComplete, Nat.add_assoc, and_iff_right hanswered]
        | budget made pending answers hsplit hpending hanswered hbudget hanswers hpersisted
            hexecuted heffects =>
          have hpos := List.length_pos_of_ne_nil hpending
          have hlength := length_of_isAnswers hanswers
          rw [heffects, persisted_append, persisted_roundHead, List.nil_append, hpersist,
            persisted_append, hpersisted, show persisted [Effect.yield .done] = [] from rfl,
            List.append_nil]
          refine iff_of_false ?_ ?_
          · refine not_replayable_of_lt rfl (role_of_isAnswers hanswers) ?_
            rw [hsplit, List.length_append]
            omega
          · rw [hsplit, List.length_append]
            omega
        | raises made pending call answers hsplit hanswered hbudget hanswers hcall hpersisted
            hexecuted heffects =>
          have hlength := length_of_isAnswers hanswers
          rw [heffects, persisted_append, persisted_roundHead, List.nil_append, hpersist,
            hpersisted]
          refine iff_of_false (not_replayable_of_lt rfl (role_of_isAnswers hanswers) ?_) ?_
          · rw [hsplit, List.length_append, List.length_cons]
            omega
          · rintro ⟨-, h, -⟩
            rw [hsplit, answered_append, Answered] at h
            exact h.2.1 hcall

omit [UnicodeDatabase] in
/-- What begins the stored messages is what is stored first. -/
lemma head_of_part {p effects : List Effect} {P : AssistantMessage → Prop}
    (hp : p <+: effects) (h : ∀ m ∈ (persisted effects).head?, P m) :
    ∀ m ∈ (persisted p).head?, P m := by
  intro m hm
  obtain ⟨rest, hrest⟩ := persisted_part hp
  refine h m ?_
  cases hmessages : persisted p with
  | nil => rw [hmessages] at hm; cases hm
  | cons m' messages =>
    rw [hmessages] at hm
    rw [← hrest, hmessages]
    exact hm

/-- Abandoned while its calls are answered or later, a round leaves the conversation replayable
exactly when it is abandoned at no event of a tool, if that holds of the rounds behind it. -/
lemma replayable_abandoned_calls {left : ℕ} {history : List ChatMessage} {callsMade : ℕ}
    {p : List Effect} {event : AssistantEvent} (hmade : callsMade ≤ maxToolCallsPerTurn)
    (hp : p <+: (answerCalls service input (roundMessage input left).calls history callsMade >>=
      afterCalls service session input left).effects)
    (hlast : p.getLast? = some (.yield event)) (hdone : event ≠ .done)
    (ih : ∀ {history : List ChatMessage} {callsMade : ℕ} {p : List Effect},
      callsMade ≤ maxToolCallsPerTurn →
      p <+: (rounds service session input left history callsMade).effects →
      p.getLast? = some (.yield event) →
      (Replayable (persisted p) ↔ event.isToolEvent = false)) :
    Replayable (roundMessage input left :: persisted p) ↔ event.isToolEvent = false := by
  have hwithin : p <+: (answerCalls service input (roundMessage input left).calls history
      callsMade).effects →
      (Replayable (roundMessage input left :: persisted p) ↔ event.isToolEvent = false) := by
    intro hp
    obtain ⟨htool, hlength, hrole⟩ := event_of_part_answerCalls hp hlast
    rw [htool]
    exact iff_of_false (not_replayable_of_lt rfl hrole hlength) (by simp)
  have hspec := answerCalls_spec service input (roundMessage input left).calls history hmade
  cases hspec with
  | all answers hanswered hbudget hanswers hpersisted hexecuted hresult =>
    rw [Run.effects_bind_of_ok hresult, afterCalls, if_neg (by omega)] at hp
    rcases prefix_append_cases hp with hp | ⟨q, rfl, hq⟩
    · exact hwithin hp
    · cases q with
      | nil => exact hwithin (by simp)
      | cons e q =>
        rw [List.getLast?_append_of_ne_nil _ (List.cons_ne_nil e q)] at hlast
        rw [persisted_append, hpersisted,
          replayable_round_iff hanswers (head_of_part hq persisted_rounds_head)]
        exact ih hbudget hq hlast
  | budget made pending answers history' hcalls hpending hanswered hbudget hanswers hpersisted
      hexecuted hresult =>
    rw [Run.effects_bind_of_ok hresult, afterCalls, if_pos (Nat.lt_succ_self _)] at hp
    rcases prefix_append_cases hp with hp | ⟨q, rfl, hq⟩
    · exact hwithin hp
    · cases q with
      | nil => exact hwithin (by simp)
      | cons e q =>
        rw [List.getLast?_append_of_ne_nil _ (List.cons_ne_nil e q)] at hlast
        have hmem := hq.subset (List.mem_of_getLast? hlast)
        rw [Run.effects_emit, List.mem_singleton] at hmem
        cases hmem
        exact absurd rfl hdone
  | raises made pending call answers fault hcalls hanswered hbudget hanswers hraises hpersisted
      hexecuted hresult =>
    rw [Run.effects_bind_of_error hresult] at hp
    exact hwithin hp

/-- Abandoned at an event before its end, the rounds of a turn leave the conversation replayable
exactly when it is no event of a tool. -/
theorem replayable_abandoned_iff {left : ℕ} {history : List ChatMessage} {callsMade : ℕ}
    {p : List Effect} {event : AssistantEvent} (hmade : callsMade ≤ maxToolCallsPerTurn)
    (hp : p <+: (rounds service session input left history callsMade).effects)
    (hlast : p.getLast? = some (.yield event)) (hdone : event ≠ .done) :
    Replayable (persisted p) ↔ event.isToolEvent = false := by
  induction left generalizing history callsMade p with
  | zero =>
    rw [rounds] at hp
    have hmem := hp.subset (List.mem_of_getLast? hlast)
    rw [Run.effects_emit, List.mem_singleton] at hmem
    cases hmem
    exact absurd rfl hdone
  | succ left ih =>
    have hhead : p <+: roundHead service session input left history →
        (Replayable (persisted p) ↔ event.isToolEvent = false) := by
      intro hp
      have hnone : persisted p = [] := by
        have h := persisted_part hp
        rwa [persisted_roundHead, List.prefix_nil] at h
      rw [hnone]
      exact iff_of_true .nil (token_of_part_roundHead hp hlast)
    cases hraises : (roundStream input left).raises with
    | true =>
      rw [rounds_of_raises hraises] at hp
      exact hhead hp
    | false =>
      by_cases hcalls : (roundMessage input left).calls = []
      · rw [rounds_of_answer hraises hcalls, List.append_assoc] at hp
        rcases prefix_append_cases hp with hp | ⟨q, rfl, hq⟩
        · exact hhead hp
        · -- behind the head there is no event but the last one
          cases q with
          | nil => exact hhead (by simp)
          | cons e q =>
            rw [List.getLast?_append_of_ne_nil _ (List.cons_ne_nil e q)] at hlast
            have hmem := hq.subset (List.mem_of_getLast? hlast)
            rw [List.mem_append, List.mem_singleton] at hmem
            rcases hmem with hmem | hmem
            · split at hmem
              · simp at hmem
              · cases hmem
            · cases hmem
              exact absurd rfl hdone
      · rw [rounds_of_calls hraises hcalls, Run.mk_ok_bind, List.append_assoc] at hp
        rcases prefix_append_cases hp with hp | ⟨q, rfl, hq⟩
        · exact hhead hp
        · rw [List.singleton_append] at hq
          rcases List.prefix_cons_iff.mp hq with rfl | ⟨r, rfl, hr⟩
          · exact hhead (by simp)
          · cases r with
            | nil =>
              rw [List.getLast?_append_of_ne_nil _ (List.cons_ne_nil _ _)] at hlast
              cases hlast
            | cons e r =>
              rw [List.getLast?_append_of_ne_nil _ (List.cons_ne_nil _ _),
                List.getLast?_cons_cons] at hlast
              rw [persisted_append, persisted_roundHead, List.nil_append,
                show ∀ l, persisted (.persist (roundMessage input left) :: l) =
                  roundMessage input left :: persisted l from fun _ => rfl]
              exact replayable_abandoned_calls hmade hr hlast hdone fun hbudget hq hlast =>
                ih hbudget hq hlast

/-! ## Turns -/

omit [UnicodeDatabase] in
/-- What happens before the rounds stores nothing, and yields no event of a tool. -/
lemma compactFirst_effects (service : AssistantChatService) (session : ChatSession)
    (stored : List AssistantMessage) (input : TurnInput) {e : Effect}
    (h : e ∈ (compactFirst service session stored input).effects) :
    (∀ message, e ≠ .persist message) ∧
      ∀ event, e = .yield event → event.isToolEvent = false ∧ event ≠ .done := by
  have hspec := compactFirst_spec service session stored input
  cases hspec with
  | idle hidle heffects hresult =>
    rw [heffects] at h
    cases h
  | raises hcompacts hraises heffects hresult =>
    rw [heffects] at h
    cases List.mem_singleton.mp h
    exact ⟨nofun, nofun⟩
  | blank hcompacts hraises heffects hresult =>
    rw [heffects] at h
    cases List.mem_singleton.mp h
    exact ⟨nofun, nofun⟩
  | compacted hcompacts hraises hsummary heffects hresult =>
    rw [heffects] at h
    simp only [List.mem_cons, List.not_mem_nil, or_false] at h
    rcases h with rfl | rfl | rfl
    · exact ⟨nofun, nofun⟩
    · exact ⟨nofun, nofun⟩
    · exact ⟨nofun, fun event hevent => by cases hevent; exact ⟨rfl, nofun⟩⟩

omit [UnicodeDatabase] in
/-- Effects that store nothing. -/
lemma persisted_eq_nil {effects : List Effect} (h : ∀ e ∈ effects, ∀ message, e ≠ .persist message) :
    persisted effects = [] := by
  rw [persisted, List.filterMap_eq_nil_iff]
  intro e he
  cases e with
  | persist message => exact absurd rfl (h _ he message)
  | _ => rfl

/-- A turn that is not abandoned: it leaves its part of the conversation replayable exactly when
it does not reach its rounds, or their calls keep to the budget and are all answered. -/
theorem replayable_turn_iff {stored : List AssistantMessage} :
    Replayable (persisted (handleUserMessage service session stored input).effects) ↔
      (input.ready = true → ReachesRounds service session (withRequest stored input) input →
        CallsComplete service input 0 (announcedCalls input (maxToolRoundsPerTurn + 1))) := by
  cases hready : input.ready with
  | false =>
    rw [handleUserMessage_of_not_ready hready]
    exact iff_of_true .nil nofun
  | true =>
    rw [handleUserMessage_of_ready _ _ _ hready, Run.mk_ok_bind, persisted_append]
    have hrequest : ∀ l, Replayable (persisted
        [Effect.persist { role := .user, content := input.content }] ++ l) ↔ Replayable l :=
      fun l => settled_plain_cons_iff rfl
    rw [hrequest]
    have hnone := persisted_eq_nil fun e he =>
      (compactFirst_effects service session (withRequest stored input) input he).1
    have hspec := compactFirst_spec service session (withRequest stored input) input
    cases hspec with
    | raises hcompacts hraises heffects hresult =>
      rw [Run.effects_bind_of_error hresult, hnone]
      exact iff_of_true .nil fun _ h => absurd hraises (h hcompacts)
    | idle hidle heffects hresult =>
      rw [Run.effects_bind_of_ok hresult, persisted_append, hnone, List.nil_append,
        replayable_rounds_iff (Nat.zero_le _)]
      exact ⟨fun h _ _ => h, fun h => h rfl fun hcompacts => absurd hcompacts hidle⟩
    | blank hcompacts hraises heffects hresult =>
      rw [Run.effects_bind_of_ok hresult, persisted_append, hnone, List.nil_append,
        replayable_rounds_iff (Nat.zero_le _)]
      exact ⟨fun h _ _ => h, fun h => h rfl fun _ => by simp [hraises]⟩
    | compacted hcompacts hraises hsummary heffects hresult =>
      rw [Run.effects_bind_of_ok hresult, persisted_append, hnone, List.nil_append,
        replayable_rounds_iff (Nat.zero_le _)]
      exact ⟨fun h _ _ => h, fun h => h rfl fun _ => by simp [hraises]⟩

/-- A turn that is abandoned at an event leaves its part of the conversation replayable exactly
when it is no event of a tool. -/
theorem replayable_abandoned_turn_iff {stored : List AssistantMessage} {p : List Effect}
    {event : AssistantEvent}
    (hp : p <+: (handleUserMessage service session stored input).effects)
    (hlast : p.getLast? = some (.yield event)) (hdone : event ≠ .done) :
    Replayable (persisted p) ↔ event.isToolEvent = false := by
  cases hready : input.ready with
  | false =>
    rw [handleUserMessage_of_not_ready hready] at hp
    rw [List.prefix_nil.mp hp] at hlast
    cases hlast
  | true =>
    rw [handleUserMessage_of_ready _ _ _ hready, Run.mk_ok_bind, List.singleton_append] at hp
    rcases List.prefix_cons_iff.mp hp with rfl | ⟨q, rfl, hq⟩
    · cases hlast
    · cases q with
      | nil => cases hlast
      | cons e q =>
        rw [List.getLast?_cons_cons] at hlast
        have hrequest : Replayable (persisted
            (Effect.persist { role := .user, content := input.content } :: e :: q)) ↔
            Replayable (persisted (e :: q)) := settled_plain_cons_iff rfl
        rw [hrequest]
        have heffects := fun e he =>
          compactFirst_effects service session (withRequest stored input) input (e := e) he
        have hwithin : e :: q <+:
            (compactFirst service session (withRequest stored input) input).effects →
            (Replayable (persisted (e :: q)) ↔ event.isToolEvent = false) := by
          intro hq
          rw [persisted_eq_nil fun e he => (heffects e (hq.subset he)).1]
          exact iff_of_true .nil
            ((heffects _ (hq.subset (List.mem_of_getLast? hlast))).2 event rfl).1
        cases hresult : (compactFirst service session (withRequest stored input) input).result with
        | error fault =>
          rw [Run.effects_bind_of_error hresult] at hq
          exact hwithin hq
        | ok session' =>
          rw [Run.effects_bind_of_ok hresult] at hq
          rcases prefix_append_cases hq with hq | ⟨r, hr, hrounds⟩
          · exact hwithin hq
          · cases r with
            | nil => exact hwithin (by simp [hr])
            | cons e' r =>
              rw [hr, List.getLast?_append_of_ne_nil _ (List.cons_ne_nil e' r)] at hlast
              rw [hr, persisted_append, persisted_eq_nil fun e he => (heffects e he).1,
                List.nil_append]
              exact replayable_abandoned_iff (Nat.zero_le _) hrounds hlast hdone

/-! ## Conversations -/

end

/-- A turn that was handled: what it started from, the event it was abandoned at, if it was, and
what it did. -/
structure HandledTurn where
  service : AssistantChatService
  session : ChatSession
  input : TurnInput
  abandonedAt : Option AssistantEvent := none
  effects : List Effect

/-- The messages stored by the turns. -/
def storedAfter (turns : List HandledTurn) : List AssistantMessage :=
  turns.flatMap fun turn => persisted turn.effects

namespace HandledTurn

variable [UnicodeDatabase] (turn : HandledTurn) (stored : List AssistantMessage)

/-- The turn did all that `handle_user_message` does, or all up to the event it was abandoned
at. -/
def Handled : Prop :=
  match turn.abandonedAt with
  | none =>
    turn.effects = (handleUserMessage turn.service turn.session stored turn.input).effects
  | some event => event ≠ .done ∧
    turn.effects <+: (handleUserMessage turn.service turn.session stored turn.input).effects ∧
    turn.effects.getLast? = some (.yield event)

/-- The turn leaves no announced call unanswered. -/
def Completes : Prop :=
  match turn.abandonedAt with
  | none => turn.input.ready = true →
    ReachesRounds turn.service turn.session (withRequest stored turn.input) turn.input →
    CallsComplete turn.service turn.input 0 (announcedCalls turn.input (maxToolRoundsPerTurn + 1))
  | some event => event.isToolEvent = false

end HandledTurn

section

variable [UnicodeDatabase]

/-- Turns that were handled one after another, each on what was stored before it. -/
inductive Conversation : List HandledTurn → Prop
  | nil : Conversation []
  | turn {turns : List HandledTurn} {turn : HandledTurn} (h : Conversation turns)
      (hturn : turn.Handled (storedAfter turns)) : Conversation (turns ++ [turn])

/-- A handled turn is replayable if and only if it completes. -/
lemma replayable_handled_iff {turn : HandledTurn} {stored : List AssistantMessage}
    (h : turn.Handled stored) : Replayable (persisted turn.effects) ↔ turn.Completes stored := by
  unfold HandledTurn.Handled at h
  unfold HandledTurn.Completes
  cases habandoned : turn.abandonedAt with
  | none =>
    rw [habandoned] at h
    rw [h]
    exact replayable_turn_iff
  | some event =>
    rw [habandoned] at h
    obtain ⟨hdone, hpart, hlast⟩ := h
    exact replayable_abandoned_turn_iff hpart hlast hdone

/-- What a turn stores does not begin with a tool message. -/
lemma persisted_handled_head {turn : HandledTurn} {stored : List AssistantMessage}
    (h : turn.Handled stored) : ∀ m ∈ (persisted turn.effects).head?, m.role = .user := by
  have hpart : turn.effects <+:
      (handleUserMessage turn.service turn.session stored turn.input).effects := by
    unfold HandledTurn.Handled at h
    cases habandoned : turn.abandonedAt with
    | none =>
      rw [habandoned] at h
      exact h ▸ List.prefix_refl _
    | some event =>
      rw [habandoned] at h
      exact h.2.1
  refine head_of_part hpart fun m hm => ?_
  cases hready : turn.input.ready with
  | false =>
    rw [handleUserMessage_of_not_ready hready] at hm
    cases hm
  | true =>
    rw [handleUserMessage_of_ready _ _ _ hready, Run.mk_ok_bind, persisted_append] at hm
    cases hm
    rfl

/-- The conversation can be replayed after each of its turns exactly when no turn leaves a call
unanswered. -/
theorem replayable_iff_completes {turns : List HandledTurn} (h : Conversation turns) :
    (∀ before, before <+: turns → Replayable (storedAfter before)) ↔
      ∀ before turn, before ++ [turn] <+: turns → turn.Completes (storedAfter before) := by
  induction h with
  | nil =>
    refine iff_of_true (fun before hbefore => ?_) fun before turn hbefore => ?_
    · rw [List.prefix_nil.mp hbefore]
      exact .nil
    · simp at hbefore
  | @turn turns turn h hturn ih =>
    have hhead : ∀ m ∈ (persisted turn.effects).head?, m.kind.isAnswer = false := fun m hm => by
      rw [AssistantMessage.kind, persisted_handled_head hturn m hm]
      rfl
    have hstored : storedAfter (turns ++ [turn]) =
        storedAfter turns ++ persisted turn.effects := by
      simp [storedAfter]
    constructor
    · intro hall before turn' hpart
      rcases List.prefix_concat_iff.mp hpart with heq | hpart
      · obtain ⟨rfl, hlast⟩ := List.append_inj' heq rfl
        cases hlast
        have hreplayable := hall _ (List.prefix_refl _)
        rw [hstored] at hreplayable
        exact (replayable_handled_iff hturn).mp ((settled_append_iff hhead).mp hreplayable).2
      · exact ih.mp (fun before hbefore => hall before (hbefore.trans (List.prefix_append _ _)))
          before turn' hpart
    · intro hall before hpart
      have hearlier := ih.mpr fun before turn' hbefore =>
        hall before turn' (hbefore.trans (List.prefix_append _ _))
      rcases List.prefix_concat_iff.mp hpart with rfl | hpart
      · rw [hstored]
        exact (settled_append_iff hhead).mpr ⟨hearlier _ (List.prefix_refl _),
          (replayable_handled_iff hturn).mpr (hall _ _ (List.prefix_refl _))⟩
      · exact hearlier before hpart

/-- A turn in which the provider asks for the facts of a device, the tool ends as given, and the
provider then answers. -/
def oneCallTurn (stored : List AssistantMessage) (outcome : ToolOutcome) : HandledTurn :=
  let service : AssistantChatService := { instructions := "" }
  let call : ToolCallRequest := ⟨"call_1", "get_device_facts", [("device_id", .str "core-1")]⟩
  let input : TurnInput :=
    { content := "Which image does core-1 run?"
      compaction := ⟨[], false⟩
      replies := fun n =>
        if n = 0 then ⟨[{ type := .toolCall, toolCall := some call }], false⟩
        else ⟨[{ type := .token, content := some "15.2" }], false⟩
      calls := fun _ => ⟨outcome, .raises⟩ }
  { service, session := {}, input
    effects := (handleUserMessage service {} stored input).effects }

/-- The turn is handled on what is stored. -/
lemma handled_oneCallTurn (stored : List AssistantMessage) (outcome : ToolOutcome) :
    (oneCallTurn stored outcome).Handled stored :=
  rfl

/-- The turn announces its one call. -/
lemma announcedCalls_oneCallTurn (stored : List AssistantMessage) (outcome : ToolOutcome) :
    announcedCalls (oneCallTurn stored outcome).input (maxToolRoundsPerTurn + 1) =
      [⟨"call_1", "get_device_facts", [("device_id", .str "core-1")]⟩] := by
  simp [announcedCalls, oneCallTurn, roundStream, roundMessage, callsOf, maxToolRoundsPerTurn]

/-- The turn answers its call unless the tool raises. -/
lemma completes_oneCallTurn (stored : List AssistantMessage) {outcome : ToolOutcome}
    (h : outcome ≠ .raises) : (oneCallTurn stored outcome).Completes stored := by
  intro _ _
  rw [announcedCalls_oneCallTurn]
  refine ⟨by simp [maxToolCallsPerTurn], ?_, trivial⟩
  simpa [CallOutcome.Raises, oneCallTurn, isProposal, proposeChangePlanTool] using h

end

/-- A tool that reports an error answers its call, and so does one that returns in the turn
after it. -/
theorem replayable_one_call :
    letI := asciiDatabase
    let first := oneCallTurn [] (.readOnlyToolError "unknown device")
    let second := oneCallTurn (storedAfter [first]) (.payload [("version", .str "15.2")])
    Replayable (storedAfter []) ∧ Replayable (storedAfter [first]) ∧
      Replayable (storedAfter [first, second]) := by
  let _ := asciiDatabase
  intro first second
  have hconversation : Conversation ([] ++ [first] ++ [second]) :=
    .turn (.turn .nil (handled_oneCallTurn _ _)) (handled_oneCallTurn _ _)
  have hreplayable := (replayable_iff_completes hconversation).mpr fun before turn hpart => by
    rcases List.prefix_concat_iff.mp hpart with heq | hpart
    · obtain ⟨rfl, hlast⟩ := List.append_inj' heq rfl
      obtain rfl := List.singleton_inj.mp hlast
      exact completes_oneCallTurn _ (by simp)
    · rcases List.prefix_concat_iff.mp hpart with heq | hpart
      · obtain ⟨rfl, hlast⟩ := List.append_inj' heq rfl
        obtain rfl := List.singleton_inj.mp hlast
        exact completes_oneCallTurn _ (by simp)
      · simp at hpart
  exact ⟨hreplayable _ List.nil_prefix, hreplayable _ (List.prefix_append _ _),
    hreplayable _ (List.prefix_refl _)⟩

/-- A tool that raises leaves its call unanswered, and the conversation stays that way. -/
theorem not_replayable_raising_tool :
    letI := asciiDatabase
    Conversation [oneCallTurn [] .raises] ∧
      ¬Replayable (storedAfter [oneCallTurn [] .raises]) := by
  let _ := asciiDatabase
  have hhandled := handled_oneCallTurn [] .raises
  refine ⟨.turn .nil hhandled, fun h => ?_⟩
  have hreplayable : Replayable (persisted (oneCallTurn [] .raises).effects) := by
    simpa [storedAfter] using h
  have hcomplete :=
    (replayable_handled_iff hhandled).mp hreplayable rfl fun _ => by simp [oneCallTurn]
  rw [announcedCalls_oneCallTurn] at hcomplete
  exact hcomplete.2.1 (by simp [CallOutcome.Raises, oneCallTurn, isProposal,
    proposeChangePlanTool])

end Terraformer.Assistant
