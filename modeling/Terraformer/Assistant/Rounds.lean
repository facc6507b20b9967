import Terraformer.Assistant.Turn

/-!
# The effects of a turn

What a turn stores, asks, executes and yields, read off its effects, and the effects of its
rounds: each lemma says what one round does in one of the ways its stream can end
(`rounds_of_raises`, `rounds_of_answer`, `rounds_of_calls`).
-/

namespace Terraformer.Assistant

open Exchange Text

/-! ## Projections -/

/-- The stored messages. -/
def persisted (effects : List Effect) : List AssistantMessage :=
  effects.filterMap fun
    | .persist message => some message
    | _ => none

/-- The executed tool calls. -/
def executed (effects : List Effect) : List ToolCallRequest :=
  effects.filterMap fun
    | .execute call => some call
    | _ => none

/-- The provider requests. -/
def requests (effects : List Effect) : List (Purpose × List ChatMessage × Option (List String)) :=
  effects.filterMap fun
    | .streamChat purpose messages tools => some (purpose, messages, tools)
    | _ => none

section Projections

variable (a b : List Effect) (texts : List String)

/-- Two pieces of a turn store their messages one after another. -/
@[simp] lemma persisted_append : persisted (a ++ b) = persisted a ++ persisted b :=
  List.filterMap_append

/-- Two pieces of a turn execute their calls one after another. -/
@[simp] lemma executed_append : executed (a ++ b) = executed a ++ executed b :=
  List.filterMap_append

/-- Two pieces of a turn send their requests one after another. -/
@[simp] lemma requests_append : requests (a ++ b) = requests a ++ requests b :=
  List.filterMap_append

/-- Streaming a text stores nothing. -/
@[simp] lemma persisted_tokens : persisted (texts.map yieldToken) = [] := by
  simp [persisted]

/-- Streaming a text executes nothing. -/
@[simp] lemma executed_tokens : executed (texts.map yieldToken) = [] := by
  simp [executed]

/-- Streaming a text sends no request. -/
@[simp] lemma requests_tokens : requests (texts.map yieldToken) = [] := by
  simp [requests]

end Projections

section

variable [UnicodeDatabase] {service : AssistantChatService} {session : ChatSession}
  {input : TurnInput}

/-! ## One call -/

/-- A call that is answered. -/
lemma answerCall_of_ok {outcome : CallOutcome} {call : ToolCallRequest} {payload : JsonObject}
    (h : callPayload service outcome call = .ok payload) :
    answerCall service outcome call =
      ⟨[.yield (.toolCall call.name call.arguments), .execute call,
        .yield (resultEvent service call payload), .persist (toolMessage call payload)],
        .ok (toolMessage call payload)⟩ := by
  unfold answerCall
  rw [h]
  rfl

/-- A call whose execution raises. -/
lemma answerCall_of_error {outcome : CallOutcome} {call : ToolCallRequest} {fault : TurnFault}
    (h : callPayload service outcome call = .error fault) :
    answerCall service outcome call =
      ⟨[.yield (.toolCall call.name call.arguments), .execute call], .error fault⟩ := by
  unfold answerCall
  rw [h]
  rfl

/-- The execution of a call raises an exception that the turn does not catch. -/
def CallOutcome.Raises (outcome : CallOutcome) (service : AssistantChatService)
    (call : ToolCallRequest) : Prop :=
  if isProposal service call then outcome.proposal = .raises else outcome.dispatch = .raises

/-- A call has a payload unless its execution raises. -/
lemma callPayload_eq_error_iff {outcome : CallOutcome} {call : ToolCallRequest} :
    (∃ fault, callPayload service outcome call = .error fault) ↔ outcome.Raises service call := by
  unfold callPayload CallOutcome.Raises
  split
  · cases outcome.proposal <;> simp [proposeChangePlan]
  · cases outcome.dispatch <;> simp [dispatchPayload]

/-! ## The calls of a round -/

/-- No execution of the calls raises, the first of them being the `n`-th call of the turn. -/
def Answered (service : AssistantChatService) (input : TurnInput) :
    ℕ → List ToolCallRequest → Prop
  | _, [] => True
  | n, call :: calls =>
    ¬(input.calls n).Raises service call ∧ Answered service input (n + 1) calls

omit [UnicodeDatabase] in
/-- A list of calls is answered piece by piece. -/
lemma answered_append {calls calls' : List ToolCallRequest} {n : ℕ} :
    Answered service input n (calls ++ calls') ↔
      Answered service input n calls ∧ Answered service input (n + calls.length) calls' := by
  induction calls generalizing n with
  | nil => simp [Answered]
  | cons call calls ih =>
    rw [List.cons_append, Answered, Answered, ih, and_assoc, List.length_cons,
      show n + 1 + calls.length = n + (calls.length + 1) by omega]

/-- The tool messages that answer calls, one for each call and in their order. -/
def IsAnswers (calls : List ToolCallRequest) (answers : List AssistantMessage) : Prop :=
  answers.map AssistantMessage.kind = calls.map fun call => .answer (some call.id)

/-- How the announced calls are answered: all of them; or those before the one that is beyond
the budget; or those before the one whose execution raises. -/
inductive AnswerCalls (service : AssistantChatService) (input : TurnInput)
    (calls : List ToolCallRequest) (history : List ChatMessage) (callsMade : ℕ)
    (run : Turn (List ChatMessage × ℕ)) : Prop
  | all (answers : List AssistantMessage) (hanswered : Answered service input callsMade calls)
      (hbudget : callsMade + calls.length ≤ maxToolCallsPerTurn) (hanswers : IsAnswers calls answers)
      (hpersisted : persisted run.effects = answers) (hexecuted : executed run.effects = calls)
      (hresult : run.result = .ok (history ++ answers.map replay, callsMade + calls.length))
  | budget (made pending : List ToolCallRequest) (answers : List AssistantMessage)
      (history' : List ChatMessage) (hcalls : calls = made ++ pending) (hpending : pending ≠ [])
      (hanswered : Answered service input callsMade made)
      (hbudget : callsMade + made.length = maxToolCallsPerTurn) (hanswers : IsAnswers made answers)
      (hpersisted : persisted run.effects = answers) (hexecuted : executed run.effects = made)
      (hresult : run.result = .ok (history', maxToolCallsPerTurn + 1))
  | raises (made pending : List ToolCallRequest) (call : ToolCallRequest)
      (answers : List AssistantMessage) (fault : TurnFault) (hcalls : calls = made ++ call :: pending)
      (hanswered : Answered service input callsMade made)
      (hbudget : callsMade + made.length < maxToolCallsPerTurn) (hanswers : IsAnswers made answers)
      (hraises : callPayload service (input.calls (callsMade + made.length)) call = .error fault)
      (hpersisted : persisted run.effects = answers)
      (hexecuted : executed run.effects = made ++ [call]) (hresult : run.result = .error fault)

omit [UnicodeDatabase] in
/-- The answer to a further call goes in front. -/
lemma isAnswers_cons {call : ToolCallRequest} {calls : List ToolCallRequest}
    {answers : List AssistantMessage} (payload : JsonObject) (h : IsAnswers calls answers) :
    IsAnswers (call :: calls) (toolMessage call payload :: answers) := by
  rw [IsAnswers, List.map_cons, h]
  rfl

omit [UnicodeDatabase] in
/-- The answers of calls answer them. -/
lemma perm_of_isAnswers {message : AssistantMessage} {answers : List AssistantMessage}
    (h : IsAnswers message.calls answers) :
    List.Perm (answers.map AssistantMessage.kind)
      ((message.calls.map fun call => some call.id).map .answer) := by
  rw [h, List.map_map]
  exact List.Perm.refl _

omit [UnicodeDatabase] in
/-- The answers are tool messages. -/
lemma role_of_isAnswers {calls : List ToolCallRequest} {answers : List AssistantMessage}
    (h : IsAnswers calls answers) : ∀ a ∈ answers, a.role = .tool := by
  intro a ha
  have hmem : a.kind ∈ calls.map fun call => Kind.answer (some call.id) := by
    rw [← h]
    exact List.mem_map_of_mem ha
  obtain ⟨call, -, hkind⟩ := List.mem_map.mp hmem
  unfold AssistantMessage.kind at hkind
  cases hrole : a.role with
  | tool => rfl
  | user => rw [hrole] at hkind; cases hkind
  | assistant => rw [hrole] at hkind; cases hkind

omit [UnicodeDatabase] in
/-- There is one answer for each call. -/
lemma length_of_isAnswers {calls : List ToolCallRequest} {answers : List AssistantMessage}
    (h : IsAnswers calls answers) : answers.length = calls.length := by
  have hlength := congrArg List.length h
  simpa using hlength

variable (service input) in
/-- The calls are answered in turn until one cannot be, or the budget is spent. -/
theorem answerCalls_spec (calls : List ToolCallRequest) (history : List ChatMessage)
    {callsMade : ℕ} (hmade : callsMade ≤ maxToolCallsPerTurn) :
    AnswerCalls service input calls history callsMade
      (answerCalls service input calls history callsMade) := by
  induction calls generalizing history callsMade with
  | nil => exact .all [] trivial hmade rfl rfl rfl (by simp [answerCalls])
  | cons call calls ih =>
    rw [answerCalls]
    by_cases hcap : maxToolCallsPerTurn < callsMade + 1
    · rw [if_pos hcap]
      have hmade : callsMade = maxToolCallsPerTurn := by omega
      exact .budget [] (call :: calls) [] _ rfl (by simp) trivial hmade rfl rfl rfl
        (by rw [hmade]; rfl)
    · rw [if_neg hcap]
      cases hpayload : callPayload service (input.calls callsMade) call with
      | error fault =>
        rw [answerCall_of_error hpayload]
        exact .raises [] calls call [] _ rfl trivial (by simp; omega) rfl hpayload rfl rfl rfl
      | ok payload =>
        rw [answerCall_of_ok hpayload, Run.mk_ok_bind]
        have hcall : ¬(input.calls callsMade).Raises service call := by
          rw [← callPayload_eq_error_iff, hpayload]
          simp
        -- what the later calls do is prefixed by the effects of this one
        have hshift : ∀ n, callsMade + 1 + n = callsMade + (n + 1) := fun n => by omega
        have ih : AnswerCalls service input calls _ (callsMade + 1) _ :=
          ih (history ++ [replay (toolMessage call payload)]) (by omega)
        cases ih with
        | all answers hanswered hbudget hanswers hpersisted hexecuted hresult =>
          refine .all _ ⟨hcall, hanswered⟩ ?_ (isAnswers_cons payload hanswers) ?_ ?_ ?_
          · rw [List.length_cons, ← hshift]
            exact hbudget
          · rw [persisted_append, hpersisted]
            rfl
          · rw [executed_append, hexecuted]
            rfl
          · simp only [hresult, List.length_cons, hshift]
            simp
        | budget made pending answers history' hcalls hpending hanswered hbudget hanswers
            hpersisted hexecuted hresult =>
          refine .budget (call :: made) pending _ _ (by rw [hcalls, List.cons_append]) hpending
            ⟨hcall, hanswered⟩ ?_ (isAnswers_cons payload hanswers) ?_ ?_ hresult
          · rw [List.length_cons, ← hshift]
            exact hbudget
          · rw [persisted_append, hpersisted]
            rfl
          · rw [executed_append, hexecuted]
            rfl
        | raises made pending call' answers fault hcalls hanswered hbudget hanswers hraises
            hpersisted hexecuted hresult =>
          refine .raises (call :: made) pending call' _ _ (by rw [hcalls, List.cons_append])
            ⟨hcall, hanswered⟩ ?_ (isAnswers_cons payload hanswers) ?_ ?_ ?_ hresult
          · rw [List.length_cons, ← hshift]
            exact hbudget
          · rw [List.length_cons, ← hshift]
            exact hraises
          · rw [persisted_append, hpersisted]
            rfl
          · rw [executed_append, hexecuted]
            rfl

/-- While calls are answered, the provider is not asked. -/
lemma requests_answerCalls (calls : List ToolCallRequest) (history : List ChatMessage)
    (callsMade : ℕ) : requests (answerCalls service input calls history callsMade).effects = [] := by
  induction calls generalizing history callsMade with
  | nil => rfl
  | cons call calls ih =>
    rw [answerCalls]
    split
    · rfl
    · cases hpayload : callPayload service (input.calls callsMade) call with
      | error fault =>
        rw [answerCall_of_error hpayload]
        rfl
      | ok payload =>
        rw [answerCall_of_ok hpayload, Run.mk_ok_bind, requests_append, ih]
        rfl

/-! ## One round -/

/-- The stream of a round with `left` rounds behind it. -/
def roundStream (input : TurnInput) (left : ℕ) : ProviderStream :=
  input.replies (maxToolRoundsPerTurn - left)

/-- The request of a round and the tokens of its answer. -/
def roundHead (service : AssistantChatService) (session : ChatSession) (input : TurnInput)
    (left : ℕ) (history : List ChatMessage) : List Effect :=
  .streamChat .reply (roundRequest service session left history)
    (roundTools service session left) ::
    (tokensOf (roundStream input left).chunks).map yieldToken

variable (service session input) in
omit [UnicodeDatabase] in
/-- A round begins with its request. -/
lemma requests_roundHead (left : ℕ) (history : List ChatMessage) :
    requests (roundHead service session input left history) =
      [(.reply, roundRequest service session left history, roundTools service session left)] := by
  rw [roundHead, ← List.singleton_append, requests_append, requests_tokens]
  rfl

omit [UnicodeDatabase] in
/-- The head of a round executes nothing. -/
@[simp] lemma executed_roundHead (left : ℕ) (history : List ChatMessage) :
    executed (roundHead service session input left history) = [] := by
  rw [roundHead, ← List.singleton_append, executed_append, executed_tokens]
  rfl

/-- The assistant message of a round. -/
def roundMessage (input : TurnInput) (left : ℕ) : AssistantMessage where
  role := .assistant
  content := String.join (tokensOf (roundStream input left).chunks)
  calls := callsOf (roundStream input left).chunks

/-- A round whose stream raises stores nothing and ends the turn. -/
lemma rounds_of_raises {left : ℕ} {history : List ChatMessage} {callsMade : ℕ}
    (h : (roundStream input left).raises = true) :
    rounds service session input (left + 1) history callsMade =
      ⟨roundHead service session input left history, .error .provider⟩ := by
  unfold roundStream at h
  rw [rounds]
  simp only [readReply_of_raises h]
  rfl

/-- A round without calls stores its text and ends the turn. -/
lemma rounds_of_answer {left : ℕ} {history : List ChatMessage} {callsMade : ℕ}
    (h : (roundStream input left).raises = false)
    (hcalls : (roundMessage input left).calls = []) :
    rounds service session input (left + 1) history callsMade =
      ⟨roundHead service session input left history ++
        (if (roundMessage input left).content ≠ "" then [.persist (roundMessage input left)]
          else []) ++ [.yield .done], .ok ()⟩ := by
  have hcalls : callsOf (input.replies (maxToolRoundsPerTurn - left)).chunks = [] := hcalls
  unfold roundStream at h
  rw [rounds]
  simp only [readReply_of_not_raises h, hcalls]
  by_cases htext : String.join (tokensOf (input.replies (maxToolRoundsPerTurn - left)).chunks) = ""
  · simp only [htext, Run.mk_ok_bind, storeReply_empty]
    refine Run.ext ?_ ?_ <;> simp [roundHead, roundMessage, roundStream, htext]
  · simp only [Run.mk_ok_bind, storeReply_of_ne (Or.inl htext)]
    refine Run.ext ?_ ?_ <;> simp [roundHead, roundMessage, roundStream, htext, hcalls]

/-- The rest of a turn after the calls of a round. -/
def afterCalls (service : AssistantChatService) (session : ChatSession) (input : TurnInput)
    (left : ℕ) (state : List ChatMessage × ℕ) : Turn Unit :=
  if maxToolCallsPerTurn < state.2 then Run.emit (.yield .done)
  else rounds service session input left state.1 state.2

/-- A round with calls stores what it announces and has the calls answered. -/
lemma rounds_of_calls {left : ℕ} {history : List ChatMessage} {callsMade : ℕ}
    (h : (roundStream input left).raises = false)
    (hcalls : (roundMessage input left).calls ≠ []) :
    rounds service session input (left + 1) history callsMade =
      ⟨roundHead service session input left history ++ [.persist (roundMessage input left)],
        .ok (roundRequest service session left history ++ [replay (roundMessage input left)])⟩ >>=
      fun history => answerCalls service input (roundMessage input left).calls history callsMade >>=
        afterCalls service session input left := by
  have hcalls : callsOf (input.replies (maxToolRoundsPerTurn - left)).chunks ≠ [] := hcalls
  unfold roundStream at h
  rw [rounds]
  simp only [readReply_of_not_raises h, Run.mk_ok_bind, storeReply_of_ne (Or.inr hcalls),
    if_neg hcalls]
  refine Run.ext ?_ ?_ <;>
  · simp [roundHead, roundMessage, roundStream]
    rfl

/-- The calls of a round are answered. -/
def answering (service : AssistantChatService) (session : ChatSession) (input : TurnInput)
    (left : ℕ) (history : List ChatMessage) (callsMade : ℕ) : Turn (List ChatMessage × ℕ) :=
  answerCalls service input (roundMessage input left).calls
    (roundRequest service session left history ++ [replay (roundMessage input left)]) callsMade

/-- What a round with calls does: all of them are answered, and the rounds behind it follow; or
those that the budget has, and the turn is done; or those before the one that raises. -/
inductive RoundOfCalls (service : AssistantChatService) (session : ChatSession)
    (input : TurnInput) (left : ℕ) (history : List ChatMessage) (callsMade : ℕ)
    (effects : List Effect) : Prop
  | all (answers : List AssistantMessage)
      (hanswered : Answered service input callsMade (roundMessage input left).calls)
      (hbudget : callsMade + (roundMessage input left).calls.length ≤ maxToolCallsPerTurn)
      (hanswers : IsAnswers (roundMessage input left).calls answers)
      (hpersisted : persisted (answering service session input left history callsMade).effects =
        answers)
      (hexecuted : executed (answering service session input left history callsMade).effects =
        (roundMessage input left).calls)
      (heffects : effects = roundHead service session input left history ++
        .persist (roundMessage input left) ::
          ((answering service session input left history callsMade).effects ++
            (rounds service session input left (roundRequest service session left history ++
              (roundMessage input left :: answers).map replay)
              (callsMade + (roundMessage input left).calls.length)).effects))
  | budget (made pending : List ToolCallRequest) (answers : List AssistantMessage)
      (hcalls : (roundMessage input left).calls = made ++ pending) (hpending : pending ≠ [])
      (hanswered : Answered service input callsMade made)
      (hbudget : callsMade + made.length = maxToolCallsPerTurn) (hanswers : IsAnswers made answers)
      (hpersisted : persisted (answering service session input left history callsMade).effects =
        answers)
      (hexecuted : executed (answering service session input left history callsMade).effects =
        made)
      (heffects : effects = roundHead service session input left history ++
        .persist (roundMessage input left) ::
          ((answering service session input left history callsMade).effects ++ [.yield .done]))
  | raises (made pending : List ToolCallRequest) (call : ToolCallRequest)
      (answers : List AssistantMessage)
      (hcalls : (roundMessage input left).calls = made ++ call :: pending)
      (hanswered : Answered service input callsMade made)
      (hbudget : callsMade + made.length < maxToolCallsPerTurn) (hanswers : IsAnswers made answers)
      (hraises : (input.calls (callsMade + made.length)).Raises service call)
      (hpersisted : persisted (answering service session input left history callsMade).effects =
        answers)
      (hexecuted : executed (answering service session input left history callsMade).effects =
        made ++ [call])
      (heffects : effects = roundHead service session input left history ++
        .persist (roundMessage input left) ::
          (answering service session input left history callsMade).effects)

variable (service session) in
/-- A round whose reply announces calls answers them and goes on. -/
theorem roundOfCalls_spec {left : ℕ} (history : List ChatMessage) {callsMade : ℕ}
    (h : (roundStream input left).raises = false) (hcalls : (roundMessage input left).calls ≠ [])
    (hmade : callsMade ≤ maxToolCallsPerTurn) :
    RoundOfCalls service session input left history callsMade
      (rounds service session input (left + 1) history callsMade).effects := by
  rw [rounds_of_calls h hcalls, Run.mk_ok_bind, List.append_assoc, List.singleton_append]
  have hspec : AnswerCalls service input (roundMessage input left).calls _ callsMade
      (answering service session input left history callsMade) :=
    answerCalls_spec service input (roundMessage input left).calls _ hmade
  cases hspec with
  | all answers hanswered hbudget hanswers hpersisted hexecuted hresult =>
    refine .all answers hanswered hbudget hanswers hpersisted hexecuted ?_
    unfold answering at hresult ⊢
    rw [Run.effects_bind_of_ok hresult, afterCalls, if_neg (by omega), List.append_assoc]
    rfl
  | budget made pending answers history' hsplit hpending hanswered hbudget hanswers hpersisted
      hexecuted hresult =>
    refine .budget made pending answers hsplit hpending hanswered hbudget hanswers hpersisted
      hexecuted ?_
    unfold answering at hresult ⊢
    rw [Run.effects_bind_of_ok hresult, afterCalls, if_pos (Nat.lt_succ_self _)]
    rfl
  | raises made pending call answers fault hsplit hanswered hbudget hanswers hraises hpersisted
      hexecuted hresult =>
    refine .raises made pending call answers hsplit hanswered hbudget hanswers
      (callPayload_eq_error_iff.mp ⟨_, hraises⟩) hpersisted hexecuted ?_
    unfold answering at hresult ⊢
    rw [Run.effects_bind_of_error hresult]

variable (service session input) in
/-- While the calls of a round are answered, the provider is not asked. -/
lemma requests_answering (left : ℕ) (history : List ChatMessage) (callsMade : ℕ) :
    requests (answering service session input left history callsMade).effects = [] :=
  requests_answerCalls _ _ _

/-! ## What rounds leave alone -/

/-- The effect stores a summary. -/
def Effect.isSetSummary : Effect → Bool
  | .setSummary _ _ => true
  | _ => false

/-- Answering the calls sets no summary. -/
lemma isSetSummary_of_mem_answerCalls {calls : List ToolCallRequest} {history : List ChatMessage}
    {callsMade : ℕ} {e : Effect}
    (h : e ∈ (answerCalls service input calls history callsMade).effects) :
    e.isSetSummary = false := by
  induction calls generalizing history callsMade with
  | nil => cases h
  | cons call calls ih =>
    rw [answerCalls] at h
    split at h
    · cases h
    · cases hpayload : callPayload service (input.calls callsMade) call with
      | error fault =>
        rw [answerCall_of_error hpayload] at h
        simp only [Run.mk_error_bind, List.mem_cons, List.not_mem_nil, or_false] at h
        rcases h with rfl | rfl <;> rfl
      | ok payload =>
        rw [answerCall_of_ok hpayload, Run.mk_ok_bind, List.mem_append] at h
        rcases h with h | h
        · simp only [List.mem_cons, List.not_mem_nil, or_false] at h
          rcases h with rfl | rfl | rfl | rfl <;> rfl
        · exact ih h

omit [UnicodeDatabase] in
/-- The head of a round sets no summary. -/
lemma isSetSummary_of_mem_roundHead {left : ℕ} {history : List ChatMessage} {e : Effect}
    (h : e ∈ roundHead service session input left history) : e.isSetSummary = false := by
  rw [roundHead, List.mem_cons] at h
  rcases h with rfl | h
  · rfl
  · obtain ⟨text, -, rfl⟩ := List.mem_map.mp h
    rfl

/-- No round stores a summary. -/
lemma isSetSummary_of_mem_rounds {left : ℕ} {history : List ChatMessage} {callsMade : ℕ}
    {e : Effect} (h : e ∈ (rounds service session input left history callsMade).effects) :
    e.isSetSummary = false := by
  induction left generalizing history callsMade with
  | zero =>
    rw [List.mem_singleton.mp h]
    rfl
  | succ left ih =>
    cases hraises : (roundStream input left).raises with
    | true =>
      rw [rounds_of_raises hraises] at h
      exact isSetSummary_of_mem_roundHead h
    | false =>
      by_cases hcalls : (roundMessage input left).calls = []
      · rw [rounds_of_answer hraises hcalls, List.append_assoc, List.mem_append,
          List.mem_append] at h
        rcases h with h | h | h
        · exact isSetSummary_of_mem_roundHead h
        · split at h
          · rw [List.mem_singleton.mp h]
            rfl
          · cases h
        · rw [List.mem_singleton.mp h]
          rfl
      · rw [rounds_of_calls hraises hcalls, Run.mk_ok_bind, List.append_assoc, List.mem_append,
          List.singleton_append, List.mem_cons] at h
        rcases h with h | rfl | h
        · exact isSetSummary_of_mem_roundHead h
        · rfl
        · cases hresult : (answerCalls service input (roundMessage input left).calls
            (roundRequest service session left history ++
              [replay (roundMessage input left)]) callsMade).result with
          | error fault =>
            rw [Run.effects_bind_of_error hresult] at h
            exact isSetSummary_of_mem_answerCalls h
          | ok state =>
            rw [Run.effects_bind_of_ok hresult, List.mem_append] at h
            rcases h with h | h
            · exact isSetSummary_of_mem_answerCalls h
            · unfold afterCalls at h
              split at h
              · rw [List.mem_singleton.mp h]
                rfl
              · exact ih h

end

end Terraformer.Assistant
