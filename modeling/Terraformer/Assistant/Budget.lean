import Terraformer.Assistant.Compaction

/-!
# The budgets of a turn

A turn goes through at most thirteen rounds and executes at most forty calls whatever the provider
does.  It sends at most thirteen requests, executes calls only where tools were offered, and answers
without tools once a budget is spent, exactly when the provider keeps to what it was offered,
announces no more calls than the budget has and does not fail in the last round, and a turn that
asks for a summary does not come to its last round (`bounded_iff`).
-/

namespace Terraformer.Assistant

open Text

/-- Every executed call belongs to a request that offered tools; at the beginning, the last
request `offered` them. -/
def ExecutesOffered : Bool → List Effect → Prop
  | _, [] => True
  | _, .streamChat _ _ tools :: rest => ExecutesOffered tools.isSome rest
  | offered, .execute _ :: rest => offered = true ∧ ExecutesOffered offered rest
  | offered, _ :: rest => ExecutesOffered offered rest

/-- The end of a turn that is answered: its text is yielded and stored, and it is done. -/
def answerTail (texts : List String) : List Effect :=
  texts.map yieldToken ++
    (if String.join texts ≠ "" then [.persist { role := .assistant, content := String.join texts }]
    else []) ++ [.yield .done]

/-- The last request offers no tools, its text is the answer, and the only `done` is last. -/
def AnswersWithoutTools (effects : List Effect) : Prop :=
  ∃ front request texts, .yield .done ∉ front ∧
    effects = front ++ .streamChat .reply request none :: answerTail texts

/-- The rounds that are left spend a budget: the round without tools is reached, or more calls
are announced than may still be made, and those that may be made are answered. -/
def SpendsBudget (service : AssistantChatService) (input : TurnInput) : ℕ → ℕ → Prop
  | 0, _ => True
  | left + 1, callsMade => left = 0 ∨
    ((roundStream input left).raises = false ∧ (roundMessage input left).calls ≠ [] ∧
      Answered service input callsMade
        ((roundMessage input left).calls.take (maxToolCallsPerTurn - callsMade)) ∧
      (maxToolCallsPerTurn < callsMade + (roundMessage input left).calls.length ∨
        SpendsBudget service input left (callsMade + (roundMessage input left).calls.length)))

/-- The rounds that are left are all gone through: each of them but the last announces calls, which
fit the budget and are answered. -/
def UsesAllRounds (service : AssistantChatService) (input : TurnInput) : ℕ → ℕ → Prop
  | 0, _ => True
  | left + 1, callsMade => left = 0 ∨
    ((roundStream input left).raises = false ∧ (roundMessage input left).calls ≠ [] ∧
      Answered service input callsMade (roundMessage input left).calls ∧
      callsMade + (roundMessage input left).calls.length ≤ maxToolCallsPerTurn ∧
      UsesAllRounds service input left (callsMade + (roundMessage input left).calls.length))

/-- The provider keeps to the budgets in the rounds that are left: it announces calls only where
tools are offered and no more than may still be made, as far as these are answered, and it does
not fail in the round without tools. -/
def KeepsBudget (service : AssistantChatService) (session : ChatSession) (input : TurnInput) :
    ℕ → ℕ → Prop
  | 0, _ => False
  | left + 1, callsMade =>
    if (roundStream input left).raises then left ≠ 0
    else (roundMessage input left).calls = [] ∨
      ((roundTools service session left).isSome = true ∧
        (Answered service input callsMade
            ((roundMessage input left).calls.take (maxToolCallsPerTurn - callsMade)) →
          callsMade + (roundMessage input left).calls.length ≤ maxToolCallsPerTurn ∧
          KeepsBudget service session input left
            (callsMade + (roundMessage input left).calls.length)))

/-! ## Executed calls and offered tools -/

/-- What the last request offered, after more was done. -/
def offeredAfter : Bool → List Effect → Bool
  | offered, [] => offered
  | _, .streamChat _ _ tools :: rest => offeredAfter tools.isSome rest
  | offered, _ :: rest => offeredAfter offered rest

/-- Two pieces of a turn execute only what is offered if each does. -/
lemma executesOffered_append {offered : Bool} {a b : List Effect} :
    ExecutesOffered offered (a ++ b) ↔
      ExecutesOffered offered a ∧ ExecutesOffered (offeredAfter offered a) b := by
  induction a generalizing offered with
  | nil => exact (and_iff_right trivial).symm
  | cons e a ih =>
    cases e with
    | streamChat purpose messages tools => exact ih
    | execute call =>
      show offered = true ∧ ExecutesOffered offered (a ++ b) ↔ _
      rw [ih, ← and_assoc]
      rfl
    | persist message => exact ih
    | setSummary summary count => exact ih
    | yield event => exact ih

/-- Without a request in between, the offer stands. -/
lemma offeredAfter_of_requests {offered : Bool} {effects : List Effect}
    (h : requests effects = []) : offeredAfter offered effects = offered := by
  induction effects with
  | nil => rfl
  | cons e effects ih =>
    cases e with
    | streamChat purpose messages tools => cases h
    | _ => exact ih h

/-- Where nothing is executed, nothing is executed without an offer. -/
lemma executesOffered_of_executed {offered : Bool} {effects : List Effect}
    (h : executed effects = []) : ExecutesOffered offered effects := by
  induction effects generalizing offered with
  | nil => trivial
  | cons e effects ih =>
    cases e with
    | execute call => cases h
    | streamChat purpose messages tools => exact ih h
    | persist message => exact ih h
    | setSummary summary count => exact ih h
    | yield event => exact ih h

/-- Without a request in between, calls are executed only where tools were offered. -/
lemma executesOffered_of_requests {offered : Bool} {effects : List Effect}
    (h : requests effects = []) :
    ExecutesOffered offered effects ↔ offered = true ∨ executed effects = [] := by
  induction effects with
  | nil => exact iff_of_true trivial (Or.inr rfl)
  | cons e effects ih =>
    cases e with
    | streamChat purpose messages tools => cases h
    | execute call =>
      show offered = true ∧ ExecutesOffered offered effects ↔ _
      rw [ih h]
      constructor
      · exact fun h => Or.inl h.1
      · rintro (h | h)
        · exact ⟨h, Or.inl h⟩
        · cases h
    | persist message => exact ih h
    | setSummary summary count => exact ih h
    | yield event => exact ih h

/-! ## Answers without tools -/

/-- The end of an answer asks the provider for nothing. -/
@[simp] lemma requests_answerTail (texts : List String) : requests (answerTail texts) = [] := by
  rw [answerTail, requests_append, requests_append, requests_tokens]
  split <;> rfl

/-- What comes before the last request does not matter, but for a `done`. -/
lemma answersWithoutTools_append_iff {a b : List Effect} (ha : .yield .done ∉ a)
    (hb : ∃ purpose messages tools rest, b = .streamChat purpose messages tools :: rest) :
    AnswersWithoutTools (a ++ b) ↔ AnswersWithoutTools b := by
  constructor
  · rintro ⟨front, request, texts, hfront, heq⟩
    rcases List.append_eq_append_iff.mp heq with ⟨c, hc, hb'⟩ | ⟨c, hc, htail⟩
    · exact ⟨c, request, texts, fun hmem => hfront (hc ▸ List.mem_append_right _ hmem), hb'⟩
    · cases c with
      | nil => exact ⟨[], request, texts, List.not_mem_nil, htail.symm⟩
      | cons e c =>
        -- behind the last request there is no other
        obtain ⟨purpose, messages, tools, rest, rfl⟩ := hb
        obtain ⟨-, htail⟩ := List.cons_eq_cons.mp htail
        have hnone := requests_answerTail texts
        rw [htail] at hnone
        change requests (c ++ .streamChat purpose messages tools :: rest) = [] at hnone
        rw [requests_append, List.append_eq_nil_iff] at hnone
        cases hnone.2
  · rintro ⟨front, request, texts, hfront, rfl⟩
    refine ⟨a ++ front, request, texts, fun hmem => ?_, (List.append_assoc _ _ _).symm⟩
    exact (List.mem_append.mp hmem).elim ha hfront

/-- A run ends with an answer only if it ends with `done`. -/
lemma AnswersWithoutTools.getLast? {effects : List Effect} (h : AnswersWithoutTools effects) :
    effects.getLast? = some (.yield .done) := by
  obtain ⟨front, request, texts, -, rfl⟩ := h
  rw [answerTail, ← List.cons_append, ← List.append_assoc]
  exact List.getLast?_concat

/-- A last request whose message announces calls is not the answer. -/
lemma not_answersWithoutTools {purpose : Purpose} {messages : List ChatMessage}
    {tools : Option (List String)} {rest : List Effect} {message : AssistantMessage}
    (hrest : requests rest = []) (hmem : message ∈ persisted rest) (hcalls : message.calls ≠ []) :
    ¬AnswersWithoutTools (.streamChat purpose messages tools :: rest) := by
  rintro ⟨front, request, texts, -, heq⟩
  cases front with
  | nil =>
    obtain ⟨-, htail⟩ := List.cons_eq_cons.mp heq
    rw [htail, answerTail, persisted_append, persisted_append, persisted_tokens,
      List.nil_append] at hmem
    split at hmem
    · rw [show persisted [Effect.yield .done] = [] from rfl, List.append_nil] at hmem
      rw [List.mem_singleton.mp hmem] at hcalls
      exact hcalls rfl
    · cases hmem
  | cons e front =>
    obtain ⟨-, htail⟩ := List.cons_eq_cons.mp heq
    change rest = front ++ .streamChat .reply request none :: answerTail texts at htail
    rw [htail, requests_append, List.append_eq_nil_iff] at hrest
    cases hrest.2

/-! ## The bounds -/

section

variable [UnicodeDatabase] {service : AssistantChatService} {session : ChatSession}
  {input : TurnInput}

variable (service session input) in
/-- Each round sends one request, and every round sends its request exactly when all of them are
gone through. -/
lemma requests_rounds_le (left : ℕ) (history : List ChatMessage) {callsMade : ℕ}
    (hmade : callsMade ≤ maxToolCallsPerTurn) :
    (requests (rounds service session input left history callsMade).effects).length ≤ left ∧
      ((requests (rounds service session input left history callsMade).effects).length = left ↔
        UsesAllRounds service input left callsMade) := by
  induction left generalizing history callsMade with
  | zero => exact ⟨Nat.le_refl _, iff_of_true rfl trivial⟩
  | succ left ih =>
    have hone : ∀ rest, requests rest = [] →
        (requests (roundHead service session input left history ++ rest)).length = 1 := by
      intro rest hrest
      rw [requests_append, requests_roundHead, hrest]
      rfl
    -- a round that ends the turn is the last of all rounds only if it is the one without tools
    have hends : ∀ effects, (requests effects).length = 1 →
        ¬((roundStream input left).raises = false ∧ (roundMessage input left).calls ≠ [] ∧
          Answered service input callsMade (roundMessage input left).calls ∧
          callsMade + (roundMessage input left).calls.length ≤ maxToolCallsPerTurn ∧
          UsesAllRounds service input left (callsMade + (roundMessage input left).calls.length)) →
        (requests effects).length ≤ left + 1 ∧ ((requests effects).length = left + 1 ↔
          UsesAllRounds service input (left + 1) callsMade) := by
      intro effects hlength hlast
      rw [hlength, UsesAllRounds, or_iff_left hlast]
      exact ⟨Nat.le_add_left 1 left, by omega⟩
    have hpersist : ∀ l, requests (.persist (roundMessage input left) :: l) = requests l :=
      fun _ => rfl
    cases hraises : (roundStream input left).raises with
    | true =>
      rw [rounds_of_raises hraises]
      refine hends _ ?_ fun h => by simp [hraises] at h
      rw [← List.append_nil (roundHead ..)]
      exact hone [] rfl
    | false =>
      by_cases hcalls : (roundMessage input left).calls = []
      · rw [rounds_of_answer hraises hcalls, List.append_assoc]
        exact hends _ (hone _ (by split <;> rfl)) fun h => h.2.1 hcalls
      · have hspec := roundOfCalls_spec service session history hraises hcalls hmade
        cases hspec with
        | all answers hanswered hbudget hanswers hpersisted hexecuted heffects =>
          obtain ⟨hlength, hall⟩ := ih (roundRequest service session left history ++
            (roundMessage input left :: answers).map replay) hbudget
          rw [heffects, requests_append, requests_roundHead, hpersist, requests_append,
            requests_answering, List.nil_append, List.singleton_append, List.length_cons,
            Nat.add_right_cancel_iff, hall, UsesAllRounds]
          refine ⟨Nat.succ_le_succ hlength, fun h => Or.inr ⟨hraises, hcalls, hanswered, hbudget, h⟩,
            fun h => ?_⟩
          rcases h with rfl | h
          · trivial
          · exact h.2.2.2.2
        | budget made pending answers hsplit hpending hanswered hbudget hanswers hpersisted
            hexecuted heffects =>
          rw [heffects]
          refine hends _ (hone _ ?_) fun h => ?_
          · rw [hpersist, requests_append, requests_answering]
            rfl
          · have hpos := List.length_pos_of_ne_nil hpending
            have hle := h.2.2.2.1
            rw [hsplit, List.length_append] at hle
            omega
        | raises made pending call answers hsplit hanswered hbudget hanswers hcall hpersisted
            hexecuted heffects =>
          rw [heffects]
          refine hends _ (hone _ ?_) fun h => ?_
          · rw [hpersist, requests_answering]
          · have hall := h.2.2.1
            rw [hsplit, answered_append] at hall
            exact hall.2.1 hcall

variable (service session input) in
/-- No more calls are executed than may still be made. -/
lemma executed_rounds_le (left : ℕ) (history : List ChatMessage) {callsMade : ℕ}
    (hmade : callsMade ≤ maxToolCallsPerTurn) :
    callsMade + (executed (rounds service session input left history callsMade).effects).length ≤
      maxToolCallsPerTurn := by
  induction left generalizing history callsMade with
  | zero => exact hmade
  | succ left ih =>
    have hpersist : ∀ l, executed (.persist (roundMessage input left) :: l) = executed l :=
      fun _ => rfl
    have hdone : executed [.yield .done] = [] := rfl
    cases hraises : (roundStream input left).raises with
    | true =>
      rw [rounds_of_raises hraises, executed_roundHead]
      exact hmade
    | false =>
      by_cases hcalls : (roundMessage input left).calls = []
      · rw [rounds_of_answer hraises hcalls, List.append_assoc, executed_append,
          executed_roundHead, List.nil_append, executed_append, hdone, List.append_nil]
        split <;> exact hmade
      · have hspec := roundOfCalls_spec service session history hraises hcalls hmade
        cases hspec with
        | all answers hanswered hbudget hanswers hpersisted hexecuted heffects =>
          rw [heffects, executed_append, executed_roundHead, List.nil_append, hpersist,
            executed_append, hexecuted, List.length_append, ← Nat.add_assoc]
          exact ih _ hbudget
        | budget made pending answers hsplit hpending hanswered hbudget hanswers hpersisted
            hexecuted heffects =>
          rw [heffects, executed_append, executed_roundHead, List.nil_append, hpersist,
            executed_append, hexecuted, hdone, List.append_nil]
          exact hbudget.le
        | raises made pending call answers hsplit hanswered hbudget hanswers hcall hpersisted
            hexecuted heffects =>
          rw [heffects, executed_append, executed_roundHead, List.nil_append, hpersist, hexecuted,
            List.length_append, List.length_singleton]
          omega

/-! ## The rounds -/

omit [UnicodeDatabase] in
/-- Behind the head of a round, calls may be executed if the round offers tools. -/
lemma executesOffered_roundHead_append {left : ℕ} {history : List ChatMessage} {offered : Bool}
    {rest : List Effect} :
    ExecutesOffered offered (roundHead service session input left history ++ rest) ↔
      ExecutesOffered (roundTools service session left).isSome rest := by
  rw [roundHead, List.cons_append]
  show ExecutesOffered _ (_ ++ rest) ↔ _
  rw [executesOffered_append, executesOffered_of_requests (requests_tokens _),
    offeredAfter_of_requests (requests_tokens _)]
  exact and_iff_right (Or.inr (executed_tokens _))

omit [UnicodeDatabase] in
/-- A round that announces calls is not the answer of the turn. -/
lemma not_answersWithoutTools_roundHead {left : ℕ} {history : List ChatMessage}
    {rest : List Effect} (hcalls : (roundMessage input left).calls ≠ [])
    (hrest : requests rest = []) :
    ¬AnswersWithoutTools (roundHead service session input left history ++
      .persist (roundMessage input left) :: rest) := by
  rw [roundHead, List.cons_append]
  refine not_answersWithoutTools ?_ ?_ hcalls
  · rw [requests_append, requests_tokens]
    exact hrest
  · rw [persisted_append]
    exact List.mem_append_right _ List.mem_cons_self

variable (service session input) in
/-- The rounds that are left begin with a request. -/
lemma exists_request_rounds (left : ℕ) (history : List ChatMessage) (callsMade : ℕ) :
    ∃ purpose messages tools rest,
      (rounds service session input (left + 1) history callsMade).effects =
        .streamChat purpose messages tools :: rest := by
  cases hraises : (roundStream input left).raises with
  | true =>
    rw [rounds_of_raises hraises]
    exact ⟨_, _, _, _, rfl⟩
  | false =>
    by_cases hcalls : (roundMessage input left).calls = []
    · rw [rounds_of_answer hraises hcalls]
      exact ⟨_, _, _, _, rfl⟩
    · rw [rounds_of_calls hraises hcalls]
      exact ⟨_, _, _, _, rfl⟩

omit [UnicodeDatabase] in
/-- The head of a round does not end the turn. -/
lemma done_not_mem_roundHead {left : ℕ} {history : List ChatMessage} :
    .yield .done ∉ roundHead service session input left history := by
  rw [roundHead, List.mem_cons]
  rintro (h | h)
  · cases h
  · obtain ⟨text, -, htext⟩ := List.mem_map.mp h
    cases htext

/-- Answering the calls does not end the turn. -/
lemma done_not_mem_answerCalls {calls : List ToolCallRequest} {history : List ChatMessage}
    {callsMade : ℕ} :
    .yield .done ∉ (answerCalls service input calls history callsMade).effects := by
  intro h
  induction calls generalizing history callsMade with
  | nil => cases h
  | cons call calls ih =>
    rw [answerCalls] at h
    split at h
    · cases h
    · cases hpayload : callPayload service (input.calls callsMade) call with
      | error fault =>
        rw [answerCall_of_error hpayload] at h
        simp at h
      | ok payload =>
        rw [answerCall_of_ok hpayload, Run.mk_ok_bind, List.mem_append] at h
        rcases h with h | h
        · simp only [resultEvent, List.mem_cons, Effect.yield.injEq, reduceCtorEq,
            List.not_mem_nil, false_or, or_false] at h
          split at h <;> cases h
        · exact ih h

/-- What the rounds that are left do: they execute calls only where tools are offered, and are
answered without tools once a budget is spent. -/
structure StaysWithin (service : AssistantChatService) (input : TurnInput) (offered : Bool)
    (left callsMade : ℕ) (effects : List Effect) : Prop where
  offers : ExecutesOffered offered effects
  answers : SpendsBudget service input left callsMade → AnswersWithoutTools effects

omit [UnicodeDatabase] in
/-- Only a round that offers tools has rounds behind it. -/
lemma left_ne_zero_of_roundTools {left : ℕ} (h : (roundTools service session left).isSome = true) :
    left ≠ 0 := by
  rintro rfl
  cases h

section Rounds

variable {left : ℕ} {history : List ChatMessage} {callsMade : ℕ} {offered : Bool}
  {effects : List Effect}

/-- A stream that fails is within the budgets but in the round without tools. -/
lemma staysWithin_of_raises (hraises : (roundStream input left).raises = true) :
    StaysWithin service input offered (left + 1) callsMade
        (rounds service session input (left + 1) history callsMade).effects ↔
      KeepsBudget service session input (left + 1) callsMade := by
  rw [rounds_of_raises hraises, KeepsBudget, if_pos hraises]
  have hhead : ExecutesOffered offered (roundHead service session input left history) := by
    rw [← List.append_nil (roundHead ..), executesOffered_roundHead_append]
    trivial
  constructor
  · rintro hwithin rfl
    exact done_not_mem_roundHead (List.mem_of_getLast? (hwithin.answers (Or.inl rfl)).getLast?)
  · intro hleft
    refine ⟨hhead, fun hspends => ?_⟩
    have hstream := (hspends.resolve_left hleft).1
    rw [hraises] at hstream
    cases hstream

/-- A round without calls is an answer. -/
lemma staysWithin_of_answer (hraises : (roundStream input left).raises = false)
    (hcalls : (roundMessage input left).calls = []) :
    StaysWithin service input offered (left + 1) callsMade
        (rounds service session input (left + 1) history callsMade).effects ↔
      KeepsBudget service session input (left + 1) callsMade := by
  rw [rounds_of_answer hraises hcalls, List.append_assoc]
  refine iff_of_true ⟨?_, fun hspends => ?_⟩ ?_
  · rw [executesOffered_roundHead_append, executesOffered_of_requests (by split <;> rfl)]
    exact Or.inr (by split <;> rfl)
  · obtain rfl : left = 0 := hspends.resolve_right fun h => h.2.1 hcalls
    refine ⟨[], roundRequest service session 0 history, tokensOf (roundStream input 0).chunks,
      List.not_mem_nil, ?_⟩
    have hmessage : roundMessage input 0 =
        { role := .assistant, content := String.join (tokensOf (roundStream input 0).chunks),
          calls := [] } := by
      rw [← hcalls]
      rfl
    rw [hmessage, roundHead, answerTail, List.nil_append, List.cons_append, List.append_assoc]
    rfl
  · rw [KeepsBudget, if_neg (by simp [hraises])]
    exact Or.inl hcalls

omit [UnicodeDatabase] in
/-- A round with calls keeps to the budgets when it offers tools and, if the calls that fit are
answered, all of them fit and the rounds behind it keep to the budgets. -/
lemma keepsBudget_of_calls (hraises : (roundStream input left).raises = false)
    (hcalls : (roundMessage input left).calls ≠ []) :
    KeepsBudget service session input (left + 1) callsMade ↔
      (roundTools service session left).isSome = true ∧
        (Answered service input callsMade
            ((roundMessage input left).calls.take (maxToolCallsPerTurn - callsMade)) →
          callsMade + (roundMessage input left).calls.length ≤ maxToolCallsPerTurn ∧
          KeepsBudget service session input left
            (callsMade + (roundMessage input left).calls.length)) := by
  rw [KeepsBudget, if_neg (by simp [hraises]), or_iff_right hcalls]

/-- The calls of a round are executed where tools are offered when the round offers them, or none is
executed. -/
lemma executesOffered_calls {rest : List Effect} :
    ExecutesOffered offered (roundHead service session input left history ++
        .persist (roundMessage input left) ::
          ((answering service session input left history callsMade).effects ++ rest)) ↔
      ((roundTools service session left).isSome = true ∨
          executed (answering service session input left history callsMade).effects = []) ∧
        ExecutesOffered (roundTools service session left).isSome rest := by
  have hnone := requests_answering service session input left history callsMade
  rw [executesOffered_roundHead_append]
  show ExecutesOffered _ (_ ++ rest) ↔ _
  rw [executesOffered_append, executesOffered_of_requests hnone, offeredAfter_of_requests hnone]

/-- Behind a round whose calls are all answered, the rounds that are left decide. -/
lemma staysWithin_of_all {rest : List Effect}
    (hraises : (roundStream input left).raises = false)
    (hcalls : (roundMessage input left).calls ≠ [])
    (hanswered : Answered service input callsMade (roundMessage input left).calls)
    (hbudget : callsMade + (roundMessage input left).calls.length ≤ maxToolCallsPerTurn)
    (hexecuted : executed (answering service session input left history callsMade).effects =
      (roundMessage input left).calls)
    (hfirst : left ≠ 0 → ∃ purpose messages tools back,
      rest = .streamChat purpose messages tools :: back)
    (hrest : ∀ offered, StaysWithin service input offered left
        (callsMade + (roundMessage input left).calls.length) rest ↔
      KeepsBudget service session input left (callsMade + (roundMessage input left).calls.length))
    (hnone : left = 0 → requests rest = []) :
    StaysWithin service input offered (left + 1) callsMade
        (roundHead service session input left history ++ .persist (roundMessage input left) ::
          ((answering service session input left history callsMade).effects ++ rest)) ↔
      KeepsBudget service session input (left + 1) callsMade := by
  have htake : (roundMessage input left).calls.take (maxToolCallsPerTurn - callsMade) =
      (roundMessage input left).calls := List.take_of_length_le (by omega)
  rw [keepsBudget_of_calls hraises hcalls, htake, imp_iff_right hanswered, and_iff_right hbudget]
  by_cases hleft : left = 0
  · refine iff_of_false (fun h => ?_) fun h => left_ne_zero_of_roundTools h.1 hleft
    refine not_answersWithoutTools_roundHead hcalls ?_ (h.answers (Or.inl hleft))
    rw [requests_append, requests_answering, hnone hleft]
    rfl
  have hdone : .yield .done ∉ roundHead service session input left history ++
      .persist (roundMessage input left) ::
        (answering service session input left history callsMade).effects := by
    rw [List.mem_append, List.mem_cons]
    rintro (h | h | h)
    · exact done_not_mem_roundHead h
    · cases h
    · exact done_not_mem_answerCalls h
  have hspends : SpendsBudget service input (left + 1) callsMade ↔
      SpendsBudget service input left (callsMade + (roundMessage input left).calls.length) := by
    rw [SpendsBudget, or_iff_right hleft, htake, or_iff_right (by omega)]
    exact ⟨fun h => h.2.2.2, fun h => ⟨hraises, hcalls, hanswered, h⟩⟩
  have hanswers := answersWithoutTools_append_iff hdone (hfirst hleft)
  rw [List.append_assoc, List.cons_append] at hanswers
  rw [← hrest (roundTools service session left).isSome]
  constructor
  · intro h
    obtain ⟨hoffers, hback⟩ := executesOffered_calls.mp h.offers
    rw [hexecuted, or_iff_left hcalls] at hoffers
    exact ⟨hoffers, hback, fun hspent => hanswers.mp (h.answers (hspends.mpr hspent))⟩
  · rintro ⟨hoffers, hback⟩
    exact ⟨executesOffered_calls.mpr ⟨Or.inl hoffers, hback.offers⟩,
      fun hspent => hanswers.mpr (hback.answers (hspends.mp hspent))⟩

/-- A round whose calls go beyond the budget ends the turn without an answer. -/
lemma staysWithin_of_budget {made pending : List ToolCallRequest}
    (hraises : (roundStream input left).raises = false)
    (hcalls : (roundMessage input left).calls = made ++ pending) (hpending : pending ≠ [])
    (hanswered : Answered service input callsMade made)
    (hbudget : callsMade + made.length = maxToolCallsPerTurn) :
    (StaysWithin service input offered (left + 1) callsMade
        (roundHead service session input left history ++ .persist (roundMessage input left) ::
          ((answering service session input left history callsMade).effects ++ [.yield .done])) ↔
      KeepsBudget service session input (left + 1) callsMade) := by
  have hne : (roundMessage input left).calls ≠ [] := by simp [hcalls, hpending]
  have hpos := List.length_pos_of_ne_nil hpending
  have htake : (roundMessage input left).calls.take (maxToolCallsPerTurn - callsMade) = made := by
    rw [hcalls, show maxToolCallsPerTurn - callsMade = made.length by omega, List.take_left]
  have hover : maxToolCallsPerTurn < callsMade + (roundMessage input left).calls.length := by
    rw [hcalls, List.length_append]
    omega
  rw [keepsBudget_of_calls hraises hne, htake]
  refine iff_of_false (fun h => ?_) fun h => absurd (h.2 hanswered).1 (by omega)
  refine not_answersWithoutTools_roundHead hne ?_
    (h.answers (Or.inr ⟨hraises, hne, by rwa [htake], Or.inl hover⟩))
  rw [requests_append, requests_answering]
  rfl

/-- A round one of whose calls raises is within the budgets when it offers tools. -/
lemma staysWithin_of_call_raises {made pending : List ToolCallRequest} {call : ToolCallRequest}
    (hraises : (roundStream input left).raises = false)
    (hcalls : (roundMessage input left).calls = made ++ call :: pending)
    (hbudget : callsMade + made.length < maxToolCallsPerTurn)
    (hcall : (input.calls (callsMade + made.length)).Raises service call)
    (hexecuted : executed (answering service session input left history callsMade).effects =
      made ++ [call]) :
    StaysWithin service input offered (left + 1) callsMade
        (roundHead service session input left history ++ .persist (roundMessage input left) ::
          (answering service session input left history callsMade).effects) ↔
      KeepsBudget service session input (left + 1) callsMade := by
  have hne : (roundMessage input left).calls ≠ [] := by simp [hcalls]
  have hraising : ¬Answered service input callsMade
      ((roundMessage input left).calls.take (maxToolCallsPerTurn - callsMade)) := by
    obtain ⟨k, hk⟩ := Nat.exists_eq_add_of_lt hbudget
    rw [hcalls, show maxToolCallsPerTurn - callsMade = made.length + (k + 1) by omega,
      List.take_length_add_append, List.take_succ_cons, answered_append]
    exact fun h => h.2.1 hcall
  have hoffers : ExecutesOffered offered (roundHead service session input left history ++
      .persist (roundMessage input left) ::
        ((answering service session input left history callsMade).effects ++ [])) ↔ _ :=
    executesOffered_calls
  rw [keepsBudget_of_calls hraises hne]
  rw [List.append_nil, hexecuted, or_iff_left (by simp)] at hoffers
  constructor
  · intro h
    exact ⟨(hoffers.mp h.offers).1, fun hanswered => absurd hanswered hraising⟩
  · rintro ⟨hsome, -⟩
    refine ⟨hoffers.mpr ⟨hsome, trivial⟩, fun hspends => ?_⟩
    exact absurd (hspends.resolve_left (left_ne_zero_of_roundTools hsome)).2.2.1 hraising

/-- The rounds that are left stay within the budgets exactly when the provider keeps to them. -/
theorem keepsBudget_iff (hmade : callsMade ≤ maxToolCallsPerTurn) :
    StaysWithin service input offered left callsMade
        (rounds service session input left history callsMade).effects ↔
      KeepsBudget service session input left callsMade := by
  induction left generalizing history callsMade offered with
  | zero =>
    refine iff_of_false (fun h => ?_) id
    obtain ⟨front, request, texts, -, heq⟩ := h.answers trivial
    have hnone := congrArg requests heq
    rw [requests_append] at hnone
    exact absurd hnone.symm (by simp [requests, rounds])
  | succ left ih =>
    cases hraises : (roundStream input left).raises with
    | true => exact staysWithin_of_raises hraises
    | false =>
      by_cases hcalls : (roundMessage input left).calls = []
      · exact staysWithin_of_answer hraises hcalls
      · have hspec := roundOfCalls_spec service session history hraises hcalls hmade
        cases hspec with
        | all answers hanswered hbudget hanswers hpersisted hexecuted heffects =>
          rw [heffects]
          refine staysWithin_of_all hraises hcalls hanswered hbudget hexecuted (fun hleft => ?_)
            (fun offered => ih hbudget) ?_
          · obtain ⟨k, rfl⟩ := Nat.exists_eq_succ_of_ne_zero hleft
            exact exists_request_rounds ..
          · rintro rfl
            rfl
        | budget made pending answers hsplit hpending hanswered hbudget hanswers hpersisted
            hexecuted heffects =>
          rw [heffects]
          exact staysWithin_of_budget hraises hsplit hpending hanswered hbudget
        | raises made pending call answers hsplit hanswered hbudget hanswers hcall hpersisted
            hexecuted heffects =>
          rw [heffects]
          exact staysWithin_of_call_raises hraises hsplit hbudget hcall hexecuted

end Rounds

/-! ## The turn -/

omit [UnicodeDatabase] in
/-- The budgets of a turn depend on its session only by the tools it is offered. -/
lemma keepsBudget_congr {session' : ChatSession} {left callsMade : ℕ}
    (h : session'.supportsToolCalling = session.supportsToolCalling) :
    KeepsBudget service session' input left callsMade ↔
      KeepsBudget service session input left callsMade := by
  have htools : ∀ left, roundTools service session' left = roundTools service session left := by
    intro left
    rw [roundTools, roundTools, toolSchemas, toolSchemas, h]
  induction left generalizing callsMade with
  | zero => rfl
  | succ left ih => simp only [KeepsBudget, htools, ih]

/-- The bounds of a turn: its requests, its executed calls, where it executes calls, and how it
ends once a budget is spent. -/
structure Bounded (service : AssistantChatService) (session : ChatSession)
    (stored : List AssistantMessage) (input : TurnInput) : Prop where
  requests_le : (requests (handleUserMessage service session stored input).effects).length ≤
    maxToolRoundsPerTurn + 1
  executed_le : (executed (handleUserMessage service session stored input).effects).length ≤
    maxToolCallsPerTurn
  offered : ExecutesOffered false (handleUserMessage service session stored input).effects
  answered : input.ready = true → ReachesRounds service session (withRequest stored input) input →
    SpendsBudget service input (maxToolRoundsPerTurn + 1) 0 →
    AnswersWithoutTools (handleUserMessage service session stored input).effects

/-- The provider keeps to the budgets of a turn, and does not spend all rounds of a turn for which
it is asked for a summary. -/
structure KeepsToBudgets (service : AssistantChatService) (session : ChatSession)
    (stored : List AssistantMessage) (input : TurnInput) : Prop where
  keeps : KeepsBudget service session input (maxToolRoundsPerTurn + 1) 0
  spares : Compacts service session (withRequest stored input) →
    ¬UsesAllRounds service input (maxToolRoundsPerTurn + 1) 0

omit [UnicodeDatabase] in
/-- What a turn does before its rounds: it sends one request if it compacts, and executes
nothing. -/
lemma compactFirst_requests (service : AssistantChatService) (session : ChatSession)
    (stored : List AssistantMessage) (input : TurnInput) :
    (Compacts service session stored →
        (requests (compactFirst service session stored input).effects).length = 1) ∧
      (¬Compacts service session stored →
        requests (compactFirst service session stored input).effects = []) ∧
      executed (compactFirst service session stored input).effects = [] ∧
      .yield .done ∉ (compactFirst service session stored input).effects := by
  have hspec := compactFirst_spec service session stored input
  cases hspec with
  | idle hidle heffects hresult =>
    rw [heffects]
    exact ⟨fun h => absurd h hidle, fun _ => rfl, rfl, List.not_mem_nil⟩
  | raises hcompacts hraises heffects hresult =>
    rw [heffects]
    exact ⟨fun _ => rfl, fun h => absurd hcompacts h, rfl, by simp⟩
  | blank hcompacts hraises heffects hresult =>
    rw [heffects]
    exact ⟨fun _ => rfl, fun h => absurd hcompacts h, rfl, by simp⟩
  | compacted hcompacts hraises hsummary heffects hresult =>
    rw [heffects]
    exact ⟨fun _ => rfl, fun h => absurd hcompacts h, rfl, by simp⟩

/-- Beside the requests of the rounds there is room for that of a compaction when the rounds are not
all gone through. -/
lemma requests_le_iff {stored : List AssistantMessage} {before : List Effect}
    {session' : ChatSession} {history : List ChatMessage}
    (hcompacts : Compacts service session stored → (requests before).length = 1)
    (hidle : ¬Compacts service session stored → requests before = []) :
    (requests (before ++ (rounds service session' input (maxToolRoundsPerTurn + 1) history
        0).effects)).length ≤ maxToolRoundsPerTurn + 1 ↔
      (Compacts service session stored →
        ¬UsesAllRounds service input (maxToolRoundsPerTurn + 1) 0) := by
  obtain ⟨hlength, hall⟩ := requests_rounds_le service session' input (maxToolRoundsPerTurn + 1)
    history (Nat.zero_le _)
  rw [requests_append, List.length_append, ← hall]
  by_cases h : Compacts service session stored
  · rw [hcompacts h, imp_iff_right h]
    omega
  · rw [hidle h, List.length_nil]
    exact iff_of_true (by omega) fun h' => absurd h' h

/-- What happens before the rounds matters to the bounds only by its request. -/
lemma bounded_of_before {stored : List AssistantMessage} {before : List Effect}
    {session' : ChatSession} {history : List ChatMessage}
    (heffects : (handleUserMessage service session stored input).effects = before ++
      (rounds service session' input (maxToolRoundsPerTurn + 1) history 0).effects)
    (hcompacts : Compacts service session (withRequest stored input) →
      (requests before).length = 1)
    (hidle : ¬Compacts service session (withRequest stored input) → requests before = [])
    (hexecuted : executed before = []) (hdone : .yield .done ∉ before)
    (htools : session'.supportsToolCalling = session.supportsToolCalling)
    (hready : input.ready = true)
    (hreaches : ReachesRounds service session (withRequest stored input) input) :
    Bounded service session stored input ↔ KeepsToBudgets service session stored input := by
  have hkeeps : StaysWithin service input (offeredAfter false before) (maxToolRoundsPerTurn + 1) 0
      (rounds service session' input (maxToolRoundsPerTurn + 1) history 0).effects ↔ _ :=
    keepsBudget_iff (Nat.zero_le _)
  rw [keepsBudget_congr htools] at hkeeps
  have hanswers := answersWithoutTools_append_iff hdone
    (exists_request_rounds service session' input maxToolRoundsPerTurn history 0)
  have hspares : (requests (before ++ (rounds service session' input (maxToolRoundsPerTurn + 1)
      history 0).effects)).length ≤ maxToolRoundsPerTurn + 1 ↔ _ := requests_le_iff hcompacts hidle
  rw [← heffects] at hspares
  constructor
  · intro h
    have hoffered := h.offered
    have hanswered := h.answered hready hreaches
    rw [heffects, executesOffered_append] at hoffered
    rw [heffects, hanswers] at hanswered
    exact ⟨hkeeps.mp ⟨hoffered.2, hanswered⟩, hspares.mp h.requests_le⟩
  · rintro ⟨hbudgets, hspared⟩
    obtain ⟨hoffered, hanswered⟩ := hkeeps.mpr hbudgets
    refine ⟨hspares.mpr hspared, ?_, ?_, fun _ _ hspends => ?_⟩
    · have hle := executed_rounds_le service session' input (maxToolRoundsPerTurn + 1) history
        (Nat.zero_le _)
      rw [heffects, executed_append, hexecuted]
      simpa using hle
    · rw [heffects, executesOffered_append]
      exact ⟨executesOffered_of_executed hexecuted, hoffered⟩
    · rw [heffects, hanswers]
      exact hanswered hspends

/-- A turn that reaches its rounds keeps its bounds exactly when the provider keeps to the
budgets. -/
lemma bounded_of_reaches {stored : List AssistantMessage} (hready : input.ready = true)
    (hreaches : ReachesRounds service session (withRequest stored input) input) :
    Bounded service session stored input ↔ KeepsToBudgets service session stored input := by
  obtain ⟨hcompacts, hidle, hexecuted, hdone⟩ :=
    compactFirst_requests service session (withRequest stored input) input
  have hdone : .yield .done ∉ Effect.persist { role := .user, content := input.content } ::
      (compactFirst service session (withRequest stored input) input).effects := by
    simpa using hdone
  have hbefore : ∀ {session' : ChatSession},
      (compactFirst service session (withRequest stored input) input).result = .ok session' →
      (handleUserMessage service session stored input).effects =
        (.persist { role := .user, content := input.content } ::
          (compactFirst service session (withRequest stored input) input).effects) ++
        (rounds service session' input (maxToolRoundsPerTurn + 1)
          (firstHistory service session' (withRequest stored input)) 0).effects := by
    intro session' hresult
    rw [handleUserMessage_of_ready _ _ _ hready, Run.mk_ok_bind, Run.effects_bind_of_ok hresult]
    rfl
  have hspec := compactFirst_spec service session (withRequest stored input) input
  cases hspec with
  | idle _ heffects hresult =>
    exact bounded_of_before (hbefore hresult) hcompacts hidle hexecuted hdone rfl hready hreaches
  | raises hasks hraises heffects hresult => exact absurd hraises (hreaches hasks)
  | blank _ hraises heffects hresult =>
    exact bounded_of_before (hbefore hresult) hcompacts hidle hexecuted hdone rfl hready hreaches
  | compacted _ hraises hsummary heffects hresult =>
    exact bounded_of_before (hbefore hresult) hcompacts hidle hexecuted hdone rfl hready hreaches

/-- A turn that does not reach its rounds keeps its bounds. -/
lemma bounded_of_effects {stored : List AssistantMessage}
    (hrequests : (requests (handleUserMessage service session stored input).effects).length ≤ 1)
    (hexecuted : executed (handleUserMessage service session stored input).effects = [])
    (hreaches : input.ready = true →
      ¬ReachesRounds service session (withRequest stored input) input) :
    Bounded service session stored input where
  requests_le := hrequests.trans (Nat.le_add_left 1 _)
  executed_le := by
    rw [hexecuted]
    exact Nat.zero_le _
  offered := executesOffered_of_executed hexecuted
  answered hready h := absurd h (hreaches hready)

/-- A turn keeps its bounds exactly when, if its rounds are reached, the provider keeps to the
budgets and leaves a round unused where the turn has asked for a summary. -/
theorem bounded_iff {stored : List AssistantMessage} :
    Bounded service session stored input ↔
      (input.ready = true → ReachesRounds service session (withRequest stored input) input →
        KeepsToBudgets service session stored input) := by
  cases hready : input.ready with
  | false =>
    refine iff_of_true (bounded_of_effects ?_ ?_ fun h => by simp [hready] at h) nofun
    · rw [handleUserMessage_of_not_ready hready]
      exact Nat.zero_le _
    · rw [handleUserMessage_of_not_ready hready]
      rfl
  | true =>
    by_cases hreaches : ReachesRounds service session (withRequest stored input) input
    · rw [bounded_of_reaches hready hreaches]
      exact ⟨fun h _ _ => h, fun h => h rfl hreaches⟩
    · have heffects : (handleUserMessage service session stored input).effects =
          [.persist { role := .user, content := input.content },
            .streamChat .summary
              (summaryRequest service session (withRequest stored input)) none] := by
        have hspec := compactFirst_spec service session (withRequest stored input) input
        cases hspec with
        | raises hcompacts hraises heffects hresult =>
          rw [handleUserMessage_of_ready _ _ _ hready, Run.mk_ok_bind,
            Run.effects_bind_of_error hresult, heffects]
          rfl
        | idle hidle heffects hresult => exact absurd (fun h => absurd h hidle) hreaches
        | blank hcompacts hraises heffects hresult =>
          exact absurd (fun _ => by simp [hraises]) hreaches
        | compacted hcompacts hraises hsummary heffects hresult =>
          exact absurd (fun _ => by simp [hraises]) hreaches
      refine iff_of_true (bounded_of_effects ?_ ?_ fun _ => hreaches)
        fun _ h => absurd h hreaches
      · rw [heffects]
        exact Nat.le_refl _
      · rw [heffects]
        rfl

end

/-- A first turn in which the provider announces 41 calls at once. -/
def manyCalls : TurnInput where
  content := "Read every device."
  compaction := ⟨[], false⟩
  replies := fun _ => ⟨(List.range 41).map fun n =>
    { type := .toolCall, toolCall := some ⟨toString n, "list_devices", []⟩ }, false⟩
  calls := fun _ => ⟨.payload [], .raises⟩

/-- After forty calls the turn is done, without a request that withdraws the tools. -/
theorem not_bounded_manyCalls :
    letI := asciiDatabase
    ¬Bounded { instructions := "" } {} [] manyCalls := by
  let _ := asciiDatabase
  have hreaches : ReachesRounds { instructions := "" } {} (withRequest [] manyCalls) manyCalls :=
    fun _ => by simp [manyCalls]
  rw [bounded_of_reaches rfl hreaches]
  rintro ⟨hkeeps, -⟩
  have hcalls : (roundMessage manyCalls maxToolRoundsPerTurn).calls =
      (List.range 41).map fun n => ⟨toString n, "list_devices", []⟩ := by
    simp [roundMessage, roundStream, manyCalls, callsOf, List.filterMap_map]
  have hanswered : ∀ calls n, (∀ call ∈ calls, call.name = "list_devices") →
      Answered { instructions := "" } manyCalls n calls := by
    intro calls
    induction calls with
    | nil => exact fun _ _ => trivial
    | cons call calls ih =>
      intro n hname
      refine ⟨?_, ih (n + 1) fun c hc => hname c (List.mem_cons_of_mem _ hc)⟩
      simp [CallOutcome.Raises, isProposal, hname call (by simp), proposeChangePlanTool, manyCalls]
  rw [KeepsBudget, if_neg (by simp [roundStream, manyCalls]), hcalls] at hkeeps
  rcases hkeeps with h | ⟨-, h⟩
  · simp at h
  · refine absurd (h (hanswered _ 0 fun call hcall => ?_)).1 (by simp [maxToolCallsPerTurn])
    obtain ⟨n, -, rfl⟩ := List.mem_map.mp (List.mem_of_mem_take hcall)
    rfl

end Terraformer.Assistant
