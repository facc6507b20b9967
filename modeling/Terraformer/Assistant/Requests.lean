import Terraformer.Assistant.Compaction

/-!
# The requests of a session

Whether the provider can accept what it is asked.  The history of a turn is a window that
settles, and each round trims it and adds a settled exchange, so every request for a reply is
well-formed.  The transcript of a compaction ends where the fold does, which may be inside an
exchange: its request is well-formed exactly when such an exchange does not fit
(`wellFormed_summaryRequest_iff`).
-/

namespace Terraformer.Assistant

open Exchange Text

/-! ## Windows that grow -/

namespace Window

/-- The window with more messages of its turn. -/
def extend (w : Window) (more : List ChatMessage) (h : ∀ m ∈ more, m.role ≠ .user) : Window :=
  { w with
    turn := w.turn ++ more
    turn_ne_user := fun m hm => (List.mem_append.mp hm).elim (w.turn_ne_user m) (h m) }

/-- An extended window has the further messages behind it. -/
lemma messages_extend (w : Window) {more : List ChatMessage} (h : ∀ m ∈ more, m.role ≠ .user) :
    (w.extend more h).messages = w.messages ++ more := by
  simp [messages, extend]

/-- A window stays settled when it is extended by well-formed messages. -/
lemma Settles.extend {w : Window} (hw : w.Settles) {more : List ChatMessage}
    (h : ∀ m ∈ more, m.role ≠ .user) (hmore : WellFormed more) : (w.extend more h).Settles :=
  ⟨hw.1, hw.2.append hmore⟩

end Window

/-- The history is that of a window that settles. -/
def HistorySettles (history : List ChatMessage) : Prop :=
  ∃ w : Window, w.messages = history ∧ w.Settles

/-- Trimmed, a history that settles is well-formed, and settles. -/
lemma HistorySettles.trim {history : List ChatMessage} (h : HistorySettles history) (limit : ℤ) :
    WellFormed (trimToContextLimit history (some limit)) ∧
      HistorySettles (trimToContextLimit history (some limit)) := by
  obtain ⟨w, rfl, hw⟩ := h
  rw [w.trimToContextLimit_messages]
  exact ⟨(hw.trim limit).1, w.trim limit, rfl, (hw.trim limit).2⟩

/-- A settled exchange behind a history that settles. -/
lemma HistorySettles.append {history more : List ChatMessage} (h : HistorySettles history)
    (hrole : ∀ m ∈ more, m.role ≠ .user) (hmore : WellFormed more) :
    HistorySettles (history ++ more) := by
  obtain ⟨w, rfl, hw⟩ := h
  exact ⟨w.extend more hrole, w.messages_extend hrole, hw.extend hrole hmore⟩

/-! ## The requests of the rounds -/

section

variable [UnicodeDatabase] {service : AssistantChatService} {session : ChatSession}
  {input : TurnInput}

omit [UnicodeDatabase] in
/-- The request of a round is well-formed, and its history settles. -/
lemma roundRequest_settles (service : AssistantChatService) (session : ChatSession)
    {history : List ChatMessage} (h : HistorySettles history) (left : ℕ) :
    WellFormed (roundRequest service session left history) ∧
      HistorySettles (roundRequest service session left history) := by
  refine HistorySettles.trim ?_ _
  split
  · exact h.append (by simp [budgetSpentMessage]) (.plain rfl .nil)
  · exact h

omit [UnicodeDatabase] in
/-- The answered calls of a round are a settled exchange. -/
lemma wellFormed_round {left : ℕ} {answers : List AssistantMessage}
    (h : IsAnswers (roundMessage input left).calls answers) :
    WellFormed ((roundMessage input left :: answers).map replay) := by
  rw [wellFormed_map_replay]
  have hsettled : Replayable (roundMessage input left :: (answers ++ [])) :=
    .announce rfl (perm_of_isAnswers h) .nil
  rwa [List.append_nil] at hsettled

omit [UnicodeDatabase] in
/-- An assistant message and the answers to its calls are no user messages. -/
lemma role_round_ne_user {left : ℕ} {answers : List AssistantMessage}
    (h : IsAnswers (roundMessage input left).calls answers) :
    ∀ m ∈ (roundMessage input left :: answers).map replay, m.role ≠ .user := by
  intro m hm
  obtain ⟨m', hm', rfl⟩ := List.mem_map.mp hm
  rcases List.mem_cons.mp hm' with rfl | hm'
  · simp [replay, roundMessage, assistantMessage]
  · simp [replay, role_of_isAnswers h m' hm']

/-- Every request of the rounds of a turn is well-formed when the history settles. -/
theorem wellFormed_requests_rounds {left : ℕ} {history : List ChatMessage} {callsMade : ℕ}
    (hmade : callsMade ≤ maxToolCallsPerTurn) (h : HistorySettles history) :
    ∀ r ∈ requests (rounds service session input left history callsMade).effects,
      WellFormed r.2.1 := by
  induction left generalizing history callsMade with
  | zero => exact fun r hr => absurd hr (by simp [rounds, requests])
  | succ left ih =>
    obtain ⟨hrequest, hsettles⟩ := roundRequest_settles service session h left
    have hhead : ∀ r ∈ requests (roundHead service session input left history),
        WellFormed r.2.1 := by
      intro r hr
      rw [requests_roundHead, List.mem_singleton] at hr
      rw [hr]
      exact hrequest
    have hpersist : ∀ l, requests (.persist (roundMessage input left) :: l) = requests l :=
      fun _ => rfl
    intro r hr
    cases hraises : (roundStream input left).raises with
    | true =>
      rw [rounds_of_raises hraises] at hr
      exact hhead r hr
    | false =>
      by_cases hcalls : (roundMessage input left).calls = []
      · rw [rounds_of_answer hraises hcalls, List.append_assoc, requests_append,
          List.mem_append] at hr
        refine hr.elim (hhead r) fun hr => ?_
        split at hr <;> cases hr
      · have hspec := roundOfCalls_spec service session history hraises hcalls hmade
        cases hspec with
        | all answers hanswered hbudget hanswers hpersisted hexecuted heffects =>
          rw [heffects, requests_append, List.mem_append, hpersist, requests_append,
            requests_answering, List.nil_append] at hr
          exact hr.elim (hhead r) (ih hbudget (hsettles.append (role_round_ne_user hanswers)
            (wellFormed_round hanswers)) r)
        | budget made pending answers hsplit hpending hanswered hbudget hanswers hpersisted
            hexecuted heffects =>
          rw [heffects, requests_append, List.mem_append, hpersist, requests_append,
            requests_answering] at hr
          exact hr.elim (hhead r) fun hr => by cases hr
        | raises made pending call answers hsplit hanswered hbudget hanswers hcall hpersisted
            hexecuted heffects =>
          rw [heffects, requests_append, List.mem_append, hpersist, requests_answering] at hr
          exact hr.elim (hhead r) fun hr => by cases hr

end

/-! ## The first history of a turn -/

section

variable {service : AssistantChatService} {session : ChatSession} {stored : List AssistantMessage}
  {input : TurnInput}

/-- The instructions and the summary are system messages. -/
lemma pinned_system {instructions heading : String} {summary : Option String} :
    ∀ m ∈ { role := .system, content := instructions } :: summaryMessage heading summary,
      m.role = .system := by
  intro m hm
  rcases List.mem_cons.mp hm with rfl | hm
  · rfl
  · unfold summaryMessage at hm
    split at hm
    · split at hm
      · rw [List.mem_singleton.mp hm]
      · cases hm
    · cases hm

/-- The system messages of a history. -/
def historyPinned (service : AssistantChatService) (session : ChatSession) : List ChatMessage :=
  { role := .system, content := service.instructions } ::
    summaryMessage foldedHeading session.summary

/-- The history of a turn settles when the conversation does. -/
lemma historySettles_buildHistory (hstored : Replayable stored)
    (hcount : session.summarisedMessageCount ≤ stored.length) :
    HistorySettles (buildHistory service session (withRequest stored input)) := by
  have hearlier : ∀ m ∈ (stored.drop session.summarisedMessageCount).map replay,
      m.role ≠ .system := by
    intro m hm
    obtain ⟨m', -, rfl⟩ := List.mem_map.mp hm
    exact role_replay_ne_system m'
  refine ⟨⟨historyPinned service session, _, replay { role := .user, content := input.content }, [],
    pinned_system, hearlier, rfl, by simp⟩, ?_, ?_, .nil⟩
  · rw [Window.messages, buildHistory, withRequest, List.drop_append_of_le_length hcount,
      List.map_append, List.append_assoc]
    rfl
  · have hdrop := (wellFormed_map_replay.mpr hstored).dropWhile_drop
      session.summarisedMessageCount
    rwa [← dropLeadingOrphan_eq, ← List.map_drop] at hdrop

end

/-! ## The transcript of a compaction -/

/-- The system messages of a transcript. -/
def transcriptPinned (session : ChatSession) : List ChatMessage :=
  { role := .system, content := compactionInstructions } ::
    summaryMessage "A previous summary of still older turns:\n\n" session.summary

/-- The closing request of a transcript. -/
def summaryPrompt : ChatMessage where
  role := .user
  content := "Write the summary now, and nothing else."

/-- What a transcript is charged before any message of the conversation. -/
def transcriptCost (session : ChatSession) : ℤ :=
  cost (transcriptPinned session) + summaryPrompt.cost

/-- The characters a session may send. -/
def characterBudget (service : AssistantChatService) (session : ChatSession) : ℤ :=
  budgetTokens service session * charsPerToken

/-- The folded messages of a transcript that are left when it is trimmed. -/
def shownMessages (service : AssistantChatService) (session : ChatSession)
    (folded : List ChatMessage) : List ChatMessage :=
  dropLeadingOrphan
    (keepNewest (characterBudget service session) (transcriptCost session) folded.reverse).1.reverse

section

variable {service : AssistantChatService} {session : ChatSession} {stored : List AssistantMessage}

/-- What the summariser is asked. -/
lemma summaryRequest_eq :
    summaryRequest service session stored = transcriptPinned session ++
      shownMessages service session ((stored.take (foldThrough stored).toNat).map replay) ++
      [summaryPrompt] := by
  let w : Window :=
    { pinned := transcriptPinned session
      earlier := (stored.take (foldThrough stored).toNat).map replay
      request := summaryPrompt
      turn := []
      pinned_system := pinned_system
      earlier_ne_system := fun m hm => by
        obtain ⟨m', -, rfl⟩ := List.mem_map.mp hm
        exact role_replay_ne_system m'
      request_user := rfl
      turn_ne_user := by simp }
  have hw : compactionTranscript session stored = w.messages := by
    rfl
  rw [summaryRequest, hw, w.trimToContextLimit_messages]
  rfl

/-- Among the newest messages that fit, an exchange that is cut off stands in full or not at
all, and it makes what is kept of a transcript ill-formed in the first case. -/
lemma wellFormed_cut_iff {front answers : List ChatMessage} {m : ChatMessage}
    {calls : List (Option String)} (budget used : ℤ) (hm : m.kind = .announce calls)
    (hanswers : ∀ a ∈ answers, a.kind.isAnswer = true) (hlength : answers.length < calls.length) :
    WellFormed (dropLeadingOrphan
        (keepNewest budget used (front ++ m :: answers).reverse).1.reverse) ↔
      budget < used + cost (m :: answers) := by
  have hcut : ¬WellFormed (m :: answers) := by
    rw [WellFormed, settled_announce_iff hm hanswers]
    intro hperm
    have heq := hperm.length_eq
    rw [List.length_map, List.length_map] at heq
    omega
  have hm' : m.kind.isAnswer = false := by rw [hm]; rfl
  obtain ⟨hkept, -⟩ := keepNewest_spec budget used (front ++ m :: answers).reverse
  have hreverse : (m :: answers).reverse <+: (front ++ m :: answers).reverse := by
    rw [List.reverse_append]
    exact List.prefix_append _ _
  have hfits := prefix_keepNewest_iff budget used hreverse (by simp)
  rw [cost_reverse] at hfits
  rw [dropLeadingOrphan_eq, ← Int.not_le, ← hfits]
  generalize keepNewest budget used (front ++ m :: answers).reverse = kept at hkept ⊢
  constructor
  · rintro hwell ⟨rest, hrest⟩
    rw [← hrest, List.reverse_append, List.reverse_reverse, List.dropWhile_append] at hwell
    split at hwell
    · rw [List.dropWhile_cons, hm', if_neg (by decide)] at hwell
      exact hcut hwell
    · rw [WellFormed, settled_append_iff (by simpa using hm')] at hwell
      exact hcut hwell.2
  · intro hnot
    have hsuffix : kept.1.reverse <:+ answers := by
      have hpart := (List.prefix_or_prefix_of_prefix hreverse hkept).resolve_left hnot
      rw [List.reverse_cons, List.prefix_concat_iff] at hpart
      rcases hpart with heq | hpart
      · exact absurd (by simp [heq]) hnot
      · simpa using List.reverse_suffix.mpr hpart
    rw [List.dropWhile_eq_nil_iff.mpr fun a ha => hanswers a (hsuffix.subset ha)]
    exact .nil

/-- The messages that a compaction folds do not end inside an exchange (with fewer answers than
the announced calls) that fits beside the instructions, the previous summary and the closing
request. -/
def FoldsWhole (service : AssistantChatService) (session : ChatSession)
    (stored : List AssistantMessage) : Prop :=
  ∀ front message answers, stored.take (foldThrough stored).toNat = front ++ message :: answers →
    message.role = .assistant → (∀ a ∈ answers, a.role = .tool) →
    answers.length < message.calls.length →
    characterBudget service session <
      transcriptCost session + cost ((message :: answers).map replay)

/-- System messages in front change nothing. -/
lemma wellFormed_system_append_iff {pinned messages : List ChatMessage}
    (h : ∀ m ∈ pinned, m.role = .system) :
    WellFormed (pinned ++ messages) ↔ WellFormed messages := by
  induction pinned with
  | nil => rfl
  | cons m pinned ih =>
    have hm : m.kind = .plain := by rw [ChatMessage.kind, h m (by simp)]
    rw [List.cons_append, WellFormed, settled_plain_cons_iff hm]
    exact ih fun m' hm' => h m' (List.mem_cons_of_mem _ hm')

/-- What the summariser is asked is well-formed exactly when the fold cuts no exchange that is
kept. -/
theorem wellFormed_summaryRequest_iff (hstored : Replayable stored) :
    WellFormed (summaryRequest service session stored) ↔ FoldsWhole service session stored := by
  have hpinned : ∀ m ∈ transcriptPinned session, m.role = .system := pinned_system
  have hshown : WellFormed (summaryRequest service session stored) ↔
      WellFormed (shownMessages service session
        ((stored.take (foldThrough stored).toNat).map replay)) := by
    rw [summaryRequest_eq, List.append_assoc,
      wellFormed_system_append_iff hpinned, WellFormed,
      settled_append_iff (by simp [summaryPrompt, ChatMessage.kind, Kind.isAnswer])]
    exact and_iff_left (.plain rfl .nil)
  have hcut : ∀ front message answers,
      stored.take (foldThrough stored).toNat = front ++ message :: answers →
      message.role = .assistant → (∀ a ∈ answers, a.role = .tool) →
      answers.length < message.calls.length →
      (WellFormed (summaryRequest service session stored) ↔ characterBudget service session <
        transcriptCost session + cost ((message :: answers).map replay)) := by
    intro front message answers htake hrole hanswers hlength
    rw [hshown, htake, List.map_append, List.map_cons, shownMessages]
    have hkind : (replay message).kind =
        .announce (message.calls.map fun call => some call.id) := by
      rw [kind_replay, AssistantMessage.kind, hrole]
    refine wellFormed_cut_iff _ _ hkind ?_ ?_
    · intro a ha
      obtain ⟨a', ha', rfl⟩ := List.mem_map.mp ha
      rw [kind_replay, AssistantMessage.kind, hanswers a' ha']
      rfl
    · simpa using hlength
  constructor
  · intro hwell front message answers htake hrole hanswers hlength
    exact (hcut front message answers htake hrole hanswers hlength).mp hwell
  · intro hwhole
    rcases hstored.take_cases (foldThrough stored).toNat with
      hsettled | ⟨front, message, calls, answers, htake, -, hkind, hanswers, hlength⟩
    · have hwell : WellFormed (dropLeadingOrphan
          ((stored.take (foldThrough stored).toNat).map replay)) := by
        have hmap := wellFormed_map_replay.mpr hsettled
        rw [dropLeadingOrphan_eq, hmap.dropWhile_eq]
        exact hmap
      exact hshown.mpr (wellFormed_dropLeadingOrphan hwell _ _)
    · obtain ⟨hrole, rfl⟩ := role_of_kind_announce hkind
      have hanswers : ∀ a ∈ answers, a.role = .tool := fun a ha =>
        role_of_isAnswer (hanswers a ha)
      rw [List.length_map] at hlength
      exact (hcut front message answers htake hrole hanswers hlength).mpr
        (hwhole front message answers htake hrole hanswers hlength)

/-! ## The requests of a turn and of a compaction -/

/-- The requests of a compaction. -/
lemma wellFormed_requests_compact_iff {stream : ProviderStream} (hstored : Replayable stored) :
    (∀ r ∈ requests (compact service session stored stream).effects, WellFormed r.2.1) ↔
      (session.summarisedMessageCount < foldThrough stored →
        FoldsWhole service session stored) := by
  rcases lt_or_ge (session.summarisedMessageCount : ℤ) (foldThrough stored) with hfold | hfold
  · have hrequests : requests (compact service session stored stream).effects =
        [(.summary, summaryRequest service session stored, none)] := by
      cases hraises : stream.raises with
      | true =>
        rw [compact_of_raises hfold hraises]
        rfl
      | false =>
        by_cases hsummary : summaryOf stream = ""
        · rw [compact_of_blank hfold hraises hsummary]
          rfl
        · rw [compact_of_summary hfold hraises hsummary]
          rfl
    rw [hrequests, List.forall_mem_singleton, wellFormed_summaryRequest_iff hstored]
    exact ⟨fun h _ => h, fun h => h hfold⟩
  · rw [compact_of_le hfold]
    exact iff_of_true (by simp [requests]) fun h => absurd hfold (by omega)

end

section

variable [UnicodeDatabase] {service : AssistantChatService} {session : ChatSession}
  {stored : List AssistantMessage} {input : TurnInput}

/-- The requests of a turn. -/
lemma wellFormed_requests_turn_iff (hstored : Replayable stored)
    (hcount : session.summarisedMessageCount ≤ stored.length) :
    (∀ r ∈ requests (handleUserMessage service session stored input).effects, WellFormed r.2.1) ↔
      (input.ready = true → Compacts service session (withRequest stored input) →
        FoldsWhole service session (withRequest stored input)) := by
  cases hready : input.ready with
  | false =>
    rw [handleUserMessage_of_not_ready hready]
    exact iff_of_true (by simp [requests]) nofun
  | true =>
    have hrequested : Replayable (withRequest stored input) :=
      Settled.append hstored (.plain rfl .nil)
    have hrounds : ∀ session' : ChatSession, session'.summarisedMessageCount ≤ stored.length →
        ∀ r ∈ requests (rounds service session' input (maxToolRoundsPerTurn + 1)
          (firstHistory service session' (withRequest stored input)) 0).effects,
          WellFormed r.2.1 := fun session' hcount' =>
      wellFormed_requests_rounds (Nat.zero_le _)
        ((historySettles_buildHistory hstored hcount').trim _).2
    rw [handleUserMessage_of_ready _ _ _ hready, Run.mk_ok_bind, requests_append,
      show requests [.persist { role := .user, content := input.content }] = [] from rfl,
      List.nil_append]
    have hasked : requests [.streamChat .summary
        (summaryRequest service session (withRequest stored input)) none] =
        [(.summary, summaryRequest service session (withRequest stored input), none)] := rfl
    have hstores : ∀ a b, requests [.streamChat .summary
        (summaryRequest service session (withRequest stored input)) none, .setSummary a b,
        .yield (.compacted a b)] =
        [(.summary, summaryRequest service session (withRequest stored input), none)] :=
      fun _ _ => rfl
    have hspec := compactFirst_spec service session (withRequest stored input) input
    cases hspec with
    | idle hidle heffects hresult =>
      rw [Run.effects_bind_of_ok hresult, heffects, List.nil_append]
      exact iff_of_true (hrounds session hcount) fun _ h => absurd h hidle
    | raises hcompacts hraises heffects hresult =>
      rw [Run.effects_bind_of_error hresult, heffects, hasked, List.forall_mem_singleton,
        wellFormed_summaryRequest_iff hrequested]
      exact ⟨fun h _ _ => h, fun h => h rfl hcompacts⟩
    | blank hcompacts hraises heffects hresult =>
      rw [Run.effects_bind_of_ok hresult, heffects, requests_append, List.forall_mem_append, hasked,
        List.forall_mem_singleton, wellFormed_summaryRequest_iff hrequested]
      exact ⟨fun h _ _ => h.1, fun h => ⟨h rfl hcompacts, hrounds session hcount⟩⟩
    | compacted hcompacts hraises hsummary heffects hresult =>
      rw [Run.effects_bind_of_ok hresult, heffects, requests_append, List.forall_mem_append, hstores,
        List.forall_mem_singleton, wellFormed_summaryRequest_iff hrequested]
      refine ⟨fun h _ _ => h.1, fun h => ⟨h rfl hcompacts, hrounds _ ?_⟩⟩
      -- the newest messages stay, among them the one that was just stored
      have hlength : (withRequest stored input).length = stored.length + 1 := by
        rw [withRequest, List.length_append, List.length_singleton]
      show (foldThrough (withRequest stored input)).toNat ≤ stored.length
      rw [foldThrough, hlength, keepVerbatimMessages]
      omega

/-- Every request of a turn and of a compaction on request is well-formed exactly when no
compaction that is asked for cuts an exchange that is kept. -/
theorem wellFormed_requests_iff {stream : ProviderStream} (hstored : Replayable stored)
    (hcount : session.summarisedMessageCount ≤ stored.length) :
    ((∀ r ∈ requests (handleUserMessage service session stored input).effects,
        WellFormed r.2.1) ↔
      (input.ready = true → Compacts service session (withRequest stored input) →
        FoldsWhole service session (withRequest stored input))) ∧
    ((∀ r ∈ requests (compact service session stored stream).effects, WellFormed r.2.1) ↔
      (session.summarisedMessageCount < foldThrough stored →
        FoldsWhole service session stored)) :=
  ⟨wellFormed_requests_turn_iff hstored hcount, wellFormed_requests_compact_iff hstored⟩

end

/-- A conversation that asks for the facts of a device and goes on. -/
def factsConversation : List AssistantMessage :=
  [{ role := .user, content := "Which image does core-1 run?" },
    { role := .assistant, content := "", calls := [⟨"call_1", "get_device_facts", []⟩] },
    { role := .tool, content := "15.2", toolCallId := some "call_1" },
    { role := .assistant, content := "15.2" },
    { role := .user, content := "And core-2?" }, { role := .assistant, content := "Unknown." },
    { role := .user, content := "Thanks." }, { role := .assistant, content := "Done." }]

/-- The stored conversation of the example can be replayed. -/
lemma replayable_factsConversation : Replayable factsConversation := by
  have hanswer : ∀ content, Replayable [{ role := .assistant, content }] := by
    intro content
    have hkind : (AssistantMessage.mk .assistant content [] none).kind = .announce [] := rfl
    exact (settled_announce_iff hkind (by simp)).mpr (List.Perm.refl _)
  have hcall : Replayable [factsConversation[1], factsConversation[2]] := by
    have hkind : factsConversation[1].kind = .announce [some "call_1"] := rfl
    refine (settled_announce_iff hkind ?_).mpr (List.Perm.refl _)
    simp [factsConversation, AssistantMessage.kind, Kind.isAnswer]
  exact .plain rfl (hcall.append ((hanswer _).append (.plain rfl ((hanswer _).append
    (.plain rfl (hanswer _))))))

/-- A turn behind a conversation whose older part is summarised already. -/
theorem wellFormed_requests_summarised :
    letI := asciiDatabase
    (requests (handleUserMessage { instructions := "" }
      { summary := some "core-1 runs 15.2.", summarisedMessageCount := 3 } factsConversation
      { content := "And core-3?", compaction := ⟨[], false⟩
        replies := fun _ => ⟨[{ type := .token, content := some "16.1" }], false⟩
        calls := fun _ => ⟨.raises, .raises⟩ }).effects).Forall fun r => WellFormed r.2.1 := by
  let _ := asciiDatabase
  rw [List.forall_iff_forall_mem]
  refine (@wellFormed_requests_iff _ _ _ _ _ ⟨[], false⟩ replayable_factsConversation
    (by decide)).1.mpr fun _ hcompacts => ?_
  exact absurd hcompacts.2 (by decide)

set_option maxRecDepth 8000 in
/-- The instructions for a summary are not long. -/
lemma length_compactionInstructions : compactionInstructions.toList.length ≤ 2000 := by
  obtain ⟨characters, h, hlength⟩ :
      ∃ characters, compactionInstructions = String.ofList characters ∧ characters.length ≤ 2000 :=
    ⟨_, rfl, by decide⟩
  rw [h, String.toList_ofList]
  exact hlength

/-- A compaction on request that folds the announcement of a call but not its answer. -/
theorem not_wellFormed_cut_exchange :
    Replayable factsConversation ∧
    ∃ r ∈ requests (compact { instructions := "" } {} factsConversation ⟨[], false⟩).effects,
      ¬WellFormed r.2.1 := by
  refine ⟨replayable_factsConversation, ?_⟩
  have htake : factsConversation.take (foldThrough factsConversation).toNat =
      [factsConversation[0]] ++ factsConversation[1] :: [] := rfl
  have hprompt : summaryPrompt.cost ≤ 100 := by decide
  have hshown : cost ([factsConversation[1]].map replay) = 0 := rfl
  have hfits : ¬characterBudget { instructions := "" } {} <
      transcriptCost {} + cost ([factsConversation[1]].map replay) := by
    have hpinned : cost (transcriptPinned {}) ≤ 2000 := by
      show cost [_] ≤ 2000
      rw [cost_cons, cost_nil, Int.add_zero]
      exact Int.ofNat_le.mpr length_compactionInstructions
    rw [hshown, transcriptCost, show characterBudget { instructions := "" } {} = 128000 from rfl]
    omega
  by_contra hall
  have hall := (wellFormed_requests_compact_iff replayable_factsConversation).mp
    (by simpa using hall) (by decide)
  exact hfits (hall _ _ _ htake rfl (by simp) (by decide))

end Terraformer.Assistant
