import Terraformer.Assistant.Requests

/-!
# What a summary stands for

A compaction that succeeds moves the count of the summarised messages to the fold, whatever part
of the transcript was trimmed.  It loses nothing exactly when the messages it adds to the count
are among those that fit (`losesNothing_iff_fits`), and as long as every compaction of a session
meets that condition, every stored message is replayed or was shown to a summariser
(`Reached.kept`).
-/

namespace Terraformer.Assistant

open Text

/-- A message is replayed as a tool message exactly when it is one. -/
lemma role_replay_eq_tool_iff (message : AssistantMessage) :
    (replay message).role = .tool ↔ message.role = .tool := by
  unfold replay
  cases message.role <;> simp [assistantMessage]

/-! ## What is kept of the folded messages -/

/-- The messages from a place on are shown exactly when they fit, if need be together with some
before them: the first of what is shown may not be a tool message. -/
lemma shown_from_iff (budget used : ℤ) {folded : List ChatMessage} {a : ℕ}
    (ha : a < folded.length) :
    (∃ front, dropLeadingOrphan (keepNewest budget used folded.reverse).1.reverse =
        front ++ folded.drop a) ↔
      ∃ j ≤ a, (∀ m ∈ folded[j]?, m.role ≠ .tool) ∧ used + cost (folded.drop j) ≤ budget := by
  obtain ⟨hkept, -⟩ := keepNewest_spec budget used folded.reverse
  have hsuffix : (keepNewest budget used folded.reverse).1.reverse <:+ folded := by
    simpa using List.reverse_suffix.mpr hkept
  constructor
  · rintro ⟨front, hfront⟩
    have hshown := List.dropWhile_suffix (l := (keepNewest budget used folded.reverse).1.reverse)
      fun m : ChatMessage => m.role == .tool
    generalize hresult : (keepNewest budget used folded.reverse).1.reverse.dropWhile
      (fun m => m.role == .tool) = result at hshown
    rw [dropLeadingOrphan, hresult] at hfront
    have hdrop := List.suffix_iff_eq_drop.mp (hshown.trans hsuffix)
    have hlength : result.length = front.length + (folded.length - a) := by
      rw [hfront, List.length_append, List.length_drop]
    have hle := (hshown.trans hsuffix).length_le
    have hne : result ≠ [] := by
      rintro rfl
      simp at hlength
      omega
    refine ⟨folded.length - result.length, by omega, ?_, ?_⟩
    · intro m hm
      rw [← List.head?_drop, ← hdrop, ← hresult, Option.mem_def] at hm
      have hnot := List.head?_dropWhile_not (fun m : ChatMessage => m.role == .tool)
        (keepNewest budget used folded.reverse).1.reverse
      rw [hm] at hnot
      simpa using hnot
    · rw [← hdrop, ← cost_reverse]
      have hpart : result.reverse <+: (keepNewest budget used folded.reverse).1 := by
        simpa using List.reverse_prefix.mpr hshown
      exact (prefix_keepNewest_iff _ _ (hpart.trans hkept) (by simpa using hne)).mp hpart
  · rintro ⟨j, hj, hrole, hfits⟩
    have hpart : (folded.drop j).reverse <+: folded.reverse :=
      List.reverse_prefix.mpr (List.drop_suffix j folded)
    have hne : (folded.drop j).reverse ≠ [] := by
      simp
      omega
    obtain ⟨rest, hrest⟩ := (prefix_keepNewest_iff budget used hpart hne).mpr (by rwa [cost_reverse])
    have hkeep : dropLeadingOrphan (folded.drop j) = folded.drop j := by
      cases hd : folded.drop j with
      | nil => rfl
      | cons m tail =>
        have hm : m.role ≠ .tool := hrole m (by rw [← List.head?_drop, hd]; rfl)
        rw [dropLeadingOrphan, List.dropWhile_cons, if_neg (by simpa using hm)]
    have hsplit : folded.drop j = (folded.drop j).take (a - j) ++ folded.drop a := by
      conv_lhs => rw [← List.take_append_drop (a - j) (folded.drop j)]
      rw [List.drop_drop, Nat.add_sub_cancel' hj]
    rw [← hrest, List.reverse_append, List.reverse_reverse]
    unfold dropLeadingOrphan at hkeep ⊢
    rw [List.dropWhile_append]
    split
    · exact ⟨_, hkeep.trans hsplit⟩
    · exact ⟨_ ++ (folded.drop j).take (a - j), by rw [List.append_assoc, ← hsplit]⟩

/-! ## One compaction -/

section

variable {service : AssistantChatService} {session : ChatSession} {stored : List AssistantMessage}
  {stream : ProviderStream}

/-- The request ends with the messages from the `i`-th on, up to the `b`-th, and the closing
prompt. -/
def ShowsFrom (request : List ChatMessage) (stored : List AssistantMessage) (i b : ℕ) : Prop :=
  ∃ front, request = front ++ ((stored.take b).drop i).map replay ++ [summaryPrompt]

/-- A request that ends with some messages ends with the later ones among them. -/
lemma ShowsFrom.of_le {request : List ChatMessage} {a b i : ℕ} (h : ShowsFrom request stored a b)
    (hi : a ≤ i) : ShowsFrom request stored i b := by
  obtain ⟨front, rfl⟩ := h
  have hsplit : (stored.take b).drop a =
      ((stored.take b).drop a).take (i - a) ++ (stored.take b).drop i := by
    conv_lhs => rw [← List.take_append_drop (i - a) ((stored.take b).drop a)]
    rw [List.drop_drop, Nat.add_sub_cancel' hi]
  refine ⟨front ++ (((stored.take b).drop a).take (i - a)).map replay, ?_⟩
  rw [List.append_assoc front (List.map _ _) (List.map _ _), ← List.map_append, ← hsplit]

/-- The messages a compaction adds to the count fit beside the instructions, the previous summary
and the closing request, if need be together with some before them: the first of what is kept may
not be a tool message. -/
def Fits (service : AssistantChatService) (session : ChatSession)
    (stored : List AssistantMessage) : Prop :=
  ∃ j ≤ session.summarisedMessageCount, (∀ m ∈ stored[j]?, m.role ≠ .tool) ∧
    transcriptCost session + cost (((stored.take (foldThrough stored).toNat).drop j).map replay) ≤
      characterBudget service session

/-- The compaction asks for a summary and gets one. -/
def Summarises (session : ChatSession) (stored : List AssistantMessage)
    (stream : ProviderStream) : Prop :=
  session.summarisedMessageCount < foldThrough stored ∧ stream.raises = false ∧
    summaryOf stream ≠ ""

/-- What a compaction promises: the messages it adds to the count are in its request, as is the
previous summary; the count grows, and the newest messages stay out of it; and without a summary
nothing changes. -/
structure LosesNothing (service : AssistantChatService) (session : ChatSession)
    (stored : List AssistantMessage) (stream : ProviderStream) : Prop where
  shown : ∀ summary b, .setSummary summary b ∈ (compact service session stored stream).effects →
    ∀ i, session.summarisedMessageCount ≤ i → i < b →
      ∃ r ∈ requests (compact service session stored stream).effects, ShowsFrom r.2.1 stored i b
  previous : ∀ r ∈ requests (compact service session stored stream).effects,
    summaryMessage "A previous summary of still older turns:\n\n" session.summary ⊆ r.2.1
  advances : ∀ summary b, .setSummary summary b ∈ (compact service session stored stream).effects →
    session.summarisedMessageCount < b ∧ b + keepVerbatimMessages = stored.length
  unchanged : stream.raises = true ∨ summaryOf stream = "" →
    ∀ summary b, .setSummary summary b ∉ (compact service session stored stream).effects

/-- What a compaction does when it asks for a summary and gets one, and that it stores none
otherwise. -/
lemma compact_cases (service : AssistantChatService) (session : ChatSession)
    (stored : List AssistantMessage) (stream : ProviderStream) :
    (Summarises session stored stream ∧ (compact service session stored stream).effects =
      [.streamChat .summary (summaryRequest service session stored) none,
        .setSummary (summaryOf stream) (foldThrough stored).toNat]) ∨
    (¬Summarises session stored stream ∧
      ((compact service session stored stream).effects = [] ∨
        (compact service session stored stream).effects =
          [.streamChat .summary (summaryRequest service session stored) none])) := by
  rcases lt_or_ge (session.summarisedMessageCount : ℤ) (foldThrough stored) with hfold | hfold
  · cases hraises : stream.raises with
    | true =>
      rw [compact_of_raises hfold hraises]
      exact Or.inr ⟨fun h => by simp [Summarises, hraises] at h, Or.inr rfl⟩
    | false =>
      by_cases hsummary : summaryOf stream = ""
      · rw [compact_of_blank hfold hraises hsummary]
        exact Or.inr ⟨fun h => h.2.2 hsummary, Or.inr rfl⟩
      · rw [compact_of_summary hfold hraises hsummary]
        exact Or.inl ⟨⟨hfold, hraises, hsummary⟩, rfl⟩
  · rw [compact_of_le hfold]
    exact Or.inr ⟨fun h => absurd h.1 (by omega), Or.inl rfl⟩

/-- The request of a compaction ends with the messages it adds to the count exactly when they
fit. -/
lemma showsFrom_summaryRequest_iff
    (hfold : session.summarisedMessageCount < foldThrough stored) :
    ShowsFrom (summaryRequest service session stored) stored session.summarisedMessageCount
      (foldThrough stored).toNat ↔ Fits service session stored := by
  have hlength : (foldThrough stored).toNat ≤ stored.length := by
    unfold foldThrough keepVerbatimMessages
    omega
  have hcount : session.summarisedMessageCount <
      ((stored.take (foldThrough stored).toNat).map replay).length := by
    rw [List.length_map, List.length_take]
    omega
  have hshown := shown_from_iff (characterBudget service session) (transcriptCost session) hcount
  have hfits : Fits service session stored ↔ ∃ j ≤ session.summarisedMessageCount,
      (∀ m ∈ ((stored.take (foldThrough stored).toNat).map replay)[j]?, m.role ≠ .tool) ∧
      transcriptCost session +
        cost (((stored.take (foldThrough stored).toNat).map replay).drop j) ≤
        characterBudget service session := by
    refine exists_congr fun j => and_congr_right fun hj => and_congr ?_ ?_
    · rw [List.getElem?_map, List.getElem?_take_of_lt (by omega)]
      cases stored[j]? with
      | none => simp
      | some m => simp [role_replay_eq_tool_iff]
    · rw [List.map_drop]
  rw [hfits, ← hshown, ShowsFrom, summaryRequest_eq]
  constructor
  · rintro ⟨front, hfront⟩
    rw [List.append_left_inj, List.map_drop] at hfront
    rcases List.append_eq_append_iff.mp hfront with ⟨rest, -, hrest⟩ | ⟨rest, hrest, hdrop⟩
    · exact ⟨rest, hrest⟩
    · -- a system message is no replayed message
      cases rest with
      | nil => exact ⟨[], by rw [hdrop]; rfl⟩
      | cons m rest =>
        have hsystem : m.role = .system :=
          pinned_system m (by rw [← transcriptPinned, hrest]; simp)
        have hmem : m ∈ (stored.take (foldThrough stored).toNat).map replay :=
          List.drop_subset _ _ (by rw [hdrop]; exact List.mem_cons_self)
        obtain ⟨m', -, rfl⟩ := List.mem_map.mp hmem
        exact absurd hsystem (role_replay_ne_system m')
  · rintro ⟨front, hfront⟩
    refine ⟨transcriptPinned session ++ front, ?_⟩
    rw [shownMessages, hfront, List.map_drop]
    simp only [List.append_assoc]

/-- A compaction loses nothing exactly when, if it stores a summary, the messages it adds to the
count fit. -/
theorem losesNothing_iff_fits :
    LosesNothing service session stored stream ↔
      (Summarises session stored stream → Fits service session stored) := by
  have hprevious : ∀ r ∈ requests (compact service session stored stream).effects,
      summaryMessage "A previous summary of still older turns:\n\n" session.summary ⊆ r.2.1 := by
    intro r hr
    have hr : r = (.summary, summaryRequest service session stored, none) := by
      rcases compact_cases service session stored stream with ⟨-, h⟩ | ⟨-, h | h⟩ <;>
        rw [h] at hr
      · exact List.mem_singleton.mp hr
      · cases hr
      · exact List.mem_singleton.mp hr
    rw [hr, summaryRequest_eq, List.append_assoc]
    exact fun m hm => List.mem_append_left _ (List.mem_cons_of_mem _ hm)
  rcases compact_cases service session stored stream with ⟨hsum, heffects⟩ | ⟨hsum, heffects⟩
  · rw [imp_iff_right hsum, ← showsFrom_summaryRequest_iff hsum.1]
    constructor
    · intro h
      have hb : session.summarisedMessageCount < (foldThrough stored).toNat := by
        have := hsum.1
        omega
      obtain ⟨r, hr, hshows⟩ :=
        h.shown (summaryOf stream) _ (by rw [heffects]; simp) _ (Nat.le_refl _) hb
      rw [heffects] at hr
      cases List.mem_singleton.mp hr
      exact hshows
    · intro hshows
      have hset : ∀ summary b, .setSummary summary b ∈
          (compact service session stored stream).effects → b = (foldThrough stored).toNat := by
        intro summary b hmem
        rw [heffects] at hmem
        simp only [List.mem_cons, reduceCtorEq, Effect.setSummary.injEq, List.not_mem_nil,
          false_or, or_false] at hmem
        exact hmem.2
      refine ⟨fun summary b hmem i hi hb => ?_, hprevious, fun summary b hmem => ?_, fun h => ?_⟩
      · rw [hset summary b hmem] at hb ⊢
        exact ⟨(.summary, summaryRequest service session stored, none),
          by rw [heffects]; exact List.mem_singleton.mpr rfl, hshows.of_le hi⟩
      · rw [hset summary b hmem]
        have hfold := hsum.1
        unfold foldThrough keepVerbatimMessages at *
        omega
      · rcases h with h | h
        · rw [hsum.2.1] at h
          cases h
        · exact absurd h hsum.2.2
  · have hnone : ∀ summary b, .setSummary summary b ∉
        (compact service session stored stream).effects := by
      intro summary b hmem
      rcases heffects with heffects | heffects <;> rw [heffects] at hmem <;> simp at hmem
    refine iff_of_true ⟨fun summary b hmem => absurd hmem (hnone summary b), hprevious,
      fun summary b hmem => absurd hmem (hnone summary b), fun _ => hnone⟩ fun h => absurd h hsum

end

/-! ## The life of a session -/

/-- A session, the conversation stored in it, and what its summarisers have been shown. -/
structure SessionState where
  session : ChatSession
  stored : List AssistantMessage := []
  asked : List (List ChatMessage) := []

namespace SessionState

/-- What an effect leaves behind. -/
def apply (s : SessionState) : Effect → SessionState
  | .persist message => { s with stored := s.stored ++ [message] }
  | .setSummary summary count =>
    { s with session := { s.session with summary := some summary, summarisedMessageCount := count } }
  | .streamChat .summary messages _ => { s with asked := s.asked ++ [messages] }
  | _ => s

/-- The state of the session behind some effects. -/
def after (s : SessionState) (effects : List Effect) : SessionState :=
  effects.foldl apply s

/-- Some summariser was shown the `i`-th stored message. -/
def WasShown (s : SessionState) (i : ℕ) : Prop :=
  ∃ request ∈ s.asked, ∃ b, i < b ∧ b ≤ s.stored.length ∧ ShowsFrom request s.stored i b

/-- The messages the summary stands for are stored, and a summariser was shown each of them. -/
structure Kept (s : SessionState) : Prop where
  count_le : s.session.summarisedMessageCount ≤ s.stored.length
  shown : ∀ i < s.session.summarisedMessageCount, s.WasShown i

/-- Messages that are stored later, and later requests, take nothing back. -/
lemma WasShown.mono {s s' : SessionState} {i : ℕ} (h : s.WasShown i)
    (hstored : s.stored <+: s'.stored) (hasked : s.asked ⊆ s'.asked) : s'.WasShown i := by
  obtain ⟨request, hrequest, b, hi, hb, front, hfront⟩ := h
  obtain ⟨more, hmore⟩ := hstored
  refine ⟨request, hasked hrequest, b, hi, ?_, front, ?_⟩
  · rw [← hmore, List.length_append]
    omega
  · rw [← hmore, List.take_append_of_le_length hb]
    exact hfront

/-- An effect that stores no summary keeps what is kept. -/
lemma Kept.apply {s : SessionState} (h : s.Kept) {e : Effect}
    (he : e.isSetSummary = false) : (s.apply e).Kept := by
  cases e with
  | persist message =>
    refine ⟨?_, fun i hi => (h.shown i hi).mono (List.prefix_append _ _) fun _ hr => hr⟩
    show s.session.summarisedMessageCount ≤ (s.stored ++ [message]).length
    have hcount := h.count_le
    rw [List.length_append]
    omega
  | setSummary summary count => cases he
  | streamChat purpose messages tools =>
    cases purpose with
    | reply => exact h
    | summary =>
      exact ⟨h.count_le, fun i hi =>
        (h.shown i hi).mono (List.prefix_refl _) (List.subset_append_left _ _)⟩
  | execute call => exact h
  | yield event => exact h

/-- Effects that store no summary keep what is kept. -/
lemma Kept.after {s : SessionState} (h : s.Kept) {effects : List Effect}
    (heffects : ∀ e ∈ effects, e.isSetSummary = false) :
    (s.after effects).Kept := by
  induction effects generalizing s with
  | nil => exact h
  | cons e effects ih =>
    exact ih (h.apply (heffects e (by simp))) fun e' he' => heffects e' (List.mem_cons_of_mem _ he')

/-- A summary that stands for messages that were shown. -/
lemma Kept.setSummary {s : SessionState} (h : s.Kept) {service : AssistantChatService}
    {summary : String} (hfold : s.session.summarisedMessageCount < foldThrough s.stored)
    (hfits : Fits service s.session s.stored) :
    (s.after [.streamChat .summary (summaryRequest service s.session s.stored) none,
      .setSummary summary (foldThrough s.stored).toNat]).Kept := by
  have hlength : (foldThrough s.stored).toNat ≤ s.stored.length := by
    unfold foldThrough keepVerbatimMessages
    omega
  refine ⟨hlength, fun i hi => ?_⟩
  rcases Nat.lt_or_ge i s.session.summarisedMessageCount with hlt | hge
  · exact (h.shown i hlt).mono (List.prefix_refl _) (List.subset_append_left _ _)
  · exact ⟨_, List.mem_append_right _ (List.mem_singleton.mpr rfl), _, hi, hlength,
      ((showsFrom_summaryRequest_iff hfold).mpr hfits).of_le hge⟩

/-- A compaction whose messages fit, if it stores a summary, done in part or in full. -/
lemma Kept.compact {s : SessionState} (h : s.Kept) {service : AssistantChatService}
    {stream : ProviderStream} {p : List Effect}
    (hp : p <+: (compact service s.session s.stored stream).effects)
    (hfits : Summarises s.session s.stored stream → Fits service s.session s.stored) :
    (s.after p).Kept := by
  rcases compact_cases service s.session s.stored stream with ⟨hsum, heffects⟩ | ⟨-, heffects⟩
  · rw [heffects] at hp
    rcases List.prefix_cons_iff.mp hp with rfl | ⟨q, rfl, hq⟩
    · exact h
    · rcases List.prefix_cons_iff.mp hq with rfl | ⟨r, rfl, hr⟩
      · exact h.apply (e := .streamChat .summary _ none) rfl
      · rw [List.prefix_nil.mp hr]
        exact h.setSummary hsum.1 (hfits hsum)
  · refine h.after fun e he => ?_
    have hmem := hp.subset he
    rcases heffects with heffects | heffects <;> rw [heffects] at hmem
    · cases hmem
    · rw [List.mem_singleton.mp hmem]
      rfl

variable [UnicodeDatabase]

omit [UnicodeDatabase] in
/-- The compaction before a turn and the rounds, done in part or in full. -/
lemma Kept.turnRest {s : SessionState} (h : s.Kept) {service : AssistantChatService}
    {input : TurnInput} {rest : ChatSession → Turn Unit} {p : List Effect}
    (hrest : ∀ session, ∀ e ∈ (rest session).effects, e.isSetSummary = false)
    (hp : p <+: (compactFirst service s.session s.stored input >>= rest).effects)
    (hfits : Compacts service s.session s.stored →
      Summarises s.session s.stored input.compaction → Fits service s.session s.stored) :
    (s.after p).Kept := by
  have hspec := compactFirst_spec service s.session s.stored input
  cases hspec with
  | idle hidle heffects hresult =>
    rw [Run.effects_bind_of_ok hresult, heffects, List.nil_append] at hp
    exact h.after fun e he => hrest _ e (hp.subset he)
  | raises hcompacts hraises heffects hresult =>
    rw [Run.effects_bind_of_error hresult, heffects] at hp
    refine h.after fun e he => ?_
    rw [List.mem_singleton.mp (hp.subset he)]
    rfl
  | blank hcompacts hraises heffects hresult =>
    rw [Run.effects_bind_of_ok hresult, heffects] at hp
    refine h.after fun e he => ?_
    rcases List.mem_append.mp (hp.subset he) with he | he
    · rw [List.mem_singleton.mp he]
      rfl
    · exact hrest _ e he
  | compacted hcompacts hraises hsummary heffects hresult =>
    rw [Run.effects_bind_of_ok hresult, heffects] at hp
    rcases List.prefix_cons_iff.mp hp with rfl | ⟨q, rfl, hq⟩
    · exact h
    · rcases List.prefix_cons_iff.mp hq with rfl | ⟨r, rfl, hr⟩
      · exact h.apply (e := .streamChat .summary _ none) rfl
      · have hset : (s.after [.streamChat .summary (summaryRequest service s.session s.stored) none,
            .setSummary (summaryOf input.compaction) (foldThrough s.stored).toNat]).Kept :=
          h.setSummary hcompacts.2 (hfits hcompacts ⟨hcompacts.2, hraises, hsummary⟩)
        refine (hset.after fun e he => ?_ : (SessionState.after _ r).Kept)
        rcases List.mem_append.mp (hr.subset he) with he | he
        · rw [List.mem_singleton.mp he]
          rfl
        · exact hrest _ e he

/-- A turn whose compaction meets the same condition, done in part or in full. -/
lemma Kept.turn {s : SessionState} (h : s.Kept) {service : AssistantChatService}
    {input : TurnInput} {p : List Effect}
    (hp : p <+: (handleUserMessage service s.session s.stored input).effects)
    (hfits : Compacts service s.session (withRequest s.stored input) →
      Summarises s.session (withRequest s.stored input) input.compaction →
      Fits service s.session (withRequest s.stored input)) :
    (s.after p).Kept := by
  cases hready : input.ready with
  | false =>
    rw [handleUserMessage_of_not_ready hready] at hp
    rw [List.prefix_nil.mp hp]
    exact h
  | true =>
    rw [handleUserMessage_of_ready _ _ _ hready, Run.mk_ok_bind, List.singleton_append] at hp
    rcases List.prefix_cons_iff.mp hp with rfl | ⟨q, rfl, hq⟩
    · exact h
    · have hs : (s.apply (.persist { role := .user, content := input.content })).Kept :=
        h.apply (e := .persist _) rfl
      exact hs.turnRest (fun _ _ he => isSetSummary_of_mem_rounds he) hq hfits

/-- The states of a session: it starts without messages, its settings may change, turns are
handled and compactions done on request, in part or in full; whatever is summarised fits. -/
inductive Reached : SessionState → Prop
  | start {session : ChatSession} (hcount : session.summarisedMessageCount = 0) :
      Reached { session }
  | settings {s : SessionState} {limit : Option ℤ} {supports : Bool} (h : Reached s) :
      Reached { s with session :=
        { s.session with contextLimitOverride := limit, supportsToolCalling := supports } }
  | turn {s : SessionState} {service : AssistantChatService} {input : TurnInput}
      {p : List Effect} (h : Reached s)
      (hp : p <+: (handleUserMessage service s.session s.stored input).effects)
      (hfits : Compacts service s.session (withRequest s.stored input) →
        Summarises s.session (withRequest s.stored input) input.compaction →
        Fits service s.session (withRequest s.stored input)) : Reached (s.after p)
  | compact {s : SessionState} {service : AssistantChatService} {stream : ProviderStream}
      {p : List Effect} (h : Reached s)
      (hp : p <+: (compact service s.session s.stored stream).effects)
      (hfits : Summarises s.session s.stored stream → Fits service s.session s.stored) :
      Reached (s.after p)

/-- In every state that is reached the summary keeps what it stands for. -/
theorem Reached.kept {s : SessionState} (h : Reached s) : s.Kept := by
  induction h with
  | start hcount =>
    refine ⟨?_, fun i hi => ?_⟩
    · rw [hcount]
      exact Nat.zero_le _
    · rw [hcount] at hi
      exact absurd hi (Nat.not_lt_zero i)
  | settings _ ih => exact ⟨ih.count_le, ih.shown⟩
  | turn _ hp hfits ih => exact ih.turn hp hfits
  | compact _ hp hfits ih => exact ih.compact hp hfits

end SessionState

/-- A compaction loses nothing exactly when the messages it adds to the count fit; and in a
session all of whose compactions meet that condition, every stored message is still replayed or
was shown to a summariser. -/
theorem compactions_lose_nothing_iff [UnicodeDatabase] :
    (∀ service session stored stream, LosesNothing service session stored stream ↔
      (Summarises session stored stream → Fits service session stored)) ∧
    ∀ s : SessionState, s.Reached → ∀ i < s.stored.length,
      s.session.summarisedMessageCount ≤ i ∨ s.WasShown i := by
  refine ⟨fun service session stored stream => losesNothing_iff_fits, fun s hs i _ => ?_⟩
  rcases Nat.lt_or_ge i s.session.summarisedMessageCount with hlt | hge
  · exact Or.inr (hs.kept.shown i hlt)
  · exact Or.inl hge

/-- The pinned messages without a summary are short. -/
lemma cost_transcriptPinned_le : cost (transcriptPinned {}) ≤ 2000 := by
  show cost [_] ≤ 2000
  rw [cost_cons, cost_nil, Int.add_zero]
  exact Int.ofNat_le.mpr length_compactionInstructions

/-- A short conversation fits whole. -/
theorem losesNothing_factsConversation :
    letI := asciiDatabase
    LosesNothing { instructions := "" } {} factsConversation
      ⟨[{ type := .token, content := some "core-1 runs 15.2." }], false⟩ := by
  let _ := asciiDatabase
  refine (compactions_lose_nothing_iff.1 _ _ _ _).mpr fun _ => ⟨0, Nat.le_refl _, ?_, ?_⟩
  · intro m hm
    cases hm
    decide
  · have hpinned := cost_transcriptPinned_le
    have hprompt : summaryPrompt.cost ≤ 100 := by decide
    have hshown : cost (((factsConversation.take (foldThrough factsConversation).toNat).drop
        0).map replay) ≤ 100 := by decide
    rw [transcriptCost, show characterBudget { instructions := "" } {} = 128000 from rfl]
    omega

/-- A message as long as the whole default budget. -/
def longMessage : AssistantMessage where
  role := .user
  content := String.ofList (List.replicate 128000 'x')

/-- The long message costs as much as the whole transcript may. -/
lemma cost_longMessage : (replay longMessage).cost = 128000 := by
  show ((String.ofList (List.replicate 128000 'x')).toList.length : ℤ) = 128000
  rw [String.toList_ofList, List.length_replicate]
  rfl

/-- A first message as long as the whole budget is counted as summarised without being shown. -/
theorem not_losesNothing_longMessage :
    ¬LosesNothing { instructions := "" } {} (longMessage :: factsConversation)
      ⟨[{ type := .token, content := some "core-1 runs 15.2." }], false⟩ := by
  rw [losesNothing_iff_fits]
  intro h
  obtain ⟨j, hj, -, hfits⟩ := h ⟨by decide, rfl, by decide⟩
  obtain rfl : j = 0 := Nat.le_zero.mp hj
  have htake : ((longMessage :: factsConversation).take
      (foldThrough (longMessage :: factsConversation)).toNat).drop 0 =
      longMessage :: factsConversation.take 2 := rfl
  have hpinned := cost_nonneg (transcriptPinned {})
  have hprompt : 0 < summaryPrompt.cost := by decide
  have hrest := cost_nonneg ((factsConversation.take 2).map replay)
  rw [htake, List.map_cons, cost_cons, cost_longMessage, transcriptCost,
    show characterBudget { instructions := "" } {} = 128000 from rfl] at hfits
  omega

end Terraformer.Assistant
