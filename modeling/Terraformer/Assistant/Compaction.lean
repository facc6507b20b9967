import Terraformer.Assistant.Rounds

/-!
# Compaction

What one compaction does in each of the ways it can end, and the compaction before a turn.
-/

namespace Terraformer.Assistant

open Text

section

variable {service : AssistantChatService} {session : ChatSession} {stored : List AssistantMessage}
  {stream : ProviderStream}

/-- The request of a compaction: what the summariser is shown. -/
def summaryRequest (service : AssistantChatService) (session : ChatSession)
    (stored : List AssistantMessage) : List ChatMessage :=
  trimToContextLimit (compactionTranscript session stored) (some (budgetTokens service session))

/-- The summary a stream gives. -/
def summaryOf (stream : ProviderStream) : String :=
  strip (String.join (tokensOf stream.chunks))

/-- Nothing is asked when there is nothing new to fold. -/
lemma compact_of_le (h : foldThrough stored ≤ session.summarisedMessageCount) :
    compact service session stored stream = ⟨[], .ok none⟩ := by
  rw [compact, if_pos h]
  rfl

/-- A summariser that fails changes nothing. -/
lemma compact_of_raises (h : session.summarisedMessageCount < foldThrough stored)
    (hraises : stream.raises = true) :
    compact service session stored stream =
      ⟨[.streamChat .summary (summaryRequest service session stored) none], .error .provider⟩ := by
  rw [compact, if_neg (by omega), hraises]
  rfl

/-- A summariser that returns nothing changes nothing. -/
lemma compact_of_blank (h : session.summarisedMessageCount < foldThrough stored)
    (hraises : stream.raises = false) (hblank : summaryOf stream = "") :
    compact service session stored stream =
      ⟨[.streamChat .summary (summaryRequest service session stored) none], .ok none⟩ := by
  unfold summaryOf at hblank
  rw [compact, if_neg (by omega), hraises]
  simp only [hblank]
  rfl

/-- A summary is stored together with the count of the messages it stands for. -/
lemma compact_of_summary (h : session.summarisedMessageCount < foldThrough stored)
    (hraises : stream.raises = false) (hsummary : summaryOf stream ≠ "") :
    compact service session stored stream =
      ⟨[.streamChat .summary (summaryRequest service session stored) none,
        .setSummary (summaryOf stream) (foldThrough stored).toNat],
        .ok (some (summaryOf stream))⟩ := by
  unfold summaryOf at hsummary ⊢
  rw [compact, if_neg (by omega), hraises]
  refine Run.ext ?_ ?_ <;> simp [hsummary, summaryRequest]

/-! ## Before a turn -/

variable {input : TurnInput}

/-- The compaction before a turn asks for a summary. -/
def Compacts (service : AssistantChatService) (session : ChatSession)
    (stored : List AssistantMessage) : Prop :=
  needsCompaction service session stored = true ∧
    session.summarisedMessageCount < foldThrough stored

/-- No compaction before the turn fails. -/
def ReachesRounds (service : AssistantChatService) (session : ChatSession)
    (stored : List AssistantMessage) (input : TurnInput) : Prop :=
  Compacts service session stored → ¬input.compaction.raises = true

/-- How the compaction before a turn ends: it is not called for; it fails; its summary is blank;
or its summary is stored and reported. -/
inductive CompactFirst (service : AssistantChatService) (session : ChatSession)
    (stored : List AssistantMessage) (input : TurnInput) (run : Turn ChatSession) : Prop
  | idle (hidle : ¬Compacts service session stored) (heffects : run.effects = [])
      (hresult : run.result = .ok session)
  | raises (hcompacts : Compacts service session stored) (hraises : input.compaction.raises = true)
      (heffects : run.effects =
        [.streamChat .summary (summaryRequest service session stored) none])
      (hresult : run.result = .error .provider)
  | blank (hcompacts : Compacts service session stored) (hraises : input.compaction.raises = false)
      (heffects : run.effects =
        [.streamChat .summary (summaryRequest service session stored) none])
      (hresult : run.result = .ok session)
  | compacted (hcompacts : Compacts service session stored)
      (hraises : input.compaction.raises = false) (hsummary : summaryOf input.compaction ≠ "")
      (heffects : run.effects =
        [.streamChat .summary (summaryRequest service session stored) none,
          .setSummary (summaryOf input.compaction) (foldThrough stored).toNat,
          .yield (.compacted (summaryOf input.compaction) (foldThrough stored).toNat)])
      (hresult : run.result = .ok { session with
        summary := some (summaryOf input.compaction)
        summarisedMessageCount := (foldThrough stored).toNat })

/-- How a turn begins that may have to compact first. -/
theorem compactFirst_spec (service : AssistantChatService) (session : ChatSession)
    (stored : List AssistantMessage) (input : TurnInput) :
    CompactFirst service session stored input (compactFirst service session stored input) := by
  unfold compactFirst
  by_cases hneeds : needsCompaction service session stored = true
  · rw [if_pos hneeds]
    rcases lt_or_ge (session.summarisedMessageCount : ℤ) (foldThrough stored) with hfold | hfold
    · cases hraises : input.compaction.raises with
      | true =>
        rw [compact_of_raises hfold hraises]
        exact .raises ⟨hneeds, hfold⟩ hraises rfl rfl
      | false =>
        by_cases hsummary : summaryOf input.compaction = ""
        · rw [compact_of_blank hfold hraises hsummary]
          exact .blank ⟨hneeds, hfold⟩ hraises rfl rfl
        · rw [compact_of_summary hfold hraises hsummary]
          exact .compacted ⟨hneeds, hfold⟩ hraises hsummary rfl rfl
    · rw [compact_of_le hfold]
      exact .idle (fun h => absurd h.2 (by omega)) rfl rfl
  · rw [if_neg hneeds]
    exact .idle (fun h => hneeds h.1) rfl rfl

/-! ## A turn -/

/-- The conversation as a turn finds it once its user message is stored. -/
def withRequest (stored : List AssistantMessage) (input : TurnInput) : List AssistantMessage :=
  stored ++ [{ role := .user, content := input.content }]

/-- The history a turn starts its rounds with. -/
def firstHistory (service : AssistantChatService) (session : ChatSession)
    (stored : List AssistantMessage) : List ChatMessage :=
  trimToContextLimit (buildHistory service session stored) (some (budgetTokens service session))

variable [UnicodeDatabase]

/-- Without a provider that is ready the turn raises at once. -/
lemma handleUserMessage_of_not_ready (h : input.ready = false) :
    handleUserMessage service session stored input = ⟨[], .error .notReady⟩ := by
  rw [handleUserMessage, h]
  rfl

variable (service session stored) in
/-- A turn stores its user message, compacts, and goes through its rounds. -/
lemma handleUserMessage_of_ready (h : input.ready = true) :
    handleUserMessage service session stored input =
      (⟨[.persist { role := .user, content := input.content }], .ok ()⟩ : Turn Unit) >>= fun _ =>
        compactFirst service session (withRequest stored input) input >>= fun session =>
          rounds service session input (maxToolRoundsPerTurn + 1)
            (firstHistory service session (withRequest stored input)) 0 := by
  rw [handleUserMessage, h]
  rfl

end

end Terraformer.Assistant
