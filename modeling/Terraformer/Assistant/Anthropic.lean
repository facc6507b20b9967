import Terraformer.Assistant.Messages
import Terraformer.Text.JsonReader

/-!
# Anthropic's messages

Anthropic takes the system prompt beside the messages, a tool call as a block of an assistant
turn, and the answers to a turn's calls as the blocks of one user turn.  The translation keeps a
settled conversation: every text, call and answer once and in order (`Item`), and the answers to
a turn's calls directly behind it (`ResultsFollow`).
-/

namespace Terraformer.Assistant

open Exchange Text

/-- A block of a turn's content. -/
inductive ContentBlock where
  | text (text : String)
  | toolUse (id name : String) (input : JsonObject)
  | toolResult (toolUseId content : String)

/-- The roles of the Anthropic messages. -/
inductive AnthropicRole where
  | user
  | assistant
  deriving DecidableEq, Repr

/-- The content of a message: a text or blocks. -/
inductive AnthropicContent where
  | text (text : String)
  | blocks (blocks : List ContentBlock)

/-- A message as it is sent to Anthropic. -/
structure AnthropicMessage where
  role : AnthropicRole
  content : AnthropicContent

/-- `_split_system`: the system prompt and the other messages. -/
def splitSystem (messages : List ChatMessage) : Option String × List ChatMessage :=
  let systemParts := (messages.filter fun m => m.role = .system).map fun m => m.content
  let joined := "\n\n".intercalate systemParts
  (if joined = "" then none else some joined, messages.filter fun m => m.role ≠ .system)

/-- `_decode_arguments`, of a text.  What `json.loads` raises for an integer with too many digits
is no `JSONDecodeError` and goes on. -/
def decodeArguments (raw : String) : Except JsonError JsonObject :=
  match loads (if raw = "" then "\x7b\x7d" else raw) with
  | .ok (.obj fields) => .ok fields
  | .ok _ => .ok []
  | .error .decode => .ok []
  | .error .tooManyDigits => .error .tooManyDigits

/-- The block of a call. -/
def toolUse (call : FunctionCall) : Except JsonError ContentBlock :=
  (decodeArguments call.arguments).map fun input => .toolUse call.id call.name input

/-- The blocks of an assistant turn. -/
def assistantBlocks (message : ChatMessage) : Except JsonError (List ContentBlock) :=
  ((message.toolCalls.getD []).mapM toolUse).map fun calls =>
    (if message.content = "" then [] else [.text message.content]) ++ calls

/-- `flush_tool_results` -/
def flushToolResults (converted : List AnthropicMessage) (pending : List ContentBlock) :
    List AnthropicMessage :=
  if pending.isEmpty then converted else converted ++ [⟨.user, .blocks pending⟩]

/-- The loop of `_to_anthropic_messages`, with `converted` and `pending_tool_results`. -/
def convertMessages (converted : List AnthropicMessage) (pending : List ContentBlock) :
    List ChatMessage → Except JsonError (List AnthropicMessage)
  | [] => .ok (flushToolResults converted pending)
  | message :: messages =>
    match message.role with
    | .tool =>
      convertMessages converted
        (pending ++ [.toolResult (message.toolCallId.getD "") message.content]) messages
    | .assistant => do
      let blocks ← assistantBlocks message
      let flushed := flushToolResults converted pending
      -- a turn without text and calls is dropped
      convertMessages (if blocks.isEmpty then flushed else flushed ++ [⟨.assistant, .blocks blocks⟩])
        [] messages
    | .user | .system =>
      convertMessages (flushToolResults converted pending ++ [⟨.user, .text message.content⟩]) []
        messages

/-- `_to_anthropic_messages` -/
def toAnthropicMessages (messages : List ChatMessage) : Except JsonError (List AnthropicMessage) :=
  convertMessages [] [] messages

/-! ## What a conversation says -/

/-- A text, a call or an answer. -/
inductive Item where
  | said (role : AnthropicRole) (text : String)
  | called (id name : String) (input : JsonObject)
  | answered (id content : String)

/-- The items of a stored message; an assistant's empty text is none. -/
def AssistantMessage.items (message : AssistantMessage) : List Item :=
  match message.role with
  | .user => [.said .user message.content]
  | .assistant =>
    (if message.content = "" then [] else [.said .assistant message.content]) ++
      message.calls.map fun call => .called call.id call.name call.arguments
  | .tool => [.answered (message.toolCallId.getD "") message.content]

/-- What a block says, calls or answers. -/
def ContentBlock.item (role : AnthropicRole) : ContentBlock → Item
  | .text said => .said role said
  | .toolUse id name input => .called id name input
  | .toolResult id content => .answered id content

/-- The items of a turn. -/
def AnthropicMessage.items (message : AnthropicMessage) : List Item :=
  match message.content with
  | .text text => [.said message.role text]
  | .blocks blocks => blocks.map (ContentBlock.item message.role)

/-- The ids of the calls of a turn. -/
def AnthropicMessage.callIds (message : AnthropicMessage) : List String :=
  match message.content with
  | .text _ => []
  | .blocks blocks => blocks.filterMap fun
    | .toolUse id _ _ => some id
    | _ => none

/-- Every assistant turn with calls is followed by one user turn with one answer to each. -/
def ResultsFollow : List AnthropicMessage → Prop
  | [] => True
  | turn :: turns =>
    (turn.role = .assistant → turn.callIds ≠ [] →
      ∃ answers : List (String × String), ∃ rest,
        turns = ⟨.user, .blocks (answers.map fun a => .toolResult a.1 a.2)⟩ :: rest ∧
          (answers.map Prod.fst).Perm turn.callIds) ∧
      ResultsFollow turns

/-- An assistant turn has blocks. -/
def AnthropicMessage.HasBlocks (message : AnthropicMessage) : Prop :=
  message.role = .assistant → ∃ block blocks, message.content = .blocks (block :: blocks)

/-- A message of a history: a system message or a stored one. -/
inductive HistoryMessage where
  | system (content : String)
  | stored (message : AssistantMessage)

namespace HistoryMessage

/-- The message as the provider's client gets it. -/
def chat : HistoryMessage → ChatMessage
  | .system content => { role := .system, content }
  | .stored message => replay message

/-- The text of a system message. -/
def systemText : HistoryMessage → Option String
  | .system content => some content
  | .stored _ => none

/-- The stored message, if it is one. -/
def message : HistoryMessage → Option AssistantMessage
  | .system _ => none
  | .stored message => some message

end HistoryMessage

/-- The arguments of every announced call are a JSON object. -/
def ArgumentsValid (messages : List AssistantMessage) : Prop :=
  ∀ message ∈ messages, ∀ call ∈ message.calls, (Json.obj call.arguments).Valid

/-! ## The translation -/

/-- A printed object is not the empty text. -/
lemma quote_ne (fields : JsonObject) : dumps (.obj fields) ≠ "" := by
  intro h
  have hlength := congrArg (fun text : String => text.toList.length) h
  rw [dumps] at hlength
  simp at hlength

/-- The arguments of a call come back as they were. -/
lemma decodeArguments_dumps {arguments : JsonObject} (h : (Json.obj arguments).Valid) :
    decodeArguments (dumps (.obj arguments)) = .ok arguments := by
  rw [decodeArguments, if_neg (quote_ne arguments), loads_dumps h]

/-- The tool calls come back from their printed form. -/
lemma mapM_toolUse {calls : List ToolCallRequest}
    (h : ∀ call ∈ calls, (Json.obj call.arguments).Valid) :
    (toOpenaiToolCalls calls).mapM toolUse =
      .ok (calls.map fun call => .toolUse call.id call.name call.arguments) := by
  induction calls with
  | nil => rfl
  | cons call calls ih =>
    have hcall := decodeArguments_dumps (h call (by simp))
    have hcalls := ih fun call hcall => h call (by simp [hcall])
    simp only [toOpenaiToolCalls, List.map_cons, List.mapM_cons, toolUse, hcall] at hcalls ⊢
    rw [hcalls]
    rfl

/-- The blocks of an assistant message. -/
def AssistantMessage.blocks (m : AssistantMessage) : List ContentBlock :=
  (if m.content = "" then [] else [.text m.content]) ++
    m.calls.map fun call => .toolUse call.id call.name call.arguments

/-- An assistant message becomes its own blocks. -/
lemma assistantBlocks_assistantMessage {m : AssistantMessage}
    (h : ∀ call ∈ m.calls, (Json.obj call.arguments).Valid) :
    assistantBlocks (assistantMessage m.content m.calls) = .ok m.blocks := by
  have hcalls : (assistantMessage m.content m.calls).toolCalls.getD [] =
      toOpenaiToolCalls m.calls := by
    cases hcalls : m.calls <;> rfl
  rw [assistantBlocks, hcalls, mapM_toolUse h]
  rfl

/-- What the translation of a stretch of the conversation adds. -/
structure Translates (messages : List AssistantMessage) (turns : List AnthropicMessage) : Prop where
  items : turns.flatMap AnthropicMessage.items = messages.flatMap AssistantMessage.items
  follow : ResultsFollow turns
  hasBlocks : ∀ turn ∈ turns, turn.HasBlocks

/-- The answers to a turn's calls wait to be flushed. -/
lemma convertMessages_answers {answers : List AssistantMessage}
    (h : ∀ m ∈ answers, m.kind.isAnswer = true) (converted : List AnthropicMessage)
    (pending : List ContentBlock) (messages : List ChatMessage) :
    convertMessages converted pending (answers.map replay ++ messages) =
      convertMessages converted (pending ++
        answers.map fun m => .toolResult (m.toolCallId.getD "") m.content) messages := by
  induction answers generalizing pending with
  | nil => simp
  | cons m answers ih =>
    have hrole : m.role = .tool := by
      have hm := h m (by simp)
      unfold AssistantMessage.kind at hm
      split at hm <;> first | assumption | cases hm
    have hreplay : (replay m).role = .tool ∧ (replay m).toolCallId = m.toolCallId ∧
        (replay m).content = m.content := by
      simp [replay, hrole]
    rw [List.map_cons, List.cons_append, convertMessages, hreplay.1]
    simp only [hreplay.2.1, hreplay.2.2]
    rw [ih fun m hm => h m (by simp [hm])]
    simp

/-- The turn of an assistant message, when it has one. -/
def assistantTurn (m : AssistantMessage) : List AnthropicMessage :=
  if m.blocks.isEmpty then [] else [⟨.assistant, .blocks m.blocks⟩]

/-- The turn of the answers to a message's calls, when there are any. -/
def answerTurn (answers : List AssistantMessage) : List AnthropicMessage :=
  flushToolResults [] (answers.map fun m => .toolResult (m.toolCallId.getD "") m.content)

/-- The flushed results are put behind what is converted already. -/
lemma flushToolResults_eq (converted : List AnthropicMessage) (pending : List ContentBlock) :
    flushToolResults converted pending = converted ++ flushToolResults [] pending := by
  unfold flushToolResults
  split <;> simp

/-- The id that an answer of a settled conversation names. -/
def answerId : Kind (Option String) → String
  | .answer id => id.getD ""
  | _ => ""

section Exchange

variable {m : AssistantMessage} {answers : List AssistantMessage}
  {calls : List (Option String)}

/-- The answers name the calls' ids, each once. -/
lemma perm_answerIds (hm : m.kind = .announce calls)
    (hanswers : (answers.map AssistantMessage.kind).Perm (calls.map .answer)) :
    (answers.map fun a => a.toolCallId.getD "").Perm (m.calls.map fun call => call.id) := by
  have hperm := hanswers.map answerId
  have hids : (answers.map AssistantMessage.kind).map answerId =
      answers.map fun a => a.toolCallId.getD "" := by
    rw [List.map_map]
    refine List.map_congr_left fun a ha => ?_
    have hrole := role_of_isAnswer (isAnswer_of_perm hanswers ha)
    simp [AssistantMessage.kind, hrole, answerId]
  rw [hids, (role_of_kind_announce hm).2] at hperm
  simpa [Function.comp_def, answerId] using hperm

/-- The turn of an assistant message says what the message does. -/
lemma items_assistantTurn (hrole : m.role = .assistant) :
    (assistantTurn m).flatMap AnthropicMessage.items = m.items := by
  have hitems : m.items = m.blocks.map (ContentBlock.item .assistant) := by
    simp only [AssistantMessage.items, hrole, AssistantMessage.blocks, List.map_append,
      List.map_map]
    congr 1
    · split <;> rfl
  unfold assistantTurn
  split
  · next h => rw [hitems, List.isEmpty_iff.mp h]; rfl
  · rw [hitems]
    simp [AnthropicMessage.items]

/-- The turn of the answers answers what they do. -/
lemma items_answerTurn (hanswers : ∀ a ∈ answers, a.role = .tool) :
    (answerTurn answers).flatMap AnthropicMessage.items =
      answers.flatMap AssistantMessage.items := by
  have hitems : answers.flatMap AssistantMessage.items =
      answers.map fun a => .answered (a.toolCallId.getD "") a.content := by
    rw [List.map_eq_flatMap]
    refine List.flatMap_congr fun a ha => ?_
    simp [AssistantMessage.items, hanswers a ha]
  unfold answerTurn flushToolResults
  split
  · next h =>
    obtain rfl : answers = [] := by simpa using h
    rfl
  · rw [hitems]
    simp [AnthropicMessage.items, Function.comp_def, ContentBlock.item]

/-- The calls in the blocks are those of the message. -/
lemma callIds_blocks : (AnthropicMessage.mk .assistant (.blocks m.blocks)).callIds =
    m.calls.map fun call => call.id := by
  have htext : ∀ content : String,
      (if content = "" then [] else [ContentBlock.text content]).filterMap
        (fun | .toolUse id _ _ => some id | _ => none) = [] := by
    intro content
    split <;> rfl
  simp only [AnthropicMessage.callIds, AssistantMessage.blocks, List.filterMap_append, htext,
    List.nil_append, List.filterMap_map]
  exact congrFun (List.filterMap_eq_map (f := fun call : ToolCallRequest => call.id)) m.calls

/-- The turn of the answers is no assistant turn. -/
lemma answerTurn_cases (answers : List AssistantMessage) :
    (answers = [] ∧ answerTurn answers = []) ∨
      answerTurn answers = [⟨.user, .blocks
        ((answers.map fun a => (a.toolCallId.getD "", a.content)).map
          fun a => .toolResult a.1 a.2)⟩] := by
  unfold answerTurn flushToolResults
  split
  · next h => exact Or.inl ⟨by simpa using h, rfl⟩
  · exact Or.inr (by simp)

/-- A turn of answers has no calls of its own that would have to be followed. -/
lemma resultsFollow_answerTurn (answers : List AssistantMessage) {turns : List AnthropicMessage}
    (h : ResultsFollow turns) : ResultsFollow (answerTurn answers ++ turns) := by
  rcases answerTurn_cases answers with ⟨-, heq⟩ | heq <;> rw [heq]
  · exact h
  · exact ⟨nofun, h⟩

/-- An announcement with its answers, in front of translated turns. -/
lemma translates_announce {messages : List AssistantMessage} {turns : List AnthropicMessage}
    (hm : m.kind = .announce calls)
    (hanswers : (answers.map AssistantMessage.kind).Perm (calls.map .answer))
    (h : Translates messages turns) :
    Translates (m :: (answers ++ messages)) (assistantTurn m ++ (answerTurn answers ++ turns)) := by
  have hrole := (role_of_kind_announce hm).1
  have hperm := perm_answerIds hm hanswers
  have htools : ∀ a ∈ answers, a.role = .tool := fun a ha =>
    role_of_isAnswer (isAnswer_of_perm hanswers ha)
  have hbehind := resultsFollow_answerTurn answers h.follow
  refine ⟨?_, ?_, ?_⟩
  · rw [List.flatMap_append, List.flatMap_append, items_assistantTurn hrole,
      items_answerTurn htools, h.items, List.flatMap_cons, List.flatMap_append]
  · unfold assistantTurn
    split
    · exact hbehind
    · refine ⟨fun _ hcalls => ?_, hbehind⟩
      rw [callIds_blocks] at hcalls ⊢
      rcases answerTurn_cases answers with ⟨rfl, -⟩ | heq
      · exact absurd (List.nil_perm.mp hperm) hcalls
      · exact ⟨_, turns, by rw [heq]; rfl, by simpa [Function.comp_def] using hperm⟩
  · intro turn hturn
    rcases List.mem_append.mp hturn with hturn | hturn
    · unfold assistantTurn at hturn
      split at hturn
      · cases hturn
      · next hblocks =>
        obtain ⟨block, blocks, heq⟩ := List.exists_cons_of_ne_nil
          fun hnil => hblocks (List.isEmpty_iff.mpr hnil)
        obtain rfl := List.mem_singleton.mp hturn
        exact fun _ => ⟨block, blocks, by rw [heq]⟩
    rcases List.mem_append.mp hturn with hturn | hturn
    · rcases answerTurn_cases answers with ⟨-, heq⟩ | heq <;> rw [heq] at hturn
      · cases hturn
      · obtain rfl := List.mem_singleton.mp hturn
        exact nofun
    · exact h.hasBlocks turn hturn

end Exchange

/-- A settled stretch adds its own turns, behind what waits to be flushed. -/
lemma convertMessages_settled {messages : List AssistantMessage} (h : Replayable messages)
    (hvalid : ArgumentsValid messages) (converted : List AnthropicMessage)
    (pending : List ContentBlock) :
    ∃ turns, convertMessages converted pending (messages.map replay) =
      .ok (flushToolResults converted pending ++ turns) ∧ Translates messages turns := by
  induction h generalizing converted pending with
  | nil => exact ⟨[], by simp [convertMessages], rfl, trivial, by simp⟩
  | @plain m messages hm hl ih =>
    have hrole : m.role = .user := by
      unfold AssistantMessage.kind at hm
      split at hm <;> first | assumption | cases hm
    have hreplay : replay m = { role := .user, content := m.content } := by
      simp [replay, hrole]
    obtain ⟨turns, hturns, htranslates⟩ := ih (fun m hm => hvalid m (by simp [hm]))
      (flushToolResults converted pending ++ [⟨.user, .text m.content⟩]) []
    refine ⟨⟨.user, .text m.content⟩ :: turns, ?_, ?_, ⟨nofun, htranslates.follow⟩, ?_⟩
    · rw [List.map_cons, hreplay, convertMessages]
      simpa [flushToolResults] using hturns
    · simp [htranslates.items, AnthropicMessage.items, AssistantMessage.items, hrole]
    · rintro turn (_ | ⟨_, hturn⟩)
      · exact nofun
      · exact htranslates.hasBlocks turn hturn
  | @announce m calls answers messages hm hanswers hl ih =>
    obtain ⟨turns, hturns, htranslates⟩ := ih (fun m hm => hvalid m (by simp [hm]))
      (flushToolResults converted pending ++ assistantTurn m)
      (answers.map fun m => .toolResult (m.toolCallId.getD "") m.content)
    refine ⟨assistantTurn m ++ (answerTurn answers ++ turns), ?_,
      translates_announce hm hanswers htranslates⟩
    have hreplay : replay m = assistantMessage m.content m.calls := by
      simp [replay, (role_of_kind_announce hm).1]
    have hblocks := assistantBlocks_assistantMessage (hvalid m (by simp))
    have hturn : (if m.blocks.isEmpty then flushToolResults converted pending
        else flushToolResults converted pending ++ [⟨.assistant, .blocks m.blocks⟩]) =
        flushToolResults converted pending ++ assistantTurn m := by
      unfold assistantTurn
      split <;> simp
    rw [List.map_cons, List.map_append, convertMessages, hreplay, hblocks]
    show convertMessages (if m.blocks.isEmpty then flushToolResults converted pending
      else flushToolResults converted pending ++ [⟨.assistant, .blocks m.blocks⟩]) _ _ = _
    rw [hturn, convertMessages_answers (fun a ha => isAnswer_of_perm hanswers ha), List.nil_append,
      hturns, flushToolResults_eq, List.append_assoc, List.append_assoc]
    rfl

/-! ## Every conversation -/

/-- The system texts of the history are those that are split off. -/
lemma system_parts (history : List HistoryMessage) :
    ((history.map HistoryMessage.chat).filter fun m => m.role = .system).map (fun m => m.content) =
      history.filterMap HistoryMessage.systemText := by
  induction history with
  | nil => rfl
  | cons m history ih =>
    cases m with
    | system content => exact congrArg (content :: ·) ih
    | stored message =>
      have hrole : decide ((replay message).role = .system) = false := by
        simpa using role_replay_ne_system message
      rw [List.map_cons, HistoryMessage.chat, List.filter_cons_of_neg (by simp [hrole]), ih]
      rfl

/-- Without the system messages the stored ones are left. -/
lemma system_rest (history : List HistoryMessage) :
    (history.map HistoryMessage.chat).filter (fun m => m.role ≠ .system) =
      (history.filterMap HistoryMessage.message).map replay := by
  induction history with
  | nil => rfl
  | cons m history ih =>
    cases m with
    | system content => exact ih
    | stored message =>
      have hrole := role_replay_ne_system message
      rw [List.map_cons, HistoryMessage.chat, List.filter_cons_of_pos (by simpa using hrole), ih]
      rfl

/-- The translation of a settled conversation, system messages anywhere in it. -/
theorem toAnthropicMessages_settled (history : List HistoryMessage)
    (h : Replayable (history.filterMap HistoryMessage.message))
    (hvalid : ArgumentsValid (history.filterMap HistoryMessage.message)) :
    (splitSystem (history.map HistoryMessage.chat)).1.getD "" =
        "\n\n".intercalate (history.filterMap HistoryMessage.systemText) ∧
      ∃ turns, toAnthropicMessages (splitSystem (history.map HistoryMessage.chat)).2 = .ok turns ∧
        turns.flatMap AnthropicMessage.items =
          (history.filterMap HistoryMessage.message).flatMap AssistantMessage.items ∧
        ResultsFollow turns ∧ ∀ turn ∈ turns, turn.HasBlocks := by
  constructor
  · simp only [splitSystem, system_parts]
    split
    · next hempty => rw [hempty]; rfl
    · rfl
  · obtain ⟨turns, hturns, htranslates⟩ := convertMessages_settled h hvalid [] []
    refine ⟨turns, ?_, htranslates.items, htranslates.follow, htranslates.hasBlocks⟩
    rw [toAnthropicMessages]
    simp only [splitSystem, system_rest]
    exact hturns

/-- A message with two tool calls. -/
def parallelAsk : AssistantMessage :=
  ⟨.assistant, "", [⟨"a", "show", [("port", .str "Gi1/0/1"), ("retries", .int (-2))]⟩,
    ⟨"b", "show", [("port", .arr [.null, .float "1.5e-07"])]⟩], none⟩

/-- Two calls of one turn, answered in the other order, with a system message between. -/
def parallelCalls : List HistoryMessage :=
  [.system "Be brief.", .stored ⟨.user, "Compare the two.", [], none⟩, .stored parallelAsk,
    .stored ⟨.tool, "up", [], some "b"⟩, .system "Ports first.",
    .stored ⟨.tool, "down", [], some "a"⟩]

/-- Two parallel calls are answered in the one turn behind them. -/
theorem toAnthropicMessages_parallelCalls :
    ∃ turns, toAnthropicMessages (splitSystem (parallelCalls.map HistoryMessage.chat)).2 =
      .ok turns ∧ ResultsFollow turns := by
  have hcalls : Replayable [parallelAsk, ⟨.tool, "up", [], some "b"⟩,
      ⟨.tool, "down", [], some "a"⟩] := by
    refine (settled_announce_iff (m := parallelAsk) rfl ?_).mpr ?_
    · intro a ha
      simp only [List.mem_cons, List.not_mem_nil, or_false] at ha
      rcases ha with rfl | rfl <;> rfl
    · exact List.Perm.swap _ _ _
  have hsettled : Replayable (parallelCalls.filterMap HistoryMessage.message) := by
    have hasked := Settled.plain (m := ⟨.user, "Compare the two.", [], none⟩) rfl hcalls
    exact hasked
  have hfloat : FloatLiteral (String.ofList ([] ++ ['1'] ++ ['.', '5'] ++
      'e' :: (['-'] ++ ['0', '7']))) :=
    .number (Or.inl rfl) ⟨by simp, by simp⟩ (by simp) (Or.inr ⟨['5'], rfl, by simp⟩)
      (Or.inr ⟨['-'], ['0', '7'], rfl, by simp⟩) (by simp)
  have hvalid : ArgumentsValid (parallelCalls.filterMap HistoryMessage.message) := by
    intro message hmessage call hcall
    simp only [parallelCalls, List.filterMap_cons, HistoryMessage.message, List.filterMap_nil,
      List.mem_cons, List.not_mem_nil, or_false] at hmessage
    rcases hmessage with rfl | rfl | rfl | rfl
    · simp at hcall
    · simp only [parallelAsk, List.mem_cons, List.not_mem_nil, or_false] at hcall
      rcases hcall with rfl | rfl
      · have hdigits : (Nat.repr 2).length ≤ 4300 := by decide
        simpa [Json.Valid, ValidFields, maxDigits] using hdigits
      · simpa [Json.Valid, ValidFields, ValidItems] using hfloat
    · simp at hcall
    · simp at hcall
  obtain ⟨turns, hturns, -, hanswered, -⟩ :=
    (toAnthropicMessages_settled parallelCalls hsettled hvalid).2
  exact ⟨turns, hturns, hanswered⟩

end Terraformer.Assistant
