import Terraformer.Exchange
import Terraformer.Text.Json

/-!
# Messages of a conversation

The messages a session stores, the messages a provider is sent, and the replay of the first as
the second.  Both say which tool calls an assistant message announces and which call a tool
message answers, so both are exchanges of calls and answers, and the replay keeps them so.
-/

namespace Terraformer.Assistant

open Exchange Text

/-- A tool call as a provider announces it. -/
structure ToolCallRequest where
  id : String
  name : String
  arguments : JsonObject

/-- The roles of the stored messages. -/
inductive MessageRole where
  | user
  | assistant
  | tool
  deriving DecidableEq, Repr

/-- A stored message: `calls` and `toolCallId` are the two shapes its tool calls are stored
in. -/
structure AssistantMessage where
  role : MessageRole
  content : String
  calls : List ToolCallRequest := []
  toolCallId : Option String := none

/-- The roles of the messages to a provider. -/
inductive ChatRole where
  | system
  | user
  | assistant
  | tool
  deriving DecidableEq, Repr

/-- A tool call as the chat contract expects it back, its arguments written as JSON. -/
structure FunctionCall where
  id : String
  name : String
  arguments : String
  deriving DecidableEq, Repr

/-- A message of a provider request. -/
structure ChatMessage where
  role : ChatRole
  content : String
  toolCallId : Option String := none
  toolCalls : Option (List FunctionCall) := none
  deriving DecidableEq, Repr

/-- `_to_openai_tool_calls`. -/
def toOpenaiToolCalls (announced : List ToolCallRequest) : List FunctionCall :=
  announced.map fun call => ⟨call.id, call.name, dumps (.obj call.arguments)⟩

/-- The assistant message of a provider request. -/
def assistantMessage (content : String) (announced : List ToolCallRequest) : ChatMessage where
  role := .assistant
  content := content
  toolCalls := if announced.isEmpty then none else some (toOpenaiToolCalls announced)

/-- `_replay`: a stored message as it is sent to the provider. -/
def replay (message : AssistantMessage) : ChatMessage :=
  match message.role with
  | .tool => { role := .tool, content := message.content, toolCallId := message.toolCallId }
  | .assistant => assistantMessage message.content message.calls
  | .user => { role := .user, content := message.content }

/-! ## Exchanges -/

/-- What a stored message announces or answers. -/
def AssistantMessage.kind (message : AssistantMessage) : Kind (Option String) :=
  match message.role with
  | .user => .plain
  | .assistant => .announce (message.calls.map fun call => some call.id)
  | .tool => .answer message.toolCallId

/-- What a message of a provider request announces or answers. -/
def ChatMessage.kind (message : ChatMessage) : Kind (Option String) :=
  match message.role with
  | .system | .user => .plain
  | .assistant => .announce ((message.toolCalls.getD []).map fun call => some call.id)
  | .tool => .answer message.toolCallId

/-- Every announced tool call of the stored conversation is answered by exactly one tool message
before the next user or assistant message, and nothing else is answered. -/
abbrev Replayable (messages : List AssistantMessage) : Prop :=
  Settled AssistantMessage.kind messages

/-- The same of the messages of a provider request. -/
abbrev WellFormed (messages : List ChatMessage) : Prop :=
  Settled ChatMessage.kind messages

/-- A message that announces calls is one of the assistant. -/
lemma role_of_kind_announce {message : AssistantMessage} {calls : List (Option String)}
    (h : message.kind = .announce calls) :
    message.role = .assistant ∧ calls = message.calls.map fun call => some call.id := by
  unfold AssistantMessage.kind at h
  cases hrole : message.role with
  | user => rw [hrole] at h; cases h
  | tool => rw [hrole] at h; cases h
  | assistant => rw [hrole] at h; cases h; exact ⟨rfl, rfl⟩

/-- A message that answers a call is a tool message. -/
lemma role_of_isAnswer {message : AssistantMessage} (h : message.kind.isAnswer = true) :
    message.role = .tool := by
  unfold AssistantMessage.kind at h
  cases hrole : message.role with
  | user => rw [hrole] at h; cases h
  | tool => rfl
  | assistant => rw [hrole] at h; cases h

/-- An assistant message announces its calls. -/
@[simp] lemma kind_assistantMessage (content : String) (announced : List ToolCallRequest) :
    (assistantMessage content announced).kind =
      .announce (announced.map fun call => some call.id) := by
  cases announced with
  | nil => rfl
  | cons call calls => simp [assistantMessage, ChatMessage.kind, toOpenaiToolCalls]

/-- Replaying a message keeps what it announces or answers. -/
@[simp] lemma kind_replay (message : AssistantMessage) : (replay message).kind = message.kind := by
  unfold replay AssistantMessage.kind
  cases message.role with
  | user => rfl
  | tool => rfl
  | assistant => exact kind_assistantMessage _ _

/-- A replayed message is no system message. -/
lemma role_replay_ne_system (message : AssistantMessage) : (replay message).role ≠ .system := by
  unfold replay
  cases message.role <;> simp [assistantMessage]

/-- The replay of a conversation is settled when the conversation is. -/
lemma wellFormed_map_replay {messages : List AssistantMessage} :
    WellFormed (messages.map replay) ↔ Replayable messages :=
  settled_map_iff kind_replay

end Terraformer.Assistant
