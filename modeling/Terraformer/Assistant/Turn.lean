import Terraformer.Assistant.Trim
import Terraformer.Run
import Terraformer.Text.Case

/-!
# A turn of the conversation

`handle_user_message` and the compaction before it, as runs of a generator: what is stored,
what the provider is asked, which tools are executed and which events are yielded, in order.
What the provider streams and how each tool call ends is given from outside
(`TurnInput`), so that a statement about every input is one about every provider and every
tool.
-/

namespace Terraformer.Assistant

open Text

/-! ## The provider and the tools -/

/-- The kinds of a chunk. -/
inductive ChunkType where
  | token
  | toolCall
  | done
  deriving DecidableEq, Repr

/-- One chunk of a provider stream. -/
structure ChatChunk where
  type : ChunkType
  content : Option String := none
  toolCall : Option ToolCallRequest := none

/-- The chunks a provider streams for one request, and whether the stream then raises. -/
structure ProviderStream where
  chunks : List ChatChunk
  raises : Bool := false

/-- How the dispatch of a read-only tool ends. -/
inductive ToolOutcome where
  | payload (payload : JsonObject)
  | readOnlyToolError (message : String)
  /-- Any other exception: an `AppError` of the services behind the tools, or a bug. -/
  | raises

/-- A step of a proposed plan. -/
structure ProposedStep where
  target : String
  desiredValue : String
  renderedCommands : String

/-- How a change proposal ends. -/
inductive ProposalOutcome where
  /-- The arguments are not those of a proposal. -/
  | malformed (message : String)
  /-- An `AppError` of the preview, with the issues of a `ChangeValidationError`. -/
  | refused (message : String) (issues : Option Json)
  | planned (planId status risk safetyLevel : String) (steps : List ProposedStep)
  /-- Any other exception. -/
  | raises

/-- How the executed tool call ends, whichever way it is executed. -/
structure CallOutcome where
  dispatch : ToolOutcome
  proposal : ProposalOutcome

/-! ## The session and its service -/

/-- What a turn reads of the session it belongs to. -/
structure ChatSession where
  contextLimitOverride : Option ℤ := none
  supportsToolCalling : Bool := true
  summary : Option String := none
  summarisedMessageCount : ℕ := 0

/-- The service: `instructions` is the first system message, and `structuredWrites` says that
changes may be proposed. -/
structure AssistantChatService where
  contextLimitTokens : ℤ := 32000
  instructions : String
  structuredWrites : Bool := true

/-- All that reaches a turn from outside.  `replies` are the provider's streams, in the order
of the requests, and `calls` the outcomes of the executed tool calls, in their order. -/
structure TurnInput where
  content : String
  /-- The session, its profile and the profile's key are there. -/
  ready : Bool := true
  compaction : ProviderStream
  replies : ℕ → ProviderStream
  calls : ℕ → CallOutcome

/-- What the browser is told. -/
inductive AssistantEvent where
  | token (content : String)
  | toolCall (name : String) (arguments : JsonObject)
  | toolResult (name : String) (payload : JsonObject)
  | changePlanProposed (name : String) (payload : JsonObject)
  | compacted (summary : String) (messagesFolded : ℕ)
  | done

/-- What a provider request is for: a reply of the turn, or the summary of a compaction. -/
inductive Purpose where
  | reply
  | summary
  deriving DecidableEq, Repr

/-- What a turn does. -/
inductive Effect where
  /-- A message is added to the conversation and committed. -/
  | persist (message : AssistantMessage)
  /-- The summary and the count of the messages it stands for are committed. -/
  | setSummary (summary : String) (messageCount : ℕ)
  /-- The provider is asked: the messages, and the names of the tools it is offered. -/
  | streamChat (purpose : Purpose) (messages : List ChatMessage) (tools : Option (List String))
  /-- A tool call is executed, by the dispatcher or as a change proposal. -/
  | execute (call : ToolCallRequest)
  | yield (event : AssistantEvent)

/-- The exceptions that leave a turn. -/
inductive TurnFault where
  | notReady
  | provider
  | tool

/-- A turn, and what it raises. -/
abbrev Turn := Run Effect TurnFault

/-! ## Constants -/

/-- `_MAX_TOOL_ROUNDS_PER_TURN`. -/
def maxToolRoundsPerTurn : ℕ := 12

/-- `_MAX_TOOL_CALLS_PER_TURN`. -/
def maxToolCallsPerTurn : ℕ := 40

/-- `_KEEP_VERBATIM_MESSAGES`. -/
def keepVerbatimMessages : ℕ := 6

/-- The tools that read only. -/
def readOnlyTools : List String :=
  ["list_devices", "get_topology", "list_change_plans", "get_device_facts",
    "get_device_interfaces", "get_device_neighbors", "list_config_snapshots",
    "list_device_events"]

/-- The tool that proposes a change. -/
def proposeChangePlanTool : String := "propose_change_plan"

/-- `COMPACTION_INSTRUCTIONS`. -/
def compactionInstructions : String :=
  "Summarise this network-operations conversation so it can
continue without the original messages.

Write for the assistant that will read it, not for a person. Keep, in this order and
only if present:

1. What the operator is trying to accomplish, and any constraint they gave.
2. Facts established about the network -- device names and ids, interfaces, VLANs,
   addresses, what was found to be up or down. Keep exact identifiers verbatim; an
   approximate interface name is worse than none.
3. Changes proposed, applied, refused or rolled back, with their outcome.
4. What was ruled out, and why. This is the part that is most expensive to rediscover.
5. Anything still open or promised.

Do not include pleasantries, restated questions, or your own commentary. Do not invent
anything that was not in the conversation. If a fact was uncertain, say it was
uncertain. Prefer a compact list over prose."

/-- The message that withdraws the tools. -/
def budgetSpentMessage : ChatMessage where
  role := .system
  content := "The tool budget for this turn is spent. Answer now from what you have already " ++
    "read, and say plainly which part of the question you could not finish looking into."

/-! ## History -/

/-- The system message that carries a summary, if there is one. -/
def summaryMessage (heading : String) : Option String → List ChatMessage
  | some summary =>
    if summary ≠ "" then [{ role := .system, content := heading ++ summary }] else []
  | none => []

/-- The heading above what is folded into the summary. -/
def foldedHeading : String :=
  "Earlier turns of this conversation have been compacted. What they established:\n\n"

/-- `_build_history`. -/
def buildHistory (service : AssistantChatService) (session : ChatSession)
    (stored : List AssistantMessage) : List ChatMessage :=
  { role := .system, content := service.instructions } ::
    summaryMessage foldedHeading session.summary ++
      (stored.drop session.summarisedMessageCount).map replay

/-- The limit of a session: its own, or that of the service. -/
def budgetTokens (service : AssistantChatService) (session : ChatSession) : ℤ :=
  match session.contextLimitOverride with
  | some limit => if limit ≠ 0 then limit else service.contextLimitTokens
  | none => service.contextLimitTokens

/-- `_needs_compaction`: the history has passed four fifths of the limit. -/
def needsCompaction (service : AssistantChatService) (session : ChatSession)
    (stored : List AssistantMessage) : Bool :=
  4 * (budgetTokens service session * charsPerToken) < 5 * cost (buildHistory service session stored)

/-! ## Compaction -/

/-- The text of the token chunks of a stream, piece by piece. -/
def tokensOf (chunks : List ChatChunk) : List String :=
  chunks.filterMap fun chunk =>
    match chunk.type, chunk.content with
    | .token, some content => if content ≠ "" then some content else none
    | _, _ => none

/-- The tool calls of a stream. -/
def callsOf (chunks : List ChatChunk) : List ToolCallRequest :=
  chunks.filterMap fun chunk =>
    match chunk.type, chunk.toolCall with
    | .toolCall, some call => some call
    | _, _ => none

/-- How many of the oldest messages a compaction folds away. -/
def foldThrough (stored : List AssistantMessage) : ℤ :=
  stored.length - keepVerbatimMessages

/-- What a compaction sends to be summarised, before it is trimmed. -/
def compactionTranscript (session : ChatSession) (stored : List AssistantMessage) :
    List ChatMessage :=
  { role := .system, content := compactionInstructions } ::
    summaryMessage "A previous summary of still older turns:\n\n" session.summary ++
    (stored.take (foldThrough stored).toNat).map replay ++
    [{ role := .user, content := "Write the summary now, and nothing else." }]

/-- `_compact`: the summary, or none when there is nothing to fold or nothing came back. -/
def compact (service : AssistantChatService) (session : ChatSession)
    (stored : List AssistantMessage) (stream : ProviderStream) : Turn (Option String) := do
  if foldThrough stored ≤ session.summarisedMessageCount then return none
  Run.emit (.streamChat .summary (trimToContextLimit (compactionTranscript session stored)
    (some (budgetTokens service session))) none)
  if stream.raises then Run.raise .provider
  let summary := strip (String.join (tokensOf stream.chunks))
  if summary = "" then return none
  Run.emit (.setSummary summary (foldThrough stored).toNat)
  return some summary

/-! ## Executing the calls -/

section

variable [UnicodeDatabase]

/-- `_looks_like_secret_key`. -/
def looksLikeSecretKey (key : String) : Bool :=
  ["password", "secret", "api_key", "apikey", "token", "encrypted_"].any fun marker =>
    decide (marker.toList <:+: (lower key).toList)

mutual

/-- `scrub_secrets`: the value without the fields that look like credentials. -/
def scrubSecrets : Json → Json
  | .arr items => .arr (scrubItems items)
  | .obj fields => .obj (scrubFields fields)
  | value => value

/-- The items without their secrets. -/
def scrubItems : List Json → List Json
  | [] => []
  | item :: items => scrubSecrets item :: scrubItems items

/-- The fields without their secrets. -/
def scrubFields : List (String × Json) → List (String × Json)
  | [] => []
  | (key, value) :: fields =>
    if looksLikeSecretKey key then scrubFields fields
    else (key, scrubSecrets value) :: scrubFields fields

end

/-- `_propose_change_plan`. -/
def proposeChangePlan : ProposalOutcome → Except TurnFault JsonObject
  | .malformed message => .ok [("error", .str ("Malformed change plan proposal: " ++ message))]
  | .refused message issues =>
    .ok (("error", .str message) :: (issues.map fun value => ("issues", value)).toList)
  | .planned planId status risk safetyLevel steps =>
    .ok [("plan_id", .str planId), ("status", .str status), ("risk", .str risk),
      ("safety_level", .str safetyLevel),
      ("steps", .arr (steps.map fun step => .obj [("target", .str step.target),
        ("desired_value", .str step.desiredValue),
        ("rendered_commands", .str step.renderedCommands)]))]
  | .raises => .error .tool

/-- The payload of a dispatched call. -/
def dispatchPayload : ToolOutcome → Except TurnFault JsonObject
  | .payload payload => .ok (scrubFields payload)
  | .readOnlyToolError message => .ok [("error", .str message)]
  | .raises => .error .tool

/-- The call is a change proposal. -/
def isProposal (service : AssistantChatService) (call : ToolCallRequest) : Bool :=
  call.name == proposeChangePlanTool && service.structuredWrites

/-- The payload of an executed call. -/
def callPayload (service : AssistantChatService) (outcome : CallOutcome)
    (call : ToolCallRequest) : Except TurnFault JsonObject :=
  if isProposal service call then proposeChangePlan outcome.proposal
  else dispatchPayload outcome.dispatch

/-- The event that reports the payload of an executed call. -/
def resultEvent (service : AssistantChatService) (call : ToolCallRequest) (payload : JsonObject) :
    AssistantEvent :=
  if isProposal service call ∧ (payload.lookup "plan_id").isSome then
    .changePlanProposed call.name payload
  else .toolResult call.name payload

/-- The tool message that answers a call. -/
def toolMessage (call : ToolCallRequest) (payload : JsonObject) : AssistantMessage where
  role := .tool
  content := dumps (.obj payload)
  toolCallId := some call.id

/-- One announced call: it is executed, reported and answered. -/
def answerCall (service : AssistantChatService) (outcome : CallOutcome) (call : ToolCallRequest) :
    Turn AssistantMessage := do
  Run.emit (.yield (.toolCall call.name call.arguments))
  Run.emit (.execute call)
  let payload ← Run.ofExcept (callPayload service outcome call)
  Run.emit (.yield (resultEvent service call payload))
  Run.emit (.persist (toolMessage call payload))
  return toolMessage call payload

/-- The announced calls one after another, until the turn has made too many: the history with
their answers, and how many calls the turn has counted. -/
def answerCalls (service : AssistantChatService) (input : TurnInput) :
    List ToolCallRequest → List ChatMessage → ℕ → Turn (List ChatMessage × ℕ)
  | [], history, callsMade => return (history, callsMade)
  | call :: calls, history, callsMade =>
    if maxToolCallsPerTurn < callsMade + 1 then return (history, callsMade + 1)
    else do
      let answer ← answerCall service (input.calls callsMade) call
      answerCalls service input calls (history ++ [replay answer]) (callsMade + 1)

/-! ## Rounds -/

/-- A stream is read: its tokens are yielded, and its text and its calls are returned. -/
def readStream : List ChatChunk → String → List ToolCallRequest →
    Turn (String × List ToolCallRequest)
  | [], text, calls => return (text, calls)
  | chunk :: chunks, text, calls =>
    match chunk.type, chunk.content, chunk.toolCall with
    | .token, some content, _ =>
      if content ≠ "" then do
        Run.emit (.yield (.token content))
        readStream chunks (text ++ content) calls
      else readStream chunks text calls
    | .toolCall, _, some call => readStream chunks text (calls ++ [call])
    | _, _, _ => readStream chunks text calls

/-- The tools a session is offered. -/
def toolSchemas (service : AssistantChatService) (session : ChatSession) : Option (List String) :=
  if session.supportsToolCalling then
    some (readOnlyTools ++ if service.structuredWrites then [proposeChangePlanTool] else [])
  else none

/-- The text and the calls of a stream, unless it raises. -/
def readReply (stream : ProviderStream) : Turn (String × List ToolCallRequest) := do
  let reply ← readStream stream.chunks "" []
  if stream.raises then Run.raise .provider else return reply

/-- The assistant message is stored, also without a text when it announces calls: the history
with it. -/
def storeReply (text : String) (calls : List ToolCallRequest) (history : List ChatMessage) :
    Turn (List ChatMessage) :=
  let message : AssistantMessage := { role := .assistant, content := text, calls := calls }
  if text ≠ "" ∨ calls ≠ [] then do
    Run.emit (.persist message)
    return history ++ [replay message]
  else return history

/-- The request of a round with `left` rounds behind it: the last round says that the tools are
withdrawn. -/
def roundRequest (service : AssistantChatService) (session : ChatSession) (left : ℕ)
    (history : List ChatMessage) : List ChatMessage :=
  trimToContextLimit (if left = 0 then history ++ [budgetSpentMessage] else history)
    (some (budgetTokens service session))

/-- The tools offered in a round with `left` rounds behind it. -/
def roundTools (service : AssistantChatService) (session : ChatSession) (left : ℕ) :
    Option (List String) :=
  if left = 0 then none else toolSchemas service session

/-- The rounds that are left of a turn. -/
def rounds (service : AssistantChatService) (session : ChatSession) (input : TurnInput) :
    ℕ → List ChatMessage → ℕ → Turn Unit
  -- every round announced calls, the last one included
  | 0, _, _ => Run.emit (.yield .done)
  | left + 1, history, callsMade => do
    let request := roundRequest service session left history
    Run.emit (.streamChat .reply request (roundTools service session left))
    let (text, calls) ← readReply (input.replies (maxToolRoundsPerTurn - left))
    let history ← storeReply text calls request
    if calls = [] then Run.emit (.yield .done)
    else do
      let (history, callsMade) ← answerCalls service input calls history callsMade
      if maxToolCallsPerTurn < callsMade then Run.emit (.yield .done)
      else rounds service session input left history callsMade

/-- The compaction before a turn, when the history calls for one: the session afterwards. -/
def compactFirst (service : AssistantChatService) (session : ChatSession)
    (stored : List AssistantMessage) (input : TurnInput) : Turn ChatSession := do
  if needsCompaction service session stored then
    match ← compact service session stored input.compaction with
    | some summary =>
      let count := (foldThrough stored).toNat
      Run.emit (.yield (.compacted summary count))
      return { session with summary := some summary, summarisedMessageCount := count }
    | none => return session
  else return session

/-- `handle_user_message`. -/
def handleUserMessage (service : AssistantChatService) (session : ChatSession)
    (stored : List AssistantMessage) (input : TurnInput) : Turn Unit := do
  if ¬input.ready then Run.raise .notReady
  let message : AssistantMessage := { role := .user, content := input.content }
  Run.emit (.persist message)
  let stored := stored ++ [message]
  let session ← compactFirst service session stored input
  let history := trimToContextLimit (buildHistory service session stored)
    (some (budgetTokens service session))
  rounds service session input (maxToolRoundsPerTurn + 1) history 0

end

/-! ## What the parts do -/

/-- A token that is yielded. -/
abbrev yieldToken (text : String) : Effect := .yield (.token text)

/-- The tokens of the first chunk come first. -/
lemma tokensOf_cons (chunk : ChatChunk) (chunks : List ChatChunk) :
    tokensOf (chunk :: chunks) = tokensOf [chunk] ++ tokensOf chunks := by
  rw [← List.singleton_append, tokensOf, List.filterMap_append]
  rfl

/-- The calls of the first chunk come first. -/
lemma callsOf_cons (chunk : ChatChunk) (chunks : List ChatChunk) :
    callsOf (chunk :: chunks) = callsOf [chunk] ++ callsOf chunks := by
  rw [← List.singleton_append, callsOf, List.filterMap_append]
  rfl

/-- Reading a stream yields its tokens and returns its text and its calls. -/
lemma readStream_spec (chunks : List ChatChunk) (text : String) (calls : List ToolCallRequest) :
    readStream chunks text calls = ⟨(tokensOf chunks).map yieldToken,
      .ok (text ++ String.join (tokensOf chunks), calls ++ callsOf chunks)⟩ := by
  induction chunks generalizing text calls with
  | nil => ext <;> simp [readStream, tokensOf, callsOf]
  | cons chunk chunks ih =>
    obtain ⟨type, content, toolCall⟩ := chunk
    rw [tokensOf_cons, callsOf_cons]
    cases type with
    | token =>
      cases content with
      | none => simpa [readStream, tokensOf, callsOf] using ih text calls
      | some content =>
        by_cases h : content = ""
        · simpa [readStream, tokensOf, callsOf, h] using ih text calls
        · have ih := ih (text ++ content) calls
          ext <;> simp [readStream, tokensOf, callsOf, h, ih, String.append_assoc]
    | toolCall =>
      cases toolCall with
      | none => simpa [readStream, tokensOf, callsOf] using ih text calls
      | some call =>
        have ih := ih text (calls ++ [call])
        simpa [readStream, tokensOf, callsOf] using ih
    | done => simpa [readStream, tokensOf, callsOf] using ih text calls

/-- Reading a stream that raises yields the tokens before the fault. -/
lemma readReply_of_raises {stream : ProviderStream} (h : stream.raises = true) :
    readReply stream = ⟨(tokensOf stream.chunks).map yieldToken, .error .provider⟩ := by
  rw [readReply, readStream_spec, h, Run.mk_ok_bind, if_pos rfl]
  simp

/-- A reply that does not raise is read whole. -/
lemma readReply_of_not_raises {stream : ProviderStream} (h : stream.raises = false) :
    readReply stream = ⟨(tokensOf stream.chunks).map yieldToken,
      .ok (String.join (tokensOf stream.chunks), callsOf stream.chunks)⟩ := by
  rw [readReply, readStream_spec, h, Run.mk_ok_bind, if_neg (by decide)]
  simp

/-- A reply with a text or with calls is stored. -/
lemma storeReply_of_ne {text : String} {calls : List ToolCallRequest}
    (h : text ≠ "" ∨ calls ≠ []) (history : List ChatMessage) :
    storeReply text calls history =
      ⟨[.persist { role := .assistant, content := text, calls := calls }],
        .ok (history ++ [replay { role := .assistant, content := text, calls := calls }])⟩ := by
  rw [storeReply, if_pos h]
  rfl

/-- An empty reply is not stored. -/
lemma storeReply_empty (history : List ChatMessage) :
    storeReply "" [] history = ⟨[], .ok history⟩ := by
  rw [storeReply, if_neg (by simp)]
  rfl

end Terraformer.Assistant
