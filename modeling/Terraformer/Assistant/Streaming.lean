import Terraformer.Assistant.Anthropic
import Terraformer.Run

/-!
# Tool calls in a stream

`OpenAICompatibleClient.stream_chat` turns each delta of a stream into chunks as it comes:
a token for its text, and for each part of a tool call a call of its own, whose arguments are the
JSON of that part alone.  `Contract` is how a provider delivers the calls of a message, in parts
that carry the index of their call; `survives_iff` says which deliveries come out as the calls
that were made.
-/

namespace Terraformer.Assistant.Streaming

open Text

/-! ## The clients -/

/-- `call.function` of a part of a tool call. -/
structure FunctionDelta where
  name : Option String
  arguments : Option String

/-- A part of a tool call. -/
structure ToolCallDelta where
  index : ℕ
  id : Option String
  function : Option FunctionDelta

/-- One piece of a streamed reply. -/
structure Delta where
  content : Option String
  toolCalls : List ToolCallDelta

/-- A chunk as a client yields it: what `json.loads` gives is not checked to be an object. -/
inductive ChatChunk where
  | token (content : String)
  | toolCall (id name : String) (arguments : Json)
  | done

/-- `value or otherwise`. -/
def textOr (value : Option String) (otherwise : String) : String :=
  (value.filter (· ≠ "")).getD otherwise

/-- A loop over a list. -/
def forEach {ε φ α : Type} (run : α → Run ε φ Unit) : List α → Run ε φ Unit
  | [] => pure ()
  | a :: as => do
    run a
    forEach run as

/-- The chunk of a part of a tool call. -/
def streamToolCall (call : ToolCallDelta) : Run ChatChunk JsonError Unit :=
  match call.function with
  | none => pure ()
  | some function => do
    let arguments ← .ofExcept (loads (textOr function.arguments "\x7b\x7d"))
    .emit (.toolCall (textOr call.id "") (textOr function.name "") arguments)

/-- The text of a delta, where it has one. -/
def Delta.piece (delta : Delta) : Option String := delta.content.filter (· ≠ "")

/-- What `stream_chat` yields for one piece. -/
def streamDelta (delta : Delta) : Run ChatChunk JsonError Unit := do
  .emitAll (delta.piece.toList.map .token)
  forEach streamToolCall delta.toolCalls

/-- `OpenAICompatibleClient.stream_chat`. -/
def streamChat (deltas : List Delta) : Run ChatChunk JsonError Unit := do
  forEach streamDelta deltas
  .emit .done

/-- The chunk of a block of the final message. -/
def blockChunk : ContentBlock → Option ChatChunk
  | .toolUse id name input => some (.toolCall id name (.obj input))
  | _ => none

/-- The chunks of `AnthropicClient.stream_chat`: the texts as they come, and the calls of the final
message. -/
def anthropicChunks (texts : List String) (final : List ContentBlock) : List ChatChunk :=
  texts.map .token ++ final.filterMap blockChunk ++ [.done]

/-! ## The contract -/

/-- The parts of all tool calls, in the order in which they come. -/
def toolCallDeltas (deltas : List Delta) : List ToolCallDelta := deltas.flatMap Delta.toolCalls

/-- What a part brings of the arguments. -/
def ToolCallDelta.argumentsPiece (part : ToolCallDelta) : String :=
  (part.function.bind FunctionDelta.arguments).getD ""

/-- A call comes in parts: the first has its id and name, the others have neither, and their
pieces of the arguments make up its JSON. -/
structure Delivered (call : ToolCallRequest) (first : ToolCallDelta) (rest : List ToolCallDelta) :
    Prop where
  id : first.id = some call.id
  name : ∃ function, first.function = some function ∧ function.name = some call.name
  later : ∀ part ∈ rest, part.id = none ∧ ∀ function ∈ part.function, function.name = none
  arguments : loads (String.join ((first :: rest).map ToolCallDelta.argumentsPiece)) =
    .ok (.obj call.arguments)

/-- How a provider delivers the calls of a message. -/
structure Contract (calls : List ToolCallRequest) (deltas : List Delta) : Prop where
  distinct : (calls.map ToolCallRequest.id).Nodup
  indices : ∀ part ∈ toolCallDeltas deltas, part.index < calls.length
  delivered : ∀ i (h : i < calls.length), ∃ first rest,
    (toolCallDeltas deltas).filter (·.index == i) = first :: rest ∧
      Delivered (calls.get ⟨i, h⟩) first rest

/-- The texts among the chunks. -/
def tokensOf (chunks : List ChatChunk) : List String :=
  chunks.filterMap fun
    | .token content => some content
    | _ => none

/-- The calls among the chunks. -/
def toolCallsOf (chunks : List ChatChunk) : List ChatChunk :=
  chunks.filter fun
    | .toolCall .. => true
    | _ => false

/-- The chunk of a call that was made. -/
def madeChunk (call : ToolCallRequest) : ChatChunk :=
  .toolCall call.id call.name (.obj call.arguments)

/-- The final message of the calls, as Anthropic has it. -/
def finalMessage (text : String) (calls : List ToolCallRequest) : List ContentBlock :=
  .text text :: calls.map fun call => .toolUse call.id call.name call.arguments

/-- The texts come out in order and each call as one chunk, as they do from Anthropic's client,
and nothing is raised. -/
structure Survives (calls : List ToolCallRequest) (deltas : List Delta) : Prop where
  ended : (streamChat deltas).result = .ok ()
  tokens : tokensOf (streamChat deltas).effects = deltas.filterMap Delta.piece
  toolCalls : toolCallsOf (streamChat deltas).effects = calls.map madeChunk
  same : ∀ text,
    let chunks := anthropicChunks (deltas.filterMap Delta.piece) (finalMessage text calls)
    tokensOf (streamChat deltas).effects = tokensOf chunks ∧
      toolCallsOf (streamChat deltas).effects = toolCallsOf chunks

/-- The parts that bring something come one for each call, in the order of the calls. -/
def WholeCalls (calls : List ToolCallRequest) (deltas : List Delta) : Prop :=
  ((toolCallDeltas deltas).filter (·.function.isSome)).map ToolCallDelta.index =
    List.range calls.length

/-! ## Loops -/

section Loops

variable {ε φ α : Type} {run : α → Run ε φ Unit}

/-- A loop ends when each of its rounds does. -/
lemma result_forEach {as : List α} :
    (forEach run as).result = .ok () ↔ ∀ a ∈ as, (run a).result = .ok () := by
  induction as with
  | nil => exact iff_of_true rfl (fun _ h => by cases h)
  | cons a as ih =>
    rw [List.forall_mem_cons, ← ih, forEach]
    cases ha : (run a).result with
    | ok _ =>
      rw [Run.result_bind_of_ok ha]
      exact ⟨fun h => ⟨rfl, h⟩, fun h => h.2⟩
    | error fault =>
      rw [Run.result_bind_of_error ha]
      exact iff_of_false (by simp) (by simp)

/-- A loop whose steps all end well has the effects of each. -/
lemma effects_forEach {as : List α} (h : ∀ a ∈ as, (run a).result = .ok ()) :
    (forEach run as).effects = as.flatMap fun a => (run a).effects := by
  induction as with
  | nil => rfl
  | cons a as ih =>
    rw [forEach, Run.effects_bind_of_ok (h a List.mem_cons_self), List.flatMap_cons,
      ih fun b hb => h b (List.mem_cons_of_mem _ hb)]

end Loops

/-! ## What the parts come to -/

/-- The chunk that a part comes to, if its piece of the arguments is JSON. -/
def chunk? (part : ToolCallDelta) : Option ChatChunk :=
  part.function.bind fun function =>
    (loads (textOr function.arguments "\x7b\x7d")).toOption.map fun arguments =>
      .toolCall (textOr part.id "") (textOr function.name "") arguments

/-- A part of a call yields its chunk, if it has one. -/
lemma effects_streamToolCall (part : ToolCallDelta) :
    (streamToolCall part).effects = (chunk? part).toList := by
  rw [streamToolCall, chunk?]
  cases part.function with
  | none => rfl
  | some function =>
    dsimp only [Option.bind]
    cases loads (textOr function.arguments "\x7b\x7d") with
    | ok arguments => rfl
    | error error => rfl

/-- A part of a call is read if its arguments are JSON. -/
lemma result_streamToolCall (part : ToolCallDelta) : (streamToolCall part).result = .ok () ↔
    (part.function.isSome = true → (chunk? part).isSome = true) := by
  rw [streamToolCall, chunk?]
  cases part.function with
  | none => exact iff_of_true rfl (fun h => by cases h)
  | some function =>
    dsimp only [Option.bind]
    cases loads (textOr function.arguments "\x7b\x7d") with
    | ok arguments => exact iff_of_true rfl fun _ => rfl
    | error error => exact iff_of_false (by simp) (by simp [Except.toOption])

/-- A piece is read if all of its calls are. -/
lemma result_streamDelta (delta : Delta) : (streamDelta delta).result = .ok () ↔
    ∀ part ∈ delta.toolCalls, part.function.isSome = true → (chunk? part).isSome = true := by
  rw [streamDelta, Run.result_emitAll_bind, result_forEach]
  exact forall₂_congr fun part _ => result_streamToolCall part

/-- A piece yields its text and then its calls. -/
lemma effects_streamDelta {delta : Delta} (h : (streamDelta delta).result = .ok ()) :
    (streamDelta delta).effects =
      delta.piece.toList.map .token ++ delta.toolCalls.filterMap chunk? := by
  rw [streamDelta, Run.result_emitAll_bind, result_forEach] at h
  rw [streamDelta, Run.effects_emitAll_bind, effects_forEach h]
  congr 1
  simp only [effects_streamToolCall, List.filterMap_eq_flatMap_toList]

/-- A stream ends when the arguments of every part are JSON. -/
lemma result_streamChat (deltas : List Delta) : (streamChat deltas).result = .ok () ↔
    ∀ part ∈ toolCallDeltas deltas, part.function.isSome = true → (chunk? part).isSome = true := by
  have hloop : (streamChat deltas).result = .ok () ↔
      (forEach streamDelta deltas).result = .ok () := by
    rw [streamChat]
    cases h : (forEach streamDelta deltas).result with
    | ok _ =>
      rw [Run.result_bind_of_ok h]
      exact iff_of_true rfl rfl
    | error fault => rw [Run.result_bind_of_error h]
  rw [hloop, result_forEach, toolCallDeltas]
  simp only [result_streamDelta, List.mem_flatMap]
  exact ⟨fun h part ⟨delta, hdelta, hpart⟩ => h delta hdelta part hpart,
    fun h delta hdelta part hpart => h part ⟨delta, hdelta, hpart⟩⟩

/-- A stream yields its pieces, and the end. -/
lemma effects_streamChat {deltas : List Delta} (h : (streamChat deltas).result = .ok ()) :
    (streamChat deltas).effects = (deltas.flatMap fun delta =>
      delta.piece.toList.map .token ++ delta.toolCalls.filterMap chunk?) ++ [.done] := by
  have hdeltas : ∀ delta ∈ deltas, (streamDelta delta).result = .ok () := by
    intro delta hdelta
    rw [result_streamDelta]
    exact fun part hpart => (result_streamChat deltas).mp h part
      (List.mem_flatMap.mpr ⟨delta, hdelta, hpart⟩)
  rw [streamChat, Run.effects_bind_of_ok (result_forEach.mpr hdeltas), effects_forEach hdeltas]
  congr 1
  rw [List.flatMap_def, List.flatMap_def, List.map_congr_left fun delta hdelta =>
    effects_streamDelta (hdeltas delta hdelta)]

/-! ## Texts and calls -/

/-- A chunk comes from a part whose arguments are JSON. -/
lemma exists_of_chunk? {part : ToolCallDelta} {chunk : ChatChunk} (h : chunk? part = some chunk) :
    ∃ function arguments, part.function = some function ∧
      loads (textOr function.arguments "\x7b\x7d") = .ok arguments ∧
      chunk = .toolCall (textOr part.id "") (textOr function.name "") arguments := by
  obtain ⟨function, hfunction, hmap⟩ := Option.bind_eq_some_iff.mp h
  obtain ⟨arguments, harguments, rfl⟩ := Option.map_eq_some_iff.mp hmap
  refine ⟨function, arguments, hfunction, ?_, rfl⟩
  cases hloads : loads (textOr function.arguments "\x7b\x7d") with
  | ok value =>
    rw [hloads] at harguments
    rw [Option.some.inj harguments]
  | error error =>
    rw [hloads] at harguments
    cases harguments

/-- The tokens of two lists of chunks follow each other. -/
@[simp] lemma tokensOf_append (a b : List ChatChunk) :
    tokensOf (a ++ b) = tokensOf a ++ tokensOf b := List.filterMap_append

/-- The calls of two lists of chunks follow each other. -/
@[simp] lemma toolCallsOf_append (a b : List ChatChunk) :
    toolCallsOf (a ++ b) = toolCallsOf a ++ toolCallsOf b := List.filter_append ..

/-- The tokens of streamed texts are the texts. -/
@[simp] lemma tokensOf_tokens (texts : List String) : tokensOf (texts.map .token) = texts := by
  simp [tokensOf, List.filterMap_map]

/-- Streamed texts call no tool. -/
@[simp] lemma toolCallsOf_tokens (texts : List String) : toolCallsOf (texts.map .token) = [] := by
  simp [toolCallsOf, List.filter_eq_nil_iff]

/-- The parts of a call are no tokens. -/
@[simp] lemma tokensOf_parts (parts : List ToolCallDelta) :
    tokensOf (parts.filterMap chunk?) = [] := by
  refine List.filterMap_eq_nil_iff.mpr fun chunk hchunk => ?_
  obtain ⟨part, -, hpart⟩ := List.mem_filterMap.mp hchunk
  obtain ⟨_, _, -, -, rfl⟩ := exists_of_chunk? hpart
  rfl

/-- The parts of calls are all the calls there are. -/
@[simp] lemma toolCallsOf_parts (parts : List ToolCallDelta) :
    toolCallsOf (parts.filterMap chunk?) = parts.filterMap chunk? := by
  refine List.filter_eq_self.mpr fun chunk hchunk => ?_
  obtain ⟨part, -, hpart⟩ := List.mem_filterMap.mp hchunk
  obtain ⟨_, _, -, -, rfl⟩ := exists_of_chunk? hpart
  rfl

/-- The tokens of a stream are its texts. -/
lemma tokensOf_streamChat {deltas : List Delta} (h : (streamChat deltas).result = .ok ()) :
    tokensOf (streamChat deltas).effects = deltas.filterMap Delta.piece := by
  rw [effects_streamChat h, tokensOf_append]
  have hloop : ∀ ds : List Delta, tokensOf (ds.flatMap fun delta =>
      delta.piece.toList.map .token ++ delta.toolCalls.filterMap chunk?) =
        ds.filterMap Delta.piece := by
    intro ds
    induction ds with
    | nil => rfl
    | cons delta ds ih =>
      rw [List.flatMap_cons, tokensOf_append, ih, tokensOf_append, tokensOf_tokens, tokensOf_parts]
      cases hpiece : delta.piece with
      | none => simp [hpiece]
      | some piece => simp [hpiece]
  rw [hloop]
  exact List.append_nil _

/-- The calls of a stream are those of its parts. -/
lemma toolCallsOf_streamChat {deltas : List Delta} (h : (streamChat deltas).result = .ok ()) :
    toolCallsOf (streamChat deltas).effects = (toolCallDeltas deltas).filterMap chunk? := by
  rw [effects_streamChat h, toolCallsOf_append]
  have hloop : ∀ ds : List Delta, toolCallsOf (ds.flatMap fun delta =>
      delta.piece.toList.map .token ++ delta.toolCalls.filterMap chunk?) =
        (toolCallDeltas ds).filterMap chunk? := by
    intro ds
    induction ds with
    | nil => rfl
    | cons delta ds ih =>
      have hcons : toolCallDeltas (delta :: ds) = delta.toolCalls ++ toolCallDeltas ds :=
        List.flatMap_cons
      rw [List.flatMap_cons, toolCallsOf_append, ih, toolCallsOf_append, toolCallsOf_tokens,
        toolCallsOf_parts, List.nil_append, hcons, List.filterMap_append]
  rw [hloop]
  exact List.append_nil _

/-- The Anthropic client yields the texts and the calls of the final message. -/
lemma anthropic_parts (texts : List String) (text : String) (calls : List ToolCallRequest) :
    tokensOf (anthropicChunks texts (finalMessage text calls)) = texts ∧
      toolCallsOf (anthropicChunks texts (finalMessage text calls)) =
        calls.map madeChunk := by
  have hfinal : (finalMessage text calls).filterMap blockChunk =
      calls.map madeChunk := by
    rw [finalMessage, List.filterMap_cons_none rfl, List.filterMap_map]
    show calls.filterMap (some ∘ madeChunk) = _
    rw [List.filterMap_eq_map]
  rw [anthropicChunks, hfinal]
  constructor
  · have hnone : tokensOf (calls.map madeChunk) = [] := by
      simp [tokensOf, List.filterMap_map, List.filterMap_eq_nil_iff, madeChunk]
    rw [tokensOf_append, tokensOf_append, tokensOf_tokens, hnone, List.append_nil]
    exact List.append_nil _
  · have hall : toolCallsOf (calls.map madeChunk) =
        calls.map madeChunk := by
      simp [toolCallsOf, madeChunk]
    rw [toolCallsOf_append, toolCallsOf_append, toolCallsOf_tokens, hall, List.nil_append]
    exact List.append_nil _

/-- A delivery survives when every part that brings something is a call of its own, and these are
the calls that were made. -/
lemma survives_iff_chunks (calls : List ToolCallRequest) (deltas : List Delta) :
    Survives calls deltas ↔ ((toolCallDeltas deltas).filter (·.function.isSome)).map chunk? =
      calls.map fun call => some (madeChunk call) := by
  have hparts : (toolCallDeltas deltas).filterMap chunk? =
      ((toolCallDeltas deltas).filter (·.function.isSome)).filterMap chunk? := by
    rw [List.filterMap_filter]
    refine List.filterMap_congr fun part _ => ?_
    cases hfunction : part.function with
    | none => simp [chunk?, hfunction]
    | some function => simp
  constructor
  · intro h
    have hchunks := h.toolCalls
    rw [toolCallsOf_streamChat h.ended, hparts] at hchunks
    have hsome : ∀ part ∈ (toolCallDeltas deltas).filter (·.function.isSome),
        (chunk? part).isSome = true := by
      intro part hpart
      obtain ⟨hmem, hfunction⟩ := List.mem_filter.mp hpart
      exact (result_streamChat deltas).mp h.ended part hmem hfunction
    have hmap : (calls.map fun call => some (madeChunk call)) =
        (calls.map madeChunk).map some := by
      rw [List.map_map]
      rfl
    rw [hmap, ← hchunks]
    generalize (toolCallDeltas deltas).filter (·.function.isSome) = parts at hsome
    induction parts with
    | nil => rfl
    | cons part parts ih =>
      obtain ⟨chunk, hchunk⟩ := Option.isSome_iff_exists.mp (hsome part List.mem_cons_self)
      rw [List.map_cons, List.filterMap_cons_some hchunk, List.map_cons, hchunk,
        ih fun other hother => hsome other (List.mem_cons_of_mem _ hother)]
  · intro h
    have hended : (streamChat deltas).result = .ok () := by
      rw [result_streamChat]
      intro part hmem hfunction
      have hpart : chunk? part ∈ calls.map fun call => some (madeChunk call) := by
        rw [← h]
        exact List.mem_map_of_mem (List.mem_filter.mpr ⟨hmem, hfunction⟩)
      obtain ⟨call, -, hcall⟩ := List.mem_map.mp hpart
      rw [← hcall]
      rfl
    have hchunks : (toolCallDeltas deltas).filterMap chunk? = calls.map madeChunk := by
      have hid : ∀ parts : List ToolCallDelta,
          parts.filterMap chunk? = (parts.map chunk?).filterMap id := fun parts => by
        rw [List.filterMap_map]
        rfl
      rw [hparts, hid, h, List.filterMap_map]
      show calls.filterMap (some ∘ madeChunk) = _
      rw [List.filterMap_eq_map]
    refine ⟨hended, tokensOf_streamChat hended, ?_, fun text => ⟨?_, ?_⟩⟩
    · rw [toolCallsOf_streamChat hended, hchunks]
    · rw [(anthropic_parts _ text calls).1, tokensOf_streamChat hended]
    · rw [(anthropic_parts _ text calls).2, toolCallsOf_streamChat hended, hchunks]

/-! ## Deliveries -/

/-- A text that is there is not replaced. -/
lemma textOr_some (value : String) : textOr (some value) "" = value := by
  by_cases h : value = ""
  · rw [h]
    rfl
  · simp [textOr, Option.filter, h]

/-- The first part of a call is one of those that bring something. -/
lemma first_mem {parts : List ToolCallDelta} {i : ℕ} {first : ToolCallDelta}
    {rest : List ToolCallDelta} {call : ToolCallRequest}
    (hparts : parts.filter (·.index == i) = first :: rest) (h : Delivered call first rest) :
    first.index = i ∧ first ∈ parts.filter (·.function.isSome) := by
  have hmem : first ∈ parts.filter (·.index == i) := by
    rw [hparts]
    exact List.mem_cons_self
  obtain ⟨hmem, hindex⟩ := List.mem_filter.mp hmem
  obtain ⟨function, hfunction, -⟩ := h.name
  exact ⟨by simpa using hindex, List.mem_filter.mpr ⟨hmem, by simp [hfunction]⟩⟩

/-- The parts that come to the calls in their order have the indices of the calls. -/
lemma wholeCalls_of_chunks {calls : List ToolCallRequest} {deltas : List Delta}
    (h : Contract calls deltas)
    (hchunks : ((toolCallDeltas deltas).filter (·.function.isSome)).map chunk? =
      calls.map fun call => some (madeChunk call)) : WholeCalls calls deltas := by
  rw [WholeCalls]
  set parts := (toolCallDeltas deltas).filter (·.function.isSome) with hparts
  have hlength : parts.length = calls.length := by
    simpa using congrArg List.length hchunks
  have hchunk : ∀ k (hk : k < parts.length) (hk' : k < calls.length),
      chunk? parts[k] = some (madeChunk calls[k]) := by
    intro k hk hk'
    have := congrArg (·[k]?) hchunks
    simpa [hk, hk'] using this
  refine List.ext_getElem (by simp [hlength]) fun j hj _ => ?_
  have hj' : j < calls.length := by simpa [hlength] using hj
  obtain ⟨first, rest, hfilter, hdelivered⟩ := h.delivered j hj'
  obtain ⟨hindex, hmem⟩ := first_mem hfilter hdelivered
  rw [← hparts] at hmem
  obtain ⟨k, hk, hget⟩ := List.getElem_of_mem hmem
  have hk' : k < calls.length := hlength ▸ hk
  -- the id of the first part says which call its chunk is
  have hid : calls[k].id = calls[j].id := by
    obtain ⟨_, _, -, -, heq⟩ := exists_of_chunk? (hchunk k hk hk')
    rw [madeChunk, ChatChunk.toolCall.injEq] at heq
    rw [heq.1, hget, hdelivered.id, textOr_some]
    rfl
  obtain rfl : k = j := by
    have hkIds : k < (calls.map ToolCallRequest.id).length := by simpa using hk'
    have hjIds : j < (calls.map ToolCallRequest.id).length := by simpa using hj'
    have hids : (calls.map ToolCallRequest.id)[k] = (calls.map ToolCallRequest.id)[j] := by
      simpa using hid
    exact (List.Nodup.getElem_inj_iff h.distinct).mp hids
  simp [hget, hindex]

/-- Where the parts that bring something come one for each call, each is all of its call. -/
lemma chunks_of_wholeCalls {calls : List ToolCallRequest} {deltas : List Delta}
    (h : Contract calls deltas) (hwhole : WholeCalls calls deltas) :
    ((toolCallDeltas deltas).filter (·.function.isSome)).map chunk? =
      calls.map fun call => some (madeChunk call) := by
  rw [WholeCalls] at hwhole
  set parts := (toolCallDeltas deltas).filter (·.function.isSome) with hparts
  have hlength : parts.length = calls.length := by
    simpa using congrArg List.length hwhole
  have hindexOf : ∀ k (hk : k < parts.length), parts[k].index = k := by
    intro k hk
    have := congrArg (·[k]?) hwhole
    simpa [hk, hlength ▸ hk] using this
  refine List.ext_getElem (by simp [hlength]) fun k hk _ => ?_
  have hk' : k < calls.length := by simpa [hlength] using hk
  obtain ⟨first, rest, hfilter, hdelivered⟩ := h.delivered k hk'
  obtain ⟨hindex, hmem⟩ := first_mem hfilter hdelivered
  rw [← hparts] at hmem
  obtain ⟨m, hm, hget⟩ := List.getElem_of_mem hmem
  obtain rfl : m = k := by rw [← hindexOf m hm, hget, hindex]
  obtain ⟨function, hfunction, hname⟩ := hdelivered.name
  -- no later part of the call brings anything
  have hone : ((first :: rest).filter (·.function.isSome)).length = 1 := by
    have hcount : (parts.map ToolCallDelta.index).count m = 1 := by
      rw [hwhole]
      exact List.count_eq_one_of_mem List.nodup_range (List.mem_range.mpr hk')
    rw [List.count, List.countP_map, List.countP_eq_length_filter, hparts,
      List.filter_filter] at hcount
    rw [← hfilter, List.filter_filter, ← hcount]
    congr 2
    funext part
    exact Bool.and_comm _ _
  have hrest : ∀ part ∈ rest, part.argumentsPiece = "" := by
    intro part hpart
    rw [List.filter_cons_of_pos (by simp [hfunction]), List.length_cons, Nat.succ.injEq,
      List.length_eq_zero_iff, List.filter_eq_nil_iff] at hone
    have hnone : part.function = none := by simpa using hone part hpart
    simp [ToolCallDelta.argumentsPiece, hnone]
  have hpiece : String.join ((first :: rest).map ToolCallDelta.argumentsPiece) =
      function.arguments.getD "" := by
    have hempty : ∀ parts : List ToolCallDelta, String.join (parts.map fun _ => "") = "" := by
      intro parts
      induction parts with
      | nil => rfl
      | cons _ parts ih => rw [List.map_cons, String.join_cons, ih, String.append_empty]
    rw [List.map_cons, List.map_congr_left hrest, String.join_cons, hempty]
    simp [ToolCallDelta.argumentsPiece, hfunction]
  have hloads := hdelivered.arguments
  rw [hpiece] at hloads
  have htext : textOr function.arguments "\x7b\x7d" = function.arguments.getD "" := by
    cases harguments : function.arguments with
    | none =>
      rw [harguments] at hloads
      cases hloads
    | some text =>
      by_cases hempty : text = ""
      · rw [harguments, hempty] at hloads
        cases hloads
      · simp [textOr, Option.filter, hempty]
  simp only [List.getElem_map, hget]
  simp [chunk?, hfunction, htext, hloads, hname, textOr_some, hdelivered.id, madeChunk,
    Except.toOption]

/-- The calls that a provider delivers come out of the stream as they were made exactly when each
of them comes in one part, and these parts in the order of the calls. -/
theorem survives_iff {calls : List ToolCallRequest} {deltas : List Delta}
    (h : Contract calls deltas) : Survives calls deltas ↔ WholeCalls calls deltas := by
  rw [survives_iff_chunks]
  exact ⟨wholeCalls_of_chunks h, chunks_of_wholeCalls h⟩

/-- A call with an argument. -/
def readDevice : ToolCallRequest := ⟨"call_1", "read_device", [("id", .int 1)]⟩

/-- It comes in one part. -/
def wholeCall : List Delta :=
  [⟨some "Looking.", []⟩,
    ⟨none, [⟨0, some "call_1", some ⟨some "read_device", some "\x7b\"id\": 1\x7d"⟩⟩]⟩]

/-- It comes in two parts, of which neither is JSON. -/
def cutCall : List Delta :=
  [⟨some "Looking.", []⟩,
    ⟨none, [⟨0, some "call_1", some ⟨some "read_device", some "\x7b\"id\": "⟩⟩]⟩,
    ⟨none, [⟨0, none, some ⟨none, some "1\x7d"⟩⟩]⟩]

/-- The arguments of the example are JSON. -/
lemma loads_readDevice : loads "\x7b\"id\": 1\x7d" = .ok (.obj readDevice.arguments) := by
  have hvalid : (Json.obj readDevice.arguments).Valid := by
    have hdigits : (Nat.repr 1).length ≤ 4300 := by decide
    simpa [readDevice, Json.Valid, ValidFields, maxDigits] using hdigits
  exact (show "\x7b\"id\": 1\x7d" = dumps (.obj readDevice.arguments) by decide +kernel) ▸
    loads_dumps hvalid

/-- A call in one part survives. -/
theorem survives_wholeCall : Survives [readDevice] wholeCall := by
  have hcontract : Contract [readDevice] wholeCall := by
    refine ⟨List.nodup_singleton _, by decide, fun i hi => ?_⟩
    obtain rfl : i = 0 := Nat.lt_one_iff.mp hi
    exact ⟨_, _, rfl, rfl, ⟨_, rfl, rfl⟩, fun _ h => (by cases h), loads_readDevice⟩
  exact (survives_iff hcontract).mpr rfl

/-- A call that is cut into two parts meets the contract of a stream and does not survive. -/
theorem not_survives_cutCall :
    Contract [readDevice] cutCall ∧ ¬Survives [readDevice] cutCall := by
  refine ⟨⟨List.nodup_singleton _, by decide, fun i hi => ?_⟩, fun h => ?_⟩
  · obtain rfl : i = 0 := Nat.lt_one_iff.mp hi
    refine ⟨_, _, rfl, rfl, ⟨_, rfl, rfl⟩, fun part hpart => ?_, loads_readDevice⟩
    rw [List.mem_singleton.mp hpart]
    exact ⟨rfl, fun function hfunction => by cases hfunction; rfl⟩
  · have hraised : (streamChat cutCall).result.toBool = false := by decide +kernel
    rw [h.ended] at hraised
    cases hraised

end Terraformer.Assistant.Streaming
