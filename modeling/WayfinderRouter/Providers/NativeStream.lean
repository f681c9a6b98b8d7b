import WayfinderRouter.Json
import WayfinderRouter.Providers.Sse

/-!
# Native message streams as chat completion streams

The adapter decodes a message stream and emits the chunks of a chat completion stream. Blocks are
opened, extended and closed under an index of the message stream; tool calls are numbered in the
order in which their blocks are opened.

Chunks are kept as data; `Chunk.payload?` and `Chunk.bytes` are their text. All failures of the
translation are the same, so an event is read before its blocks are looked up.

## Main definitions

- `MessagesEvent`, `readEvent` — the events of a message stream, and how they are read
- `Chunk` — what the adapter emits
- `NativeState.apply` — the translation of one event
- `AnthropicToOpenAiStream.push`, `AnthropicToOpenAiStream.finish` — the operations
- `startedTools` — the tool blocks of a stream, with their fragments
-/

namespace WayfinderRouter.Providers

open Transducer

/-! ## Events -/

inductive AnthropicNativeError where
  | invalidRequest
  | invalidResponse
  | stream (error : SseDecodeError)
deriving DecidableEq

inductive MessagesEvent where
  | messageStart (id model : String) (inputTokens : ℕ)
  | textStart (index : ℕ)
  | toolStart (index : ℕ) (id name : Json)
  | textDelta (index : ℕ) (text : String)
  | inputJsonDelta (index : ℕ) (partialJson : String)
  | blockStop (index : ℕ)
  | messageDelta (reason : Option String) (outputTokens : ℕ)
  | messageStop
  | error (message errorType : String)

namespace MessagesEvent

/-- The events that end the stream. -/
def isTerminal : MessagesEvent → Bool
  | messageStop => true
  | error _ _ => true
  | _ => false

def readMessageStart (payload : Json) : Option MessagesEvent := do
  let message ← (payload.get "message").bind Json.asObject
  let usage := (Ordered.lookup "usage" message).bind Json.asObject
  return .messageStart
    (((Ordered.lookup "id" message).bind Json.asStr).getD "msg_anthropic")
    (((Ordered.lookup "model" message).bind Json.asStr).getD "")
    (((usage.bind (Ordered.lookup "input_tokens")).bind Json.asU64).getD 0)

def readBlockStart (payload : Json) : Option MessagesEvent := do
  let index ← (payload.get "index").bind Json.asU64
  let block ← (payload.get "content_block").bind Json.asObject
  match (Ordered.lookup "type" block).bind Json.asStr with
  | some "text" => return .textStart index
  | some "tool_use" =>
    return .toolStart index ((Ordered.lookup "id" block).getD .null)
      ((Ordered.lookup "name" block).getD .null)
  | _ => none

def readBlockDelta (payload : Json) : Option MessagesEvent := do
  let index ← (payload.get "index").bind Json.asU64
  let delta ← (payload.get "delta").bind Json.asObject
  match (Ordered.lookup "type" delta).bind Json.asStr with
  | some "text_delta" =>
    return .textDelta index (← (Ordered.lookup "text" delta).bind Json.asStr)
  | some "input_json_delta" =>
    return .inputJsonDelta index (← (Ordered.lookup "partial_json" delta).bind Json.asStr)
  | _ => none

def readBlockStop (payload : Json) : Option MessagesEvent := do
  let index ← (payload.get "index").bind Json.asU64
  return .blockStop index

def readMessageDelta (payload : Json) : MessagesEvent :=
  let delta := (payload.get "delta").bind Json.asObject
  let usage := (payload.get "usage").bind Json.asObject
  .messageDelta ((delta.bind (Ordered.lookup "stop_reason")).bind Json.asStr)
    (((usage.bind (Ordered.lookup "output_tokens")).bind Json.asU64).getD 0)

/-- `anthropic_to_openai_error`. -/
def readError (payload : Json) : MessagesEvent :=
  let detail := (payload.get "error").getD payload
  .error (((detail.get "message").bind Json.asStr).getD "Anthropic upstream error")
    (((detail.get "type").bind Json.asStr).getD "api_error")

/-- The payload of an event of the given type. -/
def read (eventType : String) (payload : Json) : Option MessagesEvent :=
  match eventType with
  | "message_start" => readMessageStart payload
  | "content_block_start" => readBlockStart payload
  | "content_block_delta" => readBlockDelta payload
  | "content_block_stop" => readBlockStop payload
  | "message_delta" => some (readMessageDelta payload)
  | "message_stop" => some .messageStop
  | "error" => some (readError payload)
  | _ => none

end MessagesEvent

/-- How `translate_events` reads an event. -/
def readEvent (parse : Json.Parser) (event : SseEvent) : Option MessagesEvent := do
  let payload ← parse (utf8 event.data.toList)
  let eventType :=
    if event.event = "message" then ((payload.get "type").bind Json.asStr).getD ""
    else event.event
  MessagesEvent.read eventType payload

/-! ## Chunks -/

/-- What the adapter emits. The chunks of a message carry its id and its model. -/
inductive Chunk where
  | role (id model : String)
  | toolCall (id model : String) (toolIndex : ℕ) (callId name : Json)
  | content (id model text : String)
  | arguments (id model : String) (toolIndex : ℕ) (text : String)
  | finish (id model reason : String) (promptTokens completionTokens : ℕ)
  | stop (id model : String)
  | error (message errorType : String)
  | done

/-- A chunk with one choice, and possibly more entries. -/
def chunkPayload (id model : String) (delta finishReason : Json)
    (entries : List (String × Json)) : Json :=
  .object ([("id", .string id), ("object", .string "chat.completion.chunk"), ("created", .nat 0),
    ("model", .string model), ("choices", .array [.object [("index", .nat 0), ("delta", delta),
      ("finish_reason", finishReason)]])] ++ entries)

namespace Chunk

/-- The payload of a chunk other than the last one. -/
def payload? : Chunk → Option Json
  | role id model =>
    some (chunkPayload id model (.object [("role", .string "assistant")]) .null [])
  | toolCall id model toolIndex callId name =>
    some (chunkPayload id model (.object [("tool_calls", .array [.object
      [("index", .nat toolIndex), ("id", callId), ("type", .string "function"),
        ("function", .object [("name", name), ("arguments", .string "")])]])]) .null [])
  | content id model text =>
    some (chunkPayload id model (.object [("content", .string text)]) .null [])
  | arguments id model toolIndex text =>
    some (chunkPayload id model (.object [("tool_calls", .array [.object
      [("index", .nat toolIndex), ("function", .object [("arguments", .string text)])]])])
      .null [])
  | finish id model reason promptTokens completionTokens =>
    some (chunkPayload id model (.object []) (.string reason) [("usage", .object
      [("prompt_tokens", .nat promptTokens), ("completion_tokens", .nat completionTokens),
        ("total_tokens", .nat (U64.saturatingAdd promptTokens completionTokens))])])
  | stop id model => some (chunkPayload id model (.object []) (.string "stop") [])
  | error message errorType =>
    some (.object [("error", .object [("message", .string message),
      ("type", .string errorType)])])
  | done => none

/-- `openai_sse_frame`, and the last frame. -/
def bytes (chunk : Chunk) : List UInt8 :=
  utf8 ("data: ".toList ++ (chunk.payload?.map Json.render).getD "[DONE]".toList ++ ['\n', '\n'])

def content? : Chunk → Option String
  | content _ _ text => some text
  | _ => none

/-- The index, the id and the name of a tool call. -/
def toolCall? : Chunk → Option (ℕ × Json × Json)
  | toolCall _ _ toolIndex callId name => some (toolIndex, callId, name)
  | _ => none

/-- The arguments of a tool call. -/
def arguments? (k : ℕ) : Chunk → Option String
  | arguments _ _ toolIndex text => if toolIndex = k then some text else none
  | _ => none

def isDone : Chunk → Bool
  | done => true
  | _ => false

end Chunk

/-! ## The adapter -/

inductive ActiveBlock where
  | text
  | tool (toolIndex : ℕ) (sawArguments : Bool)
deriving DecidableEq

/-- The state of the adapter, without its decoder. -/
structure NativeState where
  id : String
  model : String
  inputTokens : ℕ
  active : List (ℕ × ActiveBlock)
  toolCount : ℕ
  finishSent : Bool
  terminal : Bool

/-- The state before the first event. -/
def NativeState.fresh : NativeState :=
  { id := "msg_anthropic", model := "", inputTokens := 0, active := [], toolCount := 0,
    finishSent := false, terminal := false }

def maxToolCalls : ℕ := 64

/-- `openai_finish_reason`. -/
def openaiFinishReason : Option String → String
  | some "max_tokens" => "length"
  | some "tool_use" => "tool_calls"
  | _ => "stop"

namespace NativeState

/-- One event of `translate_events`. -/
def apply : Step NativeState MessagesEvent AnthropicNativeError Chunk
  | .messageStart id model inputTokens, s =>
    ({ s with id := id, model := model, inputTokens := inputTokens }, .ok [.role id model])
  | .textStart index, s =>
    ({ s with active := Ordered.upsert index (fun _ => .text) s.active }, .ok [])
  | .toolStart index callId name, s =>
    if maxToolCalls ≤ s.toolCount then (s, .error .invalidResponse)
    else
      ({ s with
          toolCount := s.toolCount + 1
          active := Ordered.upsert index (fun _ => .tool s.toolCount false) s.active },
        .ok [.toolCall s.id s.model s.toolCount callId name])
  | .textDelta index text, s =>
    match Ordered.lookup index s.active with
    | some .text => (s, .ok [.content s.id s.model text])
    | _ => (s, .error .invalidResponse)
  | .inputJsonDelta index partialJson, s =>
    match Ordered.lookup index s.active with
    | some (.tool toolIndex _) =>
      ({ s with active := Ordered.upsert index (fun _ => .tool toolIndex true) s.active },
        .ok [.arguments s.id s.model toolIndex partialJson])
    | _ => (s, .error .invalidResponse)
  | .blockStop index, s =>
    match Ordered.lookup index s.active with
    | some (.tool toolIndex false) =>
      ({ s with active := Ordered.erase index s.active },
        .ok [.arguments s.id s.model toolIndex "\x7b\x7d"])
    | some _ => ({ s with active := Ordered.erase index s.active }, .ok [])
    | none => (s, .error .invalidResponse)
  | .messageDelta reason outputTokens, s =>
    ({ s with finishSent := true },
      .ok [.finish s.id s.model (openaiFinishReason reason) s.inputTokens outputTokens])
  | .messageStop, s =>
    if s.active ≠ [] then (s, .error .invalidResponse)
    else
      ({ s with terminal := true },
        .ok ((if s.finishSent then [] else [.stop s.id s.model]) ++ [.done]))
  | .error message errorType, s =>
    ({ s with terminal := true }, .ok [.error message errorType, .done])

/-- One event of the decoder. Pings and events after the end are skipped. -/
def translateEvent (parse : Json.Parser) :
    Step NativeState SseEvent AnthropicNativeError Chunk := fun event s =>
  if s.terminal ∨ event.event = "ping" then (s, .ok [])
  else
    match readEvent parse event with
    | none => (s, .error .invalidResponse)
    | some event => s.apply event

end NativeState

structure AnthropicToOpenAiStream extends NativeState where
  decoder : SseDecoder

namespace AnthropicToOpenAiStream

/-- `AnthropicToOpenAiStream::default`. -/
def default : AnthropicToOpenAiStream := ⟨.fresh, .default⟩

variable (parse : Json.Parser)

/-- `AnthropicToOpenAiStream::translate_events`. -/
def translateEvents (decoded : SseDecoder × Except SseDecodeError (List SseEvent))
    (s : NativeState) : AnthropicToOpenAiStream × Except AnthropicNativeError (List Chunk) :=
  match decoded with
  | (decoder, .error e) => (⟨s, decoder⟩, .error (.stream e))
  | (decoder, .ok events) =>
    (⟨(feed (NativeState.translateEvent parse) events s).1, decoder⟩,
      (feed (NativeState.translateEvent parse) events s).2)

/-- `AnthropicToOpenAiStream::push`. -/
def push : Step AnthropicToOpenAiStream (List UInt8) AnthropicNativeError Chunk := fun chunk s =>
  translateEvents parse (s.decoder.push chunk) s.toNativeState

/-- `AnthropicToOpenAiStream::finish`. -/
def finish (s : AnthropicToOpenAiStream) :
    AnthropicToOpenAiStream × Except AnthropicNativeError (List Chunk) :=
  match translateEvents parse s.decoder.finish s.toNativeState with
  | (s, .error e) => (s, .error e)
  | (s, .ok output) => (s, if s.terminal then .ok output else .error .invalidResponse)

end AnthropicToOpenAiStream

/-! ## What a stream says -/

/-- The events of a stream, up to the one that ends it. -/
def messagesEvents (parse : Json.Parser) : List SseEvent → List MessagesEvent
  | [] => []
  | event :: events =>
    if event.event = "ping" then messagesEvents parse events
    else
      match readEvent parse event with
      | none => []
      | some read => if read.isTerminal then [read] else read :: messagesEvents parse events

/-- A block that was opened, from the events after its start: its fragments, and whether it was
closed. Another block under its index takes its place. -/
structure Block where
  fragments : List String
  closed : Bool
deriving DecidableEq

/-- The block under the given index. -/
def blockOf (index : ℕ) : List MessagesEvent → Block
  | [] => ⟨[], false⟩
  | .inputJsonDelta i partialJson :: events =>
    if i = index then
      { blockOf index events with fragments := partialJson :: (blockOf index events).fragments }
    else blockOf index events
  | .blockStop i :: events => if i = index then ⟨[], true⟩ else blockOf index events
  | .textStart i :: events => if i = index then ⟨[], false⟩ else blockOf index events
  | .toolStart i _ _ :: events => if i = index then ⟨[], false⟩ else blockOf index events
  | _ :: events => blockOf index events

/-- The arguments of a block. A block that is closed without fragments has the empty object. -/
def Block.arguments (block : Block) : List String :=
  if block.fragments = [] ∧ block.closed then ["\x7b\x7d"] else block.fragments

/-- A tool block. -/
structure StartedTool where
  id : Json
  name : Json
  block : Block

/-- The tool blocks, in the order in which they are started. -/
def startedTools : List MessagesEvent → List StartedTool
  | [] => []
  | .toolStart index id name :: events => ⟨id, name, blockOf index events⟩ :: startedTools events
  | _ :: events => startedTools events

/-- The text of a delta. -/
def MessagesEvent.text? : MessagesEvent → Option String
  | .textDelta _ text => some text
  | _ => none

/-- What an event does to the indices of the open blocks. -/
def MessagesEvent.openOrClose (opened : Finset ℕ) : MessagesEvent → Finset ℕ
  | .textStart index => insert index opened
  | .toolStart index _ _ => insert index opened
  | .blockStop index => opened.erase index
  | _ => opened

/-- The indices of the blocks that are left open. -/
def openBlocks (events : List MessagesEvent) : Finset ℕ :=
  events.foldl MessagesEvent.openOrClose ∅

end WayfinderRouter.Providers
