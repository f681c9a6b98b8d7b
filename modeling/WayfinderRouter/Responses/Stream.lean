import WayfinderRouter.Providers.Sse
import WayfinderRouter.Responses.Tools

/-!
# Streams of responses

A chat completion stream is relayed as a stream of a response. Content is relayed as it arrives.
Fragments of tool calls are collected by their upstream indices, and emitted as items when the
stream completes. Frames are queued, and the queue is drained before upstream is read again.

Sizes are below `usize::MAX`, so their saturating additions are plain ones.

## Main definitions

- `Frame` — the frames of the stream; `Frame.bytes` is their text
- `Relay` — the state of a relay, without its upstream
- `Relay.processEvents`, `Relay.complete`, `Relay.fail` — what is queued
- `ResponsesStreamRelay.next` — how the queue is drained and upstream is read
-/

namespace WayfinderRouter.Responses

open Providers Transducer

/-- Maximum generated output characters relayed through one stream. -/
def maxOutputChars : ℕ := 1000000

/-- Maximum upstream events consumed for one stream. -/
def maxStreamEvents : ℕ := 8192

structure ChatToolCall where
  id : String
  name : String
  arguments : String
deriving DecidableEq

structure Usage where
  inputTokens : ℕ
  outputTokens : ℕ
  totalTokens : ℕ

def Usage.toValue (usage : Usage) : Json :=
  .object [("input_tokens", .nat usage.inputTokens), ("output_tokens", .nat usage.outputTokens),
    ("total_tokens", .nat usage.totalTokens)]

def extractUsage (value : Json) : Option Usage := do
  let usage ← value.get "usage"
  let inputTokens ← ((usage.get "prompt_tokens").or (usage.get "input_tokens")).bind Json.asU64
  let outputTokens ←
    ((usage.get "completion_tokens").or (usage.get "output_tokens")).bind Json.asU64
  pure ⟨inputTokens, outputTokens, U64.saturatingAdd inputTokens outputTokens⟩

/-- What does not change while a stream is relayed. -/
structure Exchange where
  responseId : String
  model : String
  toolMetadata : ResponsesToolMetadata
  /-- The JSON parser, and the text of its error. -/
  parse : Json.Parser
  parseError : String → String
  /-- The clock in seconds, when the stream is created and when it ends. -/
  createdAt : ℕ
  endedAt : ℕ

namespace Exchange

variable (x : Exchange)

/-! ## Items -/

def messageOutput (text status : String) : Json :=
  .object [("id", .string ("msg_" ++ x.responseId)), ("type", .string "message"),
    ("status", .string status), ("role", .string "assistant"),
    ("content", .array [.object [("type", .string "output_text"), ("text", .string text),
      ("annotations", .array [])]])]

/-- The input of a custom tool, in the object that its arguments are. -/
def customInput (arguments : String) : String :=
  (((x.parse (utf8 arguments.toList)).bind (Json.get "input")).bind Json.asStr).getD arguments

def toolCallOutput (index : ℕ) (toolCall : ChatToolCall) : Json :=
  let identity := x.toolMetadata.identity toolCall.name
  let callId :=
    if toolCall.id = "" then "call_" ++ x.responseId ++ "_" ++ index.repr else toolCall.id
  let nameSpace := identity.nameSpace.toList.map fun name => ("namespace", Json.string name)
  if identity.custom then
    .object ([("id", .string ("ctc_" ++ x.responseId ++ "_" ++ index.repr)),
      ("type", .string "custom_tool_call"), ("status", .string "completed"),
      ("name", .string identity.name), ("input", .string (x.customInput toolCall.arguments)),
      ("call_id", .string callId)] ++ nameSpace)
  else
    .object ([("id", .string ("fc_" ++ x.responseId ++ "_" ++ index.repr)),
      ("type", .string "function_call"), ("status", .string "completed"),
      ("name", .string identity.name), ("arguments", .string toolCall.arguments),
      ("call_id", .string callId)] ++ nameSpace)

/-- The items of a response; the tool calls are numbered by their positions. -/
def outputOf (text : String) (toolCalls : List ChatToolCall) (status : String) : List Json :=
  (if text = "" then [] else [x.messageOutput text status]) ++
    toolCalls.mapIdx fun index toolCall => x.toolCallOutput index toolCall

def responseValue (text : String) (toolCalls : List ChatToolCall) (usage : Option Usage)
    (status : String) (now : ℕ) : Json :=
  .object ([("id", .string ("resp_" ++ x.responseId)), ("object", .string "response"),
    ("created_at", .nat now), ("status", .string status), ("model", .string x.model),
    ("output", .array (x.outputOf text toolCalls status))] ++
      usage.toList.map fun usage => ("usage", usage.toValue))

end Exchange

/-! ## Frames -/

/-- The frames of a stream. -/
inductive Frame where
  | created (response : Json)
  | outputTextDelta (responseId delta : String)
  | outputItemDone (item : Json)
  | completed (response : Json)
  | failed (response : Json) (message : String)
  /-- The frame of a failure that queued no frame. -/
  | failedEarly

namespace Frame

def event : Frame → String
  | .created _ => "response.created"
  | .outputTextDelta .. => "response.output_text.delta"
  | .outputItemDone _ => "response.output_item.done"
  | .completed _ => "response.completed"
  | .failed .. => "response.failed"
  | .failedEarly => "response.failed"

def errorValue (message : String) : Json :=
  .object [("type", .string "wayfinder_router_upstream_error"), ("message", .string message)]

def value (f : Frame) : Json :=
  .object (("type", .string f.event) :: match f with
    | .created response => [("response", response)]
    | .outputTextDelta responseId delta =>
      [("response_id", .string responseId), ("delta", .string delta)]
    | .outputItemDone item => [("item", item)]
    | .completed response => [("response", response)]
    | .failed response message => [("response", response), ("error", errorValue message)]
    | .failedEarly =>
      [("error", errorValue "Responses stream failed before a terminal event was available")])

def bytes (f : Frame) : List UInt8 :=
  SseDecoder.sseFrame f.event (String.ofList f.value.render)

end Frame

/-! ## The relay -/

structure Relay where
  pending : List Frame
  output : String
  /-- The tool calls by their upstream indices, which ascend. -/
  toolCalls : List (ℕ × ChatToolCall)
  toolOutputChars : ℕ
  usage : Option Usage
  terminal : Bool
  eventCount : ℕ

/-- The text of a field, or no text. -/
def fieldText (key : String) (entries : List (String × Json)) : String :=
  ((Ordered.lookup key entries).bind Json.asStr).getD ""

/-- What a tool call delta adds. -/
def toolCallFragment (call : List (String × Json)) : ChatToolCall :=
  let function := ((Ordered.lookup "function" call).bind Json.asObject).getD []
  ⟨fieldText "id" call, fieldText "name" function, fieldText "arguments" function⟩

def toolCallIndex (call : List (String × Json)) : ℕ :=
  ((Ordered.lookup "index" call).bind Json.asU64).getD 0

namespace ChatToolCall

def empty : ChatToolCall := ⟨"", "", ""⟩

def append (toolCall fragment : ChatToolCall) : ChatToolCall :=
  ⟨toolCall.id ++ fragment.id, toolCall.name ++ fragment.name,
    toolCall.arguments ++ fragment.arguments⟩

def chars (toolCall : ChatToolCall) : ℕ :=
  toolCall.id.length + toolCall.name.length + toolCall.arguments.length

end ChatToolCall

namespace Relay

variable (x : Exchange)

def fail (message : String) (r : Relay) : Relay :=
  if r.terminal then r
  else { r with
    terminal := true
    pending := r.pending ++ [.failed
      (x.responseValue r.output (r.toolCalls.map Prod.snd) r.usage "failed" x.endedAt) message] }

def complete (r : Relay) : Relay :=
  if r.terminal then r
  else { r with
    terminal := true
    pending := r.pending ++
      (if r.output = "" then [] else [.outputItemDone (x.messageOutput r.output "completed")]) ++
      (r.toolCalls.map fun e => .outputItemDone (x.toolCallOutput e.1 e.2)) ++
      [.completed (x.responseValue r.output (r.toolCalls.map Prod.snd) r.usage "completed"
        x.endedAt)] }

def tooManyChars : String :=
  "Responses stream exceeds " ++ maxOutputChars.repr ++ " output characters"

/-- A tool call delta, of `accumulate_tool_calls`. -/
def accumulateToolCall (call : Json) (r : Relay) : Relay × Option String :=
  match call.asObject with
  | none => (r, some "Responses upstream returned a non-object tool call delta")
  | some call =>
    if (Ordered.lookup (toolCallIndex call) r.toolCalls).isNone ∧ maxTools ≤ r.toolCalls.length then
      (r, some ("Responses stream exceeds " ++ maxTools.repr ++ " tool calls"))
    else
      let fragment := toolCallFragment call
      let r' := { r with
        toolCalls := Ordered.upsert (toolCallIndex call)
          (fun toolCall => (toolCall.getD .empty).append fragment) r.toolCalls
        toolOutputChars := r.toolOutputChars + fragment.chars }
      (r', if maxOutputChars < r'.output.length + r'.toolOutputChars then some tooManyChars
        else none)

def accumulateToolCalls (calls : List Json) (r : Relay) : Relay × Option String :=
  each accumulateToolCall calls r

/-- The content of a delta. -/
def addContent (delta : Json) (r : Relay) : Relay × Option String :=
  match (delta.get "content").bind Json.asStr with
  | none => (r, none)
  | some text =>
    if text = "" then (r, none)
    else if maxOutputChars < r.output.length + r.toolOutputChars + text.length then
      (r, some tooManyChars)
    else ({ r with
      output := r.output ++ text
      pending := r.pending ++ [.outputTextDelta x.responseId text] }, none)

/-- A choice of an event. -/
def processChoice (choice : Json) (r : Relay) : Relay × Option String :=
  match choice.get "delta" with
  | none => (r, none)
  | some delta =>
    match accumulateToolCalls (((delta.get "tool_calls").bind Json.asArray).getD []) r with
    | (r', some error) => (r', some error)
    | (r', none) => addContent x delta r'

/-- The value of an event. -/
def processValue (value : Json) (r : Relay) : Relay :=
  match value.get "error" with
  | some error => r.fail x (((error.get "message").bind Json.asStr).getD "upstream error")
  | none =>
    match each (processChoice x) (((value.get "choices").bind Json.asArray).getD [])
        { r with usage := (extractUsage value).or r.usage } with
    | (r', some error) => r'.fail x error
    | (r', none) => r'

/-- An event, in a relay that is not terminal. -/
def processEvent (event : SseEvent) (r : Relay) : Relay :=
  let r := { r with eventCount := r.eventCount + 1 }
  if maxStreamEvents < r.eventCount then
    r.fail x ("Responses stream exceeds " ++ maxStreamEvents.repr ++ " upstream events")
  else if event.data = "[DONE]" then r.complete x
  else
    match x.parse (utf8 event.data.toList) with
    | none =>
      r.fail x ("Responses upstream returned invalid SSE JSON: " ++ x.parseError event.data)
    | some value => r.processValue x value

def processEvents (events : List SseEvent) (r : Relay) : Relay :=
  events.foldl (fun r event => if r.terminal then r else r.processEvent x event) r

/-- The next frame, if there is none a frame that says so. -/
def takePending (r : Relay) : Frame × Relay :=
  match r.pending with
  | [] => (.failedEarly, r)
  | frame :: pending => (frame, { r with pending })

/-- The next frame of the queue. -/
def popFront (r : Relay) : Option (Frame × Relay) :=
  match r.pending with
  | [] => none
  | frame :: pending => some (frame, { r with pending })

end Relay

/-- The text of a decoding error. -/
def decodeErrorText : SseDecodeError → String
  | .lineTooLarge limit => "SSE line exceeds " ++ limit.repr ++ " bytes"
  | .eventTooLarge limit => "SSE event exceeds " ++ limit.repr ++ " data bytes"
  | .invalidUtf8 => "SSE field is not valid UTF-8"
  | .invalidLimits => "SSE limits must be positive"

/-- A chunk, or the text of a transport error. -/
abbrev Upstream := List (Except String (List UInt8))

structure ResponsesStreamRelay where
  upstream : Upstream
  decoder : SseDecoder
  relay : Relay

namespace ResponsesStreamRelay

variable (x : Exchange)

def createdFrame : Frame := .created (x.responseValue "" [] none "in_progress" x.createdAt)

/-- The relay of a stream, with its first frame. -/
def new (upstream : Upstream) : ResponsesStreamRelay :=
  ⟨upstream, SseDecoder.default, ⟨[createdFrame x], "", [], 0, none, false, 0⟩⟩

/-- Read upstream until a frame is queued. -/
def read : Upstream → SseDecoder → Relay → Option (Frame × ResponsesStreamRelay)
  | [], d, r =>
    let r := match d.finish.2 with
      | .ok events => r.processEvents x events
      | .error e => r.fail x ("Responses SSE decode failed: " ++ decodeErrorText e)
    let r := if r.terminal then r else r.complete x
    r.popFront.map fun (frame, r) => (frame, ⟨[], d.finish.1, r⟩)
  | .ok chunk :: upstream, d, r =>
    match SseDecoder.push chunk d with
    | (d', .ok events) =>
      match (r.processEvents x events).popFront with
      | none => read upstream d' (r.processEvents x events)
      | some (frame, r) => some (frame, ⟨upstream, d', r⟩)
    | (d', .error e) =>
      let (frame, r) :=
        (r.fail x ("Responses SSE decode failed: " ++ decodeErrorText e)).takePending
      some (frame, ⟨upstream, d', r⟩)
  | .error e :: upstream, d, r =>
    let (frame, r) := (r.fail x ("Responses upstream stream failed: " ++ e)).takePending
    some (frame, ⟨upstream, d, r⟩)

/-- The next frame of the stream. -/
def next (s : ResponsesStreamRelay) : Option (Frame × ResponsesStreamRelay) :=
  match s.relay.popFront with
  | some (frame, r) => some (frame, { s with relay := r })
  | none => if s.relay.terminal then none else read x s.upstream s.decoder s.relay

end ResponsesStreamRelay

end WayfinderRouter.Responses
