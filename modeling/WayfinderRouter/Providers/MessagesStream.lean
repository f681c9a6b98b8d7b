import Mathlib.Algebra.GroupWithZero.Nat
import Mathlib.Algebra.Order.BigOperators.Group.List
import WayfinderRouter.Providers.OpenAiStream
import WayfinderRouter.Providers.Sse

/-!
# Chat completion streams as message streams

The translator decodes a chat completion stream and emits the frames of a message stream. Content
is emitted as it arrives. Tool calls arrive interleaved, so they are buffered within limits and
emitted as blocks at the end.

Frames are kept as data; `Frame.bytes` is their text. Indices and sizes are below `usize::MAX`, so
their saturating additions are plain ones.

## Main definitions

- `Frame` — the frames of a message stream
- `Message` — the state of the translator, without its decoder
- `Message.processEvent` — the translation of one event
- `MessagesStreamTranslator.push`, `MessagesStreamTranslator.finish` — the operations
- `translateOpenAiSseFragments` — the translation of a whole stream
- `expected` — the frames of a stream, in terms of its items
-/

namespace WayfinderRouter.Providers

open Transducer

/-! ## Frames -/

inductive Frame where
  | messageStart (messageId model : String) (inputTokens : ℕ)
  | textStart (index : ℕ)
  | textDelta (index : ℕ) (text : String)
  | toolStart (index : ℕ) (id name : String)
  | toolDelta (index : ℕ) (arguments : String)
  | blockStop (index : ℕ)
  | messageDelta (reason : String) (outputTokens : ℕ)
  | messageStop
  | error (errorType message : String)
deriving DecidableEq

namespace Frame

/-- The name of the event. -/
def event : Frame → String
  | messageStart _ _ _ => "message_start"
  | textStart _ => "content_block_start"
  | textDelta _ _ => "content_block_delta"
  | toolStart _ _ _ => "content_block_start"
  | toolDelta _ _ => "content_block_delta"
  | blockStop _ => "content_block_stop"
  | messageDelta _ _ => "message_delta"
  | messageStop => "message_stop"
  | error _ _ => "error"

/-- The payload of the event. -/
def payload : Frame → Json
  | messageStart messageId model inputTokens =>
    .object [("type", .string "message_start"), ("message", .object [("id", .string messageId),
      ("type", .string "message"), ("role", .string "assistant"), ("model", .string model),
      ("content", .array []), ("stop_reason", .null), ("stop_sequence", .null),
      ("usage", .object [("input_tokens", .nat inputTokens), ("output_tokens", .nat 0)])])]
  | textStart index =>
    .object [("type", .string "content_block_start"), ("index", .nat index),
      ("content_block", .object [("type", .string "text"), ("text", .string "")])]
  | textDelta index text =>
    .object [("type", .string "content_block_delta"), ("index", .nat index),
      ("delta", .object [("type", .string "text_delta"), ("text", .string text)])]
  | toolStart index id name =>
    .object [("type", .string "content_block_start"), ("index", .nat index),
      ("content_block", .object [("type", .string "tool_use"), ("id", .string id),
        ("name", .string name), ("input", .object [])])]
  | toolDelta index arguments =>
    .object [("type", .string "content_block_delta"), ("index", .nat index),
      ("delta", .object [("type", .string "input_json_delta"),
        ("partial_json", .string arguments)])]
  | blockStop index => .object [("type", .string "content_block_stop"), ("index", .nat index)]
  | messageDelta reason outputTokens =>
    .object [("type", .string "message_delta"),
      ("delta", .object [("stop_reason", .string reason), ("stop_sequence", .null)]),
      ("usage", .object [("output_tokens", .nat outputTokens)])]
  | messageStop => .object [("type", .string "message_stop")]
  | error errorType message =>
    .object [("type", .string "error"),
      ("error", .object [("type", .string errorType), ("message", .string message)])]

/-- `sse_frame`. -/
def bytes (frame : Frame) : List UInt8 :=
  utf8 ("event: ".toList ++ frame.event.toList ++ "\ndata: ".toList ++ frame.payload.render ++
    ['\n', '\n'])

end Frame

/-! ## The translator -/

structure AnthropicStreamLimits where
  maxLineBytes : ℕ
  maxEventBytes : ℕ
  maxToolCalls : ℕ
  maxToolBytes : ℕ

/-- `AnthropicStreamLimits::default`. -/
def AnthropicStreamLimits.default : AnthropicStreamLimits :=
  ⟨256 * 1024, 1024 * 1024, 128, 4 * 1024 * 1024⟩

inductive AnthropicStreamError where
  | invalidLimits
  | decode (error : SseDecodeError)
  | tooManyToolCalls (limit : ℕ)
  | toolDataTooLarge (limit : ℕ)
deriving DecidableEq

/-- The state of the translator, without its decoder. -/
structure Message where
  limits : AnthropicStreamLimits
  model : String
  messageId : String
  inputTokens : ℕ
  outputTokens : ℕ
  usageSeen : Bool
  completionChars : ℕ
  finishReason : Option String
  nextIndex : ℕ
  currentTextIndex : Option ℕ
  toolPositions : List (ℕ × ℕ)
  tools : List BufferedToolCall
  bufferedToolBytes : ℕ
  started : Bool
  terminal : Bool

/-- `stream_stop_reason`. -/
def streamStopReason : Option String → String
  | some "length" => "max_tokens"
  | some "tool_calls" => "tool_use"
  | some "function_call" => "tool_use"
  | _ => "end_turn"

/-- The error types that are passed on. -/
def knownErrorTypes : List String :=
  ["invalid_request_error", "authentication_error", "permission_error", "not_found_error",
    "request_too_large", "rate_limit_error", "overloaded_error", "api_error"]

/-- `stream_error`. -/
def streamError (eventType : String) (payload : Json) (raw : String) : Option (String × String) :=
  let nested := payload.get "error"
  if nested.isSome ∨ eventType = "error" ∨
      (payload.get "type").bind Json.asStr = some "error" then
    let detail := nested.getD payload
    let sourceType := ((detail.get "type").bind Json.asStr).getD "api_error"
    let message := ((((detail.get "message").bind Json.asStr).or detail.asStr).or
      ((payload.get "message").bind Json.asStr)).getD raw
    some (if sourceType ∈ knownErrorTypes then sourceType else "api_error", message)
  else none

/-- The blocks of the buffered tool calls, from the given index on. -/
def toolFrames : ℕ → List BufferedToolCall → List Frame
  | _, [] => []
  | index, tool :: tools =>
    .toolStart index (tool.id.getD ("toolu_" ++ toString index)) tool.name ::
      ((if tool.arguments = "" then [] else [.toolDelta index tool.arguments]) ++
        .blockStop index :: toolFrames (index + 1) tools)

namespace Message

/-- `MessagesStreamTranslator::start`. -/
def start (m : Message) : Message × List Frame :=
  if m.started then (m, [])
  else ({ m with started := true }, [.messageStart m.messageId m.model m.inputTokens])

/-- `open_text`: the index of the text block and the frames that open it. -/
def openText (m : Message) : Message × ℕ × List Frame :=
  match m.currentTextIndex with
  | some index => (m, index, [])
  | none =>
    ({ m with nextIndex := m.nextIndex + 1, currentTextIndex := some m.nextIndex }, m.nextIndex,
      [.textStart m.nextIndex])

/-- `replace_buffered_bytes`. With nothing to replace it is `add_buffered_bytes`. -/
def replaceBufferedBytes (oldLen newLen : ℕ) (m : Message) :
    Except AnthropicStreamError Message :=
  if m.limits.maxToolBytes < m.bufferedToolBytes - oldLen + newLen then
    .error (.toolDataTooLarge m.limits.maxToolBytes)
  else .ok { m with bufferedToolBytes := m.bufferedToolBytes - oldLen + newLen }

/-- Change a buffered tool call, after its bytes were counted. -/
def updateTool (index : ℕ) (oldLen : BufferedToolCall → ℕ) (newLen : ℕ)
    (change : BufferedToolCall → BufferedToolCall) (m : Message) :
    Message × Except AnthropicStreamError (List Frame) :=
  match Ordered.lookup index m.toolPositions with
  | none => (m, .ok [])
  | some position =>
    match m.tools[position]? with
    | none => (m, .ok [])
    | some tool =>
      match m.replaceBufferedBytes (oldLen tool) newLen with
      | .error e => (m, .error e)
      | .ok m => ({ m with tools := m.tools.modify position change }, .ok [])

/-- The position of a tool call, as `feed_tool_call` looks it up or creates it. -/
def openTool (index : ℕ) (m : Message) : Message × Except AnthropicStreamError (List Frame) :=
  match Ordered.lookup index m.toolPositions with
  | some _ => (m, .ok [])
  | none =>
    if m.limits.maxToolCalls ≤ m.tools.length then
      (m, .error (.tooManyToolCalls m.limits.maxToolCalls))
    else
      ({ m with
          tools := m.tools ++ [⟨none, "", ""⟩]
          toolPositions := Ordered.upsert index (fun _ => m.tools.length) m.toolPositions },
        .ok [])

/-- One item of `feed_payload`. -/
def feedItem : Step Message Item AnthropicStreamError Frame
  | .completionTokens tokens, m => ({ m with outputTokens := tokens, usageSeen := true }, .ok [])
  | .promptTokens tokens, m => ({ m with inputTokens := tokens }, .ok [])
  | .content text, m =>
    ({ m.openText.1 with
        completionChars := U64.saturatingAdd m.openText.1.completionChars text.length },
      .ok (m.openText.2.2 ++ [.textDelta m.openText.2.1 text]))
  | .tool index, m => m.openTool index
  | .toolId index id, m =>
    m.updateTool index (fun tool => (tool.id.map String.utf8ByteSize).getD 0) id.utf8ByteSize
      fun tool => { tool with id := some id }
  | .toolName index name, m =>
    m.updateTool index (fun tool => tool.name.utf8ByteSize) name.utf8ByteSize
      fun tool => { tool with name := name }
  | .toolArguments index arguments, m =>
    match m.updateTool index (fun _ => 0) arguments.utf8ByteSize
      fun tool => { tool with arguments := tool.arguments ++ arguments } with
    | (m, .error e) => (m, .error e)
    | (m, .ok frames) =>
      ({ m with completionChars := U64.saturatingAdd m.completionChars arguments.length },
        .ok frames)
  | .finishReason reason, m => ({ m with finishReason := some reason }, .ok [])

/-- The number of completion tokens that is reported or estimated. -/
def outputEstimate (m : Message) : ℕ :=
  if m.usageSeen then m.outputTokens
  else if m.completionChars = 0 then 0
  else max (m.completionChars / 4) 1

/-- `clear_buffered_tools`. -/
def clearBufferedTools (m : Message) : Message :=
  { m with toolPositions := [], tools := [], bufferedToolBytes := 0 }

/-- `finish_message`. -/
def finishMessage (m : Message) : Message × List Frame :=
  if m.terminal then (m, [])
  else
    ({ m.clearBufferedTools with
        currentTextIndex := none
        nextIndex := m.nextIndex + m.tools.length
        terminal := true },
      m.currentTextIndex.toList.map .blockStop ++ toolFrames m.nextIndex m.tools ++
        (if m.nextIndex + m.tools.length = 0 then [.textStart 0, .blockStop 0] else []) ++
        [.messageDelta (streamStopReason m.finishReason) m.outputEstimate, .messageStop])

/-- `finish_error`. -/
def finishError (errorType message : String) (m : Message) : Message × List Frame :=
  if m.terminal then (m, [])
  else
    ({ m.clearBufferedTools with terminal := true, currentTextIndex := none },
      [.error errorType message])

end Message

/-- What an event is for the translator. -/
inductive Verdict where
  | done
  | error (errorType message : String)
  | items (items : List Item)

/-- How `process_events` reads an event. -/
def verdict (parse : Json.Parser) (event : SseEvent) : Verdict :=
  let data := trim event.data
  if data = "[DONE]" then .done
  else
    match parse (utf8 data.toList) with
    | none => if event.event = "error" then .error "api_error" data else .items []
    | some payload =>
      match streamError event.event payload data with
      | some (errorType, message) => .error errorType message
      | none => .items (payloadItems payload)

/-- One event of `process_events`. After the end, events are skipped. -/
def Message.processEvent (parse : Json.Parser) :
    Step Message SseEvent AnthropicStreamError Frame := fun event m =>
  if m.terminal then (m, .ok [])
  else
    match verdict parse event with
    | .done => (m.finishMessage.1, .ok m.finishMessage.2)
    | .error errorType message =>
      ((m.finishError errorType message).1, .ok (m.finishError errorType message).2)
    | .items items => feed feedItem items m

structure MessagesStreamTranslator extends Message where
  decoder : SseDecoder

namespace MessagesStreamTranslator

/-- A translator that has read nothing. -/
def fresh (model messageId : String) (inputTokens : ℕ) (limits : AnthropicStreamLimits)
    (decoder : SseDecoder) : MessagesStreamTranslator :=
  { limits := limits, model := model, messageId := messageId, inputTokens := inputTokens,
    outputTokens := 0, usageSeen := false, completionChars := 0, finishReason := none,
    nextIndex := 0, currentTextIndex := none, toolPositions := [], tools := [],
    bufferedToolBytes := 0, started := false, terminal := false, decoder := decoder }

/-- `MessagesStreamTranslator::new`. -/
def new (model messageId : String) (inputTokens : ℕ) : MessagesStreamTranslator :=
  fresh model messageId inputTokens .default .default

/-- `MessagesStreamTranslator::with_limits`. -/
def withLimits (model messageId : String) (inputTokens : ℕ) (limits : AnthropicStreamLimits) :
    Except AnthropicStreamError MessagesStreamTranslator :=
  if limits.maxLineBytes = 0 ∨ limits.maxEventBytes = 0 ∨ limits.maxToolCalls = 0 ∨
      limits.maxToolBytes = 0 then .error .invalidLimits
  else
    match SseDecoder.new limits.maxLineBytes limits.maxEventBytes with
    | .error e => .error (.decode e)
    | .ok decoder => .ok (fresh model messageId inputTokens limits decoder)

variable (parse : Json.Parser)

/-- The events of the decoder, translated. -/
def processEvents (decoded : SseDecoder × Except SseDecodeError (List SseEvent)) (m : Message) :
    MessagesStreamTranslator × Except AnthropicStreamError (List Frame) :=
  match decoded with
  | (decoder, .error e) => (⟨m, decoder⟩, .error (.decode e))
  | (decoder, .ok events) =>
    (⟨(feed (Message.processEvent parse) events m).1, decoder⟩,
      (feed (Message.processEvent parse) events m).2)

/-- `MessagesStreamTranslator::push`. -/
def push : Step MessagesStreamTranslator (List UInt8) AnthropicStreamError Frame := fun chunk t =>
  let (m, output) := t.start
  if m.terminal then (⟨m, t.decoder⟩, .ok output)
  else
    let (t, result) := processEvents parse (t.decoder.push chunk) m
    (t, result.map fun frames => output ++ frames)

/-- `MessagesStreamTranslator::finish`. -/
def finish (t : MessagesStreamTranslator) :
    MessagesStreamTranslator × Except AnthropicStreamError (List Frame) :=
  let (m, output) := t.start
  if m.terminal then (⟨m, t.decoder⟩, .ok output)
  else
    match processEvents parse t.decoder.finish m with
    | (t, .error e) => (t, .error e)
    | (t, .ok frames) =>
      (⟨t.finishMessage.1, t.decoder⟩, .ok (output ++ frames ++ t.finishMessage.2))

/-- The loop of `translate_openai_sse_fragments`, which stops at the end of the message. -/
def translateFragments : List (List UInt8) → MessagesStreamTranslator →
    Except AnthropicStreamError (List Frame)
  | [], t => (finish parse t).2
  | fragment :: fragments, t =>
    match push parse fragment t with
    | (_, .error e) => .error e
    | (t, .ok frames) =>
      (if t.terminal then (finish parse t).2 else translateFragments fragments t).map
        fun rest => frames ++ rest

end MessagesStreamTranslator

/-- `translate_openai_sse_fragments`. -/
def translateOpenAiSseFragments (parse : Json.Parser) (fragments : List (List UInt8))
    (model messageId : String) (inputTokens : ℕ) : Except AnthropicStreamError (List Frame) :=
  let t := MessagesStreamTranslator.new model messageId inputTokens
  let (m, output) := t.start
  (MessagesStreamTranslator.translateFragments parse fragments ⟨m, t.decoder⟩).map
    fun rest => output ++ rest

/-! ## What the translator has read -/

/-- The counters and the text block after the given items. -/
structure ReadsText (items : List Item) (m : Message) : Prop where
  usageSeen : m.usageSeen = (completionTokens items).isSome
  outputTokens : m.outputTokens = (completionTokens items).getD 0
  completionChars : m.completionChars = Providers.completionChars items
  finishReason : m.finishReason = Providers.finishReason items
  nextIndex : m.nextIndex = if contents items = [] then 0 else 1
  currentTextIndex : m.currentTextIndex = if contents items = [] then none else some 0

/-- The buffered tool calls after the given items. -/
structure ReadsTools (items : List Item) (m : Message) : Prop where
  sorted : Ordered.Sorted m.toolPositions
  toolPositions : ∀ i, Ordered.lookup i m.toolPositions =
    if i ∈ indices items then some ((indices items).idxOf i) else none
  tools : m.tools = toolCalls items

/-- The state after the given items. -/
structure Reads (items : List Item) (m : Message) : Prop extends ReadsText items m,
    ReadsTools items m where
  running : m.terminal = false

/-- The frames of the content so far. -/
def bodyFrames (items : List Item) : List Frame :=
  if contents items = [] then [] else .textStart 0 :: (contents items).map (.textDelta 0)

/-- Changing the value of an element, in a list of values of different elements. -/
theorem modify_idxOf {α : Type} {l : List ℕ} (hl : l.Nodup) {i : ℕ} (hi : i ∈ l) (g : ℕ → α)
    (f : α → α) :
    (l.map g).modify (l.idxOf i) f = l.map fun j => if j = i then f (g j) else g j := by
  induction l with
  | nil => exact absurd hi List.not_mem_nil
  | cons j l ih =>
    obtain ⟨hnew, hrest⟩ := List.nodup_cons.mp hl
    by_cases hj : j = i
    · subst hj
      have hsame : l.map (fun k => if k = j then f (g k) else g k) = l.map g :=
        List.map_congr_left fun k hk => if_neg fun (heq : k = j) => hnew (heq ▸ hk)
      rw [List.idxOf_cons_self, List.map_cons, List.map_cons, hsame, if_pos rfl]
      rfl
    · have hmem := (List.mem_cons.mp hi).resolve_left (Ne.symm hj)
      rw [List.idxOf_cons_ne _ hj, List.map_cons, List.map_cons, if_neg hj, ← ih hrest hmem]
      rfl

theorem getElem_toolCalls {items : List Item} {i : ℕ} (hi : i ∈ indices items) :
    (toolCalls items)[(indices items).idxOf i]? = some (toolOf items i) := by
  rw [toolCalls, List.getElem?_map, List.getElem?_idxOf hi]
  rfl

/-- One more item about a tool changes that tool. -/
theorem toolCalls_append {items : List Item} {item : Item} (htool : item.tool? = none) {i : ℕ}
    {change : BufferedToolCall → BufferedToolCall}
    (hself : toolOf (items ++ [item]) i = change (toolOf items i))
    (hother : ∀ j ≠ i, toolOf (items ++ [item]) j = toolOf items j) :
    toolCalls (items ++ [item]) =
      if i ∈ indices items then (toolCalls items).modify ((indices items).idxOf i) change
      else toolCalls items := by
  have hindices : indices (items ++ [item]) = indices items := by
    rw [indices_append, htool]
  rw [toolCalls, hindices]
  split_ifs with hi
  · rw [toolCalls, modify_idxOf (nodup_indices items) hi]
    refine List.map_congr_left fun j _ => ?_
    by_cases hj : j = i
    · rw [if_pos hj, hj, hself]
    · rw [if_neg hj, hother j hj]
  · exact List.map_congr_left fun j hj => hother j fun (heq : j = i) => hi (heq ▸ hj)

variable {items : List Item} {item : Item} {m m' : Message} {frames : List Frame}

/-- An item without content, reason and completion tokens. -/
theorem ReadsText.keep (h : ReadsText items m) (hcontent : item.content? = none)
    (hfinish : item.finishReason? = none) (htokens : item.completionTokens? = none)
    (hchars : m'.completionChars = U64.saturatingAdd m.completionChars item.chars)
    (hm : m'.usageSeen = m.usageSeen ∧ m'.outputTokens = m.outputTokens ∧
      m'.finishReason = m.finishReason ∧ m'.nextIndex = m.nextIndex ∧
      m'.currentTextIndex = m.currentTextIndex) : ReadsText (items ++ [item]) m' := by
  have hcontents : contents (items ++ [item]) = contents items := by
    rw [contents_append, hcontent, Option.toList_none, List.append_nil]
  obtain ⟨husage, houtput, hreason, hnext, htext⟩ := hm
  constructor
  · rw [husage, completionTokens_append, htokens]
    exact h.usageSeen
  · rw [houtput, completionTokens_append, htokens]
    exact h.outputTokens
  · rw [hchars, completionChars_append, h.completionChars]
  · rw [hreason, finishReason_append, hfinish]
    exact h.finishReason
  · rw [hnext, hcontents]
    exact h.nextIndex
  · rw [htext, hcontents]
    exact h.currentTextIndex

theorem completionChars_le (items : List Item) : completionChars items ≤ U64.max := by
  induction items using List.reverseRecOn with
  | nil => exact Nat.zero_le _
  | append_singleton items item _ =>
    rw [completionChars_append]
    exact min_le_right _ _

/-- An item without characters leaves their number. -/
theorem ReadsText.chars_zero (h : ReadsText items m) (item : Item) (hchars : item.chars = 0) :
    m.completionChars = U64.saturatingAdd m.completionChars item.chars := by
  have hle := completionChars_le items
  rw [← h.completionChars] at hle
  rw [hchars, U64.saturatingAdd_eq (by omega), Nat.add_zero]

/-- An item that is not about tools. -/
theorem ReadsTools.keep (h : ReadsTools items m) (htool : item.tool? = none)
    (hrefers : item.refers? = none)
    (hm : m'.toolPositions = m.toolPositions ∧ m'.tools = m.tools) :
    ReadsTools (items ++ [item]) m' := by
  have hindices : indices (items ++ [item]) = indices items := by
    rw [indices_append, htool]
  have htools : toolCalls (items ++ [item]) = toolCalls items := by
    rw [toolCalls, hindices]
    refine List.map_congr_left fun j _ => toolOf_append_of_ne items item ?_
    rw [hrefers]
    exact (Option.some_ne_none j).symm
  refine ⟨hm.1 ▸ h.sorted, fun i => ?_, ?_⟩
  · rw [hm.1, hindices]
    exact h.toolPositions i
  · rw [hm.2, htools]
    exact h.tools

/-- What `updateTool` does to the state. -/
theorem ReadsTools.updateTool (h : ReadsTools items m) (htool : item.tool? = none)
    {index newLen : ℕ} {oldLen : BufferedToolCall → ℕ}
    {change : BufferedToolCall → BufferedToolCall} (hrefers : item.refers? = some index)
    (hindex : index ∈ indices items)
    (hself : toolOf (items ++ [item]) index = change (toolOf items index))
    (hstep : m.updateTool index oldLen newLen change = (m', .ok frames)) :
    frames = [] ∧ ReadsTools (items ++ [item]) m' ∧ ∃ bytes tools,
      m' = { m with bufferedToolBytes := bytes, tools := tools } := by
  have hindices : indices (items ++ [item]) = indices items := by
    rw [indices_append, htool]
  have hother : ∀ j ≠ index, toolOf (items ++ [item]) j = toolOf items j := by
    intro j hj
    refine toolOf_append_of_ne items item fun heq => hj ?_
    exact Option.some.inj (heq.symm.trans hrefers)
  unfold Message.updateTool at hstep
  rw [h.toolPositions index, if_pos hindex] at hstep
  simp only [h.tools, getElem_toolCalls hindex] at hstep
  unfold Message.replaceBufferedBytes at hstep
  split_ifs at hstep with hlarge
  · exact (nomatch (Prod.mk.inj hstep).2)
  · obtain ⟨rfl, hframes⟩ := Prod.mk.inj hstep
    refine ⟨(Except.ok.inj hframes).symm, ⟨h.sorted, fun i => ?_, ?_⟩, _, _, rfl⟩
    · rw [hindices]
      exact h.toolPositions i
    · show m.tools.modify _ change = _
      rw [h.tools, toolCalls_append htool hself hother, if_pos hindex]

/-- A tool call that is seen for the first time, or again. -/
theorem ReadsTools.openTool (h : ReadsTools items m) (hannounced : Announced items) {index : ℕ}
    (hstep : m.openTool index = (m', .ok frames)) :
    frames = [] ∧ ReadsTools (items ++ [.tool index]) m' ∧ ∃ positions tools,
      m' = { m with toolPositions := positions, tools := tools } := by
  have hsame : toolOf (items ++ [.tool index]) = toolOf items :=
    funext fun j => toolOf_append_of_ne items (.tool index) (Option.some_ne_none j).symm
  have hindices : indices (items ++ [.tool index]) =
      if index ∈ indices items then indices items else indices items ++ [index] :=
    indices_append items (.tool index)
  unfold Message.openTool at hstep
  rw [h.toolPositions index] at hstep
  by_cases hi : index ∈ indices items
  · rw [if_pos hi] at hstep hindices
    obtain ⟨rfl, hframes⟩ := Prod.mk.inj hstep
    refine ⟨(Except.ok.inj hframes).symm, ⟨h.sorted, fun i => ?_, ?_⟩, _, _, rfl⟩
    · rw [hindices]
      exact h.toolPositions i
    · rw [toolCalls, hindices, hsame]
      exact h.tools
  · rw [if_neg hi] at hstep hindices
    simp only at hstep
    split_ifs at hstep with hfull
    · exact (nomatch (Prod.mk.inj hstep).2)
    · obtain ⟨rfl, hframes⟩ := Prod.mk.inj hstep
      have hlength : m.tools.length = (indices items).length := by
        rw [h.tools, toolCalls, List.length_map]
      refine ⟨(Except.ok.inj hframes).symm, ⟨h.sorted.upsert, fun i => ?_, ?_⟩, _, _, rfl⟩
      · show Ordered.lookup i (Ordered.upsert index (fun _ => m.tools.length) m.toolPositions) = _
        rw [Ordered.lookup_upsert h.sorted, h.toolPositions, hindices, hlength]
        by_cases heq : i = index
        · subst heq
          rw [if_pos rfl, if_pos (by simp), List.idxOf_append_of_notMem hi, List.idxOf_cons_self,
            Nat.add_zero]
        · rw [if_neg heq]
          by_cases hmem : i ∈ indices items
          · rw [if_pos hmem, if_pos (List.mem_append_left _ hmem), List.idxOf_append_of_mem hmem]
          · rw [if_neg hmem, if_neg]
            simp [hmem, heq]
      · show m.tools ++ [⟨none, "", ""⟩] = _
        rw [h.tools, toolCalls, toolCalls, hindices, hsame, List.map_append, List.map_singleton,
          hannounced.toolOf_eq hi]

/-- The first content delta opens the text block. -/
theorem ReadsText.openText (h : ReadsText items m) : m.openText =
    ({ m with nextIndex := 1, currentTextIndex := some 0 }, 0,
      if contents items = [] then [.textStart 0] else []) := by
  have hcurrent := h.currentTextIndex
  have hnext := h.nextIndex
  by_cases hempty : contents items = []
  · rw [if_pos hempty] at hcurrent hnext
    rw [Message.openText, hcurrent, hnext, if_pos hempty]
  · rw [if_neg hempty] at hcurrent hnext
    have hsame : { m with nextIndex := 1, currentTextIndex := some 0 } = m := by
      rw [← hnext, ← hcurrent]
    rw [Message.openText, hcurrent, if_neg hempty, hsame]

/-- One more content delta. -/
theorem ReadsText.content (h : ReadsText items m) (text : String)
    (hstep : Message.feedItem (.content text) m = (m', .ok frames)) :
    bodyFrames (items ++ [.content text]) = bodyFrames items ++ frames ∧
      ReadsText (items ++ [.content text]) m' ∧ m'.toolPositions = m.toolPositions ∧
      m'.tools = m.tools ∧ m'.terminal = m.terminal := by
  have hcontents : contents (items ++ [.content text]) = contents items ++ [text] :=
    contents_append items (.content text)
  have hne : contents (items ++ [.content text]) ≠ [] := by
    rw [hcontents]
    exact List.append_ne_nil_of_right_ne_nil _ (List.cons_ne_nil _ _)
  have htokens : completionTokens (items ++ [.content text]) = completionTokens items :=
    completionTokens_append items (.content text)
  have hreason : Providers.finishReason (items ++ [.content text]) = Providers.finishReason items :=
    finishReason_append items (.content text)
  obtain ⟨rfl, hframes⟩ := Prod.mk.inj hstep
  rw [← Except.ok.inj hframes, h.openText]
  refine ⟨?_, ⟨?_, ?_, ?_, ?_, ?_, ?_⟩, rfl, rfl, rfl⟩
  · rw [bodyFrames, if_neg hne, hcontents, bodyFrames]
    by_cases hempty : contents items = []
    · rw [if_pos hempty, if_pos hempty, hempty]
      rfl
    · rw [if_neg hempty, if_neg hempty, List.map_append]
      rfl
  · rw [htokens]
    exact h.usageSeen
  · rw [htokens]
    exact h.outputTokens
  · rw [completionChars_append, ← h.completionChars]
    rfl
  · rw [hreason]
    exact h.finishReason
  · rw [if_neg hne]
  · rw [if_neg hne]

/-- Without content the frames stay the same. -/
theorem bodyFrames_append (hcontent : item.content? = none) :
    bodyFrames (items ++ [item]) = bodyFrames items := by
  rw [bodyFrames, bodyFrames, contents_append, hcontent, Option.toList_none, List.append_nil]

/-- **Step lemma**: one item. -/
theorem Reads.feedItem (h : Reads items m) (hannounced : Announced items)
    (hrefers : ∀ i, item.refers? = some i → i ∈ indices items)
    (hstep : Message.feedItem item m = (m', .ok frames)) :
    bodyFrames (items ++ [item]) = bodyFrames items ++ frames ∧ Reads (items ++ [item]) m' := by
  cases item with
  | completionTokens tokens =>
    obtain ⟨rfl, hframes⟩ := Prod.mk.inj hstep
    rw [← Except.ok.inj hframes, bodyFrames_append rfl, List.append_nil]
    have hcontents : contents (items ++ [.completionTokens tokens]) = contents items := by
      rw [contents_append]
      exact List.append_nil _
    refine ⟨rfl, ⟨⟨?_, ?_, ?_, ?_, ?_, ?_⟩, h.toReadsTools.keep rfl rfl ⟨rfl, rfl⟩, h.running⟩⟩
    · rw [completionTokens_append]
      rfl
    · rw [completionTokens_append]
      rfl
    · rw [completionChars_append, ← h.completionChars]
      exact h.chars_zero (.completionTokens tokens) rfl
    · rw [finishReason_append]
      exact h.finishReason
    · rw [hcontents]
      exact h.nextIndex
    · rw [hcontents]
      exact h.currentTextIndex
  | promptTokens tokens =>
    obtain ⟨rfl, hframes⟩ := Prod.mk.inj hstep
    rw [← Except.ok.inj hframes, bodyFrames_append rfl, List.append_nil]
    exact ⟨rfl, ⟨h.toReadsText.keep rfl rfl rfl
      (h.chars_zero (.promptTokens tokens) rfl) ⟨rfl, rfl, rfl, rfl, rfl⟩,
      h.toReadsTools.keep rfl rfl ⟨rfl, rfl⟩, h.running⟩⟩
  | content text =>
    obtain ⟨hbody, htext, hpositions, htools, hterminal⟩ := h.content text hstep
    exact ⟨hbody, ⟨htext, h.toReadsTools.keep rfl rfl ⟨hpositions, htools⟩,
      hterminal.trans h.running⟩⟩
  | tool index =>
    obtain ⟨rfl, htools, positions, tools, rfl⟩ := h.toReadsTools.openTool hannounced hstep
    rw [bodyFrames_append rfl, List.append_nil]
    exact ⟨rfl, ⟨h.toReadsText.keep rfl rfl rfl (h.chars_zero (.tool index) rfl)
      ⟨rfl, rfl, rfl, rfl, rfl⟩, htools, h.running⟩⟩
  | toolId index id =>
    have hself : toolOf (items ++ [.toolId index id]) index =
        { toolOf items index with id := some id } := by
      rw [toolOf_append]
      simp [Item.toolId?, Item.toolName?, Item.toolArguments?]
    obtain ⟨rfl, htools, bytes, tools, rfl⟩ :=
      h.toReadsTools.updateTool rfl rfl (hrefers index rfl) hself hstep
    rw [bodyFrames_append rfl, List.append_nil]
    exact ⟨rfl, ⟨h.toReadsText.keep rfl rfl rfl (h.chars_zero (.toolId index id) rfl)
      ⟨rfl, rfl, rfl, rfl, rfl⟩, htools, h.running⟩⟩
  | toolName index name =>
    have hself : toolOf (items ++ [.toolName index name]) index =
        { toolOf items index with name := name } := by
      rw [toolOf_append]
      simp [Item.toolId?, Item.toolName?, Item.toolArguments?]
    obtain ⟨rfl, htools, bytes, tools, rfl⟩ :=
      h.toReadsTools.updateTool rfl rfl (hrefers index rfl) hself hstep
    rw [bodyFrames_append rfl, List.append_nil]
    exact ⟨rfl, ⟨h.toReadsText.keep rfl rfl rfl (h.chars_zero (.toolName index name) rfl)
      ⟨rfl, rfl, rfl, rfl, rfl⟩, htools, h.running⟩⟩
  | toolArguments index arguments =>
    have hself : toolOf (items ++ [.toolArguments index arguments]) index =
        { toolOf items index with arguments := (toolOf items index).arguments ++ arguments } := by
      rw [toolOf_append]
      simp [Item.toolId?, Item.toolName?, Item.toolArguments?]
    rw [Message.feedItem] at hstep
    rcases hupdate : m.updateTool index (fun _ => 0) arguments.utf8ByteSize
      (fun tool => { tool with arguments := tool.arguments ++ arguments }) with ⟨m₁, e | frames₁⟩
    · rw [hupdate] at hstep
      exact (nomatch (Prod.mk.inj hstep).2)
    · rw [hupdate] at hstep
      obtain ⟨rfl, hframes⟩ := Prod.mk.inj hstep
      obtain ⟨rfl, htools, bytes, tools, rfl⟩ :=
        h.toReadsTools.updateTool rfl rfl (hrefers index rfl) hself hupdate
      rw [← Except.ok.inj hframes, bodyFrames_append rfl, List.append_nil]
      exact ⟨rfl, ⟨h.toReadsText.keep rfl rfl rfl rfl ⟨rfl, rfl, rfl, rfl, rfl⟩,
        ⟨htools.sorted, htools.toolPositions, htools.tools⟩, h.running⟩⟩
  | finishReason reason =>
    obtain ⟨rfl, hframes⟩ := Prod.mk.inj hstep
    rw [← Except.ok.inj hframes, bodyFrames_append rfl, List.append_nil]
    have hcontents : contents (items ++ [.finishReason reason]) = contents items := by
      rw [contents_append]
      exact List.append_nil _
    refine ⟨rfl, ⟨⟨?_, ?_, ?_, ?_, ?_, ?_⟩, h.toReadsTools.keep rfl rfl ⟨rfl, rfl⟩, h.running⟩⟩
    · rw [completionTokens_append]
      exact h.usageSeen
    · rw [completionTokens_append]
      exact h.outputTokens
    · rw [completionChars_append, ← h.completionChars]
      exact h.chars_zero (.finishReason reason) rfl
    · rw [finishReason_append]
      rfl
    · rw [hcontents]
      exact h.nextIndex
    · rw [hcontents]
      exact h.currentTextIndex

/-- **Run lemma**: the items of a payload. -/
theorem Reads.feedItems {rest : List Item} (h : Reads items m)
    (hannounced : Announced (items ++ rest))
    (hstep : feed Message.feedItem rest m = (m', .ok frames)) :
    bodyFrames (items ++ rest) = bodyFrames items ++ frames ∧ Reads (items ++ rest) m' := by
  induction rest generalizing items m frames with
  | nil =>
    obtain ⟨rfl, hframes⟩ := Prod.mk.inj hstep
    rw [← Except.ok.inj hframes, List.append_nil, List.append_nil]
    exact ⟨rfl, h⟩
  | cons item rest ih =>
    rw [List.append_cons] at hannounced ⊢
    obtain ⟨hbefore, hrefers⟩ := announced_append_iff.mp hannounced.of_append
    obtain ⟨m₁, frames₁, frames₂, hfirst, hrest, rfl⟩ := feed_cons_eq_ok hstep
    obtain ⟨hbody, hreads⟩ := h.feedItem hbefore hrefers hfirst
    obtain ⟨hbody', hreads'⟩ := ih hreads hannounced hrest
    rw [hbody', hbody, List.append_assoc]
    exact ⟨rfl, hreads'⟩

/-! ## Whole streams -/

/-- How a stream ends. -/
inductive Ending where
  | unfinished
  | done
  | error (errorType message : String)
deriving DecidableEq

/-- The items before the end of the stream, and its end. -/
def upstream (parse : Json.Parser) : List SseEvent → List Item × Ending
  | [] => ([], .unfinished)
  | event :: events =>
    match verdict parse event with
    | .done => ([], .done)
    | .error errorType message => ([], .error errorType message)
    | .items items => (items ++ (upstream parse events).1, (upstream parse events).2)

/-- The number of completion tokens that is reported or estimated for the items. -/
def outputEstimate (items : List Item) : ℕ :=
  match completionTokens items with
  | some tokens => tokens
  | none => if completionChars items = 0 then 0 else max (completionChars items / 4) 1

/-- The frames that close a message: the end of the text block, a block for each tool, an empty
text block if there is nothing else, and the end of the message. -/
def closingFrames (items : List Item) : List Frame :=
  (if contents items = [] then [] else [.blockStop 0]) ++
    toolFrames (if contents items = [] then 0 else 1) (toolCalls items) ++
    (if contents items = [] ∧ toolCalls items = [] then [.textStart 0, .blockStop 0] else []) ++
    [.messageDelta (streamStopReason (finishReason items)) (outputEstimate items), .messageStop]

/-- The frames at the end of a stream. -/
def endFrames (items : List Item) : Ending → List Frame
  | .error errorType message => [.error errorType message]
  | _ => closingFrames items

/-- The frames of a stream. -/
def expected (messageId model : String) (inputTokens : ℕ) (items : List Item) (ending : Ending) :
    List Frame :=
  .messageStart messageId model inputTokens :: (bodyFrames items ++ endFrames items ending)

theorem Reads.outputEstimate (h : Reads items m) :
    m.outputEstimate = Providers.outputEstimate items := by
  rw [Message.outputEstimate, Providers.outputEstimate, h.usageSeen, h.outputTokens,
    h.completionChars]
  cases completionTokens items with
  | none => rfl
  | some tokens => rfl

/-- The end of a message. -/
theorem Reads.finishMessage (h : Reads items m) :
    m.finishMessage.2 = closingFrames items ∧ m.finishMessage.1.terminal = true := by
  have hrunning : ¬ m.terminal = true := by
    rw [h.running]
    exact Bool.false_ne_true
  rw [Message.finishMessage, if_neg hrunning]
  refine ⟨?_, rfl⟩
  show m.currentTextIndex.toList.map Frame.blockStop ++ _ ++ _ ++ _ = _
  rw [closingFrames, h.outputEstimate, h.finishReason, h.currentTextIndex, h.nextIndex, h.tools]
  by_cases hempty : contents items = []
  · rw [if_pos hempty, if_pos hempty, if_pos hempty]
    have hnone : 0 + (toolCalls items).length = 0 ↔ contents items = [] ∧ toolCalls items = [] := by
      rw [Nat.zero_add, List.length_eq_zero_iff]
      exact ⟨fun htools => ⟨hempty, htools⟩, fun hboth => hboth.2⟩
    rw [if_congr hnone rfl rfl]
    rfl
  · rw [if_neg hempty, if_neg hempty, if_neg hempty]
    have hnone : ¬ 1 + (toolCalls items).length = 0 := by omega
    have hboth : ¬ (contents items = [] ∧ toolCalls items = []) := fun h => hempty h.1
    rw [if_neg hnone, if_neg hboth]
    rfl

theorem Reads.finishError (h : Reads items m) (errorType message : String) :
    (m.finishError errorType message).2 = [.error errorType message] ∧
      (m.finishError errorType message).1.terminal = true := by
  have hrunning : ¬ m.terminal = true := by
    rw [h.running]
    exact Bool.false_ne_true
  rw [Message.finishError, if_neg hrunning]
  exact ⟨rfl, rfl⟩

/-- After the end nothing happens. -/
theorem processEvents_terminal (parse : Json.Parser) (h : m.terminal = true)
    (events : List SseEvent) : feed (Message.processEvent parse) events m = (m, .ok []) := by
  induction events with
  | nil => rfl
  | cons event events ih =>
    have hfirst : Message.processEvent parse event m = (m, .ok []) := by
      rw [Message.processEvent, if_pos h]
    rw [feed_cons_ok hfirst, ih]
    rfl

/-- The items of an event are those of a payload. -/
theorem items_of_verdict {parse : Json.Parser} {event : SseEvent} {rest : List Item}
    (h : verdict parse event = .items rest) :
    rest = [] ∨ ∃ payload, rest = payloadItems payload := by
  unfold verdict at h
  cases hparse : parse (utf8 (trim event.data).toList) with
  | none =>
    simp only [hparse] at h
    split_ifs at h with hdone herror
    cases h
    exact .inl rfl
  | some payload =>
    cases herror : streamError event.event payload (trim event.data) with
    | none =>
      simp only [hparse, herror] at h
      split_ifs at h with hdone
      cases h
      exact .inr ⟨payload, rfl⟩
    | some error =>
      simp only [hparse, herror] at h
      split_ifs at h

theorem verdict_selfContained {parse : Json.Parser} {event : SseEvent} {rest : List Item}
    (h : verdict parse event = .items rest) : SelfContained rest := by
  rcases items_of_verdict h with rfl | ⟨payload, rfl⟩
  · exact SelfContained.nil
  · exact selfContained_payloadItems payload

/-- The stream has not ended. -/
def Ending.isOpen : Ending → Bool
  | .unfinished => true
  | _ => false

/-- What a list of events leads to. -/
structure Translated (parse : Json.Parser) (before : List Item) (events : List SseEvent)
    (m : Message) (frames : List Frame) : Prop where
  running : (upstream parse events).2.isOpen = true →
    Reads (before ++ (upstream parse events).1) m ∧
      Announced (before ++ (upstream parse events).1) ∧
      bodyFrames (before ++ (upstream parse events).1) = bodyFrames before ++ frames
  ended : (upstream parse events).2.isOpen = false → m.terminal = true ∧
    bodyFrames (before ++ (upstream parse events).1) ++
      endFrames (before ++ (upstream parse events).1) (upstream parse events).2 =
        bodyFrames before ++ frames

/-- **Run lemma**: the events of a stream. -/
theorem Reads.processEvents {parse : Json.Parser} {events : List SseEvent} (h : Reads items m)
    (hannounced : Announced items)
    (hstep : feed (Message.processEvent parse) events m = (m', .ok frames)) :
    Translated parse items events m' frames := by
  induction events generalizing items m frames with
  | nil =>
    obtain ⟨rfl, hframes⟩ := Prod.mk.inj hstep
    rw [← Except.ok.inj hframes]
    refine ⟨fun _ => ?_, fun hended => (nomatch hended)⟩
    show Reads (items ++ []) m ∧ Announced (items ++ []) ∧ bodyFrames (items ++ []) = _
    rw [List.append_nil, List.append_nil]
    exact ⟨h, hannounced, rfl⟩
  | cons event events ih =>
    have hrunning : ¬ m.terminal = true := by
      rw [h.running]
      exact Bool.false_ne_true
    obtain ⟨m₁, frames₁, frames₂, hfirst, hrest, rfl⟩ := feed_cons_eq_ok hstep
    rw [Message.processEvent, if_neg hrunning] at hfirst
    cases hverdict : verdict parse event with
    | done =>
      rw [hverdict] at hfirst
      obtain ⟨rfl, hframes⟩ := Prod.mk.inj hfirst
      obtain ⟨hclosing, hterminal⟩ := h.finishMessage
      rw [processEvents_terminal parse hterminal] at hrest
      obtain ⟨rfl, hnone⟩ := Prod.mk.inj hrest
      have hupstream : upstream parse (event :: events) = ([], .done) := by
        rw [upstream, hverdict]
      constructor
      · rw [hupstream]
        exact fun h => (nomatch h)
      · rw [hupstream, ← Except.ok.inj hframes, ← Except.ok.inj hnone, hclosing, List.append_nil,
          List.append_nil]
        exact fun _ => ⟨hterminal, rfl⟩
    | error errorType message =>
      rw [hverdict] at hfirst
      obtain ⟨rfl, hframes⟩ := Prod.mk.inj hfirst
      obtain ⟨hclosing, hterminal⟩ := h.finishError errorType message
      rw [processEvents_terminal parse hterminal] at hrest
      obtain ⟨rfl, hnone⟩ := Prod.mk.inj hrest
      have hupstream : upstream parse (event :: events) = ([], .error errorType message) := by
        rw [upstream, hverdict]
      constructor
      · rw [hupstream]
        exact fun h => (nomatch h)
      · rw [hupstream, ← Except.ok.inj hframes, ← Except.ok.inj hnone, hclosing, List.append_nil,
          List.append_nil]
        exact fun _ => ⟨hterminal, rfl⟩
    | items rest =>
      rw [hverdict] at hfirst
      have hupstream : upstream parse (event :: events) =
          (rest ++ (upstream parse events).1, (upstream parse events).2) := by
        rw [upstream, hverdict]
      have hnext : Announced (items ++ rest) := verdict_selfContained hverdict items hannounced
      obtain ⟨hbody, hreads⟩ := h.feedItems hnext hfirst
      have htranslated := ih hreads hnext hrest
      have hall : bodyFrames items ++ (frames₁ ++ frames₂) =
          bodyFrames (items ++ rest) ++ frames₂ := by
        rw [hbody, List.append_assoc]
      constructor
      · rw [hupstream, ← List.append_assoc, hall]
        exact htranslated.running
      · rw [hupstream, ← List.append_assoc, hall]
        exact htranslated.ended

/-- Events after the end do not matter. -/
theorem upstream_append (parse : Json.Parser) (events more : List SseEvent) :
    upstream parse (events ++ more) =
      if (upstream parse events).2.isOpen then
        ((upstream parse events).1 ++ (upstream parse more).1, (upstream parse more).2)
      else upstream parse events := by
  induction events with
  | nil => rfl
  | cons event events ih =>
    rw [List.cons_append, upstream, upstream]
    cases verdict parse event with
    | done => rfl
    | error errorType message => rfl
    | items items =>
      show (items ++ (upstream parse (events ++ more)).1, (upstream parse (events ++ more)).2) = _
      rw [ih]
      show _ = if (upstream parse events).2.isOpen then _ else _
      split_ifs
      · rw [List.append_assoc]
      · rfl

/-! ## Buffered bytes -/

/-- The bytes of the texts of a tool call. -/
def BufferedToolCall.bytes (tool : BufferedToolCall) : ℕ :=
  (tool.id.map String.utf8ByteSize).getD 0 + tool.name.utf8ByteSize + tool.arguments.utf8ByteSize

/-- The buffered bytes are counted and bounded. -/
structure Buffered (limits : AnthropicStreamLimits) (m : Message) : Prop where
  unchanged : m.limits = limits
  total : m.bufferedToolBytes = (m.tools.map BufferedToolCall.bytes).sum
  bounded : m.bufferedToolBytes ≤ limits.maxToolBytes

/-- Changing one element changes the sum by the difference. -/
theorem sum_modify {α : Type} (g : α → ℕ) (f : α → α) {l : List α} {position : ℕ} {a : α}
    (h : l[position]? = some a) :
    ((l.modify position f).map g).sum + g a = (l.map g).sum + g (f a) := by
  induction l generalizing position with
  | nil => simp at h
  | cons b l ih =>
    cases position with
    | zero =>
      obtain rfl : b = a := by simpa using h
      simp only [List.modify_zero_cons, List.map_cons, List.sum_cons]
      omega
    | succ position =>
      have hrest := ih (by simpa using h)
      simp only [List.modify_succ_cons, List.map_cons, List.sum_cons]
      omega

namespace Buffered

variable {limits : AnthropicStreamLimits}

theorem updateTool (h : Buffered limits m) {oldLen : BufferedToolCall → ℕ} {newLen : ℕ}
    {change : BufferedToolCall → BufferedToolCall}
    (hchange : ∀ tool, oldLen tool ≤ tool.bytes ∧
      (change tool).bytes + oldLen tool = tool.bytes + newLen) (index : ℕ) :
    Buffered limits (m.updateTool index oldLen newLen change).1 := by
  unfold Message.updateTool
  split
  · exact h
  · next position _ =>
    split
    · exact h
    · next tool htool =>
      rw [Message.replaceBufferedBytes]
      by_cases hlarge : m.limits.maxToolBytes < m.bufferedToolBytes - oldLen tool + newLen
      · rw [if_pos hlarge]
        exact h
      · rw [if_neg hlarge]
        have hsum := sum_modify BufferedToolCall.bytes change htool
        have htotal := h.total
        have hbytes := hchange tool
        have hle : tool.bytes ≤ (m.tools.map BufferedToolCall.bytes).sum :=
          List.single_le_sum (fun _ _ => Nat.zero_le _) _
            (List.mem_map_of_mem (List.mem_of_getElem? htool))
        refine ⟨h.unchanged, ?_, ?_⟩
        · show m.bufferedToolBytes - oldLen tool + newLen =
            ((m.tools.modify position change).map BufferedToolCall.bytes).sum
          omega
        · rw [← h.unchanged]
          exact Nat.not_lt.mp hlarge

theorem openTool (h : Buffered limits m) (index : ℕ) : Buffered limits (m.openTool index).1 := by
  unfold Message.openTool
  split
  · exact h
  · split_ifs
    · exact h
    · refine ⟨h.unchanged, ?_, h.bounded⟩
      have hempty : BufferedToolCall.bytes ⟨none, "", ""⟩ = 0 := rfl
      rw [List.map_append, List.sum_append, List.map_singleton, hempty]
      exact h.total

theorem feedItem (h : Buffered limits m) (item : Item) :
    Buffered limits (Message.feedItem item m).1 := by
  cases item with
  | completionTokens tokens => exact ⟨h.unchanged, h.total, h.bounded⟩
  | promptTokens tokens => exact ⟨h.unchanged, h.total, h.bounded⟩
  | content text =>
    rw [Message.feedItem, Message.openText]
    split
    · exact ⟨h.unchanged, h.total, h.bounded⟩
    · exact ⟨h.unchanged, h.total, h.bounded⟩
  | tool index => exact h.openTool index
  | toolId index id =>
    refine h.updateTool (fun tool => ?_) index
    simp only [BufferedToolCall.bytes, Option.map_some, Option.getD_some]
    omega
  | toolName index name =>
    refine h.updateTool (fun tool => ?_) index
    simp only [BufferedToolCall.bytes]
    omega
  | toolArguments index arguments =>
    have hupdate : Buffered limits (m.updateTool index (fun _ => 0) arguments.utf8ByteSize
        fun tool => { tool with arguments := tool.arguments ++ arguments }).1 := by
      refine h.updateTool (fun tool => ⟨Nat.zero_le _, ?_⟩) index
      simp only [BufferedToolCall.bytes, String.utf8ByteSize_append]
      omega
    rw [Message.feedItem]
    split
    · next m₁ e hm => exact (hm ▸ hupdate : Buffered limits (m₁, Except.error e).1)
    · next m₁ frames hm =>
      have hm₁ : Buffered limits m₁ := (hm ▸ hupdate : Buffered limits (m₁, Except.ok frames).1)
      exact ⟨hm₁.unchanged, hm₁.total, hm₁.bounded⟩
  | finishReason reason => exact ⟨h.unchanged, h.total, h.bounded⟩

theorem finishMessage (h : Buffered limits m) : Buffered limits m.finishMessage.1 := by
  by_cases hterminal : m.terminal = true
  · rw [Message.finishMessage, if_pos hterminal]
    exact h
  · rw [Message.finishMessage, if_neg hterminal]
    exact ⟨h.unchanged, rfl, Nat.zero_le _⟩

theorem finishError (h : Buffered limits m) (errorType message : String) :
    Buffered limits (m.finishError errorType message).1 := by
  by_cases hterminal : m.terminal = true
  · rw [Message.finishError, if_pos hterminal]
    exact h
  · rw [Message.finishError, if_neg hterminal]
    exact ⟨h.unchanged, rfl, Nat.zero_le _⟩

theorem processEvent (h : Buffered limits m) (parse : Json.Parser) (event : SseEvent) :
    Buffered limits (Message.processEvent parse event m).1 := by
  rw [Message.processEvent]
  split_ifs
  · exact h
  · cases verdict parse event with
    | done => exact h.finishMessage
    | error errorType message => exact h.finishError errorType message
    | items items => exact feed_invariant (fun item _ hm => hm.feedItem item) items h

theorem start (h : Buffered limits m) : Buffered limits m.start.1 := by
  rw [Message.start]
  split_ifs
  · exact h
  · exact ⟨h.unchanged, h.total, h.bounded⟩

end Buffered

/-! ## The operations -/

namespace MessagesStreamTranslator

variable {parse : Json.Parser} {limits : AnthropicStreamLimits} {t t' : MessagesStreamTranslator}

variable (parse) in
theorem buffered_processEvents (h : Buffered limits m)
    (decoded : SseDecoder × Except SseDecodeError (List SseEvent)) :
    Buffered limits (processEvents parse decoded m).1.toMessage := by
  obtain ⟨decoder, e | events⟩ := decoded
  · exact h
  · exact feed_invariant (fun event _ hm => hm.processEvent parse event) events h

theorem buffered_push (h : Buffered limits t.toMessage) (chunk : List UInt8) :
    Buffered limits (push parse chunk t).1.toMessage := by
  rw [push]
  simp only
  split_ifs
  · exact h.start
  · exact buffered_processEvents parse h.start _

theorem buffered_finish (h : Buffered limits t.toMessage) :
    Buffered limits (finish parse t).1.toMessage := by
  have hevents := buffered_processEvents parse h.start t.decoder.finish
  rw [finish]
  simp only
  split_ifs
  · exact h.start
  · rcases hprocess : processEvents parse t.decoder.finish t.start.1 with ⟨t₁, e | frames⟩
    · rw [hprocess] at hevents
      exact hevents
    · rw [hprocess] at hevents
      exact hevents.finishMessage

theorem buffered_fresh (model messageId : String) (inputTokens : ℕ)
    (limits : AnthropicStreamLimits) (decoder : SseDecoder) :
    Buffered limits (fresh model messageId inputTokens limits decoder).toMessage :=
  ⟨rfl, rfl, Nat.zero_le _⟩

end MessagesStreamTranslator

/-! ### The start frame is sent once -/

namespace Message

theorem started_updateTool (index : ℕ) (oldLen : BufferedToolCall → ℕ) (newLen : ℕ)
    (change : BufferedToolCall → BufferedToolCall) (m : Message) :
    (m.updateTool index oldLen newLen change).1.started = m.started := by
  unfold updateTool
  split
  · rfl
  · split
    · rfl
    · next tool _ =>
      rw [replaceBufferedBytes]
      by_cases hlarge : m.limits.maxToolBytes < m.bufferedToolBytes - oldLen tool + newLen
      · rw [if_pos hlarge]
      · rw [if_neg hlarge]

theorem started_feedItem (item : Item) (m : Message) : (feedItem item m).1.started = m.started := by
  cases item with
  | completionTokens tokens => rfl
  | promptTokens tokens => rfl
  | content text =>
    rw [feedItem, openText]
    split
    · rfl
    · rfl
  | tool index =>
    rw [feedItem, openTool]
    split
    · rfl
    · split_ifs
      · rfl
      · rfl
  | toolId index id => exact started_updateTool _ _ _ _ _
  | toolName index name => exact started_updateTool _ _ _ _ _
  | toolArguments index arguments =>
    have hupdate := started_updateTool index (fun _ => 0) arguments.utf8ByteSize
      (fun tool => { tool with arguments := tool.arguments ++ arguments }) m
    rw [feedItem]
    split
    · next hm => exact (congrArg (fun r => r.1.started) hm).symm.trans hupdate
    · next hm => exact (congrArg (fun r => r.1.started) hm).symm.trans hupdate
  | finishReason reason => rfl

theorem started_processEvents (parse : Json.Parser) (h : m.started = true)
    (events : List SseEvent) :
    (feed (processEvent parse) events m).1.started = true := by
  refine feed_invariant (p := fun m : Message => m.started = true) (fun event m hm => ?_) events h
  rw [processEvent]
  split_ifs with hterminal
  · exact hm
  · cases verdict parse event with
    | done =>
      show (finishMessage m).1.started = true
      rw [finishMessage, if_neg hterminal]
      exact hm
    | error errorType message =>
      show (finishError errorType message m).1.started = true
      rw [finishError, if_neg hterminal]
      exact hm
    | items items =>
      exact feed_invariant (p := fun m : Message => m.started = true)
        (fun item m hm => (started_feedItem item m).trans hm) items hm

theorem start_of_started (h : m.started = true) : m.start = (m, []) := by
  rw [start, if_pos h]

end Message

end WayfinderRouter.Providers
