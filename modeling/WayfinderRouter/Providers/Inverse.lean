import WayfinderRouter.Providers.Fragments
import WayfinderRouter.Providers.NativeBlocks

/-!
# Message streams back to chat completion streams

The frames of the translator, cut into chunks in any way, are read by the adapter. The chat
completion stream that comes out says what the one that went in says.

## Main definitions

- `Frame.sse`, `Frame.messagesEvent` — a frame as the decoder and the adapter read it
- `expectedChunks` — the chunks of a stream, in terms of its items
- `chunkItems` — what chunks say, read as a chat completion stream
-/

namespace WayfinderRouter.Providers

open Transducer

/-! ## Frames on the wire -/

namespace Frame

/-- The event of a frame, as it is decoded. -/
def sse (frame : Frame) : SseEvent := ⟨frame.event, String.ofList frame.payload.render, none⟩

/-- The data line of a frame. -/
def dataLine (frame : Frame) : List Char := "data: ".toList ++ frame.payload.render

/-- The data line fits the default limits of the decoder. -/
def Fits (frame : Frame) : Prop :=
  (utf8 frame.dataLine).length ≤ SseDecoder.default.maxLineBytes

instance (frame : Frame) : Decidable frame.Fits :=
  inferInstanceAs (Decidable (_ ≤ _))

theorem printable_payload (frame : Frame) : Printable frame.payload.render := by
  cases frame with
  | _ =>
    simp only [payload, Json.render, Json.renderAll, Json.renderEntries, List.intercalate,
      List.intersperse, List.flatten_cons, List.flatten_nil, printable_append, printable_cons,
      Json.printable_quote, Json.printable_nat, true_and, and_true]
    decide

theorem printable_event (frame : Frame) : Printable frame.event.toList := by
  cases frame with
  | _ =>
    simp only [event]
    decide

theorem event_fits (frame : Frame) :
    (utf8 ("event: ".toList ++ frame.event.toList)).length ≤ 256 * 1024 := by
  cases frame with
  | _ =>
    simp only [event]
    decide

/-- A frame is decoded to its event. -/
theorem push_bytes {frame : Frame} (hfits : frame.Fits) :
    SseDecoder.push frame.bytes .default = (.default, .ok [frame.sse]) := by
  have hline : (utf8 frame.dataLine).length ≤ 256 * 1024 := hfits
  have hsize : (utf8 frame.payload.render).length ≤ 1024 * 1024 := by
    rw [dataLine, utf8_append, List.length_append] at hline
    omega
  have hdefault : SseDecoder.default = .idle (256 * 1024) (1024 * 1024) none := rfl
  have htext : (String.ofList frame.payload.render).toList = frame.payload.render :=
    String.toList_ofList
  have hbytes : frame.bytes =
      SseDecoder.sseFrame frame.event (String.ofList frame.payload.render) := by
    rw [SseDecoder.sseFrame, htext]
    rfl
  rw [hbytes, hdefault]
  refine SseDecoder.Fits.push ⟨frame.printable_event.singleLine, ?_, frame.event_fits, ?_, ?_⟩ none
  all_goals rw [htext]
  · exact frame.printable_payload.singleLine
  · exact hline
  · exact hsize

/-- The frames are decoded to their events. -/
theorem push_frames {frames : List Frame} (hfits : ∀ frame ∈ frames, frame.Fits) :
    SseDecoder.push (frames.flatMap bytes) .default = (.default, .ok (frames.map sse)) := by
  induction frames with
  | nil => rfl
  | cons frame frames ih =>
    obtain ⟨hframe, hframes⟩ := List.forall_mem_cons.mp hfits
    have hfirst := push_bytes hframe
    have hrest := ih hframes
    rw [SseDecoder.push] at hfirst hrest ⊢
    rw [List.flatMap_cons, feed_append_ok hfirst, hrest]
    rfl

/-- The index of the block of a frame. -/
def index? : Frame → Option ℕ
  | textStart index => some index
  | textDelta index _ => some index
  | toolStart index _ _ => some index
  | toolDelta index _ => some index
  | blockStop index => some index
  | _ => none

/-- The event of a frame, as the adapter reads it. -/
def messagesEvent : Frame → MessagesEvent
  | messageStart messageId model inputTokens =>
    .messageStart messageId model ((Json.nat inputTokens).asU64.getD 0)
  | textStart index => .textStart index
  | textDelta index text => .textDelta index text
  | toolStart index id name => .toolStart index (.string id) (.string name)
  | toolDelta index arguments => .inputJsonDelta index arguments
  | blockStop index => .blockStop index
  | messageDelta reason outputTokens =>
    .messageDelta (some reason) ((Json.nat outputTokens).asU64.getD 0)
  | messageStop => .messageStop
  | error errorType message => .error message errorType

theorem read_payload {frame : Frame} (hindex : ∀ i, frame.index? = some i → i ≤ U64.max) :
    MessagesEvent.read frame.event frame.payload = some frame.messagesEvent := by
  cases frame with
  | messageStart messageId model inputTokens => rfl
  | textStart index =>
    have hread := Json.asU64_nat (hindex index rfl)
    simp [event, payload, MessagesEvent.read, MessagesEvent.readBlockStart, Json.get,
      Json.asObject, Json.asStr, Ordered.lookup, hread, messagesEvent]
  | textDelta index text =>
    have hread := Json.asU64_nat (hindex index rfl)
    simp [event, payload, MessagesEvent.read, MessagesEvent.readBlockDelta, Json.get,
      Json.asObject, Json.asStr, Ordered.lookup, hread, messagesEvent]
  | toolStart index id name =>
    have hread := Json.asU64_nat (hindex index rfl)
    simp [event, payload, MessagesEvent.read, MessagesEvent.readBlockStart, Json.get,
      Json.asObject, Json.asStr, Ordered.lookup, hread, messagesEvent]
  | toolDelta index arguments =>
    have hread := Json.asU64_nat (hindex index rfl)
    simp [event, payload, MessagesEvent.read, MessagesEvent.readBlockDelta, Json.get,
      Json.asObject, Json.asStr, Ordered.lookup, hread, messagesEvent]
  | blockStop index =>
    have hread := Json.asU64_nat (hindex index rfl)
    simp [event, payload, MessagesEvent.read, MessagesEvent.readBlockStop, Json.get,
      Json.asObject, Ordered.lookup, hread, messagesEvent]
  | messageDelta reason outputTokens => rfl
  | messageStop => rfl
  | error errorType message => rfl

/-- A frame is read as its event. -/
theorem readEvent_sse {parse : Json.Parser} {frame : Frame} (hparse : parse.Reads frame.payload)
    (hindex : ∀ i, frame.index? = some i → i ≤ U64.max) :
    readEvent parse frame.sse = some frame.messagesEvent := by
  have hevent : frame.event ≠ "message" := by
    cases frame with
    | _ =>
      simp only [event]
      decide
  have htext : parse (utf8 frame.sse.data.toList) = some frame.payload := by
    rw [sse, String.toList_ofList]
    exact hparse
  rw [readEvent, htext]
  simp only [Option.bind_eq_bind, Option.bind_some]
  show MessagesEvent.read (if frame.event = "message" then _ else frame.event) _ = _
  rw [if_neg hevent, read_payload hindex]

theorem translateEvent_sse {parse : Json.Parser} {frame : Frame}
    (hparse : parse.Reads frame.payload) (hindex : ∀ i, frame.index? = some i → i ≤ U64.max)
    {s : NativeState} (hrunning : s.terminal = false) :
    NativeState.translateEvent parse frame.sse s = s.apply frame.messagesEvent := by
  have hping : frame.event ≠ "ping" := by
    cases frame with
    | _ =>
      simp only [event]
      decide
  rw [NativeState.translateEvent, if_neg, readEvent_sse hparse hindex]
  rintro (hterminal | hevent)
  · exact Bool.false_ne_true (hrunning.symm.trans hterminal)
  · exact hping hevent

/-- The frames are translated as their events are applied. -/
theorem translate_frames {parse : Json.Parser} {frames : List Frame}
    (hparse : ∀ frame ∈ frames, parse.Reads frame.payload)
    (hindex : ∀ frame ∈ frames, ∀ i, frame.index? = some i → i ≤ U64.max)
    (honce : EndsOnce (frames.map messagesEvent)) {s s' : NativeState} {chunks : List Chunk}
    (hrunning : s.terminal = false)
    (h : feed NativeState.apply (frames.map messagesEvent) s = (s', .ok chunks)) :
    feed (NativeState.translateEvent parse) (frames.map sse) s = (s', .ok chunks) := by
  induction frames generalizing s chunks with
  | nil => exact h
  | cons frame frames ih =>
    obtain ⟨hparseFirst, hparseRest⟩ := List.forall_mem_cons.mp hparse
    obtain ⟨hindexFirst, hindexRest⟩ := List.forall_mem_cons.mp hindex
    obtain ⟨s₁, first, rest, hfirst, hrest, rfl⟩ := feed_cons_eq_ok h
    have hstep := (translateEvent_sse hparseFirst hindexFirst hrunning).trans hfirst
    have hterminal := (applied_of_apply hfirst).terminal
    rw [hrunning, Bool.or_false] at hterminal
    rw [List.map_cons, feed_cons_ok hstep]
    generalize hevents : (frame :: frames).map messagesEvent = events at honce
    cases honce with
    | nil => exact absurd hevents (List.cons_ne_nil _ _)
    | last event hlast =>
      have hnone : frames = [] := List.map_eq_nil_iff.mp (List.cons.inj hevents).2
      rw [hnone] at hrest ⊢
      obtain ⟨rfl, hrest'⟩ := Prod.mk.inj hrest
      rw [← Except.ok.inj hrest']
      rfl
    | cons hopen honce' =>
      rw [← (List.cons.inj hevents).1] at hopen
      rw [← (List.cons.inj hevents).2] at honce'
      rw [ih hparseRest hindexRest honce' (hterminal.trans hopen) hrest]
      rfl

end Frame

/-! ## What the adapter emits -/

/-- The arguments of a tool call. Empty arguments become the empty object. -/
def normalArguments (arguments : String) : String :=
  if arguments = "" then "\x7b\x7d" else arguments

/-- The chunks of tool calls, numbered from the given number on. -/
def toolChunks (id model : String) : ℕ → List BufferedToolCall → List Chunk
  | _, [] => []
  | k, tool :: tools =>
    .toolCall id model k (.string (tool.id.getD "")) (.string tool.name) ::
      .arguments id model k (normalArguments tool.arguments) :: toolChunks id model (k + 1) tools

/-- The chunks of a stream with the given items. -/
def expectedChunks (id model : String) (inputTokens : ℕ) (items : List Item) : List Chunk :=
  .role id model :: ((contents items).map (.content id model) ++
    (toolChunks id model 0 (toolCalls items) ++
      [.finish id model (openaiFinishReason (some (streamStopReason (finishReason items))))
        ((Json.nat inputTokens).asU64.getD 0) ((Json.nat (outputEstimate items)).asU64.getD 0),
        .done]))

section Feed

variable {id model : String} {n k : ℕ} {sent : Bool}

/-- The deltas of the text block. -/
theorem feed_texts (texts : List String) :
    feed NativeState.apply ((texts.map (Frame.textDelta 0)).map Frame.messagesEvent)
        ⟨id, model, n, [(0, .text)], k, sent, false⟩ =
      (⟨id, model, n, [(0, .text)], k, sent, false⟩, .ok (texts.map (.content id model))) := by
  induction texts with
  | nil => rfl
  | cons text texts ih =>
    have hfirst : NativeState.apply (.textDelta 0 text)
        ⟨id, model, n, [(0, .text)], k, sent, false⟩ =
        (⟨id, model, n, [(0, .text)], k, sent, false⟩, .ok [.content id model text]) := rfl
    rw [List.map_cons, List.map_cons, Frame.messagesEvent, feed_cons_ok hfirst, ih]
    rfl

/-- The block of one tool. -/
theorem feed_tool {tool : BufferedToolCall} (index : ℕ) (hk : k < maxToolCalls)
    (hid : tool.id.getD "" ≠ "") :
    feed NativeState.apply ((toolFrames index [tool]).map Frame.messagesEvent)
        ⟨id, model, n, [], k, sent, false⟩ =
      (⟨id, model, n, [], k + 1, sent, false⟩, .ok (toolChunks id model k [tool])) := by
  have hcallId : tool.id.getD ("toolu_" ++ toString index) = tool.id.getD "" := by
    cases htool : tool.id with
    | none =>
      rw [htool] at hid
      exact absurd rfl hid
    | some id => rfl
  have hstart : NativeState.apply (.toolStart index (.string (tool.id.getD "")) (.string tool.name))
      ⟨id, model, n, [], k, sent, false⟩ =
      (⟨id, model, n, [(index, .tool k false)], k + 1, sent, false⟩,
        .ok [.toolCall id model k (.string (tool.id.getD "")) (.string tool.name)]) := by
    rw [NativeState.apply, if_neg (Nat.not_le.mpr hk)]
    rfl
  rw [toolFrames, List.map_cons, Frame.messagesEvent, hcallId, feed_cons_ok hstart]
  by_cases harguments : tool.arguments = ""
  · simp [harguments, toolFrames, toolChunks, normalArguments, Frame.messagesEvent,
      feed_singleton, NativeState.apply, Ordered.lookup, Ordered.erase, Except.map]
  · have hdelta : NativeState.apply (.inputJsonDelta index tool.arguments)
        ⟨id, model, n, [(index, .tool k false)], k + 1, sent, false⟩ =
        (⟨id, model, n, [(index, .tool k true)], k + 1, sent, false⟩,
          .ok [.arguments id model k tool.arguments]) := by
      simp [NativeState.apply, Ordered.lookup, Ordered.upsert]
    rw [if_neg harguments, List.singleton_append, List.map_cons, Frame.messagesEvent,
      feed_cons_ok hdelta]
    simp [harguments, toolFrames, toolChunks, normalArguments, Frame.messagesEvent,
      feed_singleton, NativeState.apply, Ordered.lookup, Ordered.erase, Except.map]

theorem toolFrames_cons (index : ℕ) (tool : BufferedToolCall) (tools : List BufferedToolCall) :
    toolFrames index (tool :: tools) = toolFrames index [tool] ++ toolFrames (index + 1) tools := by
  simp [toolFrames]

/-- The blocks of the tools. -/
theorem feed_tools {tools : List BufferedToolCall} (index : ℕ)
    (hcount : k + tools.length ≤ maxToolCalls) (hids : ∀ tool ∈ tools, tool.id.getD "" ≠ "") :
    feed NativeState.apply ((toolFrames index tools).map Frame.messagesEvent)
        ⟨id, model, n, [], k, sent, false⟩ =
      (⟨id, model, n, [], k + tools.length, sent, false⟩, .ok (toolChunks id model k tools)) := by
  induction tools generalizing index k with
  | nil => rfl
  | cons tool tools ih =>
    obtain ⟨hid, hids'⟩ := List.forall_mem_cons.mp hids
    rw [List.length_cons] at hcount
    rw [toolFrames_cons, List.map_append, feed_append_ok (feed_tool index (by omega) hid),
      ih (index + 1) (by omega) hids', List.length_cons, Nat.add_right_comm, Nat.add_assoc]
    rfl

/-- The text block, which may be missing. -/
theorem feed_body (items : List Item) :
    feed NativeState.apply
        ((bodyFrames items ++ if contents items = [] then [] else [Frame.blockStop 0]).map
          Frame.messagesEvent) ⟨id, model, n, [], k, sent, false⟩ =
      (⟨id, model, n, [], k, sent, false⟩, .ok ((contents items).map (.content id model))) := by
  rw [bodyFrames]
  by_cases hcontents : contents items = []
  · rw [if_pos hcontents, if_pos hcontents, hcontents]
    rfl
  · rw [if_neg hcontents, if_neg hcontents, List.cons_append, List.map_cons, Frame.messagesEvent]
    have hstart : NativeState.apply (.textStart 0) ⟨id, model, n, [], k, sent, false⟩ =
        (⟨id, model, n, [(0, .text)], k, sent, false⟩, .ok []) := rfl
    have hstop : NativeState.apply (.blockStop 0) ⟨id, model, n, [(0, .text)], k, sent, false⟩ =
        (⟨id, model, n, [], k, sent, false⟩, .ok []) := rfl
    rw [feed_cons_ok hstart, List.map_append, feed_append_ok (feed_texts _), List.map_singleton,
      Frame.messagesEvent, feed_singleton, hstop]
    simp [Except.map]

/-- The frames of a stream, as the adapter applies them. -/
theorem feed_expected (messageId model : String) (n : ℕ) {items : List Item} {ending : Ending}
    (hopen : ∀ errorType message, ending ≠ .error errorType message)
    (hcount : (toolCalls items).length ≤ maxToolCalls)
    (hids : ∀ tool ∈ toolCalls items, tool.id.getD "" ≠ "") :
    ∃ s, feed NativeState.apply ((expected messageId model n items ending).map Frame.messagesEvent)
        .fresh = (s, .ok (expectedChunks messageId model n items)) ∧ s.terminal = true := by
  have hend : endFrames items ending = closingFrames items := by
    cases ending with
    | unfinished => rfl
    | done => rfl
    | error errorType message => exact absurd rfl (hopen errorType message)
  obtain ⟨tokens, htokens⟩ : ∃ tokens, (Json.nat n).asU64.getD 0 = tokens := ⟨_, rfl⟩
  have hstart : NativeState.apply (.messageStart messageId model tokens) .fresh =
      (⟨messageId, model, tokens, [], 0, false, false⟩, .ok [.role messageId model]) := rfl
  have hempty : feed NativeState.apply ((if contents items = [] ∧ toolCalls items = [] then
      [Frame.textStart 0, .blockStop 0] else []).map Frame.messagesEvent)
      ⟨messageId, model, tokens, [], (toolCalls items).length, false, false⟩ =
      (⟨messageId, model, tokens, [], (toolCalls items).length, false, false⟩, .ok []) := by
    split_ifs
    · rfl
    · rfl
  have hlast : feed NativeState.apply
      ([Frame.messageDelta (streamStopReason (finishReason items)) (outputEstimate items),
        .messageStop].map Frame.messagesEvent)
      ⟨messageId, model, tokens, [], (toolCalls items).length, false, false⟩ =
      (⟨messageId, model, tokens, [], (toolCalls items).length, true, true⟩,
        .ok [.finish messageId model
          (openaiFinishReason (some (streamStopReason (finishReason items)))) tokens
          ((Json.nat (outputEstimate items)).asU64.getD 0), .done]) := rfl
  have htools : feed NativeState.apply ((toolFrames (if contents items = [] then 0 else 1)
      (toolCalls items)).map Frame.messagesEvent)
      ⟨messageId, model, tokens, [], 0, false, false⟩ =
      (⟨messageId, model, tokens, [], (toolCalls items).length, false, false⟩,
        .ok (toolChunks messageId model 0 (toolCalls items))) := by
    rw [feed_tools _ ((Nat.zero_add _).trans_le hcount) hids, Nat.zero_add]
  refine ⟨⟨messageId, model, tokens, [], (toolCalls items).length, true, true⟩, ?_, rfl⟩
  rw [expected, hend, closingFrames, List.map_cons, Frame.messagesEvent, htokens,
    feed_cons_ok hstart, expectedChunks, htokens]
  have hbody := @feed_body messageId model tokens 0 false items
  rw [List.map_append] at hbody
  simp only [List.append_assoc, List.map_append]
  rw [← List.append_assoc, feed_append_ok hbody, feed_append_ok htools, feed_append_ok hempty,
    hlast]
  rfl

end Feed

/-- A frame that does not end the stream, with a block index up to the given one. -/
structure Frame.Inner (bound : ℕ) (frame : Frame) : Prop where
  terminal : frame.messagesEvent.isTerminal = false
  index : ∀ i, frame.index? = some i → i ≤ bound

theorem Frame.Inner.mono {bound bound' : ℕ} (hle : bound ≤ bound') {frame : Frame}
    (h : frame.Inner bound) : frame.Inner bound' :=
  ⟨h.terminal, fun i hi => (h.index i hi).trans hle⟩

/-- A frame of a block. -/
theorem Frame.inner_of_index {bound index : ℕ} {frame : Frame}
    (hterminal : frame.messagesEvent.isTerminal = false) (hframe : frame.index? = some index)
    (hle : index ≤ bound) : frame.Inner bound :=
  ⟨hterminal, fun _ hi => Option.some.inj (hframe.symm.trans hi) ▸ hle⟩

theorem inner_toolFrames {index : ℕ} {tools : List BufferedToolCall} {frame : Frame}
    (h : frame ∈ toolFrames index tools) : frame.Inner (index + tools.length) := by
  induction tools generalizing index with
  | nil => exact absurd h List.not_mem_nil
  | cons tool tools ih =>
    have hle : index ≤ index + (tool :: tools).length := Nat.le_add_right _ _
    rw [toolFrames, List.mem_cons, List.mem_append, List.mem_cons] at h
    rcases h with rfl | hdelta | rfl | hrest
    · exact Frame.inner_of_index rfl rfl hle
    · split_ifs at hdelta
      · exact absurd hdelta List.not_mem_nil
      · rw [List.mem_singleton.mp hdelta]
        exact Frame.inner_of_index rfl rfl hle
    · exact Frame.inner_of_index rfl rfl hle
    · refine (ih hrest).mono ?_
      rw [List.length_cons]
      omega

theorem inner_bodyFrames {items : List Item} {frame : Frame} (h : frame ∈ bodyFrames items) :
    frame.Inner 0 := by
  rw [bodyFrames] at h
  split_ifs at h
  · exact absurd h List.not_mem_nil
  · rcases List.mem_cons.mp h with rfl | hdelta
    · exact Frame.inner_of_index rfl rfl le_rfl
    · obtain ⟨text, -, rfl⟩ := List.mem_map.mp hdelta
      exact Frame.inner_of_index rfl rfl le_rfl

/-- All frames of a stream but the last are inner ones. -/
theorem expected_eq (messageId model : String) (n : ℕ) (items : List Item) {ending : Ending}
    (hopen : ∀ errorType message, ending ≠ .error errorType message) :
    ∃ frames, expected messageId model n items ending = frames ++ [.messageStop] ∧
      ∀ frame ∈ frames, frame.Inner ((toolCalls items).length + 1) := by
  have hend : endFrames items ending = closingFrames items := by
    cases ending with
    | unfinished => rfl
    | done => rfl
    | error errorType message => exact absurd rfl (hopen errorType message)
  refine ⟨.messageStart messageId model n :: (bodyFrames items ++
    ((if contents items = [] then [] else [.blockStop 0]) ++
      (toolFrames (if contents items = [] then 0 else 1) (toolCalls items) ++
        ((if contents items = [] ∧ toolCalls items = [] then [.textStart 0, .blockStop 0]
          else []) ++
          [.messageDelta (streamStopReason (finishReason items)) (outputEstimate items)])))),
    ?_, ?_⟩
  · rw [expected, hend, closingFrames]
    simp only [List.cons_append, List.append_assoc, List.nil_append]
  · intro frame hframe
    simp only [List.mem_cons, List.mem_append, List.not_mem_nil, or_false] at hframe
    rcases hframe with rfl | hbody | hstop | htool | hempty | rfl
    · exact ⟨rfl, fun _ hi => absurd hi (Option.some_ne_none _).symm⟩
    · exact (inner_bodyFrames hbody).mono (Nat.zero_le _)
    · split_ifs at hstop
      · exact absurd hstop List.not_mem_nil
      · rw [List.mem_singleton.mp hstop]
        exact Frame.inner_of_index rfl rfl (Nat.zero_le _)
    · refine (inner_toolFrames htool).mono ?_
      split_ifs
      · omega
      · omega
    · split_ifs at hempty
      · rcases List.mem_cons.mp hempty with rfl | hstop
        · exact Frame.inner_of_index rfl rfl (Nat.zero_le _)
        · rw [List.mem_singleton.mp hstop]
          exact Frame.inner_of_index rfl rfl (Nat.zero_le _)
      · exact absurd hempty List.not_mem_nil
    · exact ⟨rfl, fun _ hi => absurd hi (Option.some_ne_none _).symm⟩

theorem endsOnce_append {events : List MessagesEvent} {event : MessagesEvent}
    (h : ∀ event ∈ events, event.isTerminal = false) (hterminal : event.isTerminal = true) :
    EndsOnce (events ++ [event]) := by
  induction events with
  | nil => exact .last event hterminal
  | cons first events ih =>
    obtain ⟨hfirst, hrest⟩ := List.forall_mem_cons.mp h
    exact .cons hfirst (ih hrest)

/-- The adapter on the bytes of the frames of a stream, cut in any way. -/
theorem adapter_on_expected {parse : Json.Parser} {messageId model : String} {n : ℕ}
    {items : List Item} {ending : Ending} {frames : List Frame}
    (hframes : frames = expected messageId model n items ending)
    (hopen : ∀ errorType message, ending ≠ .error errorType message)
    (hcount : (toolCalls items).length ≤ maxToolCalls)
    (hids : ∀ tool ∈ toolCalls items, tool.id.getD "" ≠ "")
    (hfits : ∀ frame ∈ frames, frame.Fits)
    (hparse : ∀ frame ∈ frames, parse.Reads frame.payload) {chunks : List (List UInt8)}
    (hchunks : chunks.flatten = frames.flatMap Frame.bytes) :
    ∃ t t', feed (AnthropicToOpenAiStream.push parse) chunks .default =
        (t, .ok (expectedChunks messageId model n items)) ∧
      AnthropicToOpenAiStream.finish parse t = (t', .ok []) := by
  subst hframes
  obtain ⟨inner, hexpected, hinner⟩ := expected_eq messageId model n items hopen
  obtain ⟨s, hfeed, hterminal⟩ := feed_expected messageId model n hopen hcount hids
  have honce : EndsOnce ((expected messageId model n items ending).map Frame.messagesEvent) := by
    rw [hexpected, List.map_append]
    refine endsOnce_append (fun event hevent => ?_) rfl
    obtain ⟨frame, hframe, rfl⟩ := List.mem_map.mp hevent
    exact (hinner frame hframe).terminal
  have hindex : ∀ frame ∈ expected messageId model n items ending,
      ∀ i, frame.index? = some i → i ≤ U64.max := by
    intro frame hframe i hi
    rw [hexpected] at hframe
    rcases List.mem_append.mp hframe with hframe | hframe
    · calc i ≤ (toolCalls items).length + 1 := (hinner frame hframe).index i hi
        _ ≤ maxToolCalls + 1 := Nat.succ_le_succ hcount
        _ ≤ U64.max := by decide
    · rw [List.mem_singleton.mp hframe] at hi
      exact absurd hi (Option.some_ne_none _).symm
  have hdecoded := Frame.push_frames hfits
  rw [← hchunks] at hdecoded
  have htranslated := Frame.translate_frames hparse hindex honce rfl hfeed
  refine ⟨⟨s, .default⟩, ⟨s, .default⟩, ?_, ?_⟩
  · exact AnthropicToOpenAiStream.pushes_eq_ok_iff.mpr ⟨_, hdecoded, htranslated⟩
  · apply AnthropicToOpenAiStream.finish_eq_ok_iff.mpr
    exact ⟨AnthropicToOpenAiStream.translateEvents_eq_ok_iff.mpr ⟨[], rfl, rfl⟩, hterminal⟩

/-! ## What the chunks say -/

/-- What chunks say, read as a chat completion stream. -/
def chunkItems (chunks : List Chunk) : List Item :=
  chunks.flatMap fun chunk => chunk.payload?.toList.flatMap payloadItems

theorem chunkItems_append (chunks chunks' : List Chunk) :
    chunkItems (chunks ++ chunks') = chunkItems chunks ++ chunkItems chunks' :=
  List.flatMap_append

/-- A chunk with one choice and no usage. -/
theorem payloadItems_chunk (id model : String) (delta : List (String × Json)) (reason : Json) :
    payloadItems (chunkPayload id model (.object delta) reason []) =
      deltaItems delta ++ (reason.asStr.filter (· ≠ "")).toList.map .finishReason := by
  simp [payloadItems, chunkPayload, Json.asObject, Json.asArray, objectOf, objectsOf,
    Ordered.lookup, choiceItems, nonEmpty]

/-- A chunk with one choice and usage. -/
theorem payloadItems_chunk_usage (id model : String) (delta usage : List (String × Json))
    (reason : Json) :
    payloadItems (chunkPayload id model (.object delta) reason [("usage", .object usage)]) =
      usageItems usage ++ (deltaItems delta ++
        (reason.asStr.filter (· ≠ "")).toList.map .finishReason) := by
  simp [payloadItems, chunkPayload, Json.asObject, Json.asArray, objectOf, objectsOf,
    Ordered.lookup, choiceItems, nonEmpty]

theorem items_content (id model text : String) :
    chunkItems [.content id model text] = if text = "" then [] else [.content text] := by
  have hitems : chunkItems [.content id model text] =
      payloadItems (chunkPayload id model (.object [("content", .string text)]) .null []) := by
    simp [chunkItems, Chunk.payload?]
  rw [hitems, payloadItems_chunk]
  split_ifs with htext
  · simp [deltaItems, nonEmpty, objectsOf, Ordered.lookup, Json.asStr, htext]
  · simp [deltaItems, nonEmpty, objectsOf, Ordered.lookup, Json.asStr, htext]

theorem items_toolCall (id model : String) {k : ℕ} (hk : k ≤ U64.max) {callId name : String}
    (hid : callId ≠ "") (hname : name ≠ "") :
    chunkItems [.toolCall id model k (.string callId) (.string name)] =
      [.tool k, .toolId k callId, .toolName k name] := by
  have hread := Json.asU64_nat hk
  have hitems : chunkItems [.toolCall id model k (.string callId) (.string name)] =
      payloadItems (chunkPayload id model (.object [("tool_calls", .array [.object
        [("index", .nat k), ("id", .string callId), ("type", .string "function"),
          ("function", .object [("name", .string name), ("arguments", .string "")])]])])
        .null []) := by
    simp [chunkItems, Chunk.payload?]
  rw [hitems, payloadItems_chunk]
  simp [deltaItems, nonEmpty, objectsOf, objectOf, unsigned, toolCallItems, Ordered.lookup,
    Json.asStr, Json.asArray, Json.asObject, Option.filter_some, hread, hid, hname]

theorem items_arguments (id model : String) {k : ℕ} (hk : k ≤ U64.max) {text : String}
    (htext : text ≠ "") :
    chunkItems [.arguments id model k text] = [.tool k, .toolArguments k text] := by
  have hread := Json.asU64_nat hk
  have hitems : chunkItems [.arguments id model k text] =
      payloadItems (chunkPayload id model (.object [("tool_calls", .array [.object
        [("index", .nat k), ("function", .object [("arguments", .string text)])]])])
        .null []) := by
    simp [chunkItems, Chunk.payload?]
  rw [hitems, payloadItems_chunk]
  simp [deltaItems, nonEmpty, objectsOf, objectOf, unsigned, toolCallItems, Ordered.lookup,
    Json.asStr, Json.asArray, Json.asObject, hread, htext]

theorem items_finish (id model : String) {reason : String} (hreason : reason ≠ "")
    {promptTokens tokens : ℕ} (hprompt : promptTokens ≤ U64.max) (htokens : tokens ≤ U64.max) :
    chunkItems [.finish id model reason promptTokens tokens] =
      [.completionTokens tokens, .promptTokens promptTokens, .finishReason reason] := by
  have hread := Json.asU64_nat htokens
  have hread' := Json.asU64_nat hprompt
  have hitems : chunkItems [.finish id model reason promptTokens tokens] =
      payloadItems (chunkPayload id model (.object []) (.string reason) [("usage", .object
        [("prompt_tokens", .nat promptTokens), ("completion_tokens", .nat tokens),
          ("total_tokens", .nat (U64.saturatingAdd promptTokens tokens))])]) := by
    simp [chunkItems, Chunk.payload?]
  have husage : usageItems [("prompt_tokens", .nat promptTokens),
      ("completion_tokens", .nat tokens),
      ("total_tokens", .nat (U64.saturatingAdd promptTokens tokens))] =
      [.completionTokens tokens, .promptTokens promptTokens] := by
    simp [usageItems, unsigned, Ordered.lookup, hread, hread']
  rw [hitems, payloadItems_chunk_usage, husage]
  simp [deltaItems, nonEmpty, objectsOf, Ordered.lookup, Json.asStr, hreason]

/-- The items of the content chunks. -/
def textItems (texts : List String) : List Item :=
  texts.flatMap fun text => if text = "" then [] else [.content text]

/-- The items of the chunks of one tool. -/
def toolBlock (k : ℕ) (tool : BufferedToolCall) : List Item :=
  [.tool k, .toolId k (tool.id.getD ""), .toolName k tool.name, .tool k,
    .toolArguments k (normalArguments tool.arguments)]

/-- The items of the chunks of the tools. -/
def toolItems : ℕ → List BufferedToolCall → List Item
  | _, [] => []
  | k, tool :: tools => toolBlock k tool ++ toolItems (k + 1) tools

theorem normalArguments_ne (arguments : String) : normalArguments arguments ≠ "" := by
  unfold normalArguments
  split_ifs with harguments
  · decide
  · exact harguments

theorem chunkItems_texts (id model : String) (texts : List String) :
    chunkItems (texts.map (.content id model)) = textItems texts := by
  induction texts with
  | nil => rfl
  | cons text texts ih =>
    rw [List.map_cons, ← List.singleton_append, chunkItems_append, items_content, ih]
    rfl

theorem chunkItems_tools (id model : String) {k : ℕ} {tools : List BufferedToolCall}
    (hk : k + tools.length ≤ U64.max)
    (htools : ∀ tool ∈ tools, tool.id.getD "" ≠ "" ∧ tool.name ≠ "") :
    chunkItems (toolChunks id model k tools) = toolItems k tools := by
  induction tools generalizing k with
  | nil => rfl
  | cons tool tools ih =>
    obtain ⟨⟨hid, hname⟩, htools'⟩ := List.forall_mem_cons.mp htools
    rw [List.length_cons] at hk
    have hsplit : toolChunks id model k (tool :: tools) =
        [.toolCall id model k (.string (tool.id.getD "")) (.string tool.name)] ++
          ([.arguments id model k (normalArguments tool.arguments)] ++
            toolChunks id model (k + 1) tools) := rfl
    rw [hsplit, chunkItems_append, chunkItems_append, items_toolCall id model (by omega) hid hname,
      items_arguments id model (by omega) (normalArguments_ne _), ih (by omega) htools']
    rfl

theorem asU64_getD_le (n : ℕ) : (Json.nat n).asU64.getD 0 ≤ U64.max := by
  cases hread : (Json.nat n).asU64 with
  | none => exact Nat.zero_le _
  | some tokens => exact of_decide_eq_true (Option.filter_eq_some_iff.mp hread).2

/-- What the chunks of a stream say. -/
theorem chunkItems_expected (id model : String) (n : ℕ) {items : List Item}
    (hcount : (toolCalls items).length ≤ maxToolCalls)
    (htools : ∀ tool ∈ toolCalls items, tool.id.getD "" ≠ "" ∧ tool.name ≠ "") :
    chunkItems (expectedChunks id model n items) =
      textItems (contents items) ++ (toolItems 0 (toolCalls items) ++
        [.completionTokens ((Json.nat (outputEstimate items)).asU64.getD 0),
          .promptTokens ((Json.nat n).asU64.getD 0),
          .finishReason (openaiFinishReason (some (streamStopReason (finishReason items))))]) := by
  have hreason : ∀ reason, openaiFinishReason reason ≠ "" := by
    intro reason
    unfold openaiFinishReason
    split
    · decide
    · decide
    · decide
  have hlast : ∀ chunk : Chunk, chunkItems [chunk, .done] = chunkItems [chunk] := by
    intro chunk
    simp [chunkItems, Chunk.payload?]
  have hbound : 0 + (toolCalls items).length ≤ U64.max := by
    rw [Nat.zero_add]
    exact hcount.trans (by decide)
  rw [expectedChunks, ← List.singleton_append, chunkItems_append, chunkItems_append,
    chunkItems_append, chunkItems_texts, chunkItems_tools id model hbound htools, hlast,
    items_finish id model (hreason _) (asU64_getD_le _) (asU64_getD_le _)]
  rfl

section Sums

variable {before items : List Item} {k : ℕ}

/-- The items of one more tool. -/
theorem toolCalls_toolBlock (hannounced : Announced before) (hk : k ∉ indices before)
    (tool : BufferedToolCall) :
    Announced (before ++ toolBlock k tool) ∧
      indices (before ++ toolBlock k tool) = indices before ++ [k] ∧
      toolCalls (before ++ toolBlock k tool) = toolCalls before ++
        [⟨some (tool.id.getD ""), tool.name, normalArguments tool.arguments⟩] := by
  have hsplit : before ++ toolBlock k tool = before ++ [.tool k] ++ [.toolId k (tool.id.getD "")] ++
      [.toolName k tool.name] ++ [.tool k] ++
      [.toolArguments k (normalArguments tool.arguments)] := by
    simp [toolBlock]
  have hindices : indices (before ++ toolBlock k tool) = indices before ++ [k] := by
    rw [hsplit]
    simp [-List.append_assoc, indices_append, Item.tool?, hk]
  refine ⟨?_, hindices, ?_⟩
  · rw [hsplit]
    simp [-List.append_assoc, announced_append_iff, indices_append, Item.refers?, Item.tool?, hk,
      hannounced]
  · rw [toolCalls, hindices, List.map_append, hsplit]
    congr 1
    · refine List.map_congr_left fun j hj => ?_
      have hne : k ≠ j := fun heq => hk (heq ▸ hj)
      simp [-List.append_assoc, toolOf_append, Item.toolId?, Item.toolName?, Item.toolArguments?,
        hne]
    · simp [-List.append_assoc, toolOf_append, Item.toolId?, Item.toolName?, Item.toolArguments?,
        hannounced.toolOf_eq hk]

/-- The items of the tools. -/
theorem toolCalls_toolItems (hannounced : Announced before)
    (hindices : indices before = List.range k) (tools : List BufferedToolCall) :
    toolCalls (before ++ toolItems k tools) = toolCalls before ++ tools.map fun tool =>
      ⟨some (tool.id.getD ""), tool.name, normalArguments tool.arguments⟩ := by
  induction tools generalizing before k with
  | nil => rw [toolItems, List.append_nil, List.map_nil, List.append_nil]
  | cons tool tools ih =>
    have hk : k ∉ indices before := by
      rw [hindices, List.mem_range]
      exact lt_irrefl k
    obtain ⟨hannounced', hindices', htool⟩ := toolCalls_toolBlock hannounced hk tool
    rw [hindices, ← List.range_succ] at hindices'
    rw [toolItems, ← List.append_assoc, ih hannounced' hindices', htool, List.append_assoc]
    rfl

/-- An item that is not about tools. -/
theorem toolCalls_append_other {item : Item} (htool : item.tool? = none)
    (hrefers : item.refers? = none) : toolCalls (items ++ [item]) = toolCalls items := by
  rw [toolCalls, indices_append, htool]
  refine List.map_congr_left fun j _ => toolOf_append_of_ne items item fun hrefer => ?_
  exact absurd (hrefers.symm.trans hrefer).symm (Option.some_ne_none j)

theorem announced_textItems (texts : List String) :
    Announced (textItems texts) ∧ indices (textItems texts) = [] := by
  have htexts : ∀ item ∈ textItems texts, ∃ text, item = .content text := by
    intro item hitem
    obtain ⟨text, -, htext⟩ := List.mem_flatMap.mp hitem
    split_ifs at htext
    · exact absurd htext List.not_mem_nil
    · exact ⟨text, List.mem_singleton.mp htext⟩
  generalize textItems texts = l at htexts
  induction l using List.reverseRecOn with
  | nil => exact ⟨.nil, rfl⟩
  | append_singleton l item ih =>
    obtain ⟨hannounced, hindices⟩ := ih fun item hitem =>
      htexts item (List.mem_append_left _ hitem)
    obtain ⟨text, rfl⟩ := htexts item (List.mem_append_right _ (List.mem_singleton_self item))
    refine ⟨hannounced.append _ fun _ hrefers => ?_, ?_⟩
    · exact absurd hrefers (Option.some_ne_none _).symm
    · rw [indices_append, hindices]
      rfl

theorem join_contents_textItems (texts : List String) :
    String.join (contents (textItems texts)) = String.join texts := by
  induction texts with
  | nil => rfl
  | cons text texts ih =>
    have hsplit : textItems (text :: texts) =
        (if text = "" then [] else [.content text]) ++ textItems texts := rfl
    rw [hsplit, contents, List.filterMap_append, String.join_append]
    rw [contents] at ih
    rw [ih, String.join_cons]
    split_ifs with htext
    · rw [htext]
      simp
    · simp [Item.content?]

theorem contents_toolItems (k : ℕ) (tools : List BufferedToolCall) :
    contents (toolItems k tools) = [] := by
  induction tools generalizing k with
  | nil => rfl
  | cons tool tools ih =>
    rw [toolItems, contents, List.filterMap_append]
    exact ih (k + 1)

variable (texts : List String) (tools : List BufferedToolCall) (tokens prompt : ℕ)
  (reason : String)

theorem join_contents_said :
    String.join (contents (textItems texts ++ (toolItems 0 tools ++
      [.completionTokens tokens, .promptTokens prompt, .finishReason reason]))) =
      String.join texts := by
  have htools := contents_toolItems 0 tools
  have htexts := join_contents_textItems texts
  rw [contents] at htools htexts ⊢
  rw [List.filterMap_append, List.filterMap_append, htools, String.join_append, htexts]
  exact String.append_empty

theorem toolCalls_said :
    toolCalls (textItems texts ++ (toolItems 0 tools ++
      [.completionTokens tokens, .promptTokens prompt, .finishReason reason])) =
      tools.map fun tool =>
        ⟨some (tool.id.getD ""), tool.name, normalArguments tool.arguments⟩ := by
  obtain ⟨hannounced, hindices⟩ := announced_textItems texts
  have hsplit : textItems texts ++ (toolItems 0 tools ++
      [.completionTokens tokens, .promptTokens prompt, .finishReason reason]) =
      textItems texts ++ toolItems 0 tools ++ [.completionTokens tokens] ++
        [.promptTokens prompt] ++ [.finishReason reason] := by
    simp
  rw [hsplit, toolCalls_append_other rfl rfl, toolCalls_append_other rfl rfl,
    toolCalls_append_other rfl rfl,
    toolCalls_toolItems hannounced (hindices.trans List.range_zero.symm)]
  rw [toolCalls, hindices]
  rfl

theorem finishReason_said (before : List Item) :
    finishReason (before ++
      [.completionTokens tokens, .promptTokens prompt, .finishReason reason]) = some reason := by
  rw [finishReason, List.filterMap_append, List.getLast?_append]
  rfl

theorem completionTokens_said (before : List Item) :
    completionTokens (before ++
      [.completionTokens tokens, .promptTokens prompt, .finishReason reason]) = some tokens := by
  rw [completionTokens, List.filterMap_append, List.getLast?_append]
  rfl

end Sums

/-! ## Reported tokens -/

theorem unsigned_le {key : String} {entries : List (String × Json)} {n : ℕ}
    (h : unsigned key entries = some n) : n ≤ U64.max := by
  obtain ⟨value, -, hvalue⟩ := Option.bind_eq_some_iff.mp h
  cases value with
  | number text => exact of_decide_eq_true (Option.filter_eq_some_iff.mp hvalue).2
  | _ => exact absurd hvalue (Option.some_ne_none n).symm

theorem payloadItems_tokens_le {payload : Json} {n : ℕ}
    (h : .completionTokens n ∈ payloadItems payload) : n ≤ U64.max := by
  obtain ⟨entries, -, hentries⟩ := List.mem_flatMap.mp h
  rcases List.mem_append.mp hentries with husage | hchoice
  · obtain ⟨usage, -, husage⟩ := List.mem_flatMap.mp husage
    simp only [usageItems, List.mem_append, List.mem_map, Option.mem_toList,
      Item.completionTokens.injEq, reduceCtorEq, and_false, exists_false, or_false] at husage
    obtain ⟨tokens, htokens, rfl⟩ := husage
    exact unsigned_le htokens
  · simp [choiceItems, deltaItems, toolCallItems] at hchoice

theorem upstream_tokens_le {parse : Json.Parser} {events : List SseEvent} {n : ℕ}
    (h : .completionTokens n ∈ (upstream parse events).1) : n ≤ U64.max := by
  induction events with
  | nil => exact absurd h List.not_mem_nil
  | cons event events ih =>
    rw [upstream] at h
    cases hverdict : verdict parse event with
    | done =>
      rw [hverdict] at h
      exact absurd h List.not_mem_nil
    | error errorType message =>
      rw [hverdict] at h
      exact absurd h List.not_mem_nil
    | items items =>
      rw [hverdict] at h
      rcases List.mem_append.mp h with hitems | hrest
      · rcases items_of_verdict hverdict with rfl | ⟨payload, rfl⟩
        · exact absurd hitems List.not_mem_nil
        · exact payloadItems_tokens_le hitems
      · exact ih hrest

/-- The reported number of tokens goes through unchanged. -/
theorem asU64_outputEstimate {parse : Json.Parser} {events : List SseEvent} {n : ℕ}
    (h : completionTokens (upstream parse events).1 = some n) :
    (Json.nat (outputEstimate (upstream parse events).1)).asU64.getD 0 = n := by
  have hmem : .completionTokens n ∈ (upstream parse events).1 := by
    obtain ⟨item, hitem, htokens⟩ := List.mem_filterMap.mp (List.mem_of_getLast? h)
    cases item with
    | completionTokens tokens => exact Option.some.inj htokens ▸ hitem
    | _ => exact absurd htokens (Option.some_ne_none n).symm
  rw [outputEstimate, h]
  simp only [Json.asU64_nat (upstream_tokens_le hmem), Option.getD_some]

theorem openaiFinishReason_streamStopReason :
    ∀ reason ∈ ["stop", "length", "tool_calls"],
      openaiFinishReason (some (streamStopReason (some reason))) = reason := by
  decide

theorem isDone_toolChunks {id model : String} {k : ℕ} {tools : List BufferedToolCall}
    {chunk : Chunk} (h : chunk ∈ toolChunks id model k tools) : chunk.isDone = false := by
  induction tools generalizing k with
  | nil => exact absurd h List.not_mem_nil
  | cons tool tools ih =>
    rw [toolChunks, List.mem_cons, List.mem_cons] at h
    rcases h with rfl | rfl | hrest
    · rfl
    · rfl
    · exact ih hrest

/-- The last chunk comes once. -/
theorem expectedChunks_done (id model : String) (n : ℕ) (items : List Item) :
    ∃ before, expectedChunks id model n items = before ++ [.done] ∧
      ∀ chunk ∈ before, chunk.isDone = false := by
  refine ⟨.role id model :: ((contents items).map (.content id model) ++
    (toolChunks id model 0 (toolCalls items) ++
      [.finish id model (openaiFinishReason (some (streamStopReason (finishReason items))))
        ((Json.nat n).asU64.getD 0) ((Json.nat (outputEstimate items)).asU64.getD 0)])), ?_, ?_⟩
  · rw [expectedChunks]
    simp only [List.cons_append, List.append_assoc, List.nil_append]
  · intro chunk hchunk
    simp only [List.mem_cons, List.mem_append, List.not_mem_nil, or_false] at hchunk
    rcases hchunk with rfl | hcontent | htool | rfl
    · rfl
    · obtain ⟨text, -, rfl⟩ := List.mem_map.mp hcontent
      rfl
    · exact isDone_toolChunks htool
    · rfl

/-- **Inverse streams**: the frames of the translator, cut into chunks in any way, go through the
adapter. The stream that comes out has the content and the tool calls of the stream that went in,
its finish reason and its number of completion tokens, and ends once. -/
theorem streams_inverse (parse : Json.Parser) (model messageId : String) (inputTokens : ℕ)
    (limits : AnthropicStreamLimits) (t t₁ t₂ : MessagesStreamTranslator)
    (hnew : MessagesStreamTranslator.withLimits model messageId inputTokens limits = .ok t)
    (fragments : List (List UInt8)) (frames₁ frames₂ : List Frame)
    (hpush : feed (MessagesStreamTranslator.push parse) fragments t = (t₁, .ok frames₁))
    (hfinish : MessagesStreamTranslator.finish parse t₁ = (t₂, .ok frames₂))
    (items : List Item) (ending : Ending)
    (hupstream : upstream parse (t.decoder.events fragments.flatten) = (items, ending))
    (herror : ∀ errorType message, ending ≠ .error errorType message)
    (hcount : (toolCalls items).length ≤ maxToolCalls)
    (htools : ∀ tool ∈ toolCalls items, tool.id.getD "" ≠ "" ∧ tool.name ≠ "")
    (hfits : ∀ frame ∈ frames₁ ++ frames₂, frame.Fits)
    (hparse : ∀ frame ∈ frames₁ ++ frames₂, parse.Reads frame.payload)
    (chunks : List (List UInt8))
    (hchunks : chunks.flatten = (frames₁ ++ frames₂).flatMap Frame.bytes) :
    ∃ s s' output rest,
      feed (AnthropicToOpenAiStream.push parse) chunks .default = (s, .ok output) ∧
      AnthropicToOpenAiStream.finish parse s = (s', .ok rest) ∧
      String.join (contents (chunkItems (output ++ rest))) = String.join (contents items) ∧
      toolCalls (chunkItems (output ++ rest)) = (toolCalls items).map (fun tool =>
        { tool with arguments := normalArguments tool.arguments }) ∧
      (∀ reason ∈ ["stop", "length", "tool_calls"], finishReason items = some reason →
        finishReason (chunkItems (output ++ rest)) = some reason) ∧
      (∀ n, completionTokens items = some n →
        completionTokens (chunkItems (output ++ rest)) = some n) ∧
      ∃ before, output ++ rest = before ++ [.done] ∧ ∀ chunk ∈ before, chunk.isDone = false := by
  have hframes := MessagesStreamTranslator.frames_eq_expected hnew hpush hfinish
  rw [hupstream] at hframes
  obtain ⟨s, s', hadapter, hend⟩ := adapter_on_expected hframes herror hcount
    (fun tool htool => (htools tool htool).1) hfits hparse hchunks
  refine ⟨s, s', _, [], hadapter, hend, ?_⟩
  rw [List.append_nil, chunkItems_expected messageId model inputTokens hcount htools]
  refine ⟨join_contents_said _ _ _ _ _, ?_, ?_, ?_, ?_⟩
  · rw [toolCalls_said]
    refine List.map_congr_left fun tool htool => ?_
    cases hid : tool.id with
    | none =>
      have hne := (htools tool htool).1
      rw [hid] at hne
      exact absurd rfl hne
    | some id => rfl
  · intro reason hreason hitems
    rw [← List.append_assoc, finishReason_said, hitems]
    exact congrArg some (openaiFinishReason_streamStopReason reason hreason)
  · intro n hn
    have hitems : items = (upstream parse (t.decoder.events fragments.flatten)).1 := by
      rw [hupstream]
    rw [← List.append_assoc, completionTokens_said]
    rw [hitems] at hn ⊢
    exact congrArg some (asU64_outputEstimate hn)
  · exact expectedChunks_done messageId model inputTokens items

/-- A payload with one choice. -/
def choicePayload (choice : List (String × Json)) : Json :=
  .object [("choices", .array [.object choice])]

/-- Content, a tool call without arguments and a finish reason. -/
def greetingPayloads : List Json :=
  [choicePayload [("delta", .object [("content", .string "hi")])],
    choicePayload [("delta", .object [("tool_calls", .array [.object [("id", .string "t"),
      ("function", .object [("name", .string "f")])]])])],
    choicePayload [("finish_reason", .string "tool_calls")]]

/-- A stream with a few payloads. -/
def greetingStream : List UInt8 :=
  (greetingPayloads.flatMap fun payload =>
    utf8 "data:".toList ++ payload.bytes ++ utf8 ['\n', '\n']) ++ utf8 "data:[DONE]\n\n".toList

def greetingItems : List Item :=
  [.content "hi", .tool 0, .toolId 0 "t", .toolName 0 "f", .finishReason "tool_calls"]

def greetingFrames : List Frame := expected "msg" "m" 7 greetingItems .done

def greetingParser : Json.Parser :=
  .ofValues (greetingPayloads ++ greetingFrames.map Frame.payload)

theorem streams_inverse_greeting :
    ∃ s s' output rest,
      feed (AnthropicToOpenAiStream.push greetingParser)
        [greetingFrames.flatMap Frame.bytes] .default = (s, .ok output) ∧
      AnthropicToOpenAiStream.finish greetingParser s = (s', .ok rest) ∧
      String.join (contents (chunkItems (output ++ rest))) = "hi" ∧
      toolCalls (chunkItems (output ++ rest)) = [⟨some "t", "f", "\x7b\x7d"⟩] ∧
      finishReason (chunkItems (output ++ rest)) = some "tool_calls" := by
  have hsucceeds : (feed (MessagesStreamTranslator.push greetingParser) [greetingStream]
      (MessagesStreamTranslator.new "m" "msg" 7)).2.toOption.isSome = true ∧
      (MessagesStreamTranslator.finish greetingParser (feed
        (MessagesStreamTranslator.push greetingParser) [greetingStream]
        (MessagesStreamTranslator.new "m" "msg" 7)).1).2.toOption.isSome = true := by
    decide +kernel
  obtain ⟨frames₁, hpush⟩ := AnthropicToOpenAiStream.exists_ok _ hsucceeds.1
  obtain ⟨frames₂, hfinish⟩ := AnthropicToOpenAiStream.exists_ok _ hsucceeds.2
  have hupstream : upstream greetingParser (SseDecoder.default.events [greetingStream].flatten) =
      (greetingItems, .done) := by
    decide +kernel
  have hframes : frames₁ ++ frames₂ = greetingFrames := by
    have hnew : MessagesStreamTranslator.withLimits "m" "msg" 7 .default =
        .ok (MessagesStreamTranslator.new "m" "msg" 7) := rfl
    have hexpected := MessagesStreamTranslator.frames_eq_expected hnew hpush hfinish
    rw [hexpected]
    exact congrArg (fun x : List Item × Ending => expected "msg" "m" 7 x.1 x.2) hupstream
  have hreads : ∀ frame ∈ greetingFrames, greetingParser.Reads frame.payload := by
    intro frame hframe
    exact Json.Parser.reads_ofValues (by decide +kernel)
      (List.mem_append_right _ (List.mem_map_of_mem hframe))
  obtain ⟨s, s', output, rest, hs, hs', hcontents, htools, hreason, -⟩ :=
    streams_inverse greetingParser "m" "msg" 7 .default _ _ _ rfl [greetingStream] frames₁ frames₂
      hpush hfinish greetingItems .done hupstream (fun _ _ => Ending.noConfusion) (by decide)
      (by decide) (by rw [hframes]; decide +kernel) (by rw [hframes]; exact hreads)
      [greetingFrames.flatMap Frame.bytes] (by rw [hframes]; exact List.append_nil _)
  exact ⟨s, s', output, rest, hs, hs', hcontents, htools, hreason "tool_calls" (by decide) rfl⟩

end WayfinderRouter.Providers
