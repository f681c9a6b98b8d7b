import WayfinderRouter.Providers.RequestDetour

/-!
# Messages through the chat completion form

A buffered message is translated into a chat completion and back. The inputs of tools are written
as their compact text and read again.

## Main definitions

- `AnthropicNative.anthropicToOpenaiResponse` — a message as a chat completion
- `Anthropic.openaiToAnthropicResponse` — a chat completion as a message
- `MessageContent` — the contents that come back

## Main results

- `response_detour` — content, stop reason and usage come back
-/

namespace WayfinderRouter.Providers

/-! ## A message as a chat completion -/

namespace AnthropicNative

/-- One block of `anthropic_to_openai_response`: a text, or a call. -/
def responseBlock (block : Json) : Except AnthropicNativeError (String ⊕ Json) := do
  ensure .invalidResponse block.asObject.isSome
  match block.getStr "type" with
  | some "text" => do
    let text ← okOr .invalidResponse (block.getStr "text")
    return .inl text
  | some "tool_use" => do
    let id ← okOr .invalidResponse (block.getStr "id")
    let name ← okOr .invalidResponse (block.getStr "name")
    let input ← okOr .invalidResponse (block.get "input")
    return .inr (.object [("id", .string id), ("type", .string "function"),
      ("function", .object [("name", .string name),
        ("arguments", .string (String.ofList input.render))])])
  | _ => .error .invalidResponse

/-- A number of `usage`. -/
def usageNumber (key : String) (body : Json) : ℕ :=
  (((body.get "usage").bind (Json.get key)).bind Json.asU64).getD 0

def responseMessage (text : List String) (toolCalls : List Json) : List (String × Option Json) :=
  [("role", some (.string "assistant")),
    ("content", some (if text.isEmpty then .null else .string (String.join text))),
    ("tool_calls", if toolCalls.isEmpty then none else some (.array toolCalls))]

/-- `anthropic_to_openai_response`. -/
def anthropicToOpenaiResponse (body : Json) : Except AnthropicNativeError Json := do
  ensure .invalidResponse body.asObject.isSome
  ensure .invalidResponse (body.getStr "type" = some "message")
  let content ← okOr .invalidResponse ((body.get "content").bind Json.asArray)
  let blocks ← content.mapM responseBlock
  let promptTokens := usageNumber "input_tokens" body
  let completionTokens := usageNumber "output_tokens" body
  return .object [("id", (body.get "id").getD (.string "msg_anthropic")),
    ("object", .string "chat.completion"), ("created", .nat 0),
    ("model", (body.get "model").getD (.string "")),
    ("choices", .array [.object [("index", .nat 0),
      ("message", .ofFields
        (responseMessage (blocks.filterMap Sum.getLeft?) (blocks.filterMap Sum.getRight?))),
      ("finish_reason", .string (openaiFinishReason (body.getStr "stop_reason")))]]),
    ("usage", .object [("prompt_tokens", .nat promptTokens),
      ("completion_tokens", .nat completionTokens),
      ("total_tokens", .nat (U64.saturatingAdd promptTokens completionTokens))])]

end AnthropicNative

/-! ## A chat completion as a message -/

namespace Anthropic

/-- `estimate_tokens`. -/
def estimateTokens (text : String) : ℕ := if text = "" then 0 else max (text.length / 4) 1

/-- `stop_reason`. -/
def stopReason : Option String → String
  | some "length" => "max_tokens"
  | some "tool_calls" => "tool_use"
  | some "function_call" => "tool_use"
  | _ => "end_turn"

/-- `usage`. -/
def usage (response : Json) (prompt completion : String) : ℕ × ℕ :=
  match ((response.get "usage").bind (Json.get "prompt_tokens")).bind Json.asU64,
    ((response.get "usage").bind (Json.get "completion_tokens")).bind Json.asU64 with
  | some input, some output => (input, output)
  | _, _ => (estimateTokens prompt, estimateTokens completion)

/-- The arguments of a call, as text. -/
def callArguments (call : Json) : String :=
  ((call.get "function").bind (Json.getStr "arguments")).getD ""

/-- One call of `openai_to_anthropic_response`. -/
def toolUseBlock (parse : Json.Parser) (index : ℕ) (call : Json) : Json :=
  .object [("type", .string "tool_use"),
    ("id", ((call.get "id").filter truthy).getD (.string ("toolu_" ++ index.repr))),
    ("name", ((call.get "function").bind (Json.get "name")).getD (.string "")),
    ("input", (parse (utf8 (callArguments call).toList)).getD (.object []))]

/-- The content of `openai_to_anthropic_response`. -/
def responseContent (parse : Json.Parser) (text : Option String) (calls : List Json) :
    List Json :=
  let content := (text.filter (· ≠ "")).toList.map (fun text =>
    Json.object [("type", .string "text"), ("text", .string text)]) ++
    calls.mapIdx (toolUseBlock parse)
  if content.isEmpty then [.object [("type", .string "text"), ("text", .string "")]] else content

/-- `openai_to_anthropic_response`. -/
def openaiToAnthropicResponse (parse : Json.Parser) (response : Json)
    (model messageId promptText : String) : Json :=
  let choice := ((response.get "choices").bind Json.asArray).bind List.head?
  let message := choice.bind (Json.get "message")
  let text := message.bind (Json.getStr "content")
  let calls := (((message.bind (Json.get "tool_calls")).bind Json.asArray).getD []).filter
    (·.asObject.isSome)
  let completion := text.getD "" ++ String.join (calls.map callArguments)
  let tokens := usage response promptText completion
  .object [("id", .string messageId), ("type", .string "message"), ("role", .string "assistant"),
    ("model", .string model), ("content", .array (responseContent parse text calls)),
    ("stop_reason", .string (stopReason (choice.bind (Json.getStr "finish_reason")))),
    ("stop_sequence", .null),
    ("usage", .object [("input_tokens", .nat tokens.1), ("output_tokens", .nat tokens.2)])]

end Anthropic

/-! ## What comes back -/

namespace AnthropicNative

open Anthropic

/-- A call of a tool, with any input. -/
structure MessageCall where
  id : String
  name : String
  input : Json
  id_ne : id ≠ ""

def MessageCall.block (call : MessageCall) : ContentBlock :=
  .toolUse call.id call.name call.input

/-- The content of a message: a text, then calls, and at least one of them. -/
structure MessageContent where
  text : Option NonEmptyText
  calls : List MessageCall
  nonempty : text.isSome ∨ calls ≠ []

def MessageContent.blocks (content : MessageContent) : List ContentBlock :=
  content.text.toList.map NonEmptyText.block ++ content.calls.map MessageCall.block

/-- A successful message of the given content. -/
structure IsMessage (body : Json) (content : MessageContent) (reason : String)
    (inputTokens outputTokens : ℕ) : Prop where
  type : body.get "type" = some (.string "message")
  content : ∃ values, body.get "content" = some (.array values) ∧
    List.Forall₂ IsBlock values content.blocks
  stopReason : body.get "stop_reason" = some (.string reason)
  reason_mem : reason = "end_turn" ∨ reason = "max_tokens" ∨ reason = "tool_use"
  inputTokens : ((body.get "usage").bind (Json.get "input_tokens")).bind Json.asU64 =
    some inputTokens
  outputTokens : ((body.get "usage").bind (Json.get "output_tokens")).bind Json.asU64 =
    some outputTokens

/-- A call, as it is written. -/
def MessageCall.json (call : MessageCall) : Json :=
  .object [("id", .string call.id), ("type", .string "function"),
    ("function", .object [("name", .string call.name),
      ("arguments", .string (String.ofList call.input.render))])]

/-- A block, as it is read. -/
def ContentBlock.piece : ContentBlock → String ⊕ Json
  | .text value => .inl value
  | .toolUse id name input =>
    .inr (.object [("id", .string id), ("type", .string "function"),
      ("function", .object [("name", .string name),
        ("arguments", .string (String.ofList input.render))])])
  | .toolResult _ _ => .inl ""

theorem responseBlock_eq_ok {value : Json} {block : ContentBlock} (h : IsBlock value block)
    (hresult : ∀ id content, block ≠ .toolResult id content) :
    responseBlock value = .ok block.piece := by
  rw [responseBlock, bind_eq_ok]
  cases h with
  | text htype htext =>
    refine ⟨(), ensure_eq_ok.mpr (isSome_asObject_of_get htype), ?_⟩
    rw [Json.getStr_eq_some.mpr htype, Json.getStr_eq_some.mpr htext]
    rfl
  | toolUse htype hid hname hinput =>
    refine ⟨(), ensure_eq_ok.mpr (isSome_asObject_of_get htype), ?_⟩
    rw [Json.getStr_eq_some.mpr htype, Json.getStr_eq_some.mpr hid,
      Json.getStr_eq_some.mpr hname, hinput]
    rfl
  | toolResult => exact absurd rfl (hresult _ _)

/-- The blocks of a message are read. -/
theorem mapM_responseBlock {values : List Json} {blocks : List ContentBlock}
    (h : List.Forall₂ IsBlock values blocks)
    (hresult : ∀ block ∈ blocks, ∀ id content, block ≠ .toolResult id content) :
    values.mapM responseBlock = .ok (blocks.map ContentBlock.piece) := by
  rw [mapM_eq_ok, List.forall₂_map_right_iff]
  induction h with
  | nil => exact .nil
  | cons hblock _ ih =>
    obtain ⟨hfirst, hrest⟩ := List.forall_mem_cons.mp hresult
    exact .cons (responseBlock_eq_ok hblock hfirst) (ih hrest)

theorem MessageContent.not_toolResult (content : MessageContent) :
    ∀ block ∈ content.blocks, ∀ id text, block ≠ .toolResult id text := by
  rintro _ hblock id text rfl
  rcases List.mem_append.mp hblock with hblock | hblock
  · obtain ⟨text, -, heq⟩ := List.mem_map.mp hblock
    cases heq
  · obtain ⟨call, -, heq⟩ := List.mem_map.mp hblock
    cases heq

theorem pieces_blocks (content : MessageContent) :
    (content.blocks.map ContentBlock.piece).filterMap Sum.getLeft? = texts content.text ∧
      (content.blocks.map ContentBlock.piece).filterMap Sum.getRight? =
        content.calls.map MessageCall.json := by
  have hcalls : ∀ calls : List MessageCall,
      ((calls.map MessageCall.block).map ContentBlock.piece).filterMap Sum.getLeft? = [] ∧
        ((calls.map MessageCall.block).map ContentBlock.piece).filterMap Sum.getRight? =
          calls.map MessageCall.json := by
    intro calls
    induction calls with
    | nil => exact ⟨rfl, rfl⟩
    | cons call calls ih => exact ⟨ih.1, congrArg (call.json :: ·) ih.2⟩
  obtain ⟨hleft, hright⟩ := hcalls content.calls
  rw [MessageContent.blocks, List.map_append, List.filterMap_append, List.filterMap_append, hleft,
    hright, List.append_nil]
  cases content.text with
  | none => exact ⟨rfl, rfl⟩
  | some text => exact ⟨rfl, rfl⟩

/-- A written call is read back. -/
theorem toolUseBlock_json {parse : Json.Parser} {call : MessageCall} (index : ℕ)
    (hparse : parse.Reads call.input) : toolUseBlock parse index call.json = call.block.json := by
  have hid : ((call.json.get "id").filter truthy).getD (.string ("toolu_" ++ index.repr)) =
      .string call.id := by
    show (Option.filter truthy (some (.string call.id))).getD _ = _
    rw [truthy_string call.id_ne]
    rfl
  have harguments : (callArguments call.json).toList = call.input.render :=
    String.toList_ofList
  rw [toolUseBlock, hid, harguments]
  show Json.object [_, _, _, ("input", (parse call.input.bytes).getD _)] = _
  rw [hparse]
  rfl

theorem mapIdx_toolUseBlock {parse : Json.Parser} {calls : List MessageCall}
    (hparse : ∀ call ∈ calls, parse.Reads call.input) :
    (calls.map MessageCall.json).mapIdx (toolUseBlock parse) =
      (calls.map MessageCall.block).map ContentBlock.json := by
  apply List.ext_getElem
  · simp only [List.length_mapIdx, List.length_map]
  · intro i h₁ h₂
    simp only [List.getElem_mapIdx, List.getElem_map]
    exact toolUseBlock_json i (hparse _ (List.getElem_mem _))

theorem responseContent_blocks {parse : Json.Parser} (content : MessageContent)
    (hparse : ∀ call ∈ content.calls, parse.Reads call.input) :
    responseContent parse (content.text.map NonEmptyText.text)
      (content.calls.map MessageCall.json) = content.blocks.map ContentBlock.json := by
  have htext : ((content.text.map NonEmptyText.text).filter (· ≠ "")).toList.map (fun text =>
      Json.object [("type", .string "text"), ("text", .string text)]) =
      (content.text.toList.map NonEmptyText.block).map ContentBlock.json := by
    cases content.text with
    | none => rfl
    | some text =>
      have hfilter : (some text.1).filter (· ≠ "") = some text.1 :=
        Option.filter_some_pos (decide_eq_true text.2)
      show ((some text.1).filter (· ≠ "")).toList.map _ = _
      rw [hfilter]
      rfl
  have hne : content.blocks.map ContentBlock.json ≠ [] := by
    intro hnil
    obtain ⟨htexts, hcalls⟩ := List.append_eq_nil_iff.mp (List.map_eq_nil_iff.mp hnil)
    rcases content.nonempty with hsome | hsome
    · rw [List.map_eq_nil_iff, Option.toList_eq_nil_iff] at htexts
      rw [htexts] at hsome
      cases hsome
    · exact hsome (List.map_eq_nil_iff.mp hcalls)
  rw [responseContent, htext, mapIdx_toolUseBlock hparse, ← List.map_append]
  exact if_neg fun hempty => hne (List.isEmpty_iff.mp hempty)

theorem get_responseMessage (text : List String) (toolCalls : List Json) (key : String) :
    (Json.ofFields (responseMessage text toolCalls)).get key =
      (Ordered.lookup key (responseMessage text toolCalls)).join :=
  have hkeys : ["role", "content", "tool_calls"].Nodup := by decide
  @Json.get_ofFields (responseMessage text toolCalls) hkeys key

theorem getStr_responseMessage (text : Option NonEmptyText) (toolCalls : List Json) :
    (Json.ofFields (responseMessage (texts text) toolCalls)).getStr "content" =
      text.map NonEmptyText.text := by
  rw [Json.getStr, get_responseMessage]
  cases text with
  | none => rfl
  | some text => rfl

theorem toolCalls_responseMessage (text : List String) (calls : List MessageCall) :
    (((Json.ofFields (responseMessage text (calls.map MessageCall.json))).get "tool_calls").bind
      Json.asArray).getD [] = calls.map MessageCall.json := by
  rw [get_responseMessage]
  cases calls with
  | nil => rfl
  | cons call calls => rfl

theorem filter_json (calls : List MessageCall) :
    (calls.map MessageCall.json).filter (·.asObject.isSome) = calls.map MessageCall.json := by
  rw [List.filter_eq_self]
  intro value hvalue
  obtain ⟨call, -, rfl⟩ := List.mem_map.mp hvalue
  rfl

/-- The chat completion of a message. -/
def chatCompletion (body : Json) (content : MessageContent) (inputTokens outputTokens : ℕ) : Json :=
  .object [("id", (body.get "id").getD (.string "msg_anthropic")),
    ("object", .string "chat.completion"), ("created", .nat 0),
    ("model", (body.get "model").getD (.string "")),
    ("choices", .array [.object [("index", .nat 0),
      ("message", .ofFields
        (responseMessage (texts content.text) (content.calls.map MessageCall.json))),
      ("finish_reason", .string (openaiFinishReason (body.getStr "stop_reason")))]]),
    ("usage", .object [("prompt_tokens", .nat inputTokens),
      ("completion_tokens", .nat outputTokens),
      ("total_tokens", .nat (U64.saturatingAdd inputTokens outputTokens))])]

section Detour

variable {body : Json} {content : MessageContent} {reason : String}
  {inputTokens outputTokens : ℕ}
  (h : IsMessage body content reason inputTokens outputTokens)

include h

theorem IsMessage.usageNumber :
    usageNumber "input_tokens" body = inputTokens ∧
      AnthropicNative.usageNumber "output_tokens" body = outputTokens := by
  rw [AnthropicNative.usageNumber, AnthropicNative.usageNumber, h.inputTokens, h.outputTokens]
  exact ⟨rfl, rfl⟩

theorem IsMessage.anthropicToOpenaiResponse :
    anthropicToOpenaiResponse body =
      .ok (chatCompletion body content inputTokens outputTokens) := by
  obtain ⟨values, hvalues, hblocks⟩ := h.content
  obtain ⟨hleft, hright⟩ := pieces_blocks content
  have harray : (body.get "content").bind Json.asArray = some values := by
    rw [hvalues]
    rfl
  simp only [AnthropicNative.anthropicToOpenaiResponse, bind_eq_ok, ensure_eq_ok, okOr_eq_ok]
  refine ⟨(), isSome_asObject_of_get h.type, (), Json.getStr_eq_some.mpr h.type, values, harray, _,
    mapM_responseBlock hblocks content.not_toolResult, ?_⟩
  rw [hleft, hright, h.usageNumber.1, h.usageNumber.2]
  rfl

theorem IsMessage.stopReason_detour :
    Anthropic.stopReason (some (openaiFinishReason (body.getStr "stop_reason"))) = reason := by
  rw [Json.getStr_eq_some.mpr h.stopReason]
  obtain rfl | rfl | rfl := h.reason_mem
  · rfl
  · rfl
  · rfl

theorem IsMessage.usage_detour (promptText completion : String) :
    usage (chatCompletion body content inputTokens outputTokens) promptText completion =
      (inputTokens, outputTokens) := by
  have hin : ((body.get "usage").bind (Json.get "input_tokens")).bind Json.asU64 = _ :=
    h.inputTokens
  have hout : ((body.get "usage").bind (Json.get "output_tokens")).bind Json.asU64 = _ :=
    h.outputTokens
  obtain ⟨_, -, hin⟩ := Option.bind_eq_some_iff.mp hin
  obtain ⟨_, -, hout⟩ := Option.bind_eq_some_iff.mp hout
  rw [usage]
  show (match (Json.nat inputTokens).asU64, (Json.nat outputTokens).asU64 with
    | some input, some output => (input, output)
    | _, _ => _) = _
  rw [Json.asU64_nat (Json.le_of_asU64 hin), Json.asU64_nat (Json.le_of_asU64 hout)]

end Detour

/-- What comes back of a message: the same blocks, the same stop reason and the same usage. -/
theorem response_detour (parse : Json.Parser) (body : Json) (content : MessageContent)
    (reason : String) (inputTokens outputTokens : ℕ) (model messageId promptText : String)
    (h : IsMessage body content reason inputTokens outputTokens)
    (hparse : ∀ call ∈ content.calls, parse.Reads call.input) :
    ∃ response message, anthropicToOpenaiResponse body = .ok response ∧
      openaiToAnthropicResponse parse response model messageId promptText = message ∧
      message.get "content" = some (.array (content.blocks.map ContentBlock.json)) ∧
      message.get "stop_reason" = some (.string reason) ∧
      message.get "usage" = some (.object
        [("input_tokens", .nat inputTokens), ("output_tokens", .nat outputTokens)]) := by
  refine ⟨_, _, h.anthropicToOpenaiResponse, rfl, ?_, ?_, ?_⟩
  · show some (Json.array (responseContent parse
      ((Json.ofFields (responseMessage (texts content.text)
        (content.calls.map MessageCall.json))).getStr "content")
      (((((Json.ofFields (responseMessage (texts content.text)
        (content.calls.map MessageCall.json))).get "tool_calls").bind
        Json.asArray).getD []).filter _))) = _
    rw [getStr_responseMessage, toolCalls_responseMessage, filter_json,
      responseContent_blocks content hparse]
  · show some (Json.string (Anthropic.stopReason
      (some (openaiFinishReason (body.getStr "stop_reason"))))) = _
    rw [h.stopReason_detour]
  · show some (Json.object [("input_tokens", .nat (usage _ _ _).1), _]) = _
    rw [h.usage_detour]

theorem sampleText_ne : "Done." ≠ "" := by decide

def sampleText : NonEmptyText := ⟨"Done.", sampleText_ne⟩

theorem sampleCall_ne : "call_1" ≠ "" := by decide

/-- A call whose input is `null`. -/
def sampleCall : MessageCall := ⟨"call_1", "", .null, sampleCall_ne⟩

theorem sampleText_isSome : (some sampleText).isSome ∨ [sampleCall] ≠ [] := .inl rfl

def sampleContent : MessageContent := ⟨some sampleText, [sampleCall], sampleText_isSome⟩

def sampleMessage : Json :=
  .object [("type", .string "message"),
    ("content", .array (sampleContent.blocks.map ContentBlock.json)),
    ("stop_reason", .string "tool_use"),
    ("usage", .object [("input_tokens", .nat 3), ("output_tokens", .nat 5)])]

theorem response_detour_sample :
    ∃ response message, anthropicToOpenaiResponse sampleMessage = .ok response ∧
      openaiToAnthropicResponse (Json.Parser.ofValues [.null]) response "auto" "msg_1" "" =
        message ∧
      message.get "content" = some (.array (sampleContent.blocks.map ContentBlock.json)) := by
  have hblocks : List.Forall₂ IsBlock (sampleContent.blocks.map ContentBlock.json)
      sampleContent.blocks := by
    rw [List.forall₂_map_left_iff, List.forall₂_same]
    exact fun block _ => isBlock_json block
  have hmessage : IsMessage sampleMessage sampleContent "tool_use" 3 5 :=
    ⟨rfl, ⟨_, rfl, hblocks⟩, rfl, .inr (.inr rfl), rfl, rfl⟩
  have hparse : ∀ call ∈ sampleContent.calls,
      (Json.Parser.ofValues [.null]).Reads call.input :=
    List.forall_mem_singleton.mpr rfl
  obtain ⟨response, message, hresponse, hback, hcontent, -⟩ :=
    response_detour _ sampleMessage sampleContent "tool_use" 3 5 "auto" "msg_1" "" hmessage hparse
  exact ⟨response, message, hresponse, hback, hcontent⟩

end AnthropicNative

end WayfinderRouter.Providers
