import WayfinderRouter.Double
import WayfinderRouter.Fallible
import WayfinderRouter.Responses.Tools

/-!
# Input of a Responses request

The input of a request becomes the messages of a chat request. Tool calls wait until an item of
another kind comes, or the input ends, and are then written as one message.

## Main definitions

- `ResponsesRequest.validateAndTranslate` — the chat request
- `translateInputItem`, `flushToolCalls` — the loop over the items
- `IsMessage`, `IsCall`, `History` — what the messages of a list of items are

## Main results

- `foldlM_translateInputItem` — what the loop adds to the messages
- `input_history` — the messages are those of the items
-/

namespace WayfinderRouter.Responses

/-! ## Content -/

/-- The kinds of parts that have text. -/
def isTextKind (kind : String) : Bool :=
  kind = "input_text" || kind = "output_text" || kind = "text"

/-- One turn of the loop of `content_text`. -/
def appendPart (text : String) (part : Json) : Except String String := do
  let part ← orError "Responses message content parts must be objects" part.asObject
  rejectUnknownFields part ["type", "text", "annotations", "logprobs"]
  let kind ← requiredString part "type"
  if isTextKind kind then
    let more ← requiredString part "text"
    .ok ((if text = "" then text else text ++ "\n") ++ more)
  else
    .error ("unsupported Responses content type '" ++ kind ++ "'; only text parts are supported")

/-- `content_text`. -/
def contentText : Json → Except String String
  | .string text => .ok text
  | .array [] => .error "Responses message content must contain at least one part"
  | .array (part :: parts) => (part :: parts).foldlM appendPart ""
  | _ => .error "Responses message content must be text or text parts"

/-! ## Items -/

/-- What the loop over the items has: messages, calls that wait, and characters. -/
structure Input where
  messages : List Json
  pendingToolCalls : List Json
  inputChars : ℕ

/-- The message of tool calls, if there are any. -/
def flushed (calls : List Json) : List Json :=
  match calls with
  | [] => []
  | call :: calls =>
    [.object [("role", .string "assistant"), ("content", .null),
      ("tool_calls", .array (call :: calls))]]

/-- `flush_tool_calls`. -/
def flushToolCalls (s : Input) : Input :=
  { s with messages := s.messages ++ flushed s.pendingToolCalls, pendingToolCalls := [] }

/-- A message after those so far. -/
def Input.push (s : Input) (message : Json) (text : String) : Input :=
  { s with
    messages := s.messages ++ [message]
    inputChars := U64.saturatingAdd s.inputChars text.length }

/-- A call that waits. -/
def Input.call (s : Input) (call : Json) (text : String) : Input :=
  { s with
    pendingToolCalls := s.pendingToolCalls ++ [call]
    inputChars := U64.saturatingAdd s.inputChars text.length }

/-- The kind of an item. -/
def itemKind (item : List (String × Json)) : String :=
  ((Ordered.lookup "type" item).bind Json.asStr).getD "message"

/-- The name of a tool upstream: its wire name, or the name itself if there is none. -/
def upstreamName (entries : Enumeration) (item : List (String × Json)) (name : String)
    (custom : Bool) : String :=
  (wireName entries name ((Ordered.lookup "namespace" item).bind Json.asStr) custom).getD name

/-- A tool call upstream. -/
def toolCall (callId name arguments : String) : Json :=
  .object [("id", .string callId), ("type", .string "function"),
    ("function", .object [("name", .string name), ("arguments", .string arguments)])]

def isMessageRole (role : String) : Bool :=
  role = "system" || role = "developer" || role = "user" || role = "assistant"

/-- A message of the input. -/
def translateMessage (item : List (String × Json)) (s : Input) : Except String Input := do
  rejectUnknownFields item ["id", "type", "role", "content", "status", "phase",
    "internal_chat_message_metadata_passthrough"]
  let s := flushToolCalls s
  let role ← requiredString item "role"
  if isMessageRole role then
    let content ← orError "Responses message input requires 'content'"
      (Ordered.lookup "content" item)
    let text ← contentText content
    .ok (s.push (.object [("role", .string role), ("content", .string text)]) text)
  else .error ("unsupported Responses message role '" ++ role ++ "'")

/-- A call of a tool, with the field that holds what it is called with. -/
def translateCall (entries : Enumeration) (custom : Bool) (field : String)
    (fields : List String) (arguments : String → String) (item : List (String × Json))
    (s : Input) : Except String Input := do
  rejectUnknownFields item fields
  let name ← requiredString item "name"
  let text ← requiredString item field
  let callId ← requiredString item "call_id"
  .ok (s.call (toolCall callId (upstreamName entries item name custom) (arguments text)) text)

/-- The output of a tool. -/
def translateOutput (item : List (String × Json)) (s : Input) : Except String Input := do
  rejectUnknownFields item ["id", "type", "name", "call_id", "output",
    "internal_chat_message_metadata_passthrough"]
  let s := flushToolCalls s
  let callId ← requiredString item "call_id"
  let output ← orError "Responses tool output requires 'output'" (Ordered.lookup "output" item)
  let text ← contentText output
  .ok (s.push (.object [("role", .string "tool"), ("tool_call_id", .string callId),
    ("content", .string text)]) text)

/-- The input of a custom tool as the arguments of a function. -/
def customArguments (input : String) : String :=
  String.ofList (Json.object [("input", .string input)]).render

/-- `translate_input_item`. -/
def translateInputItem (entries : Enumeration) (s : Input) (item : Json) :
    Except String Input := do
  let item ← orError "Responses input items must be objects" item.asObject
  let kind := itemKind item
  if kind = "message" then translateMessage item s
  else if kind = "function_call" then
    translateCall entries false "arguments"
      ["id", "type", "name", "namespace", "arguments", "encrypted_function_args", "call_id",
        "status", "internal_chat_message_metadata_passthrough"] id item s
  else if kind = "custom_tool_call" then
    translateCall entries true "input"
      ["id", "type", "name", "namespace", "input", "call_id", "status",
        "internal_chat_message_metadata_passthrough"] customArguments item s
  else if kind = "function_call_output" ∨ kind = "custom_tool_call_output" then
    translateOutput item s
  else .error ("unsupported Responses input item type '" ++ kind ++ "'")

/-! ## Requests -/

def maxInputItems : ℕ := 64

def maxInputChars : ℕ := 1000000

def maxOutputTokens : ℕ := 32768

inductive ResponsesInput where
  | text (text : String)
  | items (items : List Json)

structure ResponsesRequest where
  model : String
  input : ResponsesInput
  instructions : Option String
  stream : Bool
  maxOutputTokens : Option ℕ
  temperature : Option Double
  tools : List Json
  toolChoice : Json
  parallelToolCalls : Bool
  reasoning : Option Json
  store : Bool
  streamOptions : Option Json
  includes : List String
  serviceTier : Option String
  promptCacheKey : Option String
  text : Option Json
  clientMetadata : Option Json

def isNull : Json → Bool
  | .null => true
  | _ => false

def temperatureAllowed : Double → Bool
  | .finite value => 0 ≤ value && value ≤ 2
  | .notFinite => false

/-- A double as a value. -/
def doubleJson (doubleText : ℚ → String) : Double → Json
  | .finite value => .number (doubleText value)
  | .notFinite => .null

def checkThat (condition : Bool) (error : String) : Except String Unit :=
  if condition then .ok () else .error error

/-- `validate_codex_controls`. -/
def validateCodexControls (request : ResponsesRequest) : Except String Unit := do
  match request.streamOptions with
  | none => .ok ()
  | some options =>
    let options ← orError "Responses field 'stream_options' must be an object" options.asObject
    rejectUnknownFields options ["reasoning_summary_delivery", "include_usage"]
  checkThat (request.includes.all (· = "reasoning.encrypted_content"))
    "unsupported Responses field 'include'"
  checkThat (request.promptCacheKey.all fun value => value.utf8ByteSize ≤ 512)
    "Responses field 'prompt_cache_key' exceeds 512 bytes"
  match request.text with
  | none => .ok ()
  | some text =>
    let text ← orError "Responses field 'text' must be an object" text.asObject
    rejectUnknownFields text ["verbosity", "format"]
    checkThat ((Ordered.lookup "format" text).all isNull)
      "Responses structured text formats are not supported"
  checkThat (request.clientMetadata.all fun value => value.asObject.isSome)
    "Responses field 'client_metadata' must be an object"

/-- `validate_reasoning`. -/
def validateReasoning (reasoning : Json) : Except String (Option String) := do
  let reasoning ← orError "Responses field 'reasoning' must be an object" reasoning.asObject
  rejectUnknownFields reasoning ["effort", "summary", "context"]
  for field in ["summary", "context"] do
    checkThat ((Ordered.lookup field reasoning).all fun value =>
        value.asStr.isSome || isNull value)
      ("Responses reasoning field '" ++ field ++ "' must be a string")
  let effort := (Ordered.lookup "effort" reasoning).bind Json.asStr
  checkThat (effort.all (· ∈ ["none", "minimal", "low", "medium", "high", "xhigh"]))
    "unsupported Responses reasoning effort"
  .ok effort

/-- The effort of the reasoning, if there is one. -/
def reasoningEffort : Option Json → Except String (Option String)
  | none => .ok none
  | some reasoning => validateReasoning reasoning

/-- The messages of the instructions and the input, with the characters that they have. -/
def translateInput (entries : Enumeration) (instructions : Option String) (input : ResponsesInput) :
    Except String (List Json × ℕ) := do
  let start : Input :=
    match instructions with
    | none => ⟨[], [], 0⟩
    | some text =>
      Input.push ⟨[], [], 0⟩ (.object [("role", .string "system"), ("content", .string text)]) text
  match input with
  | .text text =>
    let s := start.push (.object [("role", .string "user"), ("content", .string text)]) text
    .ok (s.messages, s.inputChars)
  | .items items =>
    checkThat (!items.isEmpty) "Responses field 'input' must contain at least one item"
    checkThat (items.length ≤ maxInputItems)
      ("Responses field 'input' exceeds " ++ maxInputItems.repr ++ " items")
    let s ← items.foldlM (translateInputItem entries) start
    .ok ((flushToolCalls s).messages, s.inputChars)

/-- `ResponsesRequest::validate_and_translate`, with the order in which the metadata is enumerated
and the text of a double. -/
def ResponsesRequest.validateAndTranslate (request : ResponsesRequest)
    (enumerate : ResponsesToolMetadata → Enumeration) (doubleText : ℚ → String) :
    Except String (Json × ResponsesToolMetadata) := do
  checkThat (trim request.model ≠ "" && request.model.utf8ByteSize ≤ 128)
    "Responses field 'model' must be 1-128 bytes"
  checkThat (request.instructions.all fun text => text.length ≤ maxInputChars)
    ("Responses field 'instructions' exceeds " ++ maxInputChars.repr ++ " characters")
  checkThat
    (request.maxOutputTokens.all fun tokens =>
      tokens ≠ 0 && tokens ≤ Responses.maxOutputTokens)
    ("Responses field 'max_output_tokens' must be between 1 and " ++
      Responses.maxOutputTokens.repr)
  checkThat (request.temperature.all temperatureAllowed)
    "Responses field 'temperature' must be between 0 and 2"
  checkThat (!request.store) "Responses field 'store' must be false"
  validateCodexControls request
  let (tools, metadata) ← translateTools request.tools
  let entries := enumerate metadata
  let toolChoice ← translateToolChoice entries request.toolChoice
  let (messages, inputChars) ← translateInput entries request.instructions request.input
  checkThat (inputChars ≤ maxInputChars)
    ("Responses input history exceeds " ++ maxInputChars.repr ++ " characters")
  let effort ← reasoningEffort request.reasoning
  checkThat (request.serviceTier.all (· ∈ ["auto", "default", "flex", "priority"]))
    ("unsupported Responses service_tier '" ++ request.serviceTier.getD "" ++ "'")
  .ok (.object
    ([("model", .string request.model), ("messages", .array messages),
        ("stream", .bool request.stream)] ++
      (if tools.isEmpty then []
        else [("tools", .array tools), ("tool_choice", toolChoice),
          ("parallel_tool_calls", .bool request.parallelToolCalls)]) ++
      (request.maxOutputTokens.toList.map fun tokens => ("max_tokens", Json.nat tokens)) ++
      (request.temperature.toList.map fun temperature =>
        ("temperature", doubleJson doubleText temperature)) ++
      (effort.toList.map fun effort => ("reasoning_effort", Json.string effort)) ++
      (request.serviceTier.toList.map fun tier => ("service_tier", Json.string tier))), metadata)

/-! ## What the messages are -/

/-- The text of a part. -/
inductive PartText : Json → String → Prop where
  | part {fields : List (String × Json)} {kind text : String}
      (hkind : (Ordered.lookup "type" fields).bind Json.asStr = some kind)
      (htext : isTextKind kind = true)
      (h : (Ordered.lookup "text" fields).bind Json.asStr = some text) :
      PartText (.object fields) text

/-- Texts on lines of their own. -/
def onLines (texts : List String) : String :=
  String.ofList (List.intercalate ['\n'] (texts.map String.toList))

/-- The text of a content: the content itself, or the texts of its parts on lines of their own. -/
inductive ContentText : Json → String → Prop where
  | text (text : String) : ContentText (.string text) text
  | parts {parts : List Json} {texts : List String} (hne : parts ≠ [])
      (h : List.Forall₂ PartText parts texts) :
      ContentText (.array parts) (onLines texts)

/-- An item is a call of a tool. -/
def CallsTool (item : Json) : Prop :=
  ∃ fields, item = .object fields ∧
    (itemKind fields = "function_call" ∨ itemKind fields = "custom_tool_call")

/-- The message of an item that is not a call, and the text that it has. -/
inductive IsMessage : Json → Json → String → Prop where
  | message {item : List (String × Json)} {role text : String} {content : Json}
      (hkind : itemKind item = "message")
      (hrole : (Ordered.lookup "role" item).bind Json.asStr = some role)
      (hcontent : Ordered.lookup "content" item = some content)
      (htext : ContentText content text) :
      IsMessage (.object item) (.object [("role", .string role), ("content", .string text)]) text
  | output {item : List (String × Json)} {callId text : String} {output : Json}
      (hkind : itemKind item = "function_call_output" ∨ itemKind item = "custom_tool_call_output")
      (hid : (Ordered.lookup "call_id" item).bind Json.asStr = some callId)
      (houtput : Ordered.lookup "output" item = some output) (htext : ContentText output text) :
      IsMessage (.object item)
        (.object [("role", .string "tool"), ("tool_call_id", .string callId),
          ("content", .string text)]) text

/-- The call of an item, and what the tool is called with. -/
inductive IsCall (entries : Enumeration) : Json → Json → String → Prop where
  | function {item : List (String × Json)} {name callId arguments : String}
      (hkind : itemKind item = "function_call")
      (hname : (Ordered.lookup "name" item).bind Json.asStr = some name)
      (hid : (Ordered.lookup "call_id" item).bind Json.asStr = some callId)
      (harguments : (Ordered.lookup "arguments" item).bind Json.asStr = some arguments) :
      IsCall entries (.object item)
        (toolCall callId (upstreamName entries item name false) arguments) arguments
  | custom {item : List (String × Json)} {name callId input : String}
      (hkind : itemKind item = "custom_tool_call")
      (hname : (Ordered.lookup "name" item).bind Json.asStr = some name)
      (hid : (Ordered.lookup "call_id" item).bind Json.asStr = some callId)
      (hinput : (Ordered.lookup "input" item).bind Json.asStr = some input) :
      IsCall entries (.object item)
        (toolCall callId (upstreamName entries item name true) (customArguments input)) input

/-- The calls of a run of items, in order. -/
inductive Calls (entries : Enumeration) : List Json → List Json → List String → Prop where
  | nil : Calls entries [] [] []
  | cons {item call : Json} {items calls : List Json} {text : String} {texts : List String}
      (hitem : IsCall entries item call text) (h : Calls entries items calls texts) :
      Calls entries (item :: items) (call :: calls) (text :: texts)

/-- The message of a run of calls. -/
def assistantCalls (calls : List Json) : Json :=
  .object [("role", .string "assistant"), ("content", .null), ("tool_calls", .array calls)]

/-- The messages of items, and the texts in them: an item that is not a call is one message, and a
run of calls that no further call follows is one message where the run stands. -/
inductive History (entries : Enumeration) : List Json → List Json → List String → Prop where
  | nil : History entries [] [] []
  | message {item message : Json} {items messages : List Json} {text : String}
      {texts : List String} (hitem : IsMessage item message text)
      (h : History entries items messages texts) :
      History entries (item :: items) (message :: messages) (text :: texts)
  | run {run items calls messages : List Json} {called texts : List String} (hne : run ≠ [])
      (hcalls : Calls entries run calls called) (hend : ∀ item ∈ items.head?, ¬ CallsTool item)
      (h : History entries items messages texts) :
      History entries (run ++ items) (assistantCalls calls :: messages) (called ++ texts)

/-- The characters of texts. -/
def charCount (texts : List String) : ℕ := (texts.map String.length).sum

/-! ## What the loop adds -/

theorem appendPart_eq_ok {text text' : String} {part : Json}
    (h : appendPart text part = .ok text') :
    ∃ more, PartText part more ∧ more ≠ "" ∧
      text' = (if text = "" then text else text ++ "\n") ++ more := by
  obtain ⟨fields, hfields, h₁⟩ := bind_eq_ok.mp h
  obtain ⟨_, -, h₂⟩ := bind_eq_ok.mp h₁
  obtain ⟨kind, hkind, h₃⟩ := bind_eq_ok.mp h₂
  split at h₃
  · rename_i htext
    obtain ⟨more, hmore, h₄⟩ := bind_eq_ok.mp h₃
    obtain ⟨hfound, hne⟩ := requiredString_eq_ok.mp hmore
    rw [asObject_eq_some.mp (orError_eq_ok.mp hfields)]
    exact ⟨more, .part (requiredString_eq_ok.mp hkind).1 htext hfound, hne,
      (Except.ok.inj h₄).symm⟩
  · cases h₃

theorem onLines_singleton (text : String) : onLines [text] = text := by
  rw [onLines, List.map_singleton, List.intercalate_singleton, String.ofList_toList]

theorem onLines_cons_cons (first second : String) (texts : List String) :
    onLines ((first ++ "\n" ++ second) :: texts) = onLines (first :: second :: texts) := by
  have hnewline : "\n".toList = ['\n'] := by decide
  cases texts with
  | nil =>
    rw [onLines_singleton, onLines, List.map_cons, List.map_singleton,
      List.intercalate_cons_cons, List.intercalate_singleton, ← hnewline, ← String.toList_append,
      ← String.toList_append, String.ofList_toList]
  | cons third texts =>
    simp only [onLines, List.map_cons, List.intercalate_cons_cons, String.toList_append, hnewline,
      List.append_assoc]

/-- Parts after a text are put on lines of their own. -/
theorem foldlM_appendPart {parts : List Json} : ∀ {text text' : String}, text ≠ "" →
    parts.foldlM appendPart text = .ok text' →
    ∃ texts, List.Forall₂ PartText parts texts ∧ text' = onLines (text :: texts) := by
  induction parts with
  | nil =>
    intro text text' _ h
    cases h
    exact ⟨[], .nil, (onLines_singleton text).symm⟩
  | cons part parts ih =>
    intro text text' hne h
    rw [List.foldlM_cons] at h
    obtain ⟨first, hfirst, hrest⟩ := bind_eq_ok.mp h
    obtain ⟨more, hpart, hmore, rfl⟩ := appendPart_eq_ok hfirst
    rw [if_neg hne] at hrest
    have hne' : text ++ "\n" ++ more ≠ "" := fun hempty =>
      hmore (String.append_eq_empty_iff.mp hempty).2
    obtain ⟨texts, htexts, rfl⟩ := ih hne' hrest
    exact ⟨more :: texts, .cons hpart htexts, onLines_cons_cons text more texts⟩

theorem contentText_eq_ok {content : Json} {text : String} (h : contentText content = .ok text) :
    ContentText content text := by
  unfold contentText at h
  split at h
  · cases h
    exact .text _
  · cases h
  · rename_i part parts
    rw [List.foldlM_cons] at h
    obtain ⟨first, hfirst, hrest⟩ := bind_eq_ok.mp h
    obtain ⟨more, hpart, hmore, rfl⟩ := appendPart_eq_ok hfirst
    rw [if_pos rfl, String.empty_append] at hrest
    obtain ⟨texts, htexts, rfl⟩ := foldlM_appendPart hmore hrest
    exact .parts (List.cons_ne_nil _ _) (.cons hpart htexts)
  · cases h

/-- What an item does to the loop: a message is written after the calls that wait, and a call
waits. -/
inductive ItemStep (entries : Enumeration) (item : Json) (s : Input) : Input → Prop where
  | message {message : Json} {text : String} (hitem : IsMessage item message text)
      (hcall : ¬ CallsTool item) : ItemStep entries item s ((flushToolCalls s).push message text)
  | call {call : Json} {text : String} (hitem : IsCall entries item call text)
      (hcall : CallsTool item) : ItemStep entries item s (s.call call text)

theorem not_callsTool {fields : List (String × Json)}
    (hfunction : itemKind fields ≠ "function_call")
    (hcustom : itemKind fields ≠ "custom_tool_call") : ¬ CallsTool (.object fields) := by
  rintro ⟨fields', heq, hkind⟩
  cases heq
  exact hkind.elim hfunction hcustom

theorem translateInputItem_eq_ok {entries : Enumeration} {s s' : Input} {item : Json}
    (h : translateInputItem entries s item = .ok s') : ItemStep entries item s s' := by
  obtain ⟨fields, hfields, h₁⟩ := bind_eq_ok.mp h
  rw [asObject_eq_some.mp (orError_eq_ok.mp hfields)]
  dsimp only at h₁
  split at h₁
  · rename_i hkind
    obtain ⟨_, -, h₂⟩ := bind_eq_ok.mp h₁
    obtain ⟨role, hrole, h₃⟩ := bind_eq_ok.mp h₂
    split at h₃
    · obtain ⟨content, hcontent, h₄⟩ := bind_eq_ok.mp h₃
      obtain ⟨text, htext, h₅⟩ := bind_eq_ok.mp h₄
      cases h₅
      exact .message (.message hkind (requiredString_eq_ok.mp hrole).1 (orError_eq_ok.mp hcontent)
        (contentText_eq_ok htext)) (not_callsTool (by rw [hkind]; decide) (by rw [hkind]; decide))
    · cases h₃
  · split at h₁
    · rename_i hkind
      obtain ⟨_, -, h₂⟩ := bind_eq_ok.mp h₁
      obtain ⟨name, hname, h₃⟩ := bind_eq_ok.mp h₂
      obtain ⟨text, htext, h₄⟩ := bind_eq_ok.mp h₃
      obtain ⟨callId, hid, h₅⟩ := bind_eq_ok.mp h₄
      cases h₅
      exact .call (.function hkind (requiredString_eq_ok.mp hname).1 (requiredString_eq_ok.mp hid).1
        (requiredString_eq_ok.mp htext).1) ⟨fields, rfl, .inl hkind⟩
    · split at h₁
      · rename_i hkind
        obtain ⟨_, -, h₂⟩ := bind_eq_ok.mp h₁
        obtain ⟨name, hname, h₃⟩ := bind_eq_ok.mp h₂
        obtain ⟨text, htext, h₄⟩ := bind_eq_ok.mp h₃
        obtain ⟨callId, hid, h₅⟩ := bind_eq_ok.mp h₄
        cases h₅
        exact .call (.custom hkind (requiredString_eq_ok.mp hname).1
          (requiredString_eq_ok.mp hid).1 (requiredString_eq_ok.mp htext).1)
          ⟨fields, rfl, .inr hkind⟩
      · rename_i hfunction hcustom
        split at h₁
        · rename_i hkind
          obtain ⟨_, -, h₂⟩ := bind_eq_ok.mp h₁
          obtain ⟨callId, hid, h₃⟩ := bind_eq_ok.mp h₂
          obtain ⟨output, houtput, h₄⟩ := bind_eq_ok.mp h₃
          obtain ⟨text, htext, h₅⟩ := bind_eq_ok.mp h₄
          cases h₅
          exact .message (.output hkind (requiredString_eq_ok.mp hid).1 (orError_eq_ok.mp houtput)
            (contentText_eq_ok htext)) (not_callsTool hfunction hcustom)
        · cases h₁

/-- A run of calls at the start, if there is one, and the items after it. -/
theorem History.of_calls {entries : Enumeration} {run items calls messages : List Json}
    {called texts : List String} (hcalls : Calls entries run calls called)
    (hend : ∀ item ∈ items.head?, ¬ CallsTool item) (h : History entries items messages texts) :
    History entries (run ++ items) (flushed calls ++ messages) (called ++ texts) := by
  cases hcalls with
  | nil => exact h
  | @cons item call items' calls text texts' hitem hrest =>
    exact .run (List.cons_ne_nil _ _) (.cons hitem hrest) hend h

/-- The characters are counted up to the largest number. -/
def counted (start : ℕ) (texts : List String) : ℕ :=
  texts.foldl (fun count text => U64.saturatingAdd count text.length) start

/-- What the loop adds to the messages: the calls that wait with the run of calls at the start of
the items, and the messages of the items after it. -/
theorem foldlM_translateInputItem {entries : Enumeration} {items : List Json} :
    ∀ {s s' : Input}, items.foldlM (translateInputItem entries) s = .ok s' →
      ∃ run rest calls messages called texts, items = run ++ rest ∧
        Calls entries run calls called ∧ (∀ item ∈ rest.head?, ¬ CallsTool item) ∧
        History entries rest messages texts ∧
        (flushToolCalls s').messages =
          s.messages ++ flushed (s.pendingToolCalls ++ calls) ++ messages ∧
        s'.inputChars = counted s.inputChars (called ++ texts) := by
  induction items with
  | nil =>
    intro s s' h
    cases h
    refine ⟨[], [], [], [], [], [], rfl, .nil, fun _ h => (Option.not_mem_none _ h).elim, .nil, ?_,
      rfl⟩
    rw [List.append_nil, List.append_nil]
    rfl
  | cons item items ih =>
    intro s s' h
    rw [List.foldlM_cons] at h
    obtain ⟨s₁, hstep, hrest⟩ := bind_eq_ok.mp h
    obtain ⟨run, rest, calls, messages, called, texts, hitems, hcalls, hend, hhistory, hmessages,
      hchars⟩ := ih hrest
    cases translateInputItem_eq_ok hstep with
    | @message message text hitem hcall =>
      refine ⟨[], item :: items, [], message :: (flushed calls ++ messages), [],
        text :: (called ++ texts), rfl, .nil, ?_, ?_, ?_, hchars⟩
      · intro item' hmem
        rwa [← Option.some.inj hmem]
      · rw [hitems]
        exact .message hitem (.of_calls hcalls hend hhistory)
      · rw [hmessages]
        simp [flushToolCalls, Input.push]
    | @call call text hitem hcall =>
      refine ⟨item :: run, rest, call :: calls, messages, text :: called, texts, ?_,
        .cons hitem hcalls, hend, hhistory, ?_, hchars⟩
      · rw [hitems, List.cons_append]
      · rw [hmessages]
        simp [Input.call]

theorem min_le_counted (texts : List String) (start : ℕ) :
    min start U64.max ≤ counted start texts := by
  induction texts generalizing start with
  | nil => exact min_le_left _ _
  | cons text texts ih =>
    refine le_trans (le_min ?_ ?_) (ih (U64.saturatingAdd start text.length))
    · exact min_le_min_right _ (Nat.le_add_right _ _)
    · exact min_le_right _ _

/-- A count that has not reached the largest number is the sum. -/
theorem counted_eq {texts : List String} : ∀ {start : ℕ}, counted start texts < U64.max →
    counted start texts = start + charCount texts := by
  induction texts with
  | nil => exact fun _ => rfl
  | cons text texts ih =>
    intro start h
    have hle := min_le_counted texts (U64.saturatingAdd start text.length)
    have hstep : U64.saturatingAdd start text.length = start + text.length := by
      refine U64.saturatingAdd_eq ?_
      by_contra hover
      have hmax : U64.saturatingAdd start text.length = U64.max :=
        min_eq_right (Nat.le_of_not_le hover)
      have hcounted : counted (U64.saturatingAdd start text.length) texts < U64.max := h
      rw [hmax] at hcounted
      rw [hmax, min_self] at hle
      exact absurd hcounted (Nat.not_lt.mpr hle)
    have hrest : counted (start + text.length) texts =
        start + text.length + charCount texts := by
      have htail := @ih (U64.saturatingAdd start text.length) h
      rwa [hstep] at htail
    show counted (U64.saturatingAdd start text.length) texts = _
    rw [hstep, hrest, charCount, charCount, List.map_cons, List.sum_cons, Nat.add_assoc]

/-- The system message of the instructions. -/
def systemMessages (instructions : Option String) : List Json :=
  instructions.toList.map fun text =>
    .object [("role", .string "system"), ("content", .string text)]

/-- The messages of items after the instructions, with the characters, as they are counted. -/
theorem translateInput_items {entries : Enumeration} {instructions : Option String}
    {items : List Json} {result : List Json × ℕ}
    (h : translateInput entries instructions (.items items) = .ok result) :
    ∃ messages texts, result.1 = systemMessages instructions ++ messages ∧
      History entries items messages texts ∧
      result.2 = counted 0 (instructions.toList ++ texts) := by
  obtain ⟨_, -, h₁⟩ := bind_eq_ok.mp h
  obtain ⟨_, -, h₂⟩ := bind_eq_ok.mp h₁
  obtain ⟨s, hs, h₃⟩ := bind_eq_ok.mp h₂
  cases h₃
  obtain ⟨run, rest, calls, messages, called, texts, rfl, hcalls, hend, hhistory, hmessages,
    hchars⟩ := foldlM_translateInputItem hs
  refine ⟨flushed calls ++ messages, called ++ texts, ?_, .of_calls hcalls hend hhistory, ?_⟩
  · rw [hmessages]
    cases instructions with
    | none => rfl
    | some text => rfl
  · rw [hchars]
    cases instructions with
    | none => rfl
    | some text => rfl

/-- The messages of an accepted request are the system message of the instructions and those of the
items, and the characters that are checked are those of all texts. -/
theorem input_history {request : ResponsesRequest}
    {enumerate : ResponsesToolMetadata → Enumeration} {doubleText : ℚ → String}
    {body : Json} {metadata : ResponsesToolMetadata} {items : List Json}
    (h : request.validateAndTranslate enumerate doubleText = .ok (body, metadata))
    (hitems : request.input = .items items) :
    ∃ messages texts,
      body.get "messages" = some (.array (systemMessages request.instructions ++ messages)) ∧
      History (enumerate metadata) items messages texts ∧
      translateInput (enumerate metadata) request.instructions request.input =
        .ok (systemMessages request.instructions ++ messages,
          charCount (request.instructions.toList ++ texts)) := by
  obtain ⟨_, -, h₁⟩ := bind_eq_ok.mp h
  obtain ⟨_, -, h₂⟩ := bind_eq_ok.mp h₁
  obtain ⟨_, -, h₃⟩ := bind_eq_ok.mp h₂
  obtain ⟨_, -, h₄⟩ := bind_eq_ok.mp h₃
  obtain ⟨_, -, h₅⟩ := bind_eq_ok.mp h₄
  obtain ⟨_, -, h₆⟩ := bind_eq_ok.mp h₅
  obtain ⟨⟨tools, metadata'⟩, -, h₇⟩ := bind_eq_ok.mp h₆
  obtain ⟨toolChoice, -, h₈⟩ := bind_eq_ok.mp h₇
  obtain ⟨⟨messages', inputChars⟩, hinput, h₉⟩ := bind_eq_ok.mp h₈
  obtain ⟨_, hbound, h₁₀⟩ := bind_eq_ok.mp h₉
  obtain ⟨effort, -, h₁₁⟩ := bind_eq_ok.mp h₁₀
  obtain ⟨_, -, h₁₂⟩ := bind_eq_ok.mp h₁₁
  obtain ⟨rfl, rfl⟩ := Prod.mk.inj (Except.ok.inj h₁₂)
  rw [hitems] at hinput ⊢
  obtain ⟨messages, texts, hmessages, hhistory, hchars⟩ := translateInput_items hinput
  dsimp only at hmessages hchars
  subst hmessages
  refine ⟨messages, texts, rfl, hhistory, ?_⟩
  have hle : inputChars ≤ maxInputChars := of_decide_eq_true (ite_eq_ok.mp hbound).2
  have hlt : counted 0 (request.instructions.toList ++ texts) < U64.max := by
    rw [← hchars]
    exact lt_of_le_of_lt hle (by decide)
  rw [hinput, hchars, counted_eq hlt, Nat.zero_add]

/-- A request whose input is two calls and a message. -/
def callsRequest : ResponsesRequest where
  model := "m"
  input := .items
    [.object [("type", .string "function_call"), ("name", .string "f"), ("arguments", .string "x"),
        ("call_id", .string "1")],
      .object [("type", .string "custom_tool_call"), ("name", .string "g"), ("input", .string "y"),
        ("call_id", .string "2")],
      .object [("role", .string "user"), ("content", .string "z")]]
  instructions := none
  stream := false
  maxOutputTokens := none
  temperature := none
  tools := []
  toolChoice := .string "auto"
  parallelToolCalls := false
  reasoning := none
  store := false
  streamOptions := none
  includes := []
  serviceTier := none
  promptCacheKey := none
  text := none
  clientMetadata := none

/-- The two calls are one message before the message of the user. -/
theorem input_history_two_calls : ∃ items messages texts, callsRequest.input = .items items ∧
    History [] items messages texts ∧
      translateInput [] none callsRequest.input = .ok (messages, charCount texts) := by
  have haccepted : callsRequest.validateAndTranslate (fun _ => []) (fun _ => "") = .ok (_, _) := rfl
  obtain ⟨messages, texts, -, hhistory, htranslate⟩ := input_history haccepted rfl
  exact ⟨_, messages, texts, rfl, hhistory, htranslate⟩

end WayfinderRouter.Responses
