import WayfinderRouter.Fallible
import WayfinderRouter.Grouping
import WayfinderRouter.Providers.NativeStream

/-!
# Native message requests

The translation of a chat completion request into a message request. Messages of five roles become
turns of two: adjacent messages of one side are joined, empty ones vanish, and system texts are
kept apart.

## Main definitions

- `ContentBlock`, `Turn` — the content of a message request
- `translateOpenaiMessage` — the translation of one message
- `openaiToAnthropicRequest` — the translation of a request
- `Image` — what a message contributes

## Main results

- `translateOpenaiMessages_eq_ok` — what a translated conversation consists of
- `native_request_shaped` — the shape of every translated request
-/

namespace WayfinderRouter.Providers.AnthropicNative

open Grouping

/-! ## Turns -/

inductive Role where
  | user
  | assistant
deriving DecidableEq

def Role.name : Role → String
  | user => "user"
  | assistant => "assistant"

inductive ContentBlock where
  | text (text : String)
  | toolUse (id name : String) (input : Json)
  | toolResult (toolUseId content : String)

def ContentBlock.json : ContentBlock → Json
  | .text value => .object [("type", .string "text"), ("text", .string value)]
  | .toolUse id name input =>
    .object [("type", .string "tool_use"), ("id", .string id), ("name", .string name),
      ("input", input)]
  | .toolResult toolUseId content =>
    .object [("type", .string "tool_result"), ("tool_use_id", .string toolUseId),
      ("content", .string content)]

/-- A message of the translated request. -/
abbrev Turn := Role × List ContentBlock

def turnJson (turn : Turn) : Json :=
  .object [("role", .string turn.1.name), ("content", .array (turn.2.map ContentBlock.json))]

/-- The system texts and the messages translated so far. -/
structure Conversation where
  system : List String
  messages : List Turn

/-! ## Reading -/

variable {error : AnthropicNativeError}

/-- `ok_or`. -/
def okOr {α : Type} (error : AnthropicNativeError) : Option α → Except AnthropicNativeError α
  | some a => .ok a
  | none => .error error

/-- A check that fails with the error. -/
def ensure (error : AnthropicNativeError) (p : Prop) [Decidable p] :
    Except AnthropicNativeError Unit :=
  if p then .ok () else .error error

theorem okOr_eq_ok {α : Type} {x : Option α} {a : α} : okOr error x = .ok a ↔ x = some a := by
  cases x with
  | none =>
    constructor
    · intro h
      cases h
    · intro h
      cases h
  | some b => rw [okOr, Except.ok.injEq, Option.some.injEq]

theorem ensure_eq_ok {p : Prop} [Decidable p] {u : Unit} : ensure error p = .ok u ↔ p := by
  rw [ensure, ite_eq_ok, and_iff_right (Subsingleton.elim u ())]

/-- A text of an object, if it is there and not empty. -/
def nonEmptyStr (key : String) (value : Json) : Option String :=
  (value.getStr key).filter (· ≠ "")

theorem nonEmptyStr_eq_some {key : String} {value : Json} {text : String} :
    nonEmptyStr key value = some text ↔ value.get key = some (.string text) ∧ text ≠ "" := by
  rw [nonEmptyStr, Option.filter_eq_some_iff, Json.getStr_eq_some, decide_eq_true_iff]

/-- The text of one part of a content. -/
def textPart (part : Json) : Except AnthropicNativeError String := do
  ensure .invalidRequest (part.asObject.isSome)
  ensure .invalidRequest (part.getStr "type" = some "text")
  okOr .invalidRequest (part.getStr "text")

/-- `text_content`. -/
def textContent : Option Json → Except AnthropicNativeError String
  | none => .ok ""
  | some .null => .ok ""
  | some (.string text) => .ok text
  | some (.array parts) => do
    let texts ← parts.mapM textPart
    return "\n".intercalate texts
  | _ => .error .invalidRequest

/-! ## Messages -/

/-- `push_message`. -/
def pushMessage (messages : List Turn) (role : Role) (blocks : List ContentBlock) : List Turn :=
  push messages role blocks

/-- One call of `translate_assistant_message`. -/
def translateCall (parse : Json.Parser) (call : Json) :
    Except AnthropicNativeError ContentBlock := do
  ensure .invalidRequest (call.asObject.isSome)
  ensure .invalidRequest (call.getStr "type" = some "function")
  let id ← okOr .invalidRequest (nonEmptyStr "id" call)
  let function ← okOr .invalidRequest ((call.get "function").filter (·.asObject.isSome))
  let name ← okOr .invalidRequest (nonEmptyStr "name" function)
  let arguments ← okOr .invalidRequest (function.getStr "arguments")
  let input ← okOr .invalidRequest (parse (utf8 arguments.toList))
  ensure .invalidRequest (input.asObject.isSome)
  return .toolUse id name input

/-- The calls of `translate_assistant_message`. -/
def translateCalls (parse : Json.Parser) :
    Option Json → Except AnthropicNativeError (List ContentBlock)
  | none => .ok []
  | some calls => do
    let calls ← okOr .invalidRequest calls.asArray
    ensure .invalidRequest (calls.length ≤ maxToolCalls)
    calls.mapM (translateCall parse)

/-- `translate_assistant_message`. -/
def translateAssistantMessage (parse : Json.Parser) (message : Json) :
    Except AnthropicNativeError (List ContentBlock) := do
  let text ← textContent (message.get "content")
  let calls ← translateCalls parse (message.get "tool_calls")
  return (if text = "" then [] else [.text text]) ++ calls

/-- One message of `openai_to_anthropic_request`. -/
def translateOpenaiMessage (parse : Json.Parser) (s : Conversation) (message : Json) :
    Except AnthropicNativeError Conversation := do
  ensure .invalidRequest (message.asObject.isSome)
  match message.getStr "role" with
  | some "system" | some "developer" => do
    let text ← textContent (message.get "content")
    return if text = "" then s else { s with system := s.system ++ [text] }
  | some "user" => do
    let text ← textContent (message.get "content")
    return if text = "" then s
      else { s with messages := pushMessage s.messages .user [.text text] }
  | some "assistant" => do
    let blocks ← translateAssistantMessage parse message
    return { s with messages := pushMessage s.messages .assistant blocks }
  | some "tool" => do
    let toolUseId ← okOr .invalidRequest (nonEmptyStr "tool_call_id" message)
    let content ← textContent (message.get "content")
    return { s with messages := pushMessage s.messages .user [.toolResult toolUseId content] }
  | _ => .error .invalidRequest

/-- The messages of `openai_to_anthropic_request`. -/
def translateOpenaiMessages (parse : Json.Parser) :
    Conversation → List Json → Except AnthropicNativeError Conversation :=
  List.foldlM (translateOpenaiMessage parse)

/-! ## Requests -/

/-- `translate_openai_tool`. -/
def translateOpenaiTool (tool : Json) : Except AnthropicNativeError Json := do
  ensure .invalidRequest (tool.asObject.isSome)
  ensure .invalidRequest (tool.getStr "type" = some "function")
  let function ← okOr .invalidRequest ((tool.get "function").filter (·.asObject.isSome))
  let name ← okOr .invalidRequest (nonEmptyStr "name" function)
  let inputSchema := (function.get "parameters").getD
    (.object [("type", .string "object"), ("properties", .object [])])
  ensure .invalidRequest (inputSchema.asObject.isSome)
  return .ofFields [("name", some (.string name)), ("input_schema", some inputSchema),
    ("description", (function.getStr "description").map .string)]

/-- `translate_tool_choice`. -/
def translateToolChoice : Json → Except AnthropicNativeError (List (String × Json))
  | .string "auto" => .ok [("type", .string "auto")]
  | .string "required" => .ok [("type", .string "any")]
  | .string "none" => .ok [("type", .string "none")]
  | .object choice => do
    let choice := Json.object choice
    ensure .invalidRequest (choice.getStr "type" = some "function")
    let function ← okOr .invalidRequest ((choice.get "function").filter (·.asObject.isSome))
    let name ← okOr .invalidRequest (nonEmptyStr "name" function)
    return [("type", .string "tool"), ("name", .string name)]
  | _ => .error .invalidRequest

def defaultMaxTokens : ℕ := 4096

/-- The fields that Messages has nothing for. -/
def unsupportedFields : List String :=
  ["audio", "frequency_penalty", "logprobs", "modalities", "prediction", "presence_penalty",
    "response_format", "seed", "service_tier", "top_logprobs"]

def translateMaxTokens (body : Json) : Except AnthropicNativeError ℕ :=
  match (body.get "max_completion_tokens").or (body.get "max_tokens") with
  | none => .ok defaultMaxTokens
  | some value => okOr .invalidRequest (value.asU64.filter (0 < ·))

def translateStop : Option Json → Except AnthropicNativeError (Option Json)
  | none => .ok none
  | some (.string value) => do
    ensure .invalidRequest (value ≠ "")
    return some (.array [.string value])
  | some (.array values) => do
    ensure .invalidRequest (values ≠ [] ∧ ∀ value ∈ values, value.asStr.any (· ≠ ""))
    return some (.array values)
  | _ => .error .invalidRequest

def translateTools : Option Json → Except AnthropicNativeError (Option Json)
  | none => .ok none
  | some tools => do
    let tools ← okOr .invalidRequest tools.asArray
    ensure .invalidRequest (tools.length ≤ maxToolCalls)
    let tools ← tools.mapM translateOpenaiTool
    return some (.array tools)

/-- The choice of a tool, with `parallel_tool_calls`. -/
def translateChoice (body : Json) : Except AnthropicNativeError (Option Json) :=
  let disabled := (body.get "parallel_tool_calls").bind Json.asBool = some false
  match body.get "tool_choice" with
  | some choice => do
    let choice ← translateToolChoice choice
    return some (.object (choice ++
      if disabled then [("disable_parallel_tool_use", .bool true)] else []))
  | none =>
    .ok (if disabled then
      some (.object [("type", .string "auto"), ("disable_parallel_tool_use", .bool true)])
    else none)

/-- The fields of a request that is not refused. -/
structure NativeRequest where
  maxTokens : ℕ
  conversation : Conversation
  stop : Option Json
  tools : Option Json
  toolChoice : Option Json

def NativeRequest.output (request : NativeRequest) (body : Json) (providerModel : String)
    (streaming : Bool) : List (String × Option Json) :=
  [("model", some (.string providerModel)), ("max_tokens", some (.nat request.maxTokens)),
    ("messages", some (.array (request.conversation.messages.map turnJson))),
    ("stream", some (.bool streaming)),
    ("system", if request.conversation.system.isEmpty then none
      else some (.array (request.conversation.system.map fun text =>
        (ContentBlock.text text).json))),
    ("temperature", body.get "temperature"), ("top_p", body.get "top_p"),
    ("top_k", body.get "top_k"), ("stop_sequences", request.stop), ("tools", request.tools),
    ("tool_choice", request.toolChoice)]

/-- `openai_to_anthropic_request`, as fields. -/
def nativeRequest (parse : Json.Parser) (body : Json) :
    Except AnthropicNativeError NativeRequest := do
  ensure .invalidRequest (body.asObject.isSome)
  ensure .invalidRequest (¬ (unsupportedFields.any fun field => (body.get field).isSome) ∧
    ¬ (((body.get "n").bind Json.asU64).any fun count => count ≠ 1))
  let maxTokens ← translateMaxTokens body
  let rawMessages ← okOr .invalidRequest ((body.get "messages").bind Json.asArray)
  let conversation ← translateOpenaiMessages parse ⟨[], []⟩ rawMessages
  ensure .invalidRequest (conversation.messages ≠ [])
  let stop ← translateStop (body.get "stop")
  let tools ← translateTools (body.get "tools")
  let toolChoice ← translateChoice body
  return { maxTokens, conversation, stop, tools, toolChoice }

/-- `openai_to_anthropic_request`. -/
def openaiToAnthropicRequest (parse : Json.Parser) (body : Json) (providerModel : String)
    (streaming : Bool) : Except AnthropicNativeError Json := do
  let request ← nativeRequest parse body
  return .ofFields (request.output body providerModel streaming)

/-! ## What a message contributes -/

/-- The text parts of a content. -/
structure IsTextPart (part : Json) (text : String) : Prop where
  type : part.get "type" = some (.string "text")
  text : part.get "text" = some (.string text)

/-- The text of a content. -/
inductive TextOf : Option Json → String → Prop where
  | absent : TextOf none ""
  | null : TextOf (some .null) ""
  | string (text : String) : TextOf (some (.string text)) text
  | parts {parts : List Json} {texts : List String} (h : List.Forall₂ IsTextPart parts texts) :
    TextOf (some (.array parts)) ("\n".intercalate texts)

/-- A call of a tool, with its arguments read. -/
inductive CallOf (parse : Json.Parser) (call : Json) : ContentBlock → Prop where
  | intro {id name arguments : String} {function input : Json}
      (htype : call.get "type" = some (.string "function"))
      (hid : call.get "id" = some (.string id)) (hidne : id ≠ "")
      (hfunction : call.get "function" = some function)
      (hname : function.get "name" = some (.string name)) (hnamene : name ≠ "")
      (harguments : function.get "arguments" = some (.string arguments))
      (hinput : parse (utf8 arguments.toList) = some input) (hobject : input.asObject.isSome) :
    CallOf parse call (.toolUse id name input)

inductive CallsOf (parse : Json.Parser) : Option Json → List ContentBlock → Prop where
  | absent : CallsOf parse none []
  | calls {calls : List Json} {blocks : List ContentBlock} (hlen : calls.length ≤ maxToolCalls)
      (h : List.Forall₂ (CallOf parse) calls blocks) :
    CallsOf parse (some (.array calls)) blocks

/-- The text itself, unless it is empty. -/
def nonEmptyTexts (text : String) : List String := if text = "" then [] else [text]

/-- What a message contributes: system texts, and blocks of a role. -/
inductive Image (parse : Json.Parser) (message : Json) :
    List String → Role × List ContentBlock → Prop where
  | system {text : String}
      (hrole : message.get "role" = some (.string "system") ∨
        message.get "role" = some (.string "developer"))
      (htext : TextOf (message.get "content") text) :
    Image parse message (nonEmptyTexts text) (.user, [])
  | user {text : String} (hrole : message.get "role" = some (.string "user"))
      (htext : TextOf (message.get "content") text) :
    Image parse message [] (.user, (nonEmptyTexts text).map .text)
  | assistant {text : String} {calls : List ContentBlock}
      (hrole : message.get "role" = some (.string "assistant"))
      (htext : TextOf (message.get "content") text)
      (hcalls : CallsOf parse (message.get "tool_calls") calls) :
    Image parse message [] (.assistant, (nonEmptyTexts text).map .text ++ calls)
  | tool {text id : String} (hrole : message.get "role" = some (.string "tool"))
      (hid : message.get "tool_call_id" = some (.string id)) (hidne : id ≠ "")
      (htext : TextOf (message.get "content") text) :
    Image parse message [] (.user, [.toolResult id text])

/-! ## Translated messages -/

theorem isSome_asObject_of_get {key : String} {value v : Json} (h : value.get key = some v) :
    value.asObject.isSome := by
  rw [Json.get, Option.bind_eq_some_iff] at h
  obtain ⟨entries, hentries, -⟩ := h
  rw [hentries]
  rfl

theorem textPart_eq_ok {part : Json} {text : String} :
    textPart part = .ok text ↔ IsTextPart part text := by
  simp only [textPart, bind_eq_ok, ensure_eq_ok, okOr_eq_ok, Json.getStr_eq_some]
  constructor
  · rintro ⟨-, -, -, htype, htext⟩
    exact ⟨htype, htext⟩
  · rintro ⟨htype, htext⟩
    exact ⟨(), isSome_asObject_of_get htype, (), htype, htext⟩

theorem textContent_eq_ok {content : Option Json} {text : String} :
    textContent content = .ok text ↔ TextOf content text := by
  constructor
  · intro h
    unfold textContent at h
    split at h
    · cases h
      exact .absent
    · cases h
      exact .null
    · cases h
      exact .string _
    · obtain ⟨texts, htexts, hjoin⟩ := bind_eq_ok.mp h
      cases hjoin
      exact .parts ((mapM_eq_ok.mp htexts).imp fun _ _ => textPart_eq_ok.mp)
    · cases h
  · intro h
    cases h with
    | absent => rfl
    | null => rfl
    | string => rfl
    | parts h =>
      rw [textContent, bind_eq_ok]
      exact ⟨_, mapM_eq_ok.mpr (h.imp fun _ _ => textPart_eq_ok.mpr), rfl⟩

theorem translateCall_eq_ok {parse : Json.Parser} {call : Json} {block : ContentBlock} :
    translateCall parse call = .ok block ↔ CallOf parse call block := by
  simp only [translateCall, bind_eq_ok, ensure_eq_ok, okOr_eq_ok, Json.getStr_eq_some,
    nonEmptyStr_eq_some, Option.filter_eq_some_iff]
  constructor
  · rintro ⟨-, -, -, htype, id, ⟨hid, hidne⟩, function, ⟨hfunction, -⟩, name, ⟨hname, hnamene⟩,
      arguments, harguments, input, hinput, -, hobject, hblock⟩
    cases hblock
    exact .intro htype hid hidne hfunction hname hnamene harguments hinput hobject
  · rintro ⟨htype, hid, hidne, hfunction, hname, hnamene, harguments, hinput, hobject⟩
    exact ⟨(), isSome_asObject_of_get htype, (), htype, _, ⟨hid, hidne⟩, _,
      ⟨hfunction, isSome_asObject_of_get hname⟩, _, ⟨hname, hnamene⟩, _, harguments, _, hinput,
      (), hobject, rfl⟩

theorem translateCalls_eq_ok {parse : Json.Parser} {calls : Option Json}
    {blocks : List ContentBlock} :
    translateCalls parse calls = .ok blocks ↔ CallsOf parse calls blocks := by
  constructor
  · intro h
    cases calls with
    | none =>
      cases h
      exact .absent
    | some calls =>
      simp only [translateCalls, bind_eq_ok, ensure_eq_ok, okOr_eq_ok] at h
      obtain ⟨values, hvalues, -, hlen, hblocks⟩ := h
      cases calls with
      | array calls =>
        cases hvalues
        exact .calls hlen ((mapM_eq_ok.mp hblocks).imp fun _ _ => translateCall_eq_ok.mp)
      | _ => cases hvalues
  · intro h
    cases h with
    | absent => rfl
    | calls hlen h =>
      simp only [translateCalls, bind_eq_ok, ensure_eq_ok, okOr_eq_ok]
      exact ⟨_, rfl, (), hlen, mapM_eq_ok.mpr (h.imp fun _ _ => translateCall_eq_ok.mpr)⟩

/-- The conversation after the contribution of a message. -/
def Conversation.extend (s : Conversation) (image : List String × Turn) : Conversation :=
  ⟨s.system ++ image.1, pushMessage s.messages image.2.1 image.2.2⟩

theorem extend_system (s : Conversation) (text : String) :
    s.extend (nonEmptyTexts text, (.user, [])) =
      if text = "" then s else { s with system := s.system ++ [text] } := by
  rw [Conversation.extend, nonEmptyTexts]
  split_ifs
  · rw [List.append_nil]
    rfl
  · rfl

theorem extend_messages (s : Conversation) (turn : Turn) :
    s.extend ([], turn) = { s with messages := pushMessage s.messages turn.1 turn.2 } := by
  rw [Conversation.extend, List.append_nil]

theorem extend_user (s : Conversation) (text : String) :
    s.extend ([], (.user, (nonEmptyTexts text).map .text)) =
      if text = "" then s
      else { s with messages := pushMessage s.messages .user [.text text] } := by
  rw [extend_messages, nonEmptyTexts]
  split_ifs
  · rfl
  · rfl

theorem map_nonEmptyTexts (text : String) :
    (nonEmptyTexts text).map ContentBlock.text = if text = "" then [] else [.text text] := by
  rw [nonEmptyTexts]
  split_ifs
  · rfl
  · rfl

/-- One message contributes its image. -/
theorem translateOpenaiMessage_eq_ok {parse : Json.Parser} {s s' : Conversation}
    {message : Json} :
    translateOpenaiMessage parse s message = .ok s' ↔
      ∃ image : List String × Turn, Image parse message image.1 image.2 ∧ s.extend image = s' := by
  constructor
  · intro h
    rw [translateOpenaiMessage, bind_eq_ok] at h
    obtain ⟨-, -, h⟩ := h
    split at h
    -- the two roles of a system text
    iterate 2
      rename_i hrole
      obtain ⟨text, htext, h⟩ := bind_eq_ok.mp h
      cases h
      refine ⟨(_, _), .system ?_ (textContent_eq_ok.mp htext), extend_system s text⟩
      simp only [← Json.getStr_eq_some, hrole]
      decide
    · rename_i hrole
      obtain ⟨text, htext, h⟩ := bind_eq_ok.mp h
      cases h
      exact ⟨(_, _), .user (Json.getStr_eq_some.mp hrole) (textContent_eq_ok.mp htext),
        extend_user s text⟩
    · rename_i hrole
      simp only [translateAssistantMessage, bind_eq_ok] at h
      obtain ⟨blocks, ⟨text, htext, calls, hcalls, hblocks⟩, h⟩ := h
      cases hblocks
      cases h
      refine ⟨(_, _), .assistant (Json.getStr_eq_some.mp hrole) (textContent_eq_ok.mp htext)
        (translateCalls_eq_ok.mp hcalls), ?_⟩
      rw [extend_messages, map_nonEmptyTexts]
    · rename_i hrole
      simp only [bind_eq_ok, okOr_eq_ok, nonEmptyStr_eq_some] at h
      obtain ⟨id, ⟨hid, hidne⟩, text, htext, h⟩ := h
      cases h
      exact ⟨(_, _), .tool (Json.getStr_eq_some.mp hrole) hid hidne (textContent_eq_ok.mp htext),
        extend_messages s _⟩
    · cases h
  · rintro ⟨⟨system, turn⟩, himage, rfl⟩
    change Image parse message system turn at himage
    rw [translateOpenaiMessage, bind_eq_ok]
    cases himage with
    | system hrole htext =>
      refine ⟨(), ensure_eq_ok.mpr
        (hrole.elim isSome_asObject_of_get isSome_asObject_of_get), ?_⟩
      rw [← Json.getStr_eq_some, ← Json.getStr_eq_some] at hrole
      rw [extend_system]
      rcases hrole with hrole | hrole
      all_goals
        simp only [hrole]
        exact bind_eq_ok.mpr ⟨_, textContent_eq_ok.mpr htext, rfl⟩
    | user hrole htext =>
      refine ⟨(), ensure_eq_ok.mpr (isSome_asObject_of_get hrole), ?_⟩
      simp only [Json.getStr_eq_some.mpr hrole]
      rw [extend_user]
      exact bind_eq_ok.mpr ⟨_, textContent_eq_ok.mpr htext, rfl⟩
    | assistant hrole htext hcalls =>
      refine ⟨(), ensure_eq_ok.mpr (isSome_asObject_of_get hrole), ?_⟩
      simp only [Json.getStr_eq_some.mpr hrole, translateAssistantMessage, bind_eq_ok]
      rw [extend_messages, map_nonEmptyTexts]
      exact ⟨_, ⟨_, textContent_eq_ok.mpr htext, _, translateCalls_eq_ok.mpr hcalls, rfl⟩, rfl⟩
    | tool hrole hid hidne htext =>
      refine ⟨(), ensure_eq_ok.mpr (isSome_asObject_of_get hrole), ?_⟩
      simp only [Json.getStr_eq_some.mpr hrole, bind_eq_ok, okOr_eq_ok, nonEmptyStr_eq_some]
      rw [extend_messages]
      exact ⟨_, ⟨hid, hidne⟩, _, textContent_eq_ok.mpr htext, rfl⟩

/-- The messages contribute their images, in order. -/
theorem translateOpenaiMessages_eq_ok {parse : Json.Parser} {s s' : Conversation}
    {messages : List Json} :
    translateOpenaiMessages parse s messages = .ok s' ↔
      ∃ images : List (List String × Turn),
        List.Forall₂ (fun message image => Image parse message image.1 image.2) messages images ∧
        images.foldl Conversation.extend s = s' := by
  induction messages generalizing s with
  | nil =>
    constructor
    · intro h
      cases h
      exact ⟨[], .nil, rfl⟩
    · rintro ⟨images, himages, rfl⟩
      cases himages
      rfl
  | cons message messages ih =>
    show (translateOpenaiMessage parse s message >>= fun s₁ =>
      translateOpenaiMessages parse s₁ messages) = .ok s' ↔ _
    rw [bind_eq_ok]
    constructor
    · rintro ⟨s₁, hfirst, hrest⟩
      obtain ⟨image, himage, rfl⟩ := translateOpenaiMessage_eq_ok.mp hfirst
      obtain ⟨images, himages, rfl⟩ := ih.mp hrest
      exact ⟨image :: images, .cons himage himages, rfl⟩
    · rintro ⟨images, himages, rfl⟩
      cases himages with
      | cons himage himages =>
        exact ⟨_, translateOpenaiMessage_eq_ok.mpr ⟨_, himage, rfl⟩, ih.mpr ⟨_, himages, rfl⟩⟩

/-- A conversation of the given contributions. -/
structure Conversation.Of (s : Conversation) (images : List (List String × Turn)) : Prop where
  system : s.system = images.flatMap Prod.fst
  alternating : Alternating s.messages
  tagged : tagged s.messages = Grouping.tagged (images.map Prod.snd)

theorem Conversation.Of.extend {s : Conversation} {images : List (List String × Turn)}
    (h : s.Of images) (image : List String × Turn) : (s.extend image).Of (images ++ [image]) where
  system := by
    show s.system ++ image.1 = _
    rw [h.system, List.flatMap_append, List.flatMap_singleton]
  alternating := h.alternating.push image.2.1 image.2.2
  tagged := by
    show Grouping.tagged (push s.messages image.2.1 image.2.2) = _
    rw [tagged_push, h.tagged, List.map_append, tagged_append, List.map_singleton,
      tagged_singleton]

/-- What extending from the empty conversation gives. -/
theorem Conversation.of_foldl (images : List (List String × Turn)) :
    (images.foldl Conversation.extend ⟨[], []⟩).Of images := by
  induction images using List.reverseRecOn with
  | nil => exact ⟨rfl, alternating_nil, rfl⟩
  | append_singleton images image ih =>
    rw [List.foldl_concat]
    exact ih.extend image

/-! ## Translated requests -/

theorem openaiToAnthropicRequest_eq_ok {parse : Json.Parser} {body : Json}
    {providerModel : String} {streaming : Bool} {request : Json} :
    openaiToAnthropicRequest parse body providerModel streaming = .ok request ↔
      ∃ fields, nativeRequest parse body = .ok fields ∧
        .ofFields (fields.output body providerModel streaming) = request := by
  rw [openaiToAnthropicRequest, bind_eq_ok]
  simp only [pure, Except.pure, Except.ok.injEq]

theorem get_output (fields : NativeRequest) (body : Json) (providerModel : String)
    (streaming : Bool) (key : String) :
    (Json.ofFields (fields.output body providerModel streaming)).get key =
      (Ordered.lookup key (fields.output body providerModel streaming)).join :=
  have hkeys : ["model", "max_tokens", "messages", "stream", "system", "temperature", "top_p",
      "top_k", "stop_sequences", "tools", "tool_choice"].Nodup := by decide
  @Json.get_ofFields (fields.output body providerModel streaming) hkeys key

/-- The messages of a translated request alternate, none is empty, and their blocks are what the
messages of the request contribute, in order; so are the system texts. -/
theorem native_request_shaped (parse : Json.Parser) (body : Json) (providerModel : String)
    (streaming : Bool) (request : Json)
    (h : openaiToAnthropicRequest parse body providerModel streaming = .ok request) :
    ∃ (messages : List Json) (images : List (List String × Turn)) (turns : List Turn),
      body.get "messages" = some (.array messages) ∧
      List.Forall₂ (fun message image => Image parse message image.1 image.2) messages images ∧
      request.get "messages" = some (.array (turns.map turnJson)) ∧ turns ≠ [] ∧
      (∀ turn ∈ turns, turn.2 ≠ []) ∧ turns.IsChain (fun turn next => turn.1 ≠ next.1) ∧
      tagged turns = tagged (images.map Prod.snd) ∧
      request.get "system" =
        (if images.flatMap Prod.fst = [] then none
        else some (.array ((images.flatMap Prod.fst).map fun text =>
          (ContentBlock.text text).json))) := by
  obtain ⟨fields, hfields, rfl⟩ := openaiToAnthropicRequest_eq_ok.mp h
  simp only [nativeRequest, bind_eq_ok, ensure_eq_ok, okOr_eq_ok] at hfields
  obtain ⟨-, -, -, -, maxTokens, -, messages, hmessages, conversation, hconversation, -, hne, stop,
    -, tools, -, toolChoice, -, hfields⟩ := hfields
  cases hfields
  obtain ⟨images, himages, rfl⟩ := translateOpenaiMessages_eq_ok.mp hconversation
  obtain ⟨hsystem, halternating, htagged⟩ := Conversation.of_foldl images
  refine ⟨messages, images, _, ?_, himages, get_output _ _ _ _ _, hne, halternating.nonempty,
    halternating.alternates, htagged, ?_⟩
  · obtain ⟨value, hvalue, harray⟩ := Option.bind_eq_some_iff.mp hmessages
    cases value with
    | array values =>
      cases harray
      exact hvalue
    | _ => cases harray
  · rw [get_output]
    show (if (images.foldl Conversation.extend ⟨[], []⟩).system.isEmpty then _ else _) = _
    rw [hsystem]
    simp only [List.isEmpty_iff]

/-- Two messages of the user around a call. -/
def callRequest : Json :=
  .object [("messages", .array
    [.object [("role", .string "developer"), ("content", .string "Be brief.")],
      .object [("role", .string "user"), ("content", .string "Open it.")],
      .object [("role", .string "assistant"), ("content", .null), ("tool_calls", .array
        [.object [("id", .string "call_1"), ("type", .string "function"), ("function", .object
          [("name", .string "open"), ("arguments", .string "\x7b\x7d")])]])],
      .object [("role", .string "tool"), ("tool_call_id", .string "call_1"),
        ("content", .string "done")],
      .object [("role", .string "user"), ("content", .string "Thanks.")]])]

/-- The tool message and the one after it are one turn. -/
def callTurns : List Turn :=
  [(.user, [.text "Open it."]), (.assistant, [.toolUse "call_1" "open" (.object [])]),
    (.user, [.toolResult "call_1" "done", .text "Thanks."])]

theorem native_request_shaped_call :
    ∃ (images : List (List String × Turn)) (turns : List Turn),
      tagged turns = tagged (images.map Prod.snd) ∧
        callTurns.map turnJson = turns.map turnJson := by
  have hrequest : openaiToAnthropicRequest (Json.Parser.ofValues [.object []]) callRequest "claude"
      false = .ok (.ofFields (NativeRequest.output
        ⟨4096, ⟨["Be brief."], callTurns⟩, none, none, none⟩ callRequest "claude" false)) :=
    rfl
  obtain ⟨-, images, turns, -, -, hturns, -, -, -, htagged, -⟩ :=
    native_request_shaped _ _ _ _ _ hrequest
  refine ⟨images, turns, htagged, ?_⟩
  exact Json.array.inj (Option.some.inj ((get_output _ _ _ _ _).symm.trans hturns))

end WayfinderRouter.Providers.AnthropicNative
