import WayfinderRouter.Providers.MessagesRequest
import WayfinderRouter.Providers.NativeRequest

/-!
# Message requests through the chat completion form

A message request in canonical form is translated into a chat completion request and back. The
results and the text of a user turn become messages of their own and are joined again; what
alternates is determined by its blocks, so the turns that come back are the ones that were sent.

The input of a tool is written as a text and read again. The text has the exponents of its numbers
padded, and numbers are kept as they are written.

## Main definitions

- `MessagesRequest` — requests in canonical form
- `Carries` — the values that carry such a request
- `SameTurn` — turns that are equal up to the exponents in the inputs of tools

## Main results

- `request_detour` — what comes back
-/

namespace WayfinderRouter.Providers.AnthropicNative

open Grouping Anthropic

/-! ## Canonical requests -/

/-- A call of a tool. -/
structure ToolUse where
  id : String
  name : String
  input : List (String × Json)
  id_ne : id ≠ ""
  name_ne : name ≠ ""
  numbers : NumberTexts (.object input)

def ToolUse.block (call : ToolUse) : ContentBlock := .toolUse call.id call.name (.object call.input)

/-- The result of a call. -/
structure ToolResult where
  toolUseId : String
  content : String
  toolUseId_ne : toolUseId ≠ ""

def ToolResult.block (result : ToolResult) : ContentBlock :=
  .toolResult result.toolUseId result.content

structure NonEmptyText where
  text : String
  text_ne : text ≠ ""

def NonEmptyText.block (text : NonEmptyText) : ContentBlock := .text text.1

/-- The turns of a canonical request. -/
inductive CanonicalTurn : Turn → Prop where
  | user (results : List ToolResult) (text : Option NonEmptyText)
      (h : results ≠ [] ∨ text.isSome) :
    CanonicalTurn (.user, results.map ToolResult.block ++ text.toList.map NonEmptyText.block)
  | assistant (text : Option NonEmptyText) (calls : List ToolUse) (h : text.isSome ∨ calls ≠ [])
      (hlen : calls.length ≤ maxToolCalls) :
    CanonicalTurn (.assistant, text.toList.map NonEmptyText.block ++ calls.map ToolUse.block)

/-- A tool that is offered. -/
structure Tool where
  name : String
  description : Option NonEmptyText
  inputSchema : List (String × Json)
  name_ne : name ≠ ""

def Tool.json (tool : Tool) : Json :=
  .ofFields [("name", some (.string tool.name)), ("input_schema", some (.object tool.inputSchema)),
    ("description", tool.description.map fun text => .string text.1)]

inductive ToolChoice where
  | auto
  | any
  | none
  | tool (name : NonEmptyText)

def ToolChoice.entries : ToolChoice → List (String × Json)
  | .auto => [("type", .string "auto")]
  | .any => [("type", .string "any")]
  | .none => [("type", .string "none")]
  | .tool name => [("type", .string "tool"), ("name", .string name.1)]

/-- A message request in canonical form. -/
structure MessagesRequest where
  system : Option NonEmptyText
  turns : List Turn
  maxTokens : ℕ
  temperature : Option Json
  topP : Option Json
  stopSequences : Option (List NonEmptyText)
  tools : Option (List Tool)
  toolChoice : Option ToolChoice
  canonical : ∀ turn ∈ turns, CanonicalTurn turn
  alternates : turns.IsChain fun turn next => turn.1 ≠ next.1
  maxTokens_pos : 0 < maxTokens
  maxTokens_le : maxTokens ≤ U64.max
  stopSequences_ne : ∀ stop ∈ stopSequences, stop ≠ []
  tools_ne : ∀ tools' ∈ tools, tools' ≠ []
  length_tools : ∀ tools' ∈ tools, tools'.length ≤ maxToolCalls

/-! ## Values that carry a request -/

inductive IsBlock (value : Json) : ContentBlock → Prop where
  | text {text : String} (htype : value.get "type" = some (.string "text"))
      (htext : value.get "text" = some (.string text)) : IsBlock value (.text text)
  | toolUse {id name : String} {input : Json} (htype : value.get "type" = some (.string "tool_use"))
      (hid : value.get "id" = some (.string id)) (hname : value.get "name" = some (.string name))
      (hinput : value.get "input" = some input) : IsBlock value (.toolUse id name input)
  | toolResult {id content : String} (htype : value.get "type" = some (.string "tool_result"))
      (hid : value.get "tool_use_id" = some (.string id))
      (hcontent : value.get "content" = some (.string content)) :
    IsBlock value (.toolResult id content)

inductive IsTurn (value : Json) : Turn → Prop where
  | intro {role : Role} {values : List Json} {blocks : List ContentBlock}
      (hrole : value.get "role" = some (.string role.name))
      (hcontent : value.get "content" = some (.array values))
      (hblocks : List.Forall₂ IsBlock values blocks) : IsTurn value (role, blocks)

structure IsTool (value : Json) (tool : Tool) : Prop where
  name : value.get "name" = some (.string tool.name)
  description : value.get "description" = tool.description.map fun text => .string text.1
  inputSchema : value.get "input_schema" = some (.object tool.inputSchema)

inductive IsToolChoice (value : Json) : ToolChoice → Prop where
  | auto (h : value.get "type" = some (.string "auto")) : IsToolChoice value .auto
  | any (h : value.get "type" = some (.string "any")) : IsToolChoice value .any
  | none (h : value.get "type" = some (.string "none")) : IsToolChoice value .none
  | tool {name : NonEmptyText} (h : value.get "type" = some (.string "tool"))
      (hname : value.get "name" = some (.string name.1)) : IsToolChoice value (.tool name)

/-- The body carries the request. What else it has is not constrained. -/
structure Carries (body : Json) (request : MessagesRequest) : Prop where
  system : body.get "system" = request.system.map fun text => .string text.1
  messages : ∃ values, body.get "messages" = some (.array values) ∧
    List.Forall₂ IsTurn values request.turns
  maxTokens : (body.get "max_tokens").bind Json.asU64 = some request.maxTokens
  temperature : body.get "temperature" = request.temperature
  topP : body.get "top_p" = request.topP
  stopSequences : body.get "stop_sequences" =
    request.stopSequences.map fun stop => .array (stop.map fun text => .string text.1)
  tools : Option.Rel (fun value tools => ∃ values, value = .array values ∧
    List.Forall₂ IsTool values tools) (body.get "tools") request.tools
  toolChoice : Option.Rel IsToolChoice (body.get "tool_choice") request.toolChoice

/-! ## Equality up to exponents -/

/-- Values that differ in how exponents of numbers are written. -/
def SameValue (value value' : Json) : Prop :=
  ∃ f : String → String, value' = value.mapNumbers f ∧
    value.NumbersAre fun text => SameNumber text.toList (f text).toList

inductive SameBlock : ContentBlock → ContentBlock → Prop where
  | text (text : String) : SameBlock (.text text) (.text text)
  | toolUse (id name : String) {input input' : Json} (h : SameValue input input') :
    SameBlock (.toolUse id name input) (.toolUse id name input')
  | toolResult (id content : String) : SameBlock (.toolResult id content) (.toolResult id content)

def SameTurn (turn turn' : Turn) : Prop :=
  turn.1 = turn'.1 ∧ List.Forall₂ SameBlock turn.2 turn'.2

theorem sameValue_pythonNumber {value : Json} (h : NumberTexts value) :
    SameValue value (value.mapNumbers pythonNumber) :=
  ⟨pythonNumber, rfl, Json.NumbersAre.imp (fun _ => sameNumber_pythonNumber) value h⟩

/-! ## The translated blocks -/

/-- The text of a block, as the translation reads it. -/
def ContentBlock.text? : ContentBlock → Option String
  | .text value => some value
  | _ => none

/-- The call of a block, as the translation writes it. -/
def ContentBlock.call? : ContentBlock → Option Json
  | .toolUse id name input =>
    some (.object [("id", .string id), ("type", .string "function"),
      ("function", .object [("name", .string name),
        ("arguments", .string (pythonCompactJson input))])])
  | _ => none

/-- The message of a result, as the translation writes it. -/
def ContentBlock.message? : ContentBlock → Option Json
  | .toolResult id content =>
    some (.object [("role", .string "tool"), ("tool_call_id", .string id),
      ("content", .string content)])
  | _ => none

/-- Inputs of tools are objects. -/
def ObjectInput : ContentBlock → Prop
  | .toolUse _ _ input => input.asObject.isSome
  | _ => True

theorem truthy_input {input : Json} (h : input.asObject.isSome) :
    (Option.filter truthy (some input)).getD (.object []) = input := by
  cases input with
  | object entries =>
    cases entries with
    | nil => rfl
    | cons => rfl
  | _ => cases h

theorem IsBlock.translated {value : Json} {block : ContentBlock} (h : IsBlock value block)
    (hobject : ObjectInput block) :
    value.asObject.isSome ∧ textBlock? value = block.text? ∧ toolCall? value = block.call? ∧
      toolMessage? value = block.message? := by
  rw [textBlock?, toolCall?, toolMessage?]
  cases h with
  | text htype htext =>
    rw [Json.getStr_eq_some.mpr htype, Json.getStr_eq_some.mpr htext]
    exact ⟨isSome_asObject_of_get htype, rfl, rfl, rfl⟩
  | toolUse htype hid hname hinput =>
    rw [Json.getStr_eq_some.mpr htype, hid, hname, hinput, truthy_input hobject]
    exact ⟨isSome_asObject_of_get htype, rfl, rfl, rfl⟩
  | toolResult htype hid hcontent =>
    rw [Json.getStr_eq_some.mpr htype, hid, hcontent]
    exact ⟨isSome_asObject_of_get htype, rfl, rfl, rfl⟩

/-- What the translation finds in the values of blocks. -/
theorem translated_blocks {values : List Json} {blocks : List ContentBlock}
    (h : List.Forall₂ IsBlock values blocks) (hobject : ∀ block ∈ blocks, ObjectInput block) :
    values.filter (·.asObject.isSome) = values ∧
      values.filterMap textBlock? = blocks.filterMap ContentBlock.text? ∧
      values.filterMap toolCall? = blocks.filterMap ContentBlock.call? ∧
      values.filterMap toolMessage? = blocks.filterMap ContentBlock.message? := by
  induction h with
  | nil => exact ⟨rfl, rfl, rfl, rfl⟩
  | cons hblock _ ih =>
    obtain ⟨hfirst, hrest⟩ := List.forall_mem_cons.mp hobject
    obtain ⟨hsome, htext, hcall, hmessage⟩ := hblock.translated hfirst
    obtain ⟨ihsome, ihtext, ihcall, ihmessage⟩ := ih hrest
    simp only [List.filterMap_cons, htext, hcall, hmessage, ihtext, ihcall, ihmessage, and_self,
      and_true]
    rw [List.filter_cons, if_pos hsome, ihsome]

theorem IsTurn.translateMessage {value : Json} {turn : Turn} (h : IsTurn value turn)
    (hobject : ∀ block ∈ turn.2, ObjectInput block) :
    Anthropic.translateMessage value = turn.2.filterMap ContentBlock.message? ++
      ownMessage (.string turn.1.name) (turn.2.filterMap ContentBlock.text?)
        (turn.2.filterMap ContentBlock.call?) := by
  cases h with
  | intro hrole hcontent hblocks =>
    obtain ⟨hsome, htext, hcall, hmessage⟩ := translated_blocks hblocks hobject
    rw [Anthropic.translateMessage, hrole, hcontent]
    show (List.filter _ _).filterMap _ ++ ownMessage _ _ _ = _
    rw [hsome, htext, hcall, hmessage]
    rfl

/-! ## What comes back -/

/-- The block with the numbers of its input padded. -/
def ContentBlock.padded : ContentBlock → ContentBlock
  | .toolUse id name input => .toolUse id name (input.mapNumbers pythonNumber)
  | block => block

def paddedTurn (turn : Turn) : Turn := (turn.1, turn.2.map ContentBlock.padded)

/-- The messages contribute the system texts and the blocks. -/
def Contribute (parse : Json.Parser) (messages : List Json) (system : List String)
    (blocks : List (Role × ContentBlock)) : Prop :=
  ∃ images : List (List String × Turn),
    List.Forall₂ (fun message image => Image parse message image.1 image.2) messages images ∧
    images.flatMap Prod.fst = system ∧ tagged (images.map Prod.snd) = blocks

variable {parse : Json.Parser}

theorem contribute_nil : Contribute parse [] [] [] := ⟨[], .nil, rfl, rfl⟩

theorem contribute_singleton {message : Json} {system : List String} {turn : Turn}
    (h : Image parse message system turn) : Contribute parse [message] system (tag turn) :=
  ⟨[(system, turn)], .cons h .nil, List.flatMap_singleton .., tagged_singleton turn⟩

theorem Contribute.append {messages messages' : List Json} {system system' : List String}
    {blocks blocks' : List (Role × ContentBlock)} (h : Contribute parse messages system blocks)
    (h' : Contribute parse messages' system' blocks') :
    Contribute parse (messages ++ messages') (system ++ system') (blocks ++ blocks') := by
  obtain ⟨images, himages, rfl, rfl⟩ := h
  obtain ⟨images', himages', rfl, rfl⟩ := h'
  refine ⟨images ++ images', List.rel_append himages himages', List.flatMap_append, ?_⟩
  rw [List.map_append, tagged_append]

/-- Messages that contribute the blocks of alternating turns are translated to these turns. -/
theorem Contribute.translateOpenaiMessages {messages : List Json} {system : List String}
    {turns : List Turn} (h : Contribute parse messages system (tagged turns))
    (hturns : Alternating turns) :
    translateOpenaiMessages parse ⟨[], []⟩ messages = .ok ⟨system, turns⟩ := by
  obtain ⟨images, himages, hsystem, htagged⟩ := h
  have hof := Conversation.of_foldl images
  refine translateOpenaiMessages_eq_ok.mpr ⟨images, himages, ?_⟩
  have hsys : (images.foldl Conversation.extend ⟨[], []⟩).system = system :=
    hof.system.trans hsystem
  have hmessages : (images.foldl Conversation.extend ⟨[], []⟩).messages = turns :=
    hof.alternating.ext hturns (hof.tagged.trans htagged)
  rw [← hsys, ← hmessages]

/-! ### Turns -/

theorem image_text (role : Json) (text : NonEmptyText) (hrole : role = .string "user") :
    Image parse (.object [("role", role), ("content", .string text.1)]) []
      (.user, [text.block]) := by
  have himage : Image parse (.object [("role", role), ("content", .string text.1)]) []
      (.user, (nonEmptyTexts text.1).map .text) :=
    .user (congrArg some hrole) (.string text.1)
  rwa [nonEmptyTexts, if_neg text.2] at himage

/-- The results of a turn are messages of their own. -/
theorem contribute_results (results : List ToolResult) :
    Contribute parse ((results.map ToolResult.block).filterMap ContentBlock.message?) []
      (tag (.user, results.map ToolResult.block)) := by
  induction results with
  | nil => exact contribute_nil
  | cons result results ih =>
    have himage : Image parse (.object [("role", .string "tool"),
        ("tool_call_id", .string result.toolUseId), ("content", .string result.content)]) []
        (.user, [result.block]) :=
      .tool rfl rfl result.toolUseId_ne (.string result.content)
    exact (contribute_singleton himage).append ih

theorem callOf_block {call : ToolUse}
    (hparse : parse.Understands ((Json.object call.input).mapNumbers pythonNumber)) :
    CallOf parse (.object [("id", .string call.id), ("type", .string "function"),
      ("function", .object [("name", .string call.name),
        ("arguments", .string (pythonCompactJson (.object call.input)))])])
      call.block.padded :=
  .intro rfl rfl call.id_ne rfl rfl call.name_ne rfl (parse_pythonCompactJson call.numbers hparse)
    rfl

/-- The calls of a turn, as the translation writes them. -/
theorem callsOf_blocks {calls : List ToolUse} (hlen : calls.length ≤ maxToolCalls)
    (hparse : ∀ call ∈ calls,
      parse.Understands ((Json.object call.input).mapNumbers pythonNumber)) :
    CallsOf parse
      (if ((calls.map ToolUse.block).filterMap ContentBlock.call?).isEmpty then none
      else some (.array ((calls.map ToolUse.block).filterMap ContentBlock.call?)))
      ((calls.map ToolUse.block).map ContentBlock.padded) := by
  have hcalls : List.Forall₂ (CallOf parse)
      ((calls.map ToolUse.block).filterMap ContentBlock.call?)
      ((calls.map ToolUse.block).map ContentBlock.padded) := by
    clear hlen
    induction calls with
    | nil => exact .nil
    | cons call calls ih =>
      obtain ⟨hfirst, hrest⟩ := List.forall_mem_cons.mp hparse
      exact .cons (callOf_block hfirst) (ih hrest)
  cases calls with
  | nil => exact .absent
  | cons call calls =>
    refine .calls ?_ hcalls
    rw [hcalls.length_eq, List.length_map, List.length_map]
    exact hlen

theorem filterMap_results {β : Type} (results : List ToolResult) (f : ContentBlock → Option β)
    (h : ∀ result : ToolResult, f result.block = none) :
    (results.map ToolResult.block).filterMap f = [] := by
  rw [List.filterMap_map, List.filterMap_eq_nil_iff]
  exact fun result _ => h result

theorem filterMap_calls {β : Type} (calls : List ToolUse) (f : ContentBlock → Option β)
    (h : ∀ call : ToolUse, f call.block = none) : (calls.map ToolUse.block).filterMap f = [] := by
  rw [List.filterMap_map, List.filterMap_eq_nil_iff]
  exact fun call _ => h call

theorem tag_append (role : Role) (blocks blocks' : List ContentBlock) :
    tag (role, blocks ++ blocks') = tag (role, blocks) ++ tag (role, blocks') :=
  List.map_append

/-- The texts of a canonical turn. -/
def texts (text : Option NonEmptyText) : List String := text.toList.map NonEmptyText.text

theorem contribute_ownMessage (text : Option NonEmptyText) :
    Contribute parse (ownMessage (.string "user") (texts text) []) []
      (tag (.user, text.toList.map NonEmptyText.block)) := by
  cases text with
  | none => exact contribute_nil
  | some text => exact contribute_singleton (image_text _ text rfl)

/-- The blocks of a canonical turn. -/
theorem CanonicalTurn.mem {turn : Turn} (h : CanonicalTurn turn) {block : ContentBlock}
    (hblock : block ∈ turn.2) : (∃ text : NonEmptyText, text.block = block) ∨
      (∃ call : ToolUse, call.block = block) ∨ ∃ result : ToolResult, result.block = block := by
  cases h with
  | user results text _ =>
    rcases List.mem_append.mp hblock with hblock | hblock
    · obtain ⟨result, -, rfl⟩ := List.mem_map.mp hblock
      exact .inr (.inr ⟨result, rfl⟩)
    · obtain ⟨text, -, rfl⟩ := List.mem_map.mp hblock
      exact .inl ⟨text, rfl⟩
  | assistant text calls _ _ =>
    rcases List.mem_append.mp hblock with hblock | hblock
    · obtain ⟨text, -, rfl⟩ := List.mem_map.mp hblock
      exact .inl ⟨text, rfl⟩
    · obtain ⟨call, -, rfl⟩ := List.mem_map.mp hblock
      exact .inr (.inl ⟨call, rfl⟩)

theorem CanonicalTurn.objectInput {turn : Turn} (h : CanonicalTurn turn) :
    ∀ block ∈ turn.2, ObjectInput block := by
  intro block hblock
  obtain ⟨text, rfl⟩ | ⟨call, rfl⟩ | ⟨result, rfl⟩ := h.mem hblock
  · trivial
  · rfl
  · trivial

/-- A turn of the user contributes its blocks. -/
theorem contribute_user {value : Json} {results : List ToolResult} {text : Option NonEmptyText}
    (h : IsTurn value
      (.user, results.map ToolResult.block ++ text.toList.map NonEmptyText.block))
    (hobject : ∀ block ∈ results.map ToolResult.block ++ text.toList.map NonEmptyText.block,
      ObjectInput block) :
    Contribute parse (translateMessage value) []
      (tag (.user, results.map ToolResult.block ++ text.toList.map NonEmptyText.block)) := by
  have hmessage : (text.toList.map NonEmptyText.block).filterMap ContentBlock.message? = [] := by
    cases text <;> rfl
  have htext : (text.toList.map NonEmptyText.block).filterMap ContentBlock.text? = texts text := by
    cases text <;> rfl
  have hcall : (text.toList.map NonEmptyText.block).filterMap ContentBlock.call? = [] := by
    cases text <;> rfl
  rw [h.translateMessage hobject, tag_append, List.filterMap_append, List.filterMap_append,
    List.filterMap_append, hmessage, htext, hcall,
    filterMap_results results ContentBlock.text? fun _ => rfl,
    filterMap_results results ContentBlock.call? fun _ => rfl, List.append_nil]
  exact (contribute_results results).append (contribute_ownMessage text)

theorem textOf_content (text : Option NonEmptyText) :
    TextOf (some (if (texts text).isEmpty then .null
      else .string ("\n".intercalate (texts text)))) ((text.map NonEmptyText.text).getD "") := by
  cases text with
  | none => exact .null
  | some text => exact .string text.1

theorem nonEmptyTexts_getD (text : Option NonEmptyText) :
    (nonEmptyTexts ((text.map NonEmptyText.text).getD "")).map ContentBlock.text =
      text.toList.map NonEmptyText.block := by
  cases text with
  | none => rfl
  | some text =>
    show (nonEmptyTexts text.1).map ContentBlock.text = _
    rw [nonEmptyTexts, if_neg text.2]
    rfl

/-- A turn of the assistant contributes its blocks, with the inputs of its calls padded. -/
theorem contribute_assistant {value : Json} {text : Option NonEmptyText} {calls : List ToolUse}
    (hne : text.isSome ∨ calls ≠ []) (hlen : calls.length ≤ maxToolCalls)
    (h : IsTurn value
      (.assistant, text.toList.map NonEmptyText.block ++ calls.map ToolUse.block))
    (hobject : ∀ block ∈ text.toList.map NonEmptyText.block ++ calls.map ToolUse.block,
      ObjectInput block)
    (hparse : ∀ call ∈ calls,
      parse.Understands ((Json.object call.input).mapNumbers pythonNumber)) :
    Contribute parse (translateMessage value) []
      (tag (paddedTurn
        (.assistant, text.toList.map NonEmptyText.block ++ calls.map ToolUse.block))) := by
  have hmessage : (text.toList.map NonEmptyText.block).filterMap ContentBlock.message? = [] := by
    cases text <;> rfl
  have htext : (text.toList.map NonEmptyText.block).filterMap ContentBlock.text? = texts text := by
    cases text <;> rfl
  have hcall : (text.toList.map NonEmptyText.block).filterMap ContentBlock.call? = [] := by
    cases text <;> rfl
  have hpadded : (text.toList.map NonEmptyText.block).map ContentBlock.padded =
      text.toList.map NonEmptyText.block := by
    cases text <;> rfl
  rw [h.translateMessage hobject, List.filterMap_append, List.filterMap_append,
    List.filterMap_append, hmessage, htext, hcall,
    filterMap_calls calls ContentBlock.text? fun _ => rfl,
    filterMap_calls calls ContentBlock.message? fun _ => rfl, paddedTurn, List.map_append, hpadded,
    ← nonEmptyTexts_getD]
  simp only [List.append_nil, List.nil_append]
  show Contribute parse (ownMessage (.string "assistant") (texts text) _) [] _
  have hsome : ¬ ((texts text).isEmpty ∧
      ((calls.map ToolUse.block).filterMap ContentBlock.call?).isEmpty) := by
    rintro ⟨htexts, hcalls⟩
    rcases hne with hne | hne
    · cases text with
      | none => cases hne
      | some text => cases htexts
    · cases calls with
      | nil => exact hne rfl
      | cons call calls => cases hcalls
  rw [ownMessage, if_pos (show (Json.string "assistant").asStr = some "assistant" from rfl),
    if_neg hsome]
  have hkeys : ["role", "content", "tool_calls"].Nodup := by decide
  have hget := fun key => @Json.get_ofFields
    [("role", some (.string "assistant")),
      ("content", some (if (texts text).isEmpty then .null
        else .string ("\n".intercalate (texts text)))),
      ("tool_calls", if ((calls.map ToolUse.block).filterMap ContentBlock.call?).isEmpty then none
        else some (.array ((calls.map ToolUse.block).filterMap ContentBlock.call?)))] hkeys key
  refine contribute_singleton (.assistant (hget "role") ?_ ?_)
  · rw [hget]
    exact textOf_content text
  · rw [hget]
    exact callsOf_blocks hlen hparse

/-- A canonical turn contributes its blocks, with the inputs of tools padded. -/
theorem contribute_turn {value : Json} {turn : Turn} (h : IsTurn value turn)
    (hcanonical : CanonicalTurn turn)
    (hparse : ∀ call : ToolUse, call.block ∈ turn.2 →
      parse.Understands ((Json.object call.input).mapNumbers pythonNumber)) :
    Contribute parse (translateMessage value) [] (tag (paddedTurn turn)) := by
  have hobject := hcanonical.objectInput
  cases hcanonical with
  | user results text _ =>
    have hpadded : paddedTurn
        (.user, results.map ToolResult.block ++ text.toList.map NonEmptyText.block) =
        (.user, results.map ToolResult.block ++ text.toList.map NonEmptyText.block) := by
      rw [paddedTurn, List.map_append, List.map_map, List.map_map]
      rfl
    rw [hpadded]
    exact contribute_user h hobject
  | assistant text calls hne hlen =>
    exact contribute_assistant hne hlen h hobject fun call hcall =>
      hparse call (List.mem_append_right _ (List.mem_map_of_mem hcall))

/-! ### Requests -/

/-- The parser reads the inputs of the tools, however they are spelled. -/
def UnderstandsInputs (parse : Json.Parser) (turns : List Turn) : Prop :=
  ∀ turn ∈ turns, ∀ id name input, .toolUse id name input ∈ turn.2 →
    ∀ input', SameValue input input' → parse.Understands input'

theorem UnderstandsInputs.call {turns : List Turn} (h : UnderstandsInputs parse turns)
    {turn : Turn} (hturn : turn ∈ turns) {call : ToolUse} (hcall : call.block ∈ turn.2) :
    parse.Understands ((Json.object call.input).mapNumbers pythonNumber) :=
  h turn hturn call.id call.name _ hcall _ (sameValue_pythonNumber call.numbers)

theorem contribute_turns {values : List Json} {turns : List Turn}
    (h : List.Forall₂ IsTurn values turns) (hcanonical : ∀ turn ∈ turns, CanonicalTurn turn)
    (hparse : UnderstandsInputs parse turns) :
    values.filter (·.asObject.isSome) = values ∧
      Contribute parse (values.flatMap translateMessage) [] (tagged (turns.map paddedTurn)) := by
  induction h with
  | nil => exact ⟨rfl, contribute_nil⟩
  | @cons value turn values turns hturn _ ih =>
    obtain ⟨hfirst, hrest⟩ := List.forall_mem_cons.mp hcanonical
    obtain ⟨hsome, hcontribute⟩ :=
      ih hrest fun turn hmem => hparse turn (List.mem_cons_of_mem _ hmem)
    have hobject : value.asObject.isSome := by
      cases hturn with
      | intro hrole _ _ => exact isSome_asObject_of_get hrole
    refine ⟨?_, ?_⟩
    · rw [List.filter_cons, if_pos hobject, hsome]
    · exact (contribute_turn hturn hfirst fun call hcall =>
        hparse.call List.mem_cons_self hcall).append hcontribute

theorem contribute_system (text : Option NonEmptyText) :
    Contribute parse (if flattenText (text.map fun text => .string text.1) = "" then []
      else [.object [("role", .string "system"),
        ("content", .string (flattenText (text.map fun text => .string text.1)))]])
      (texts text) [] := by
  cases text with
  | none => exact contribute_nil
  | some text =>
    have himage : Image parse
        (.object [("role", .string "system"), ("content", .string text.text)])
        (nonEmptyTexts text.text) (.user, []) := .system (.inl rfl) (.string text.text)
    rw [nonEmptyTexts, if_neg text.2] at himage
    show Contribute parse (if text.text = "" then [] else _) _ _
    rw [if_neg text.2]
    exact contribute_singleton himage

/-- The conversation that comes back. -/
theorem translateOpenaiMessages_translateMessages {body : Json} {request : MessagesRequest}
    (h : Carries body request) (hparse : UnderstandsInputs parse request.turns) :
    translateOpenaiMessages parse ⟨[], []⟩ (translateMessages body) =
      .ok ⟨texts request.system, request.turns.map paddedTurn⟩ := by
  obtain ⟨values, hvalues, hturns⟩ := h.messages
  obtain ⟨hsome, hcontribute⟩ := contribute_turns hturns request.canonical hparse
  apply Contribute.translateOpenaiMessages
  · rw [translateMessages, h.system, hvalues]
    show Contribute parse (_ ++ (values.filter _).flatMap _) _ _
    rw [hsome]
    have happend := (@contribute_system parse request.system).append hcontribute
    rwa [List.append_nil] at happend
  · constructor
    · intro turn hturn hnil
      obtain ⟨turn, hmem, rfl⟩ := List.mem_map.mp hturn
      have hblocks : turn.2 = [] := List.map_eq_nil_iff.mp hnil
      cases request.canonical turn hmem with
      | user results text hne =>
        obtain ⟨hresults, htext⟩ := List.append_eq_nil_iff.mp hblocks
        rcases hne with hne | hne
        · exact hne (List.map_eq_nil_iff.mp hresults)
        · cases text with
          | none => cases hne
          | some text => cases htext
      | assistant text calls hne hlen =>
        obtain ⟨htext, hcalls⟩ := List.append_eq_nil_iff.mp hblocks
        rcases hne with hne | hne
        · cases text with
          | none => cases hne
          | some text => cases htext
        · exact hne (List.map_eq_nil_iff.mp hcalls)
    · rw [List.isChain_map]
      exact request.alternates

theorem translateMaxTokens_detour {body : Json} {request : MessagesRequest}
    (h : Carries body request) :
    translateMaxTokens (anthropicToOpenaiRequest body) = .ok request.maxTokens := by
  obtain ⟨value, hvalue, hnat⟩ := Option.bind_eq_some_iff.mp h.maxTokens
  have hfield : ((anthropicToOpenaiRequest body).get "max_completion_tokens").or
      ((anthropicToOpenaiRequest body).get "max_tokens") = some value := by
    rw [get_anthropicToOpenaiRequest, get_anthropicToOpenaiRequest]
    exact hvalue
  rw [translateMaxTokens, hfield]
  show okOr .invalidRequest (value.asU64.filter _) = _
  rw [hnat, okOr_eq_ok]
  exact Option.filter_some_pos (decide_eq_true request.maxTokens_pos)

theorem translateStop_detour {body : Json} {request : MessagesRequest} (h : Carries body request) :
    translateStop ((anthropicToOpenaiRequest body).get "stop") =
      .ok (request.stopSequences.map fun stop => .array (stop.map fun text => .string text.1)) := by
  rw [get_anthropicToOpenaiRequest]
  show translateStop ((body.get "stop_sequences").filter truthy) = _
  rw [h.stopSequences]
  cases hstop : request.stopSequences with
  | none => rfl
  | some stop =>
    cases stop with
    | nil => exact absurd rfl (request.stopSequences_ne [] hstop)
    | cons text stop =>
      show (ensure .invalidRequest _ >>= fun _ => _) = _
      rw [bind_eq_ok]
      refine ⟨(), ensure_eq_ok.mpr ⟨List.cons_ne_nil _ _, ?_⟩, rfl⟩
      intro value hvalue
      obtain ⟨text', -, rfl⟩ := List.mem_map.mp hvalue
      exact decide_eq_true text'.2

theorem translateOpenaiTool_detour {value : Json} {tool : Tool} (h : IsTool value tool) :
    value.asObject.isSome ∧ translateOpenaiTool (translateTool value) = .ok tool.json := by
  refine ⟨isSome_asObject_of_get h.name, ?_⟩
  have hdescription : ((value.getStr "description").filter (· ≠ "")).map Json.string =
      tool.description.map fun text => .string text.1 := by
    rw [Json.getStr, h.description]
    cases tool.description with
    | none => rfl
    | some text =>
      exact congrArg (Option.map Json.string) (Option.filter_some_pos (decide_eq_true text.2))
  rw [translateTool, h.name, h.inputSchema, truthy_input rfl, hdescription]
  have hkeys : ["name", "parameters", "description"].Nodup := by decide
  have hget := fun key => @Json.get_ofFields
    [("name", some (.string tool.name)), ("parameters", some (.object tool.inputSchema)),
      ("description", tool.description.map fun text => .string text.1)] hkeys key
  simp only [translateOpenaiTool, bind_eq_ok, ensure_eq_ok, okOr_eq_ok, nonEmptyStr_eq_some]
  refine ⟨(), rfl, (), rfl, _, rfl, tool.name, ⟨hget "name", tool.name_ne⟩, (), ?_, ?_⟩
  · rw [Option.getD_some, hget]
    rfl
  · rw [Option.getD_some, Json.getStr, hget, hget]
    cases hdesc : tool.description with
    | none =>
      rw [Tool.json, hdesc]
      rfl
    | some text =>
      rw [Tool.json, hdesc]
      rfl

theorem translateTools_detour {body : Json} {request : MessagesRequest} (h : Carries body request) :
    translateTools ((anthropicToOpenaiRequest body).get "tools") =
      .ok (request.tools.map fun tools => .array (tools.map Tool.json)) := by
  rw [get_anthropicToOpenaiRequest]
  show translateTools ((((body.get "tools").filter truthy).bind Json.asArray).map fun tools =>
    .array ((tools.filter (·.asObject.isSome)).map translateTool)) = _
  have htools := h.tools
  generalize body.get "tools" = sent at htools
  cases htools' : request.tools with
  | none =>
    rw [htools'] at htools
    cases htools
    rfl
  | some tools =>
    rw [htools'] at htools
    cases htools with
    | some hrel =>
      obtain ⟨values, rfl, hvalues⟩ := hrel
      have hne := request.tools_ne tools htools'
      have hlen := request.length_tools tools htools'
      clear htools'
      have htruthy : Option.filter truthy (some (.array values)) = some (.array values) := by
        cases hvalues with
        | nil => exact absurd rfl hne
        | cons => rfl
      have hall : values.filter (·.asObject.isSome) = values := by
        rw [List.filter_eq_self]
        have hboth := hvalues.imp fun _ _ htool =>
          And.intro (translateOpenaiTool_detour htool).1 htool
        exact ((List.forall₂_and_left values tools).mp hboth).1
      rw [htruthy]
      show translateTools (some (.array ((values.filter _).map translateTool))) = _
      rw [hall]
      simp only [translateTools, bind_eq_ok, ensure_eq_ok, okOr_eq_ok]
      refine ⟨_, rfl, (), ?_, tools.map Tool.json, ?_, rfl⟩
      · rw [List.length_map, hvalues.length_eq]
        exact hlen
      · rw [mapM_eq_ok, List.forall₂_map_left_iff, List.forall₂_map_right_iff]
        exact hvalues.imp fun _ _ htool => (translateOpenaiTool_detour htool).2

theorem translateToolChoice_detour {value : Json} {choice : ToolChoice}
    (h : IsToolChoice value choice) :
    isNull value = false ∧
      AnthropicNative.translateToolChoice (Anthropic.translateToolChoice value) =
        .ok choice.entries := by
  have hobject : value.asObject.isSome := by
    cases h with
    | auto h => exact isSome_asObject_of_get h
    | any h => exact isSome_asObject_of_get h
    | none h => exact isSome_asObject_of_get h
    | tool h _ => exact isSome_asObject_of_get h
  cases value with
  | object entries =>
    refine ⟨rfl, ?_⟩
    have hstr : (Json.object entries).asStr.isSome = false := rfl
    have hnone : (Json.object entries).asObject.isNone = false := rfl
    rw [Anthropic.translateToolChoice, hstr, hnone, if_neg Bool.false_ne_true,
      if_neg Bool.false_ne_true]
    cases h with
    | auto h =>
      rw [Json.getStr_eq_some.mpr h]
      rfl
    | any h =>
      rw [Json.getStr_eq_some.mpr h]
      rfl
    | none h =>
      rw [Json.getStr_eq_some.mpr h]
      rfl
    | @tool name h hname =>
      simp only [Json.getStr_eq_some.mpr h, hname, truthy_string name.2]
      simp only [AnthropicNative.translateToolChoice, bind_eq_ok, ensure_eq_ok, okOr_eq_ok,
        nonEmptyStr_eq_some]
      exact ⟨(), rfl, _, rfl, name.1, ⟨rfl, name.2⟩, rfl⟩
  | _ => cases hobject

theorem translateChoice_detour {body : Json} {request : MessagesRequest}
    (h : Carries body request) :
    translateChoice (anthropicToOpenaiRequest body) =
      .ok (request.toolChoice.map fun choice => .object choice.entries) := by
  have hparallel : (anthropicToOpenaiRequest body).get "parallel_tool_calls" = none := by
    rw [get_anthropicToOpenaiRequest]
    rfl
  have hchoice : (anthropicToOpenaiRequest body).get "tool_choice" =
      ((body.get "tool_choice").filter fun choice => !isNull choice).map
        Anthropic.translateToolChoice := by
    rw [get_anthropicToOpenaiRequest]
    exact Option.join_some ..
  simp only [translateChoice, hparallel, hchoice]
  have hsent := h.toolChoice
  generalize body.get "tool_choice" = sent at hsent
  cases hchoice' : request.toolChoice with
  | none =>
    rw [hchoice'] at hsent
    cases hsent
    rfl
  | some choice =>
    rw [hchoice'] at hsent
    cases hsent with
    | @some value _ hchoice =>
      obtain ⟨hnull, htranslated⟩ := translateToolChoice_detour hchoice
      have hfilter : (some value).filter (fun choice => !isNull choice) = some value :=
        Option.filter_some_pos (by rw [hnull]; rfl)
      simp only [hfilter, Option.map_some]
      refine bind_eq_ok.mpr ⟨_, htranslated, ?_⟩
      exact congrArg (fun entries => Except.ok (some (Json.object entries))) (List.append_nil _)

/-! ### Requests -/

/-- What a canonical request becomes. -/
theorem nativeRequest_detour {body : Json} {request : MessagesRequest} (h : Carries body request)
    (hne : request.turns ≠ []) (hparse : UnderstandsInputs parse request.turns) :
    nativeRequest parse (anthropicToOpenaiRequest body) = .ok
      { maxTokens := request.maxTokens
        conversation := ⟨texts request.system, request.turns.map paddedTurn⟩
        stop := request.stopSequences.map fun stop => .array (stop.map fun text => .string text.1)
        tools := request.tools.map fun tools => .array (tools.map Tool.json)
        toolChoice := request.toolChoice.map fun choice => .object choice.entries } := by
  have hunsupported : ∀ field ∈ unsupportedFields,
      (anthropicToOpenaiRequest body).get field = none := by
    simp only [unsupportedFields, List.forall_mem_cons, get_anthropicToOpenaiRequest]
    exact ⟨rfl, rfl, rfl, rfl, rfl, rfl, rfl, rfl, rfl, rfl, fun _ h => absurd h List.not_mem_nil⟩
  have hn : (anthropicToOpenaiRequest body).get "n" = none := by
    rw [get_anthropicToOpenaiRequest]
    rfl
  have hmessages : (anthropicToOpenaiRequest body).get "messages" =
      some (.array (translateMessages body)) := by
    rw [get_anthropicToOpenaiRequest]
    rfl
  simp only [nativeRequest, bind_eq_ok, ensure_eq_ok, okOr_eq_ok, hn, hmessages]
  refine ⟨(), rfl, (), ⟨?_, Bool.false_ne_true⟩, _, translateMaxTokens_detour h, _, rfl, _,
    translateOpenaiMessages_translateMessages h hparse, (), ?_, _, translateStop_detour h, _,
    translateTools_detour h, _, translateChoice_detour h, rfl⟩
  · rw [List.any_eq_true]
    rintro ⟨field, hfield, hsome⟩
    rw [hunsupported field hfield] at hsome
    cases hsome
  · exact fun hnil => hne (List.map_eq_nil_iff.mp hnil)

theorem sameTurn_paddedTurn {turn : Turn} (h : CanonicalTurn turn) :
    SameTurn turn (paddedTurn turn) := by
  refine ⟨rfl, ?_⟩
  rw [paddedTurn, List.forall₂_map_right_iff, List.forall₂_same]
  intro block hblock
  obtain ⟨text, rfl⟩ | ⟨call, rfl⟩ | ⟨result, rfl⟩ := h.mem hblock
  · exact .text text.1
  · exact .toolUse call.id call.name (sameValue_pythonNumber call.numbers)
  · exact .toolResult result.toolUseId result.content

def MessagesRequest.fields (request : MessagesRequest) : List (String × Option Json) :=
  [("system", request.system.map fun text => .string text.1),
    ("messages", some (.array (request.turns.map turnJson))),
    ("max_tokens", some (.nat request.maxTokens)), ("temperature", request.temperature),
    ("top_p", request.topP),
    ("stop_sequences",
      request.stopSequences.map fun stop => .array (stop.map fun text => .string text.1)),
    ("tools", request.tools.map fun tools => .array (tools.map Tool.json)),
    ("tool_choice", request.toolChoice.map fun choice => .object choice.entries)]

/-- The value that a request is usually carried by. -/
def MessagesRequest.body (request : MessagesRequest) : Json := .ofFields request.fields

theorem isBlock_json (block : ContentBlock) : IsBlock block.json block := by
  cases block with
  | text => exact .text rfl rfl
  | toolUse => exact .toolUse rfl rfl rfl rfl
  | toolResult => exact .toolResult rfl rfl rfl

theorem isTurn_json (turn : Turn) : IsTurn (turnJson turn) turn := by
  refine .intro rfl rfl ?_
  rw [List.forall₂_map_left_iff, List.forall₂_same]
  exact fun block _ => isBlock_json block

theorem isTool_json (tool : Tool) : IsTool tool.json tool := by
  have hkeys : ["name", "input_schema", "description"].Nodup := by decide
  have hget := fun key => @Json.get_ofFields
    [("name", some (.string tool.name)), ("input_schema", some (.object tool.inputSchema)),
      ("description", tool.description.map fun text => .string text.1)] hkeys key
  exact ⟨hget "name", (hget "description").trans (Option.join_some ..), hget "input_schema"⟩

theorem isToolChoice_entries (choice : ToolChoice) :
    IsToolChoice (.object choice.entries) choice := by
  cases choice with
  | auto => exact .auto rfl
  | any => exact .any rfl
  | none => exact .none rfl
  | tool name => exact .tool rfl rfl

theorem carries_body (request : MessagesRequest) : Carries request.body request := by
  have hkeys : ["system", "messages", "max_tokens", "temperature", "top_p", "stop_sequences",
      "tools", "tool_choice"].Nodup := by decide
  have hget := fun key => @Json.get_ofFields request.fields hkeys key
  constructor
  · exact (hget "system").trans (Option.join_some ..)
  · refine ⟨_, hget "messages", ?_⟩
    rw [List.forall₂_map_left_iff, List.forall₂_same]
    exact fun turn _ => isTurn_json turn
  · rw [MessagesRequest.body, hget]
    exact Json.asU64_nat request.maxTokens_le
  · exact (hget "temperature").trans (Option.join_some ..)
  · exact (hget "top_p").trans (Option.join_some ..)
  · exact (hget "stop_sequences").trans (Option.join_some ..)
  · rw [MessagesRequest.body, hget]
    show Option.Rel _ (some (request.tools.map _)).join _
    rw [Option.join_some]
    cases request.tools with
    | none => exact .none
    | some tools =>
      refine .some ⟨_, rfl, ?_⟩
      rw [List.forall₂_map_left_iff, List.forall₂_same]
      exact fun tool _ => isTool_json tool
  · rw [MessagesRequest.body, hget]
    show Option.Rel _ (some (request.toolChoice.map _)).join _
    rw [Option.join_some]
    cases request.toolChoice with
    | none => exact .none
    | some choice => exact .some (isToolChoice_entries choice)

/-! ### Runs -/

/-- A request of the given turns. -/
def plainRequest (turns : List Turn) (canonical : ∀ turn ∈ turns, CanonicalTurn turn)
    (alternates : turns.IsChain fun turn next => turn.1 ≠ next.1) : MessagesRequest where
  system := none
  turns := turns
  maxTokens := 1
  temperature := none
  topP := none
  stopSequences := none
  tools := none
  toolChoice := none
  canonical := canonical
  alternates := alternates
  maxTokens_pos := Nat.one_pos
  maxTokens_le := by decide
  stopSequences_ne := fun _ h => (Option.not_mem_none _ h).elim
  tools_ne := fun _ h => (Option.not_mem_none _ h).elim
  length_tools := fun _ h => (Option.not_mem_none _ h).elim

/-- A call without arguments. -/
def openCall : ToolUse where
  id := "call_1"
  name := "open"
  input := []
  id_ne := by decide
  name_ne := by decide
  numbers := trivial

theorem canonical_openCall : CanonicalTurn (.assistant, [openCall.block]) :=
  .assistant none [openCall] (.inr (List.cons_ne_nil _ _)) (by decide)

def openRequest : MessagesRequest :=
  plainRequest [(.assistant, [openCall.block])]
    (List.forall_mem_singleton.mpr canonical_openCall) (.singleton _)

theorem mantissa_one : Mantissa ['1'] :=
  List.forall_mem_singleton.mpr (.inl rfl)

theorem digits_six : Digits ['6'] :=
  ⟨List.cons_ne_nil _ _, List.forall_mem_singleton.mpr rfl⟩

theorem numberText_small : NumberText "1e-6".toList :=
  .exponent mantissa_one (.inl rfl) (.inr (.inr rfl)) digits_six

theorem pythonNumber_small : pythonNumber "1e-6" = "1e-06" := by
  show String.ofList (padPythonExponents .outside (['1'] ++ 'e' :: (['-'] ++ ['6']))) = _
  rw [mantissa_one.pad, pad_exponent_last (.inl rfl) (.inr (.inr rfl)) digits_six]
  rfl

/-- A call with a small number. -/
def smallCall : ToolUse where
  id := "call_1"
  name := "open"
  input := [("x", .number "1e-6")]
  id_ne := by decide
  name_ne := by decide
  numbers := ⟨numberText_small, trivial⟩

theorem canonical_smallCall : CanonicalTurn (.assistant, [smallCall.block]) :=
  .assistant none [smallCall] (.inr (List.cons_ne_nil _ _)) (by decide)

def smallRequest : MessagesRequest :=
  plainRequest [(.assistant, [smallCall.block])]
    (List.forall_mem_singleton.mpr canonical_smallCall) (.singleton _)

def emptyRequest : MessagesRequest :=
  plainRequest [] (fun _ h => absurd h List.not_mem_nil) .nil

theorem pythonCompactJson_smallCall :
    pythonCompactJson (.object smallCall.input) = "\x7b\"x\":1e-06\x7d" := by
  rw [← String.toList_inj, pythonCompactJson_toList smallCall.numbers]
  simp only [smallCall, Json.mapNumbers, Json.mapNumbersEntries, pythonNumber_small]
  decide

/-- The request that `smallRequest` becomes. -/
def smallOpenai (arguments : String) : Json :=
  .object [("model", .string "auto"), ("messages", .array
      [.object [("role", .string "assistant"), ("content", .null), ("tool_calls", .array
        [.object [("id", .string "call_1"), ("type", .string "function"), ("function", .object
          [("name", .string "open"), ("arguments", .string arguments)])]])]]),
    ("max_tokens", .nat 1)]

/-- The turn that comes back. -/
def smallTurn : Turn := (.assistant, [.toolUse "call_1" "open" (.object [("x", .number "1e-06")])])

end WayfinderRouter.Providers.AnthropicNative
