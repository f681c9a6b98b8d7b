import WayfinderRouter.Binary64
import WayfinderRouter.Providers.PythonJson

/-!
# Message requests as chat completion requests

The translation of a message request into a chat completion request. It accepts any value: what it
does not know is dropped, and what is missing gets a default.

## Main definitions

- `truthy`, `flattenText` — how values are judged, and how contents become texts
- `translateMessage` — the messages of one message
- `anthropicToOpenaiRequest` — the translation of a request
-/

namespace WayfinderRouter.Providers.Anthropic

/-- `truthy`. -/
def truthy : Json → Bool
  | .null => false
  | .bool value => value
  | .number text =>
    match parseDouble text with
    | some (.finite value) => value ≠ 0
    | _ => false
  | .string value => value ≠ ""
  | .array values => !values.isEmpty
  | .object entries => !entries.isEmpty

theorem truthy_string {text : String} (h : text ≠ "") :
    Option.filter truthy (some (.string text)) = some (.string text) :=
  Option.filter_some_pos (decide_eq_true h)

/-- The text of one block of `flatten_text`. -/
def blockText : Json → Option String
  | .string text => some text
  | .object block => (Json.object block).getStr "text"
  | _ => none

/-- `flatten_text`. -/
def flattenText : Option Json → String
  | some (.string text) => text
  | some (.array blocks) => "\n".intercalate (blocks.filterMap blockText)
  | _ => ""

/-! ## Tools -/

/-- `translate_tool`. -/
def translateTool (tool : Json) : Json :=
  .object [("type", .string "function"), ("function", .ofFields
    [("name", some ((tool.get "name").getD (.string ""))),
      ("parameters", some (((tool.get "input_schema").filter truthy).getD (.object []))),
      ("description", ((tool.getStr "description").filter (· ≠ "")).map .string)])]

/-- `translate_tool_choice`. -/
def translateToolChoice (choice : Json) : Json :=
  if choice.asStr.isSome then choice
  else if choice.asObject.isNone then .string "auto"
  else
    match choice.getStr "type" with
    | some "auto" => .string "auto"
    | some "any" => .string "required"
    | some "none" => .string "none"
    | some "tool" =>
      match (choice.get "name").filter truthy with
      | some name =>
        .object [("type", .string "function"), ("function", .object [("name", name)])]
      | none => .string "auto"
    | _ => .string "auto"

/-! ## Messages -/

/-- The text of a text block. -/
def textBlock? (block : Json) : Option String :=
  if block.getStr "type" = some "text" then block.getStr "text" else none

/-- The call of a tool block. -/
def toolCall? (block : Json) : Option Json :=
  if block.getStr "type" = some "tool_use" then
    some (.object [("id", (block.get "id").getD (.string "")), ("type", .string "function"),
      ("function", .object [("name", (block.get "name").getD (.string "")),
        ("arguments", .string
          (pythonCompactJson (((block.get "input").filter truthy).getD (.object []))))])])
  else none

/-- The message of a result block. -/
def toolMessage? (block : Json) : Option Json :=
  if block.getStr "type" = some "tool_result" then
    some (.object [("role", .string "tool"),
      ("tool_call_id", (block.get "tool_use_id").getD (.string "")),
      ("content", .string (flattenText (block.get "content")))])
  else none

/-- The last message of `translate_message`. -/
def ownMessage (role : Json) (text : List String) (toolCalls : List Json) : List Json :=
  if role.asStr = some "assistant" then
    if text.isEmpty ∧ toolCalls.isEmpty then []
    else
      [.ofFields [("role", some (.string "assistant")),
        ("content", some (if text.isEmpty then .null else .string ("\n".intercalate text))),
        ("tool_calls", if toolCalls.isEmpty then none else some (.array toolCalls))]]
  else if text.isEmpty then []
  else [.object [("role", role), ("content", .string ("\n".intercalate text))]]

/-- `translate_message`. -/
def translateMessage (message : Json) : List Json :=
  let role := (message.get "role").getD .null
  match message.get "content" with
  | some (.string text) => [.object [("role", role), ("content", .string text)]]
  | some (.array blocks) =>
    let blocks := blocks.filter (·.asObject.isSome)
    blocks.filterMap toolMessage? ++
      ownMessage role (blocks.filterMap textBlock?) (blocks.filterMap toolCall?)
  | _ => []

/-! ## Requests -/

/-- The messages of `anthropic_to_openai_request`. -/
def translateMessages (body : Json) : List Json :=
  let system := flattenText (body.get "system")
  let input := ((body.get "messages").bind Json.asArray).getD []
  (if system = "" then [] else [.object [("role", .string "system"), ("content", .string system)]])
    ++ (input.filter (·.asObject.isSome)).flatMap translateMessage

def isNull : Json → Bool
  | .null => true
  | _ => false

def outputFields (body : Json) : List (String × Option Json) :=
  [("model", some ((body.get "model").getD (.string "auto"))),
    ("messages", some (.array (translateMessages body))),
    ("max_tokens", body.get "max_tokens"), ("temperature", body.get "temperature"),
    ("top_p", body.get "top_p"), ("stop", (body.get "stop_sequences").filter truthy),
    ("stream", if (body.get "stream").any truthy then some (.bool true) else none),
    ("tools", (((body.get "tools").filter truthy).bind Json.asArray).map fun tools =>
      .array ((tools.filter (·.asObject.isSome)).map translateTool)),
    ("tool_choice",
      ((body.get "tool_choice").filter fun choice => !isNull choice).map translateToolChoice)]

/-- `anthropic_to_openai_request`. -/
def anthropicToOpenaiRequest (body : Json) : Json := .ofFields (outputFields body)

theorem get_anthropicToOpenaiRequest (body : Json) (key : String) :
    (anthropicToOpenaiRequest body).get key = (Ordered.lookup key (outputFields body)).join :=
  have hkeys : ["model", "messages", "max_tokens", "temperature", "top_p", "stop", "stream",
      "tools", "tool_choice"].Nodup := by decide
  @Json.get_ofFields (outputFields body) hkeys key

end WayfinderRouter.Providers.Anthropic
