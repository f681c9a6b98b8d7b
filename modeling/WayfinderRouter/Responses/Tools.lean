import WayfinderRouter.Json
import WayfinderRouter.Ordered.IndexMap

/-!
# Tools of a Responses request

The tools of a request are sent upstream as functions with wire names. A top-level tool keeps its
name when this is a plain name that is not taken, and any other tool gets a name made of its
position and its own name. The metadata map wire names to the declared tools. A replayed call and
a tool choice are resolved by a scan of the metadata, in the order of a hash map.

A name made of a position is not compared with the names that are already taken, so a tool whose
declared name looks like the made one loses its binding. A tool choice compares less than what
tells the tools apart, so its tool depends on the order of the scan.

## Main definitions

- `translateTools`, `translateOneTool`, `chatToolName` — the tools that are sent upstream
- `ResponsesToolMetadata.identity`, `wireName`, `translateToolChoice` — how names are resolved
- `declared` — the tools that a request declares
- `Renamed`, `Taken`, `Lost` — the tools whose names are made, or are made again for a later tool

## Main results

- `survive_iff` — the wire names lead back to the tools exactly when no name is taken
- `enumeration_iff` — when the choice of a tool does not depend on the order of the scan
-/

namespace WayfinderRouter.Responses

/-! ## Metadata -/

/-- What a client calls a tool. -/
structure ResponsesToolIdentity where
  name : String
  nameSpace : Option String
  custom : Bool
deriving DecidableEq

/-- The declared tools by their wire names. -/
structure ResponsesToolMetadata where
  identities : IndexMap ResponsesToolIdentity

/-- The entries of a hash map, in the order in which they are enumerated. -/
abbrev Enumeration := List (String × ResponsesToolIdentity)

def ResponsesToolMetadata.Enumerates (metadata : ResponsesToolMetadata)
    (entries : Enumeration) : Prop :=
  entries.Perm metadata.identities.entries

/-- The first wire name of a tool. -/
def wireName (entries : Enumeration) (name : String) (nameSpace : Option String)
    (custom : Bool) : Option String :=
  entries.findSome? fun e =>
    if e.2.name = name ∧ e.2.nameSpace = nameSpace ∧ e.2.custom = custom then some e.1 else none

def ResponsesToolMetadata.identity (metadata : ResponsesToolMetadata) (wireName : String) :
    ResponsesToolIdentity :=
  (metadata.identities.get wireName).getD ⟨wireName, none, false⟩

/-! ## Fields -/

/-- An error instead of nothing. -/
def orError {α : Type} (error : String) : Option α → Except String α
  | some a => .ok a
  | none => .error error

theorem orError_eq_ok {α : Type} {error : String} {o : Option α} {a : α} :
    orError error o = .ok a ↔ o = some a := by
  cases o with
  | none => simp [orError]
  | some a' => simp [orError]

def rejectUnknownFields (object : List (String × Json)) (allowed : List String) :
    Except String Unit :=
  match (object.map Prod.fst).find? (· ∉ allowed) with
  | some field => .error ("unsupported Responses API field '" ++ field ++ "'")
  | none => .ok ()

def requiredString (object : List (String × Json)) (field : String) : Except String String :=
  orError ("Responses field '" ++ field ++ "' must be a non-empty string")
    (((Ordered.lookup field object).bind Json.asStr).filter (· ≠ ""))

theorem requiredString_eq_ok {object : List (String × Json)} {field value : String} :
    requiredString object field = .ok value ↔
      (Ordered.lookup field object).bind Json.asStr = some value ∧ value ≠ "" := by
  rw [requiredString, orError_eq_ok, Option.filter_eq_some_iff, decide_eq_true_iff]

/-! ## Translation -/

/-- Maximum number of model-visible tools after namespace expansion. -/
def maxTools : ℕ := 128

/-- A character of a plain name. -/
def isNameChar (c : Char) : Bool := c.isAlphanum || c = '_' || c = '-'

/-- The name that is made of a position and the plain characters of a name. -/
def generatedName (index : ℕ) (name : String) : String :=
  "wf_" ++ index.repr ++ "_" ++ String.ofList ((name.toList.filter isNameChar).take 48)

def chatToolName (nameSpace : Option String) (name : String) (index : ℕ)
    (existing : IndexMap ResponsesToolIdentity) : String :=
  if nameSpace.isNone ∧ name.utf8ByteSize ≤ 64 ∧ name.toList.all isNameChar ∧
      name ∉ existing.keys then name
  else generatedName index name

/-- The functions that are sent upstream so far, and the metadata. -/
abbrev Translation := List Json × ResponsesToolMetadata

/-- There is room for another tool. -/
def checkRoom (translated : List Json) : Except String Unit :=
  if translated.length < maxTools then .ok ()
  else .error ("Responses field 'tools' exceeds " ++ maxTools.repr ++
    " entries after namespace expansion")

def checkNameSize (name : String) : Except String Unit :=
  if name.utf8ByteSize ≤ 128 then .ok ()
  else .error "Responses tool names must not exceed 128 bytes"

def checkDescription (name : String) (tool : List (String × Json)) : Except String Unit :=
  match Ordered.lookup "description" tool with
  | none => .ok ()
  | some (.string _) => .ok ()
  | some _ => .error ("Responses tool '" ++ name ++ "' description must be a string")

/-- The parameters of a custom tool. -/
def customParameters : Json :=
  .object [("type", .string "object"),
    ("properties", .object [("input", .object [("type", .string "string")])]),
    ("required", .array [.string "input"]), ("additionalProperties", .bool false)]

def toolParameters (name : String) (custom : Bool) (tool : List (String × Json)) :
    Except String Json :=
  if custom then do
    rejectUnknownFields tool ["type", "name", "description", "defer_loading", "format"]
    let format ← orError ("Responses custom tool '" ++ name ++ "' requires format")
      ((Ordered.lookup "format" tool).bind Json.asObject)
    rejectUnknownFields format ["type", "syntax", "definition"]
    pure customParameters
  else do
    rejectUnknownFields tool
      ["type", "name", "description", "strict", "defer_loading", "parameters"]
    let parameters ← orError ("Responses function tool '" ++ name ++ "' requires parameters")
      (Ordered.lookup "parameters" tool)
    let object ← orError ("Responses function tool '" ++ name ++ "' parameters must be an object")
      parameters.asObject
    pure (.object object)

/-- The entry `strict` of a function, which a custom tool does not have. -/
def toolStrict (name : String) (custom : Bool) (tool : List (String × Json)) :
    Except String (List (String × Json)) :=
  if custom then pure []
  else do
    let strict ← orError ("Responses function tool '" ++ name ++ "' strict must be boolean")
      ((Ordered.lookup "strict" tool).getD (.bool false)).asBool
    pure [("strict", .bool strict)]

/-- A function that is sent upstream. -/
def chatTool (wireName : String) (description parameters : Json) (strict : List (String × Json)) :
    Json :=
  .object [("type", .string "function"), ("function", .object ([("name", .string wireName),
    ("description", description), ("parameters", parameters)] ++ strict))]

def translateOneTool (tool : List (String × Json)) (nameSpace : Option String) (custom : Bool)
    (t : Translation) : Except String Translation := do
  checkRoom t.1
  let name ← requiredString tool "name"
  checkNameSize name
  checkDescription name tool
  let parameters ← toolParameters name custom tool
  let strict ← toolStrict name custom tool
  let wireName := chatToolName nameSpace name t.1.length t.2.identities
  let description := (Ordered.lookup "description" tool).getD (.string "")
  pure (t.1 ++ [chatTool wireName description parameters strict],
    ⟨t.2.identities.insert wireName ⟨name, nameSpace, custom⟩⟩)

/-- A tool of a namespace. -/
def translateNested (nameSpace : String) (t : Translation) (tool : Json) :
    Except String Translation := do
  checkRoom t.1
  let tool ← orError ("Responses namespace '" ++ nameSpace ++ "' tools must be objects")
    tool.asObject
  let kind ← requiredString tool "type"
  if kind = "function" then translateOneTool tool (some nameSpace) false t
  else if kind = "custom" then translateOneTool tool (some nameSpace) true t
  else .error ("unsupported Responses namespace tool type '" ++ kind ++ "'")

def translateNamespace (tool : List (String × Json)) (t : Translation) :
    Except String Translation := do
  rejectUnknownFields tool ["type", "name", "description", "defer_loading", "tools"]
  let nameSpace ← requiredString tool "name"
  let nested ← orError ("Responses namespace '" ++ nameSpace ++ "' requires tools")
    ((Ordered.lookup "tools" tool).bind Json.asArray)
  nested.foldlM (translateNested nameSpace) t

/-- A tool of the request. -/
def translateTool (t : Translation) (tool : Json) : Except String Translation := do
  let tool ← orError "Responses tools must be objects" tool.asObject
  let kind ← requiredString tool "type"
  if kind = "function" then translateOneTool tool none false t
  else if kind = "custom" then translateOneTool tool none true t
  else if kind = "namespace" then translateNamespace tool t
  else .error ("unsupported Responses tool type '" ++ kind ++
    "'; only function, custom, and namespace tools are supported")

def translateTools (tools : List Json) : Except String Translation :=
  if tools.length ≤ maxTools then tools.foldlM translateTool ([], ⟨IndexMap.empty⟩)
  else .error ("Responses field 'tools' exceeds " ++ maxTools.repr ++ " entries")

/-- The choice of a tool, by the first declared tool of its name and kind. -/
def translateToolChoice (entries : Enumeration) : Json → Except String Json
  | .string choice =>
    if choice = "auto" ∨ choice = "none" ∨ choice = "required" then .ok (.string choice)
    else .error "unsupported Responses field 'tool_choice'"
  | .object choice => do
    rejectUnknownFields choice ["type", "name"]
    let kind ← requiredString choice "type"
    if kind = "function" ∨ kind = "custom" then do
      let name ← requiredString choice "name"
      let identity ← orError
        ("Responses tool_choice references unknown " ++ kind ++ " tool '" ++ name ++ "'")
        ((entries.map Prod.snd).find? fun identity =>
          identity.name = name ∧ identity.custom = decide (kind = "custom"))
      pure (.object [("type", .string "function"), ("function", .object [("name",
        .string ((wireName entries identity.name identity.nameSpace identity.custom).getD name))])])
    else .error ("unsupported Responses tool_choice type '" ++ kind ++ "'")
  | _ => .error "unsupported Responses field 'tool_choice'"

/-! ## Declared tools -/

/-- The text of a field. -/
def textOf (field : String) (value : Json) : String := ((value.get field).bind Json.asStr).getD ""

/-- The tool that an object declares. -/
def declaredTool (nameSpace : Option String) (tool : Json) : ResponsesToolIdentity :=
  ⟨textOf "name" tool, nameSpace, textOf "type" tool = "custom"⟩

/-- The tools that an entry of the request declares, those of a namespace in their order. -/
def declaredTools (tool : Json) : List ResponsesToolIdentity :=
  if textOf "type" tool = "namespace" then
    (((tool.get "tools").bind Json.asArray).getD []).map
      (declaredTool (some (textOf "name" tool)))
  else [declaredTool none tool]

/-- The tools that a request declares. -/
def declared (tools : List Json) : List ResponsesToolIdentity := tools.flatMap declaredTools

/-- The name of a function that is sent upstream. -/
def functionName (tool : Json) : String := textOf "name" ((tool.get "function").getD .null)

/-- The wire names of the tools, in their order. -/
def Translation.wires (t : Translation) : List String := t.1.map functionName

theorem functionName_chatTool (wireName : String) (description parameters : Json)
    (strict : List (String × Json)) :
    functionName (chatTool wireName description parameters strict) = wireName := rfl

/-- A translation whose tools were added one by one. -/
inductive Built : List ResponsesToolIdentity → Translation → Prop
  | nil : Built [] ([], ⟨IndexMap.empty⟩)
  | snoc {ids : List ResponsesToolIdentity} {t : Translation} (id : ResponsesToolIdentity)
      (description parameters : Json) (strict : List (String × Json)) (hbuilt : Built ids t)
      (hname : id.name ≠ "") (hroom : t.1.length < maxTools) :
      Built (ids ++ [id])
        (t.1 ++ [chatTool (chatToolName id.nameSpace id.name t.1.length t.2.identities)
          description parameters strict],
        ⟨t.2.identities.insert (chatToolName id.nameSpace id.name t.1.length t.2.identities) id⟩)

theorem built_translateOneTool {ids : List ResponsesToolIdentity} {t t' : Translation}
    {tool : List (String × Json)} {nameSpace : Option String} {custom : Bool} (hb : Built ids t)
    (h : translateOneTool tool nameSpace custom t = .ok t') :
    Built (ids ++ [⟨textOf "name" (.object tool), nameSpace, custom⟩]) t' := by
  obtain ⟨_, hroom, h⟩ := bind_eq_ok.mp h
  obtain ⟨name, hname, h⟩ := bind_eq_ok.mp h
  obtain ⟨_, -, h⟩ := bind_eq_ok.mp h
  obtain ⟨_, -, h⟩ := bind_eq_ok.mp h
  obtain ⟨parameters, -, h⟩ := bind_eq_ok.mp h
  obtain ⟨strict, -, h⟩ := bind_eq_ok.mp h
  obtain ⟨hlookup, hne⟩ := requiredString_eq_ok.mp hname
  have htext : textOf "name" (.object tool) = name := by
    show ((Ordered.lookup "name" tool).bind Json.asStr).getD "" = name
    rw [hlookup, Option.getD_some]
  rw [htext]
  cases h
  exact hb.snoc ⟨name, nameSpace, custom⟩ _ parameters strict hne (ite_eq_ok.mp hroom).2

/-- The kind of an object that has one. -/
theorem textOf_type {tool : List (String × Json)} {kind : String}
    (h : requiredString tool "type" = .ok kind) : textOf "type" (.object tool) = kind := by
  show ((Ordered.lookup "type" tool).bind Json.asStr).getD "" = kind
  rw [(requiredString_eq_ok.mp h).1, Option.getD_some]

theorem asObject_eq_some {value : Json} {entries : List (String × Json)} :
    value.asObject = some entries ↔ value = .object entries := by
  cases value <;> simp [Json.asObject]

theorem built_translateNested {ids : List ResponsesToolIdentity} {t t' : Translation}
    {nameSpace : String} {tool : Json} (hb : Built ids t)
    (h : translateNested nameSpace t tool = .ok t') :
    Built (ids ++ [declaredTool (some nameSpace) tool]) t' := by
  obtain ⟨_, -, hfound⟩ := bind_eq_ok.mp h
  obtain ⟨object, hobject, hrest⟩ := bind_eq_ok.mp hfound
  obtain rfl := asObject_eq_some.mp (orError_eq_ok.mp hobject)
  obtain ⟨kind, hkind, h⟩ := bind_eq_ok.mp hrest
  rw [declaredTool, textOf_type hkind]
  split at h
  · next hfunction =>
    rw [hfunction]
    exact built_translateOneTool hb h
  · split at h
    · next hcustom =>
      rw [hcustom]
      exact built_translateOneTool hb h
    · cases h

/-- A loop adds what each of its steps adds. -/
theorem built_foldlM {f : Translation → Json → Except String Translation}
    {g : Json → List ResponsesToolIdentity}
    (hf : ∀ {ids t t' tool}, Built ids t → f t tool = .ok t' → Built (ids ++ g tool) t')
    {tools : List Json} {ids : List ResponsesToolIdentity} {t t' : Translation} (hb : Built ids t)
    (h : tools.foldlM f t = .ok t') : Built (ids ++ tools.flatMap g) t' := by
  induction tools generalizing ids t with
  | nil =>
    cases h
    rw [List.flatMap_nil, List.append_nil]
    exact hb
  | cons tool tools ih =>
    rw [List.foldlM_cons] at h
    obtain ⟨t₁, hstep, hrest⟩ := bind_eq_ok.mp h
    rw [List.flatMap_cons, ← List.append_assoc]
    exact ih (hf hb hstep) hrest

theorem built_translateTool {ids : List ResponsesToolIdentity} {t t' : Translation} {tool : Json}
    (hb : Built ids t) (h : translateTool t tool = .ok t') :
    Built (ids ++ declaredTools tool) t' := by
  obtain ⟨object, hobject, hrest⟩ := bind_eq_ok.mp h
  obtain rfl := asObject_eq_some.mp (orError_eq_ok.mp hobject)
  obtain ⟨kind, hkind, h⟩ := bind_eq_ok.mp hrest
  rw [declaredTools, declaredTool, textOf_type hkind]
  split at h
  · next hfunction =>
    rw [hfunction]
    exact built_translateOneTool hb h
  · split at h
    · next hcustom =>
      rw [hcustom]
      exact built_translateOneTool hb h
    · split at h
      · next hnamespace =>
        obtain ⟨_, -, h⟩ := bind_eq_ok.mp h
        obtain ⟨nameSpace, hname, h⟩ := bind_eq_ok.mp h
        obtain ⟨nested, hnested, h⟩ := bind_eq_ok.mp h
        have htext : textOf "name" (.object object) = nameSpace := by
          show ((Ordered.lookup "name" object).bind Json.asStr).getD "" = nameSpace
          rw [(requiredString_eq_ok.mp hname).1, Option.getD_some]
        have htools : ((Json.object object).get "tools").bind Json.asArray = some nested :=
          orError_eq_ok.mp hnested
        rw [if_pos hnamespace, htext, htools, Option.getD_some, List.map_eq_flatMap]
        exact built_foldlM (f := translateNested nameSpace)
          (g := fun tool => [declaredTool (some nameSpace) tool]) built_translateNested hb h
      · cases h

theorem built_translateTools {tools : List Json} {t : Translation}
    (h : translateTools tools = .ok t) : Built (declared tools) t := by
  unfold translateTools at h
  split at h
  · exact built_foldlM (f := translateTool) (g := declaredTools) built_translateTool .nil h
  · cases h

/-! ## Wire names -/

/-- A tool whose name can be its wire name. -/
def ResponsesToolIdentity.Plain (id : ResponsesToolIdentity) : Prop :=
  id.nameSpace.isNone ∧ id.name.utf8ByteSize ≤ 64 ∧ id.name.toList.all isNameChar

instance (id : ResponsesToolIdentity) : Decidable id.Plain := instDecidableAnd

/-- The tools whose wire names are made of their positions: their names are not plain, or are
declared before, or were made for an earlier tool. -/
inductive Renamed (ids : List ResponsesToolIdentity) : ℕ → Prop
  | notPlain {j : ℕ} {id : ResponsesToolIdentity} (hj : ids[j]? = some id) (hplain : ¬ id.Plain) :
      Renamed ids j
  | repeated {i j : ℕ} {id id' : ResponsesToolIdentity} (hlt : i < j) (hi : ids[i]? = some id')
      (hj : ids[j]? = some id) (htop : id'.nameSpace = none) (hname : id'.name = id.name) :
      Renamed ids j
  | generated {i j : ℕ} {id id' : ResponsesToolIdentity} (hlt : i < j) (hi : ids[i]? = some id')
      (hj : ids[j]? = some id) (hrenamed : Renamed ids i)
      (hname : generatedName i id'.name = id.name) : Renamed ids j

/-- A top-level tool whose name is made for a later tool. -/
def Taken (ids : List ResponsesToolIdentity) (i : ℕ) : Prop :=
  ∃ id, ids[i]? = some id ∧ id.nameSpace = none ∧
    ∃ j id', i < j ∧ ids[j]? = some id' ∧ Renamed ids j ∧ id.name = generatedName j id'.name

/-- Wire names as they are given to declared tools. -/
structure Assigned (ids : List ResponsesToolIdentity) (wires : List String) : Prop where
  length : wires.length = ids.length
  wire : ∀ {j id}, ids[j]? = some id → wires[j]? =
    some (if id.Plain ∧ id.name ∉ wires.take j then id.name else generatedName j id.name)

theorem mem_take_iff {α : Type} {l : List α} {j : ℕ} {a : α} :
    a ∈ l.take j ↔ ∃ i, i < j ∧ l[i]? = some a := by
  rw [List.mem_iff_getElem?]
  constructor
  · rintro ⟨i, hi⟩
    rw [List.getElem?_take] at hi
    by_cases hlt : i < j
    · rw [if_pos hlt] at hi
      exact ⟨i, hlt, hi⟩
    · rw [if_neg hlt] at hi
      cases hi
  · rintro ⟨i, hlt, hi⟩
    exact ⟨i, by rw [List.getElem?_take, if_pos hlt, hi]⟩

theorem getElem?_concat_iff {α : Type} {l : List α} {a b : α} {i : ℕ} :
    (l ++ [a])[i]? = some b ↔ l[i]? = some b ∨ i = l.length ∧ b = a := by
  rw [List.getElem?_append]
  by_cases hlt : i < l.length
  · rw [if_pos hlt]
    exact ⟨.inl, fun h => h.elim id fun h => absurd h.1 hlt.ne⟩
  · have hnone : l[i]? = none := List.getElem?_eq_none (Nat.not_lt.mp hlt)
    rw [if_neg hlt, hnone, List.getElem?_singleton]
    by_cases heq : i = l.length
    · simp [heq, eq_comm]
    · have hpos : i - l.length ≠ 0 := by omega
      simp [heq, hpos]

theorem wires_concat (l : List Json) (metadata metadata' : ResponsesToolMetadata)
    (w : String) (description parameters : Json) (strict : List (String × Json)) :
    Translation.wires (l ++ [chatTool w description parameters strict], metadata) =
      Translation.wires (l, metadata') ++ [w] := by
  rw [Translation.wires, List.map_append]
  rfl

namespace Built

variable {ids : List ResponsesToolIdentity} {t : Translation}

theorem length_eq (h : Built ids t) : t.1.length = ids.length := by
  induction h with
  | nil => rfl
  | snoc id description parameters strict hbuilt hname hroom ih =>
    rw [List.length_append, List.length_append, ih]
    rfl

/-- The entries are those of the tools whose wire names are not given again. -/
theorem mem_entries (h : Built ids t) {w : String} {id : ResponsesToolIdentity} :
    (w, id) ∈ t.2.identities.entries ↔
      ∃ i : ℕ, t.wires[i]? = some w ∧ ids[i]? = some id ∧
        ∀ j : ℕ, i < j → t.wires[j]? ≠ some w := by
  induction h with
  | nil => simp [IndexMap.empty, Translation.wires]
  | @snoc ids t id' description parameters strict hbuilt hname hroom ih =>
    have hlength : t.wires.length = ids.length := by
      rw [Translation.wires, List.length_map, hbuilt.length_eq]
    rw [IndexMap.mem_insert, wires_concat]
    generalize chatToolName id'.nameSpace id'.name t.1.length t.2.identities = w'
    constructor
    · rintro (heq | ⟨hold, hne⟩)
      · obtain ⟨rfl, rfl⟩ := Prod.mk.inj heq
        refine ⟨ids.length, getElem?_concat_iff.mpr (.inr ⟨hlength.symm, rfl⟩),
          List.getElem?_concat_length, fun j hj hw => ?_⟩
        have hlt := (List.getElem?_eq_some_iff.mp hw).1
        rw [List.length_append, hlength] at hlt
        exact absurd hlt (Nat.not_lt.mpr hj)
      · obtain ⟨i, hw, hid, hlast⟩ := ih.mp hold
        refine ⟨i, getElem?_concat_iff.mpr (.inl hw), getElem?_concat_iff.mpr (.inl hid),
          fun j hj hw' => ?_⟩
        rcases getElem?_concat_iff.mp hw' with hw' | ⟨-, hw'⟩
        · exact hlast j hj hw'
        · exact hne hw'
    · rintro ⟨i, hw, hid, hlast⟩
      rcases getElem?_concat_iff.mp hid with hid' | ⟨hi, rfl⟩
      · have hlt : i < ids.length := (List.getElem?_eq_some_iff.mp hid').1
        have hne : w ≠ w' := fun heq => hlast ids.length hlt
          (getElem?_concat_iff.mpr (.inr ⟨hlength.symm, heq⟩))
        have hw' : t.wires[i]? = some w := by
          rcases getElem?_concat_iff.mp hw with hw' | ⟨-, hw'⟩
          · exact hw'
          · exact absurd hw' hne
        exact .inr ⟨ih.mpr ⟨i, hw', hid', fun j hj hwj =>
          hlast j hj (getElem?_concat_iff.mpr (.inl hwj))⟩, hne⟩
      · rcases getElem?_concat_iff.mp hw with hw' | ⟨-, rfl⟩
        · have hlt := (List.getElem?_eq_some_iff.mp hw').1
          rw [hlength, hi] at hlt
          exact absurd hlt (Nat.lt_irrefl _)
        · exact .inl rfl

theorem mem_keys (h : Built ids t) {w : String} : w ∈ t.2.identities.keys ↔ w ∈ t.wires := by
  induction h with
  | nil => rfl
  | @snoc ids t id description parameters strict hbuilt hname hroom ih =>
    rw [wires_concat, List.mem_append, List.mem_singleton, ← ih, IndexMap.mem_keys_insert]

theorem assigned (h : Built ids t) : Assigned ids t.wires := by
  induction h with
  | nil => exact ⟨rfl, fun h => absurd h (by simp)⟩
  | @snoc ids t id description parameters strict hbuilt hname hroom ih =>
    have hlength := ih.length
    rw [wires_concat]
    refine ⟨by rw [List.length_append, List.length_append, hlength]; rfl, fun {j id'} hj => ?_⟩
    rcases getElem?_concat_iff.mp hj with hj | ⟨rfl, rfl⟩
    · have hlt : j < t.wires.length := hlength ▸ (List.getElem?_eq_some_iff.mp hj).1
      rw [List.getElem?_append_left hlt, List.take_append_of_le_length hlt.le]
      exact ih.wire hj
    · rw [← hlength, List.getElem?_concat_length, List.take_left, chatToolName]
      refine congrArg some (if_congr ?_ rfl ?_)
      · rw [hbuilt.mem_keys, ResponsesToolIdentity.Plain, and_assoc, and_assoc]
      · rw [Translation.wires, List.length_map]

theorem name_ne_empty (h : Built ids t) : ∀ id ∈ ids, id.name ≠ "" := by
  induction h with
  | nil => exact fun id hid => absurd hid List.not_mem_nil
  | @snoc ids t id description parameters strict hbuilt hname hroom ih =>
    intro id' hid
    rcases List.mem_append.mp hid with hid | hid
    · exact ih id' hid
    · rw [List.mem_singleton.mp hid]
      exact hname

theorem length_le (h : Built ids t) : ids.length ≤ maxTools := by
  cases h with
  | nil => exact Nat.zero_le _
  | @snoc ids t id description parameters strict hbuilt hname hroom =>
    rw [List.length_append, ← hbuilt.length_eq]
    exact hroom

end Built

/-! ## Made names -/

/-- A wire name: 1 to 64 characters of a plain name. -/
def IsWireName (w : String) : Prop :=
  1 ≤ w.length ∧ w.length ≤ 64 ∧ w.toList.all isNameChar

theorem toList_generatedName (index : ℕ) (name : String) :
    (generatedName index name).toList =
      'w' :: 'f' :: '_' ::
        (index.repr.toList ++ '_' :: (name.toList.filter isNameChar).take 48) := by
  simp [generatedName]

theorem isNameChar_le {c : Char} (h : isNameChar c = true) : c.val.toNat ≤ 127 := by
  change ((((decide (c.val ≥ 'A'.val ∧ c.val ≤ 'Z'.val)) ||
    (decide (c.val ≥ 'a'.val) && decide (c.val ≤ 'z'.val))) ||
    (decide (c.val ≥ '0'.val) && decide (c.val ≤ '9'.val))) || decide (c = '_') ||
    decide (c = '-')) = true at h
  simp only [Bool.or_eq_true, Bool.and_eq_true, decide_eq_true_eq, UInt32.le_iff_toNat_le,
    ge_iff_le] at h
  rcases h with (((h | h) | h) | rfl) | rfl
  · exact h.2.trans (by decide)
  · exact h.2.trans (by decide)
  · exact h.2.trans (by decide)
  · decide
  · decide

/-- A plain name has one byte for each character. -/
theorem utf8ByteSize_of_all {name : String} (h : name.toList.all isNameChar = true) :
    name.utf8ByteSize = name.length := by
  have hone : ∀ l : List Char, l.all isNameChar = true → (utf8 l).length = l.length := by
    intro l hl
    induction l with
    | nil => rfl
    | cons c l ih =>
      rw [List.all_cons, Bool.and_eq_true] at hl
      have hascii := isNameChar_le hl.1
      rw [utf8, List.flatMap_cons, List.length_append, List.length_cons, ← ih hl.2,
        String.utf8EncodeChar, if_pos hascii, Nat.add_comm]
      rfl
  rw [← String.ofList_toList (s := name), utf8ByteSize_ofList, hone _ h, String.length_ofList]

/-- Names made of different positions are different. -/
theorem generatedName_inj {i j : ℕ} {name name' : String}
    (h : generatedName i name = generatedName j name') : i = j := by
  have hlist := congrArg String.toList h
  rw [toList_generatedName, toList_generatedName] at hlist
  have hdigits := List.cons.inj (List.cons.inj (List.cons.inj hlist).2).2
  -- the digits end where the next separator is
  have htake : ∀ (n : ℕ) (l : List Char),
      (n.repr.toList ++ '_' :: l).takeWhile (· ≠ '_') = n.repr.toList := by
    intro n l
    rw [List.takeWhile_append_of_pos, List.takeWhile_cons_of_neg, List.append_nil]
    · decide
    · intro c hc
      rw [Nat.toList_repr] at hc
      rw [decide_eq_true_iff]
      exact fun heq => Nat.underscore_not_in_toDigits (heq ▸ hc)
  have hrepr : i.repr = j.repr := by
    rw [← String.toList_inj, ← htake i, hdigits.2, htake]
  have hnat := congrArg Json.natOfText hrepr
  rw [Json.natOfText_repr, Json.natOfText_repr] at hnat
  exact Option.some.inj hnat

theorem isWireName_generatedName {index : ℕ} (h : index < maxTools) (name : String) :
    IsWireName (generatedName index name) := by
  have hdigits : ∀ i < maxTools, i.repr.toList.length ≤ 3 ∧ i.repr.toList.all isNameChar := by
    decide +kernel
  obtain ⟨hlength, hall⟩ := hdigits index h
  have htake : ((name.toList.filter isNameChar).take 48).length ≤ 48 := List.length_take_le _ _
  rw [IsWireName, ← String.length_toList, toList_generatedName]
  refine ⟨?_, ?_, ?_⟩
  · simp
  · simp only [List.length_cons, List.length_append]
    omega
  · simp only [List.all_cons, List.all_append, hall, Bool.true_and, Bool.and_eq_true]
    refine ⟨by decide, by decide, by decide, by decide, List.all_eq_true.mpr fun c hc => ?_⟩
    exact (List.mem_filter.mp (List.mem_of_mem_take hc)).2

theorem plain_of_isWireName {id : ResponsesToolIdentity} (htop : id.nameSpace = none)
    (h : IsWireName id.name) : id.Plain := by
  refine ⟨by rw [htop]; rfl, ?_, h.2.2⟩
  rw [utf8ByteSize_of_all h.2.2]
  exact h.2.1

theorem isWireName_of_plain {id : ResponsesToolIdentity} (hname : id.name ≠ "") (h : id.Plain) :
    IsWireName id.name := by
  have hsize := h.2.1
  rw [utf8ByteSize_of_all h.2.2] at hsize
  refine ⟨Nat.pos_of_ne_zero fun hzero => hname ?_, hsize, h.2.2⟩
  exact String.length_eq_zero_iff.mp hzero

namespace Assigned

variable {ids : List ResponsesToolIdentity} {wires : List String} {i j : ℕ}
  {id id' : ResponsesToolIdentity}

/-- A plain name is given to its tool, or was given before. -/
theorem mem_take_of_plain (h : Assigned ids wires) (hi : ids[i]? = some id) (hplain : id.Plain)
    (hlt : i < j) : id.name ∈ wires.take j := by
  by_cases hnew : id.name ∉ wires.take i
  · have hwire := h.wire hi
    rw [if_pos ⟨hplain, hnew⟩] at hwire
    exact mem_take_iff.mpr ⟨i, hlt, hwire⟩
  · obtain ⟨k, hk, hwire⟩ := mem_take_iff.mp (not_not.mp hnew)
    exact mem_take_iff.mpr ⟨k, hk.trans hlt, hwire⟩

/-- The tools whose names are made are those whose names cannot be used. -/
theorem renamed_iff (h : Assigned ids wires) (hj : ids[j]? = some id) :
    Renamed ids j ↔ ¬ (id.Plain ∧ id.name ∉ wires.take j) := by
  induction j using Nat.strong_induction_on generalizing id with
  | _ j ih =>
    constructor
    · rintro hrenamed ⟨hplain, hnew⟩
      cases hrenamed with
      | notPlain hj' hnot =>
        rw [hj] at hj'
        cases hj'
        exact hnot hplain
      | repeated hlt hi hj' htop hname =>
        rw [hj] at hj'
        cases hj'
        refine hnew ?_
        rw [← hname]
        refine h.mem_take_of_plain hi ⟨by rw [htop]; rfl, ?_⟩ hlt
        rw [hname]
        exact hplain.2
      | @generated i _ _ id' hlt hi hj' hrenamed hname =>
        rw [hj] at hj'
        cases hj'
        have hwire := h.wire hi
        rw [if_neg ((ih i hlt hi).mp hrenamed), hname] at hwire
        exact hnew (mem_take_iff.mpr ⟨i, hlt, hwire⟩)
    · intro hnot
      by_cases hplain : id.Plain
      · have hold : id.name ∈ wires.take j := not_not.mp fun hnew => hnot ⟨hplain, hnew⟩
        obtain ⟨i, hlt, hwire⟩ := mem_take_iff.mp hold
        have hi : i < ids.length := h.length ▸ (List.getElem?_eq_some_iff.mp hwire).1
        have hid := List.getElem?_eq_getElem hi
        have hwire' := h.wire hid
        rw [hwire] at hwire'
        by_cases hdirect : (ids[i]).Plain ∧ (ids[i]).name ∉ wires.take i
        · rw [if_pos hdirect] at hwire'
          exact .repeated hlt hid hj (Option.isNone_iff_eq_none.mp hdirect.1.1)
            (Option.some.inj hwire').symm
        · rw [if_neg hdirect] at hwire'
          exact .generated hlt hid hj ((ih i hlt hid).mpr hdirect) (Option.some.inj hwire').symm
      · exact .notPlain hj hplain

theorem wire_renamed (h : Assigned ids wires) (hj : ids[j]? = some id) (hrenamed : Renamed ids j) :
    wires[j]? = some (generatedName j id.name) := by
  rw [h.wire hj, if_neg ((h.renamed_iff hj).mp hrenamed)]

theorem wire_kept (h : Assigned ids wires) (hj : ids[j]? = some id) (hkept : ¬ Renamed ids j) :
    (id.Plain ∧ id.name ∉ wires.take j) ∧ wires[j]? = some id.name := by
  have hdirect : id.Plain ∧ id.name ∉ wires.take j :=
    not_not.mp fun hnot => hkept ((h.renamed_iff hj).mpr hnot)
  exact ⟨hdirect, by rw [h.wire hj, if_pos hdirect]⟩

/-- A wire name is given again exactly when it is the name of a tool that is kept and the name
that is made for the later tool. -/
theorem wire_eq_iff (h : Assigned ids wires) (hlt : i < j) (hi : ids[i]? = some id)
    (hj : ids[j]? = some id') :
    wires[i]? = wires[j]? ↔
      ¬ Renamed ids i ∧ Renamed ids j ∧ id.name = generatedName j id'.name := by
  constructor
  · intro heq
    by_cases hrenamed : Renamed ids j
    · rw [h.wire_renamed hj hrenamed] at heq
      by_cases hrenamed' : Renamed ids i
      · rw [h.wire_renamed hi hrenamed'] at heq
        exact absurd (generatedName_inj (Option.some.inj heq)) hlt.ne
      · rw [(h.wire_kept hi hrenamed').2] at heq
        exact ⟨hrenamed', hrenamed, Option.some.inj heq⟩
    · obtain ⟨⟨-, hnew⟩, hwire⟩ := h.wire_kept hj hrenamed
      rw [hwire] at heq
      exact absurd (mem_take_iff.mpr ⟨i, hlt, heq⟩) hnew
  · rintro ⟨hkept, hrenamed, hname⟩
    rw [h.wire_renamed hj hrenamed, (h.wire_kept hi hkept).2, hname]

theorem nodup_iff (h : Assigned ids wires) (hroom : ids.length ≤ maxTools) :
    wires.Nodup ↔ ∀ i, ¬ Taken ids i := by
  constructor
  · rintro hnodup i ⟨id, hi, htop, j, id', hlt, hj, hrenamed, hname⟩
    have hjlt : j < maxTools := ((List.getElem?_eq_some_iff.mp hj).1).trans_le hroom
    -- the made name is plain, so it was given to the earlier tool or before it
    have hplain : id.Plain := by
      refine plain_of_isWireName htop ?_
      rw [hname]
      exact isWireName_generatedName hjlt _
    obtain ⟨k, hk, hwire⟩ := mem_take_iff.mp (h.mem_take_of_plain hi hplain hlt)
    have hwire' := h.wire_renamed hj hrenamed
    rw [← hname, ← hwire] at hwire'
    obtain ⟨hkl, -⟩ := List.getElem?_eq_some_iff.mp hwire
    exact hk.ne ((List.getElem?_inj hkl hnodup).mp hwire'.symm)
  · intro hfree
    rw [List.nodup_iff_getElem?_ne_getElem?]
    intro i j hlt hjl heq
    rw [h.length] at hjl
    have hi := List.getElem?_eq_getElem (hlt.trans hjl)
    have hj := List.getElem?_eq_getElem hjl
    obtain ⟨hkept, hrenamed, hname⟩ := (h.wire_eq_iff hlt hi hj).mp heq
    have htop := (h.wire_kept hi hkept).1.1.1
    exact hfree i ⟨_, hi, Option.isNone_iff_eq_none.mp htop, j, _, hlt, hj, hrenamed, hname⟩

theorem isWireName (h : Assigned ids wires) (hroom : ids.length ≤ maxTools)
    (hname : ∀ id ∈ ids, id.name ≠ "") : ∀ w ∈ wires, IsWireName w := by
  intro w hw
  obtain ⟨j, hwire⟩ := List.mem_iff_getElem?.mp hw
  have hj : j < ids.length := h.length ▸ (List.getElem?_eq_some_iff.mp hwire).1
  have hid := List.getElem?_eq_getElem hj
  by_cases hrenamed : Renamed ids j
  · rw [h.wire_renamed hid hrenamed] at hwire
    rw [← Option.some.inj hwire]
    exact isWireName_generatedName (hj.trans_le hroom) _
  · obtain ⟨⟨hplain, -⟩, hkept⟩ := h.wire_kept hid hrenamed
    rw [hkept] at hwire
    rw [← Option.some.inj hwire]
    exact isWireName_of_plain (hname _ (List.getElem_mem hj)) hplain

end Assigned

/-! ## Resolution -/

/-- A search in which all that is found agrees does not depend on the order. -/
theorem findSome?_eq_of_mem {α β : Type} {f : α → Option β} {l : List α} {a : α} {b : β}
    (ha : a ∈ l) (hf : f a = some b) (hall : ∀ a ∈ l, ∀ b', f a = some b' → b' = b) :
    l.findSome? f = some b := by
  cases hfound : l.findSome? f with
  | none => exact absurd (List.findSome?_eq_none_iff.mp hfound a ha) (by simp [hf])
  | some b' =>
    obtain ⟨a', ha', hf'⟩ := List.exists_of_findSome?_eq_some hfound
    rw [hall a' ha' b' hf']

/-- What it means that the names of tools survive the wire. -/
structure NamesSurvive (ids : List ResponsesToolIdentity) (t : Translation) : Prop where
  length : t.wires.length = ids.length
  distinct : t.wires.Nodup
  wellFormed : ∀ w ∈ t.wires, IsWireName w
  identity : ∀ (i : ℕ) w id, t.wires[i]? = some w → ids[i]? = some id → t.2.identity w = id
  wireName : ids.Nodup → ∀ (i : ℕ) w id, t.wires[i]? = some w → ids[i]? = some id →
    ∀ entries, t.2.Enumerates entries →
      wireName entries id.name id.nameSpace id.custom = some w

namespace Built

variable {ids : List ResponsesToolIdentity} {t : Translation}

theorem mem_entries_of_nodup (h : Built ids t) (hnodup : t.wires.Nodup) {w : String}
    {id : ResponsesToolIdentity} :
    (w, id) ∈ t.2.identities.entries ↔ ∃ i : ℕ, t.wires[i]? = some w ∧ ids[i]? = some id := by
  rw [h.mem_entries]
  constructor
  · rintro ⟨i, hw, hid, -⟩
    exact ⟨i, hw, hid⟩
  · rintro ⟨i, hw, hid⟩
    refine ⟨i, hw, hid, fun j hlt hw' => ?_⟩
    obtain ⟨hi, -⟩ := List.getElem?_eq_some_iff.mp hw
    exact hlt.ne ((List.getElem?_inj hi hnodup).mp (hw.trans hw'.symm))

theorem namesSurvive_iff (h : Built ids t) : NamesSurvive ids t ↔ ∀ i, ¬ Taken ids i := by
  rw [← h.assigned.nodup_iff h.length_le]
  refine ⟨NamesSurvive.distinct, fun hnodup => ⟨h.assigned.length, hnodup,
    h.assigned.isWireName h.length_le h.name_ne_empty, ?_, ?_⟩⟩
  · intro i w id hw hid
    have hmem := (h.mem_entries_of_nodup hnodup).mpr ⟨i, hw, hid⟩
    rw [ResponsesToolMetadata.identity, IndexMap.get_eq_some_iff.mpr hmem, Option.getD_some]
  · intro hids i w id hw hid entries hentries
    have hmem : (w, id) ∈ entries :=
      hentries.mem_iff.mpr ((h.mem_entries_of_nodup hnodup).mpr ⟨i, hw, hid⟩)
    refine findSome?_eq_of_mem hmem (if_pos ⟨rfl, rfl, rfl⟩) ?_
    intro e he w' hw'
    obtain ⟨w₁, id₁⟩ := e
    by_cases hsame : id₁.name = id.name ∧ id₁.nameSpace = id.nameSpace ∧ id₁.custom = id.custom
    · rw [if_pos hsame] at hw'
      obtain ⟨k, hwk, hidk⟩ := (h.mem_entries_of_nodup hnodup).mp (hentries.mem_iff.mp he)
      have hid₁ : id₁ = id := by
        cases id₁
        cases id
        obtain ⟨rfl, rfl, rfl⟩ := hsame
        rfl
      obtain ⟨hlt, -⟩ := List.getElem?_eq_some_iff.mp hidk
      have hki : k = i := (List.getElem?_inj hlt hids).mp (by rw [hidk, hid, hid₁])
      rw [hki, hw] at hwk
      rw [← Option.some.inj hw', Option.some.inj hwk]
    · rw [if_neg hsame] at hw'
      cases hw'

end Built

/-- The names of the tools of an accepted list survive the wire exactly when no top-level tool has
the name that is made for a later one. -/
theorem survive_iff {tools : List Json} {t : Translation} (h : translateTools tools = .ok t) :
    NamesSurvive (declared tools) t ↔ ∀ i, ¬ Taken (declared tools) i :=
  (built_translateTools h).namesSurvive_iff

/-- A function without parameters. -/
def functionTool (name : String) : Json :=
  .object [("type", .string "function"), ("name", .string name), ("parameters", .object [])]

def namespaceTool (name : String) (tools : List Json) : Json :=
  .object [("type", .string "namespace"), ("name", .string name), ("tools", .array tools)]

/-- The names of two functions survive, one of them after it was made. -/
theorem survive_two_functions :
    ∃ t, translateTools [functionTool "read", functionTool "a b"] = .ok t ∧
      t.wires = ["read", "wf_1_ab"] ∧
        NamesSurvive (declared [functionTool "read", functionTool "a b"]) t := by
  refine ⟨_, rfl, rfl, (survive_iff rfl).mpr ?_⟩
  rintro i ⟨id, hi, -, j, id', hlt, hj, -, hname⟩
  have hids : declared [functionTool "read", functionTool "a b"] =
    [⟨"read", none, false⟩, ⟨"a b", none, false⟩] := rfl
  rw [hids] at hi hj
  have hj2 : j < 2 := (List.getElem?_eq_some_iff.mp hj).1
  obtain ⟨rfl, rfl⟩ : i = 0 ∧ j = 1 := by omega
  cases hi
  cases hj
  exact absurd hname (by decide)

/-- The name that is made for the tool of a namespace is the name of an earlier tool, and both
have the same wire name. -/
theorem made_name_is_taken :
    ∃ t, translateTools [functionTool "wf_1_a", namespaceTool "n" [functionTool "a"]] = .ok t ∧
      t.wires = ["wf_1_a", "wf_1_a"] ∧ t.2.identity "wf_1_a" = ⟨"a", some "n", false⟩ ∧
        ¬ NamesSurvive
          (declared [functionTool "wf_1_a", namespaceTool "n" [functionTool "a"]]) t := by
  refine ⟨_, rfl, rfl, rfl, fun h => ?_⟩
  have hnodup := h.distinct
  exact absurd hnodup (by decide)

/-! ## The order of the scan -/

/-- A search in which all that is found agrees does not depend on the order. -/
theorem findSome?_eq_of_perm {α β : Type} {f : α → Option β} {l l' : List α} (hperm : l.Perm l')
    (hall : ∀ a ∈ l, ∀ a' ∈ l, ∀ b b', f a = some b → f a' = some b' → b = b') :
    l.findSome? f = l'.findSome? f := by
  cases hl : l.findSome? f with
  | none =>
    refine (List.findSome?_eq_none_iff.mpr fun a ha => ?_).symm
    exact List.findSome?_eq_none_iff.mp hl a (hperm.mem_iff.mpr ha)
  | some b =>
    obtain ⟨a, ha, hf⟩ := List.exists_of_findSome?_eq_some hl
    refine (findSome?_eq_of_mem (hperm.mem_iff.mp ha) hf fun a' ha' b' hf' => ?_).symm
    exact hall a' (hperm.mem_iff.mpr ha') a ha b' b hf' hf

/-- The entries are told apart by the name and the kind of their tools. -/
def Distinguished (entries : Enumeration) : Prop :=
  ∀ e ∈ entries, ∀ e' ∈ entries, e.2.name = e'.2.name → e.2.custom = e'.2.custom → e = e'

theorem wireName_eq_of_perm {entries entries' : Enumeration} (hperm : entries.Perm entries')
    (h : Distinguished entries) (name : String) (nameSpace : Option String) (custom : Bool) :
    wireName entries name nameSpace custom = wireName entries' name nameSpace custom := by
  refine findSome?_eq_of_perm hperm fun e he e' he' w w' hw hw' => ?_
  rw [Option.ite_none_right_eq_some] at hw hw'
  obtain ⟨⟨hname, -, hcustom⟩, hw⟩ := hw
  obtain ⟨⟨hname', -, hcustom'⟩, hw'⟩ := hw'
  have heq := h e he e' he' (hname.trans hname'.symm) (hcustom.trans hcustom'.symm)
  rw [← Option.some.inj hw, ← Option.some.inj hw', heq]

theorem find?_eq_of_perm {entries entries' : Enumeration} (hperm : entries.Perm entries')
    (h : Distinguished entries) (name : String) (custom : Bool) :
    ((entries.map Prod.snd).find? fun identity => identity.name = name ∧ identity.custom = custom) =
      (entries'.map Prod.snd).find? fun identity =>
        identity.name = name ∧ identity.custom = custom := by
  rw [← List.findSome?_guard, ← List.findSome?_guard]
  refine findSome?_eq_of_perm (hperm.map _) fun id hid id' hid' b b' hb hb' => ?_
  rw [Option.guard_eq_some_iff, decide_eq_true_iff] at hb hb'
  obtain ⟨rfl, hname, hcustom⟩ := hb
  obtain ⟨rfl, hname', hcustom'⟩ := hb'
  obtain ⟨e, he, rfl⟩ := List.mem_map.mp hid
  obtain ⟨e', he', rfl⟩ := List.mem_map.mp hid'
  rw [h e he e' he' (hname.trans hname'.symm) (hcustom.trans hcustom'.symm)]

theorem translateToolChoice_eq_of_perm {entries entries' : Enumeration}
    (hperm : entries.Perm entries') (h : Distinguished entries) (choice : Json) :
    translateToolChoice entries choice = translateToolChoice entries' choice := by
  cases choice with
  | object choice =>
    simp only [translateToolChoice, find?_eq_of_perm hperm h, wireName_eq_of_perm hperm h]
  | _ => rfl

def kindOf (custom : Bool) : String := if custom then "custom" else "function"

/-- The choice of a tool by its name and kind. -/
def namedChoice (name : String) (custom : Bool) : Json :=
  .object [("type", .string (kindOf custom)), ("name", .string name)]

/-- A choice names the first tool of its name and kind. -/
theorem translateToolChoice_cons {w : String} {id : ResponsesToolIdentity} (hname : id.name ≠ "")
    (entries : Enumeration) :
    translateToolChoice ((w, id) :: entries) (namedChoice id.name id.custom) =
      .ok (.object [("type", .string "function"),
        ("function", .object [("name", .string w)])]) := by
  have hwire : wireName ((w, id) :: entries) id.name id.nameSpace id.custom = some w := by
    rw [wireName, List.findSome?_cons, if_pos ⟨rfl, rfl, rfl⟩]
  have hfound : ((((w, id) :: entries).map Prod.snd).find? fun identity =>
      identity.name = id.name ∧ identity.custom = id.custom) = some id := by
    rw [List.map_cons, List.find?_cons_of_pos (by simp)]
  have hkind : ∀ custom : Bool, requiredString [("type", .string (kindOf custom)),
      ("name", .string id.name)] "type" = .ok (kindOf custom) := by
    intro custom
    cases custom with
    | false => rfl
    | true => rfl
  have hrequired : ∀ custom : Bool, requiredString [("type", .string (kindOf custom)),
      ("name", .string id.name)] "name" = .ok id.name :=
    fun _ => requiredString_eq_ok.mpr ⟨rfl, hname⟩
  have hknown : ∀ custom : Bool, rejectUnknownFields [("type", .string (kindOf custom)),
      ("name", .string id.name)] ["type", "name"] = .ok () := fun _ => rfl
  have hcustom : decide (kindOf id.custom = "custom") = id.custom := by
    cases id.custom with
    | false => rfl
    | true => rfl
  have hor : kindOf id.custom = "function" ∨ kindOf id.custom = "custom" := by
    cases id.custom with
    | false => exact .inl rfl
    | true => exact .inr rfl
  simp only [namedChoice, translateToolChoice, hknown, hkind, hrequired, bind, Except.bind,
    if_pos hor, hcustom, hfound, orError, hwire, Option.getD_some, pure, Except.pure]

/-- A tool that is kept and whose name is made for a later one, so that its entry is lost. -/
def Lost (ids : List ResponsesToolIdentity) (i : ℕ) : Prop := Taken ids i ∧ ¬ Renamed ids i

theorem Assigned.lost_iff {ids : List ResponsesToolIdentity} {wires : List String}
    (h : Assigned ids wires) {i : ℕ} {w : String} {id : ResponsesToolIdentity}
    (hw : wires[i]? = some w) (hi : ids[i]? = some id) :
    Lost ids i ↔ ∃ j, i < j ∧ wires[j]? = some w := by
  constructor
  · rintro ⟨⟨id₁, hi₁, -, j, id', hlt, hj, hrenamed, hname⟩, hkept⟩
    rw [hi₁] at hi
    cases hi
    exact ⟨j, hlt, ((h.wire_eq_iff hlt hi₁ hj).mpr ⟨hkept, hrenamed, hname⟩).symm.trans hw⟩
  · rintro ⟨j, hlt, hw'⟩
    have hjl : j < ids.length := h.length ▸ (List.getElem?_eq_some_iff.mp hw').1
    have hj := List.getElem?_eq_getElem hjl
    obtain ⟨hkept, hrenamed, hname⟩ := (h.wire_eq_iff hlt hi hj).mp (hw.trans hw'.symm)
    have htop := Option.isNone_iff_eq_none.mp (h.wire_kept hi hkept).1.1.1
    exact ⟨⟨id, hi, htop, j, _, hlt, hj, hrenamed, hname⟩, hkept⟩

namespace Built

variable {ids : List ResponsesToolIdentity} {t : Translation}

/-- The entries are those of the tools that are not lost. -/
theorem mem_entries_iff_lost (h : Built ids t) {w : String} {id : ResponsesToolIdentity} :
    (w, id) ∈ t.2.identities.entries ↔
      ∃ i : ℕ, t.wires[i]? = some w ∧ ids[i]? = some id ∧ ¬ Lost ids i := by
  rw [h.mem_entries]
  refine exists_congr fun i => and_congr_right fun hw => and_congr_right fun hid => ?_
  rw [h.assigned.lost_iff hw hid, not_exists]
  exact forall_congr' fun j => not_and.symm

theorem distinguished_iff (h : Built ids t) :
    Distinguished t.2.identities.entries ↔
      ∀ (i j : ℕ) (id id' : ResponsesToolIdentity), i < j → ids[i]? = some id →
        ids[j]? = some id' → ¬ Lost ids i → ¬ Lost ids j →
          ¬ (id.name = id'.name ∧ id.custom = id'.custom) := by
  have hlength := h.assigned.length
  have hentry : ∀ {i : ℕ} {id}, ids[i]? = some id → ∃ w, t.wires[i]? = some w := by
    intro i id hid
    have hlt : i < t.wires.length := hlength ▸ (List.getElem?_eq_some_iff.mp hid).1
    exact ⟨_, List.getElem?_eq_getElem hlt⟩
  constructor
  · rintro hdist i j id id' hlt hi hj hkept hkept' ⟨hname, hcustom⟩
    obtain ⟨w, hw⟩ := hentry hi
    obtain ⟨w', hw'⟩ := hentry hj
    have heq := hdist (w, id) (h.mem_entries_iff_lost.mpr ⟨i, hw, hi, hkept⟩) (w', id')
      (h.mem_entries_iff_lost.mpr ⟨j, hw', hj, hkept'⟩) hname hcustom
    rw [← (Prod.mk.inj heq).1] at hw'
    exact hkept ((h.assigned.lost_iff hw hi).mpr ⟨j, hlt, hw'⟩)
  · rintro hcond ⟨w, id⟩ he ⟨w', id'⟩ he' hname hcustom
    obtain ⟨i, hw, hi, hkept⟩ := h.mem_entries_iff_lost.mp he
    obtain ⟨j, hw', hj, hkept'⟩ := h.mem_entries_iff_lost.mp he'
    rcases Nat.lt_trichotomy i j with hlt | rfl | hlt
    · exact absurd ⟨hname, hcustom⟩ (hcond i j id id' hlt hi hj hkept hkept')
    · rw [Option.some.inj (hw.symm.trans hw'), Option.some.inj (hi.symm.trans hj)]
    · exact absurd ⟨hname.symm, hcustom.symm⟩ (hcond j i id' id hlt hj hi hkept' hkept)

theorem mem_ids (h : Built ids t) {e : String × ResponsesToolIdentity}
    (he : e ∈ t.2.identities.entries) : e.2 ∈ ids := by
  obtain ⟨i, -, hid, -⟩ := h.mem_entries.mp he
  exact List.mem_of_getElem? hid

end Built

/-- The results do not depend on the order in which the identities are enumerated. -/
def OrderIndependent (metadata : ResponsesToolMetadata) : Prop :=
  (∀ choice entries entries', metadata.Enumerates entries → metadata.Enumerates entries' →
    translateToolChoice entries choice = translateToolChoice entries' choice) ∧
  ∀ name nameSpace custom entries entries', metadata.Enumerates entries →
    metadata.Enumerates entries' →
      wireName entries name nameSpace custom = wireName entries' name nameSpace custom

theorem Built.orderIndependent_iff {ids : List ResponsesToolIdentity} {t : Translation}
    (h : Built ids t) : OrderIndependent t.2 ↔ Distinguished t.2.identities.entries := by
  constructor
  · rintro ⟨hchoice, -⟩ e he e' he' hname hcustom
    have hfirst := fun {e : String × ResponsesToolIdentity} (he : e ∈ t.2.identities.entries) =>
      translateToolChoice_cons (w := e.1) (h.name_ne_empty e.2 (h.mem_ids he))
        (t.2.identities.entries.erase e)
    have heq := hchoice (namedChoice e.2.name e.2.custom) _ _ (List.perm_cons_erase he).symm
      (List.perm_cons_erase he').symm
    have hother := hfirst he'
    rw [← hname, ← hcustom] at hother
    have hwire := (hfirst he).symm.trans (heq.trans hother)
    have hw : e.1 = e'.1 := by simpa using hwire
    exact List.inj_on_of_nodup_map t.2.identities.nodup he he' hw
  · intro hdist
    have hdist' : ∀ entries, t.2.Enumerates entries → Distinguished entries :=
      fun entries hperm e he e' he' =>
        hdist e (hperm.mem_iff.mp he) e' (hperm.mem_iff.mp he')
    exact ⟨fun choice entries entries' hperm hperm' => translateToolChoice_eq_of_perm
        (hperm.trans hperm'.symm) (hdist' entries hperm) choice,
      fun name nameSpace custom entries entries' hperm hperm' => wireName_eq_of_perm
        (hperm.trans hperm'.symm) (hdist' entries hperm) name nameSpace custom⟩

/-- The tools of an accepted list are resolved in the same way for each order of the identities
exactly when no two of them that are not lost have the same name and kind. -/
theorem enumeration_iff {tools : List Json} {t : Translation} (h : translateTools tools = .ok t) :
    OrderIndependent t.2 ↔
      ∀ (i j : ℕ) (id id' : ResponsesToolIdentity), i < j → (declared tools)[i]? = some id →
        (declared tools)[j]? = some id' → ¬ Lost (declared tools) i → ¬ Lost (declared tools) j →
          ¬ (id.name = id'.name ∧ id.custom = id'.custom) := by
  have hbuilt := built_translateTools h
  rw [hbuilt.orderIndependent_iff, hbuilt.distinguished_iff]

/-- The functions of two namespaces with different names are resolved in one way. -/
theorem enumeration_two_namespaces :
    ∃ t, translateTools [namespaceTool "m" [functionTool "get"],
        namespaceTool "n" [functionTool "put"]] = .ok t ∧ OrderIndependent t.2 := by
  refine ⟨_, rfl, (@enumeration_iff [namespaceTool "m" [functionTool "get"],
    namespaceTool "n" [functionTool "put"]] _ rfl).mpr ?_⟩
  rintro i j id id' hlt hi hj - - ⟨hname, -⟩
  have hids : declared [namespaceTool "m" [functionTool "get"],
      namespaceTool "n" [functionTool "put"]] =
    [⟨"get", some "m", false⟩, ⟨"put", some "n", false⟩] := rfl
  rw [hids] at hi hj
  have hj2 : j < 2 := (List.getElem?_eq_some_iff.mp hj).1
  obtain ⟨rfl, rfl⟩ : i = 0 ∧ j = 1 := by omega
  cases hi
  cases hj
  exact absurd hname (by decide)

/-- A function that two namespaces have: a choice of it is a choice of the one that is enumerated
first. -/
theorem choice_depends_on_enumeration :
    ∃ t, translateTools [namespaceTool "m" [functionTool "get"],
        namespaceTool "n" [functionTool "get"]] = .ok t ∧
      t.2.identities.entries = [("wf_0_get", ⟨"get", some "m", false⟩),
        ("wf_1_get", ⟨"get", some "n", false⟩)] ∧
      ¬ OrderIndependent t.2 := by
  obtain ⟨t, ht, hentries⟩ : ∃ t, translateTools [namespaceTool "m" [functionTool "get"],
      namespaceTool "n" [functionTool "get"]] = .ok t ∧
    t.2.identities.entries = [("wf_0_get", ⟨"get", some "m", false⟩),
      ("wf_1_get", ⟨"get", some "n", false⟩)] := ⟨_, rfl, rfl⟩
  refine ⟨t, ht, hentries, fun h => ?_⟩
  have hchoice := h.1 (namedChoice "get" false) _ _ (List.Perm.of_eq hentries.symm)
    ((List.Perm.swap _ _ _).trans (List.Perm.of_eq hentries.symm))
  have hfirst := @translateToolChoice_cons "wf_0_get" ⟨"get", some "m", false⟩ (by decide)
    [("wf_1_get", ⟨"get", some "n", false⟩)]
  have hsecond := @translateToolChoice_cons "wf_1_get" ⟨"get", some "n", false⟩ (by decide)
    [("wf_0_get", ⟨"get", some "m", false⟩)]
  have hwire := hfirst.symm.trans (hchoice.trans hsecond)
  simp at hwire

end WayfinderRouter.Responses
