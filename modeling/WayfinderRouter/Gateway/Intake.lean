import WayfinderRouter.Gateway.Planning

/-!
# What a chat request asks for

Before a request is routed its body is read: content that is not text is refused, and a directive
at the start of the last message of the user is taken out of it.

## Main definitions

- `unsupportedTextSurface` — the check of a body
- `TextOnly` — a body without other content, in terms of its parts
- `resolveSlashDirective` — the directive of the messages
- `Directive` — a text that starts with a directive

## Main results

- `surface_exact` — which bodies pass the check, and what a refusal names
- `slash_exact` — which messages have a directive, and what is left of them
-/

namespace WayfinderRouter.Gateway.Intake

open Config (RoutingConfig)
open CacheKey (WellFormed)

/-! ## Content that is not text -/

/-- `MAX_SCAN_DEPTH`. -/
def maxScanDepth : ℕ := 64

/-- The fields of a body that is not a text request. -/
def surfaceFields : List String :=
  ["input", "images", "image", "image_url", "audio", "input_audio", "audio_url", "modalities",
    "audio_config", "voice", "format", "batch", "batch_id", "file_id", "input_file", "files"]

/-- The fields of a part of a message that is not text. -/
def nestedFields : List String :=
  ["image_url", "input_image", "image", "input_audio", "audio", "audio_url", "input_file", "file",
    "file_id"]

def unsupportedField (field : String) : String :=
  "unsupported modality field '" ++ field ++ "'; this gateway build exposes text execution only"

def nestedTooDeep : String :=
  "request nesting exceeds the modality validation depth of " ++ toString maxScanDepth

/-- The first of some fields that a value has. -/
def findField (fields : List String) (value : Json) : Option String :=
  fields.find? fun field => (value.get field).isSome

mutual

/-- `find_nested_modality`. -/
def findNestedModality (depth : ℕ) : Json → Option String
  | .array values =>
    if maxScanDepth ≤ depth then some nestedTooDeep else findInValues (depth + 1) values
  | .object entries =>
    if maxScanDepth ≤ depth then some nestedTooDeep
    else ((findField nestedFields (.object entries)).map unsupportedField).or
      (findInEntries (depth + 1) entries)
  | _ => if maxScanDepth ≤ depth then some nestedTooDeep else none

def findInValues (depth : ℕ) : List Json → Option String
  | [] => none
  | value :: values => (findNestedModality depth value).or (findInValues depth values)

def findInEntries (depth : ℕ) : List (String × Json) → Option String
  | [] => none
  | (_, value) :: entries => (findNestedModality depth value).or (findInEntries depth entries)

end

/-- `unsupported_text_surface`. -/
def unsupportedTextSurface (body : IndexMap Json) : Option String :=
  ((findField surfaceFields (.object body.entries)).map unsupportedField).or
    (((Json.object body.entries).get "messages").bind (findNestedModality 0))

/-- The values within a value, with their depths. -/
inductive Within : Json → ℕ → Json → Prop where
  | self (value : Json) : Within value 0 value
  | element {values : List Json} {value found : Json} {n : ℕ} (hmem : value ∈ values)
    (h : Within value n found) : Within (.array values) (n + 1) found
  | member {entries : List (String × Json)} {e : String × Json} {found : Json} {n : ℕ}
    (hmem : e ∈ entries) (h : Within e.2 n found) : Within (.object entries) (n + 1) found

/-- A body that is a text request: neither it nor anything within its messages has a field of
another kind, and its messages are not nested too deeply. -/
structure TextOnly (body : IndexMap Json) : Prop where
  surface : ∀ field ∈ surfaceFields, (Json.object body.entries).get field = none
  nested : ∀ messages ∈ (Json.object body.entries).get "messages", ∀ n found,
    Within messages n found → ∀ field ∈ nestedFields, found.get field = none
  shallow : ∀ messages ∈ (Json.object body.entries).get "messages", ∀ n found,
    Within messages n found → n < maxScanDepth

section Scan

theorem findField_eq_none {fields : List String} {value : Json} :
    findField fields value = none ↔ ∀ field ∈ fields, value.get field = none := by
  rw [findField, List.find?_eq_none]
  simp only [Bool.not_eq_true, Option.isSome_eq_false_iff, Option.isNone_iff_eq_none]

theorem of_findField {fields : List String} {value : Json} {field : String}
    (h : findField fields value = some field) :
    field ∈ fields ∧ (value.get field).isSome := by
  rw [findField] at h
  exact ⟨List.mem_of_find?_eq_some h, List.find?_some (p := fun f => (value.get f).isSome) h⟩

theorem findInValues_eq (depth : ℕ) (values : List Json) :
    findInValues depth values = values.findSome? (findNestedModality depth) := by
  induction values with
  | nil => rfl
  | cons value values ih =>
    rw [findInValues, ih, List.findSome?_cons]
    cases findNestedModality depth value <;> rfl

theorem findInEntries_eq (depth : ℕ) (entries : List (String × Json)) :
    findInEntries depth entries = entries.findSome? fun e => findNestedModality depth e.2 := by
  induction entries with
  | nil => rfl
  | cons e entries ih =>
    rw [findInEntries, ih, List.findSome?_cons]
    cases findNestedModality depth e.2 <;> rfl

/-- What a scan has found, or that there was nothing to find. -/
def Found (depth : ℕ) (value : Json) : Option String → Prop
  | none => ∀ n found, Within value n found →
      depth + n < maxScanDepth ∧ ∀ field ∈ nestedFields, found.get field = none
  | some message => (message = nestedTooDeep ∧
        ∃ n found, Within value n found ∧ maxScanDepth ≤ depth + n) ∨
      ∃ n found field, Within value n found ∧ field ∈ nestedFields ∧ (found.get field).isSome ∧
        message = unsupportedField field

theorem found_tooDeep {depth : ℕ} (h : maxScanDepth ≤ depth) (value : Json) :
    Found depth value (some nestedTooDeep) :=
  .inl ⟨rfl, 0, value, .self value, h⟩

/-- What was found within a part was found within the whole. -/
theorem Found.lift {depth : ℕ} {value part : Json} {message : String}
    (hpart : ∀ n found, Within part n found → Within value (n + 1) found)
    (h : Found (depth + 1) part (some message)) : Found depth value (some message) := by
  rcases h with ⟨rfl, n, found, hwithin, hdeep⟩ | ⟨n, found, field, hwithin, hfield⟩
  · exact .inl ⟨rfl, n + 1, found, hpart n found hwithin, by omega⟩
  · exact .inr ⟨n + 1, found, field, hpart n found hwithin, hfield⟩

theorem found_leaf {depth : ℕ} {value : Json} (hwithin : ∀ n found, Within value n found →
      n = 0 ∧ found = value) (hget : ∀ field, value.get field = none) :
    Found depth value (if maxScanDepth ≤ depth then some nestedTooDeep else none) := by
  split_ifs with hdeep
  · exact found_tooDeep hdeep value
  · intro n found h
    obtain ⟨rfl, rfl⟩ := hwithin n found h
    exact ⟨by omega, fun field _ => hget field⟩

/-- A scan finds the first thing that is not text, and passes only what has nothing of that kind. -/
theorem found_findNestedModality (value : Json) : ∀ depth,
    Found depth value (findNestedModality depth value) := by
  induction value using Json.induct with
  | null => exact fun depth => found_leaf (fun _ _ h => by cases h; exact ⟨rfl, rfl⟩) fun _ => rfl
  | bool value =>
    exact fun depth => found_leaf (fun _ _ h => by cases h; exact ⟨rfl, rfl⟩) fun _ => rfl
  | number text =>
    exact fun depth => found_leaf (fun _ _ h => by cases h; exact ⟨rfl, rfl⟩) fun _ => rfl
  | string value =>
    exact fun depth => found_leaf (fun _ _ h => by cases h; exact ⟨rfl, rfl⟩) fun _ => rfl
  | array values ih =>
    intro depth
    rw [findNestedModality, findInValues_eq]
    split_ifs with hdeep
    · exact found_tooDeep hdeep _
    · cases hfind : values.findSome? (findNestedModality (depth + 1)) with
      | none =>
        rw [List.findSome?_eq_none_iff] at hfind
        -- the array has no fields itself
        intro n found h
        cases h with
        | self => exact ⟨by omega, fun _ _ => rfl⟩
        | element hmem h =>
          have hvalue := ih _ hmem (depth + 1)
          rw [hfind _ hmem] at hvalue
          obtain ⟨hlt, hfields⟩ := hvalue _ _ h
          exact ⟨by omega, hfields⟩
      | some message =>
        obtain ⟨value, hmem, hvalue⟩ := List.exists_of_findSome?_eq_some hfind
        have hfound := ih value hmem (depth + 1)
        rw [hvalue] at hfound
        exact hfound.lift fun _ _ => Within.element hmem
  | object entries ih =>
    intro depth
    rw [findNestedModality, findInEntries_eq]
    split_ifs with hdeep
    · exact found_tooDeep hdeep _
    · cases hfield : findField nestedFields (.object entries) with
      | some field =>
        -- the fields of the object itself go first
        obtain ⟨hmem, hsome⟩ := of_findField hfield
        exact .inr ⟨0, _, field, .self _, hmem, hsome, rfl⟩
      | none =>
        rw [findField_eq_none] at hfield
        rw [Option.map_none, Option.none_or]
        cases hfind : entries.findSome? fun e => findNestedModality (depth + 1) e.2 with
        | none =>
          rw [List.findSome?_eq_none_iff] at hfind
          intro n found h
          cases h with
          | self => exact ⟨by omega, hfield⟩
          | member hmem h =>
            have hvalue := ih _ hmem (depth + 1)
            rw [hfind _ hmem] at hvalue
            obtain ⟨hlt, hfields⟩ := hvalue _ _ h
            exact ⟨by omega, hfields⟩
        | some message =>
          obtain ⟨e, hmem, hvalue⟩ := List.exists_of_findSome?_eq_some hfind
          have hfound := ih e hmem (depth + 1)
          rw [hvalue] at hfound
          exact hfound.lift fun _ _ => Within.member hmem

end Scan

/-- What a refusal names: a field of the body, or a field or the depth of its messages. -/
def Names (body : IndexMap Json) (message : String) : Prop :=
  (∃ field ∈ surfaceFields, ((Json.object body.entries).get field).isSome ∧
    message = unsupportedField field) ∨
  ∃ messages ∈ (Json.object body.entries).get "messages", Found 0 messages (some message)

theorem unsupportedTextSurface_eq_none {body : IndexMap Json} :
    unsupportedTextSurface body = none ↔ TextOnly body := by
  rw [unsupportedTextSurface, Option.or_eq_none_iff, Option.map_eq_none_iff, findField_eq_none,
    Option.bind_eq_none_iff]
  constructor
  · rintro ⟨hsurface, hmessages⟩
    have hwithin : ∀ value ∈ (Json.object body.entries).get "messages", ∀ n found,
        Within value n found →
          n < maxScanDepth ∧ ∀ field ∈ nestedFields, found.get field = none := by
      intro value hvalue n found h
      have hfound := found_findNestedModality value 0
      rw [hmessages value hvalue] at hfound
      obtain ⟨hlt, hfields⟩ := hfound n found h
      exact ⟨by omega, hfields⟩
    exact ⟨hsurface, fun value hvalue n found h => (hwithin value hvalue n found h).2,
      fun value hvalue n found h => (hwithin value hvalue n found h).1⟩
  · intro htext
    refine ⟨htext.surface, fun messages hmessages => ?_⟩
    have hfound := found_findNestedModality messages 0
    -- whatever had been found is not there
    cases hscan : findNestedModality 0 messages with
    | none => rfl
    | some message =>
      rw [hscan] at hfound
      rcases hfound with ⟨-, n, found, hwithin, hdeep⟩ |
        ⟨n, found, field, hwithin, hmem, hsome, -⟩
      · have hshallow := htext.shallow messages hmessages n found hwithin
        omega
      · rw [htext.nested messages hmessages n found hwithin field hmem] at hsome
        cases hsome

theorem names_of_unsupportedTextSurface {body : IndexMap Json} {message : String}
    (h : unsupportedTextSurface body = some message) : Names body message := by
  rw [unsupportedTextSurface] at h
  cases hfield : findField surfaceFields (.object body.entries) with
  | some field =>
    rw [hfield] at h
    cases h
    obtain ⟨hmem, hsome⟩ := of_findField hfield
    exact .inl ⟨field, hmem, hsome, rfl⟩
  | none =>
    rw [hfield, Option.map_none, Option.none_or] at h
    obtain ⟨messages, hmessages, hscan⟩ := Option.bind_eq_some_iff.mp h
    have hfound := found_findNestedModality messages 0
    rw [hscan] at hfound
    exact .inr ⟨messages, hmessages, hfound⟩

/-- **Every body** is refused unless it is a text request, and a refusal names what is there. -/
theorem surface_exact (body : IndexMap Json) :
    (unsupportedTextSurface body = none ↔ TextOnly body) ∧
    ∀ message, unsupportedTextSurface body = some message → Names body message :=
  ⟨unsupportedTextSurface_eq_none, fun _ => names_of_unsupportedTextSurface⟩

/-! ## Directives -/

/-- The content of a message of the user that is a text. -/
def userContent (message : Json) : Option String :=
  if hasRole "user" message then message.getStr "content" else none

/-- The last element that has a value, with what stands before and after it. -/
def splitLast {α β : Type} (p : α → Option β) : List α → Option (List α × α × β × List α)
  | [] => none
  | x :: l =>
    match splitLast p l with
    | some (before, y, value, after) => some (x :: before, y, value, after)
    | none => (p x).map fun value => ([], x, value, l)

/-- The token of a directive and the text after it. -/
def directiveOf (content : String) : Option (String × String) :=
  match content.toList.dropWhile isWhitespace with
  | [] => none
  | c :: afterSlash =>
    let token := afterSlash.takeWhile fun c => !isWhitespace c
    let remainder := (afterSlash.dropWhile fun c => !isWhitespace c).dropWhile isWhitespace
    if c ≠ '/' ∨ token = [] then none
    else some (String.ofList token, String.ofList remainder)

/-- The endpoint of a token: none for the automatic one. -/
def directivePin (routing : RoutingConfig) (names : List String) (token : String) :
    Option (Option String) :=
  let tiered := routing.classifier.isNone && !routing.tiers.isEmpty
  if token = "auto" then some none
  else if tiered ∧ token = "prefer-local" then some (routing.tiers.head?.map Config.Tier.model)
  else if tiered ∧ token ∈ ["prefer-hosted", "prefer-cloud"] then
    some (routing.tiers.getLast?.map Config.Tier.model)
  else if token ∈ names then some (some token)
  else none

/-- A message with another content. -/
def withContent (remainder : String) (message : Json) : Option Json :=
  message.asObject.map fun entries =>
    .object (IndexMap.insertEntry "content" (.string remainder) entries)

/-- `resolve_slash_directive_for_names`: the pin and the messages without the directive. -/
def resolveSlashDirective (routing : RoutingConfig) (names : List String) (messages : Json) :
    Option (Option String × Json) := do
  let values ← messages.asArray
  let (before, message, content, after) ← splitLast userContent values
  let (token, remainder) ← directiveOf content
  let pin ← directivePin routing names token
  let cleaned ← withContent remainder message
  return (pin, .array (before ++ cleaned :: after))

/-- A text that starts with a directive: the token reaches to the next white space, and the text
after it to the end. -/
def Directive (content token remainder : List Char) : Prop :=
  ∃ first gap, content = first ++ '/' :: token ++ gap ++ remainder ∧
    (∀ c ∈ first, isWhitespace c) ∧ (∀ c ∈ gap, isWhitespace c) ∧
    token ≠ [] ∧ (∀ c ∈ token, isWhitespace c = false) ∧
    (∀ c ∈ remainder.head?, isWhitespace c = false) ∧ (gap = [] → remainder = [])

section Slash

theorem splitLast_eq_none {α β : Type} {p : α → Option β} {l : List α} :
    splitLast p l = none ↔ ∀ x ∈ l, p x = none := by
  induction l with
  | nil => exact iff_of_true rfl fun _ h => absurd h List.not_mem_nil
  | cons x l ih =>
    rw [splitLast, List.forall_mem_cons]
    cases hsplit : splitLast p l with
    | some split =>
      rw [hsplit] at ih
      exact iff_of_false (fun h => by cases h) fun h => by cases ih.mpr h.2
    | none =>
      rw [hsplit] at ih
      exact Option.map_eq_none_iff.trans (and_iff_left (ih.mp rfl)).symm

theorem splitLast_append {α β : Type} {p : α → Option β} {after : List α} {x : α} {value : β}
    (hx : p x = some value) (hafter : ∀ y ∈ after, p y = none) (before : List α) :
    splitLast p (before ++ x :: after) = some (before, x, value, after) := by
  induction before with
  | nil => rw [List.nil_append, splitLast, splitLast_eq_none.mpr hafter, hx, Option.map_some]
  | cons y before ih => rw [List.cons_append, splitLast, ih]

theorem of_splitLast {α β : Type} {p : α → Option β} {l before after : List α} {x : α}
    {value : β} (h : splitLast p l = some (before, x, value, after)) :
    l = before ++ x :: after ∧ p x = some value ∧ ∀ y ∈ after, p y = none := by
  induction l generalizing before with
  | nil => cases h
  | cons y l ih =>
    rw [splitLast] at h
    cases hsplit : splitLast p l with
    | some split =>
      rw [hsplit] at h
      cases h
      obtain ⟨rfl, hx, hafter⟩ := ih hsplit
      exact ⟨rfl, hx, hafter⟩
    | none =>
      rw [hsplit] at h
      obtain ⟨value', hy, heq⟩ := Option.map_eq_some_iff.mp h
      cases heq
      exact ⟨rfl, hy, splitLast_eq_none.mp hsplit⟩

theorem head?_dropWhile_isWhitespace (l : List Char) :
    ∀ c ∈ (l.dropWhile isWhitespace).head?, isWhitespace c = false := by
  intro c hc
  have hhead := List.head?_dropWhile_not isWhitespace l
  rw [Option.mem_def.mp hc] at hhead
  simpa using hhead

theorem dropWhile_eq_self {l : List Char} {p : Char → Bool} (h : ∀ c ∈ l.head?, p c = false) :
    l.dropWhile p = l := by
  cases l with
  | nil => rfl
  | cons c l => exact List.dropWhile_cons_of_neg (by rw [h c rfl]; exact Bool.false_ne_true)

/-- What is read as a directive is one. -/
theorem directive_of_directiveOf {content token remainder : String}
    (h : directiveOf content = some (token, remainder)) :
    Directive content.toList token.toList remainder.toList := by
  rw [directiveOf] at h
  split at h
  · cases h
  · next c afterSlash hcontent =>
    dsimp only at h
    split_ifs at h with hnone
    cases h
    rw [not_or, not_not] at hnone
    obtain ⟨rfl, hempty⟩ := hnone
    rw [String.toList_ofList, String.toList_ofList]
    refine ⟨content.toList.takeWhile isWhitespace,
      (afterSlash.dropWhile fun c => !isWhitespace c).takeWhile isWhitespace, ?_,
      fun c hc => List.mem_takeWhile_imp hc, fun c hc => List.mem_takeWhile_imp hc, hempty,
      fun c hc => by simpa using List.mem_takeWhile_imp hc, head?_dropWhile_isWhitespace _, ?_⟩
    · rw [List.append_assoc, List.takeWhile_append_dropWhile, List.append_assoc, List.cons_append,
        List.takeWhile_append_dropWhile, ← hcontent, List.takeWhile_append_dropWhile]
    · -- what follows the token starts with white space, if there is anything
      have hhead := List.head?_dropWhile_not (fun c => !isWhitespace c) afterSlash
      intro hgap
      cases hrest : afterSlash.dropWhile fun c => !isWhitespace c with
      | nil => rfl
      | cons c rest =>
        rw [hrest] at hhead hgap
        have hspace : isWhitespace c = true := by simpa using hhead
        rw [List.takeWhile_cons_of_pos hspace] at hgap
        cases hgap

/-- A directive is read as such. -/
theorem directiveOf_of_directive {content token remainder : String}
    (h : Directive content.toList token.toList remainder.toList) :
    directiveOf content = some (token, remainder) := by
  obtain ⟨first, gap, hcontent, hfirst, hgap, htoken, hsolid, hremainder, hend⟩ := h
  have hslash : content.toList.dropWhile isWhitespace =
      '/' :: (token.toList ++ (gap ++ remainder.toList)) := by
    rw [hcontent, List.append_assoc, List.append_assoc, List.dropWhile_append_of_pos hfirst,
      List.cons_append]
    exact List.dropWhile_cons_of_neg (by decide)
  have hrest : ∀ c ∈ (gap ++ remainder.toList).head?, (!isWhitespace c) = false := by
    intro c hc
    cases gap with
    | nil =>
      rw [hend rfl] at hc
      cases hc
    | cons d gap =>
      cases hc
      rw [hgap c List.mem_cons_self]
      rfl
  have hsolid' : ∀ c ∈ token.toList, (!isWhitespace c) = true := by
    intro c hc
    rw [hsolid c hc]
    rfl
  -- the token ends where the gap starts, or with the text
  have htake : (gap ++ remainder.toList).takeWhile (fun c => !isWhitespace c) = [] := by
    cases hcases : gap ++ remainder.toList with
    | nil => rfl
    | cons c l =>
      rw [hcases] at hrest
      exact List.takeWhile_cons_of_neg (by rw [hrest c rfl]; exact Bool.false_ne_true)
  rw [directiveOf, hslash]
  dsimp only
  rw [List.takeWhile_append_of_pos hsolid', List.dropWhile_append_of_pos hsolid', htake,
    dropWhile_eq_self hrest, List.dropWhile_append_of_pos hgap, dropWhile_eq_self hremainder,
    List.append_nil, if_neg (not_or.mpr ⟨not_not.mpr rfl, htoken⟩), String.ofList_toList,
    String.ofList_toList]

/-- A directive is read exactly where there is one. -/
theorem directiveOf_eq_some {content token remainder : String} :
    directiveOf content = some (token, remainder) ↔
      Directive content.toList token.toList remainder.toList :=
  ⟨directive_of_directiveOf, directiveOf_of_directive⟩

/-- A directive is resolved in the last message of the user that has a text. -/
theorem resolveSlashDirective_eq_some {routing : RoutingConfig} {names : List String}
    {messages cleaned : Json} {pin : Option String} :
    resolveSlashDirective routing names messages = some (pin, cleaned) ↔
      ∃ before entries after content token remainder,
        messages = .array (before ++ .object entries :: after) ∧
        userContent (.object entries) = some content ∧
        (∀ message ∈ after, userContent message = none) ∧
        directiveOf content = some (token, remainder) ∧
        directivePin routing names token = some pin ∧
        cleaned = .array (before ++
          .object (IndexMap.insertEntry "content" (.string remainder) entries) :: after) := by
  simp only [resolveSlashDirective, Option.bind_eq_bind, Option.bind_eq_some_iff, Prod.exists]
  constructor
  · rintro ⟨values, hvalues, before, message, content, after, hsplit, token, remainder, hdirective,
      pin', hpin, cleaned', hcleaned, heq⟩
    cases heq
    obtain ⟨rfl, hcontent, hafter⟩ := of_splitLast hsplit
    obtain ⟨entries, hentries, rfl⟩ := Option.map_eq_some_iff.mp hcleaned
    cases messages with
    | array values' =>
      cases hvalues
      cases message with
      | object entries' =>
        cases hentries
        exact ⟨before, entries, after, content, token, remainder, rfl, hcontent, hafter, hdirective,
          hpin, rfl⟩
      | _ => cases hentries
    | _ => cases hvalues
  · rintro ⟨before, entries, after, content, token, remainder, rfl, hcontent, hafter, hdirective,
      hpin, rfl⟩
    exact ⟨_, rfl, before, .object entries, content, after, splitLast_append hcontent hafter before,
      token, remainder, hdirective, pin, hpin, _, rfl, rfl⟩

/-- **All messages**: a directive is resolved exactly when the last text message of the user starts
with one that is known, and then the messages are the same but for the content of that one, which
is the text after the directive. -/
theorem slash_exact (routing : RoutingConfig) (names : List String) (messages : Json)
    (pin : Option String) (cleaned : Json) :
    resolveSlashDirective routing names messages = some (pin, cleaned) ↔
      ∃ before entries after content token remainder,
        messages = .array (before ++ .object entries :: after) ∧
        userContent (.object entries) = some content ∧
        (∀ message ∈ after, userContent message = none) ∧
        Directive content.toList token.toList remainder.toList ∧
        directivePin routing names token = some pin ∧
        cleaned = .array (before ++
          .object (IndexMap.insertEntry "content" (.string remainder) entries) :: after) := by
  simp only [← directiveOf_eq_some]
  exact resolveSlashDirective_eq_some

end Slash

end WayfinderRouter.Gateway.Intake
