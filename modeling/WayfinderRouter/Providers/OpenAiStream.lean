import WayfinderRouter.Json

/-!
# Chat completion streams

The payload of an event of a chat completion stream carries usage, content, fragments of tool
calls and a finish reason. What a stream says as a whole is what its items add up to: the contents
in their order, and for each tool index the last id and name and all argument fragments.

## Main definitions

- `Item`, `payloadItems` — what is read from a payload, in its order
- `contents`, `indices`, `toolOf` — what a list of items adds up to
-/

namespace WayfinderRouter.Providers

/-- What a payload says. The texts are not empty. -/
inductive Item where
  | completionTokens (tokens : ℕ)
  | promptTokens (tokens : ℕ)
  | content (text : String)
  /-- A tool call, with the index that the following items refer to. -/
  | tool (index : ℕ)
  | toolId (index : ℕ) (id : String)
  | toolName (index : ℕ) (name : String)
  | toolArguments (index : ℕ) (arguments : String)
  | finishReason (reason : String)
deriving DecidableEq

/-- The text of a field, if there is one and it is not empty. -/
def nonEmpty (key : String) (entries : List (String × Json)) : List String :=
  (((Ordered.lookup key entries).bind Json.asStr).filter (· ≠ "")).toList

/-- The number of a field. -/
def unsigned (key : String) (entries : List (String × Json)) : Option ℕ :=
  (Ordered.lookup key entries).bind Json.asU64

/-- The object of a field. -/
def objectOf (key : String) (entries : List (String × Json)) : List (List (String × Json)) :=
  ((Ordered.lookup key entries).bind Json.asObject).toList

/-- The objects in the array of a field. -/
def objectsOf (key : String) (entries : List (String × Json)) : List (List (String × Json)) :=
  (((Ordered.lookup key entries).bind Json.asArray).getD []).filterMap Json.asObject

def usageItems (usage : List (String × Json)) : List Item :=
  (unsigned "completion_tokens" usage).toList.map .completionTokens ++
    (unsigned "prompt_tokens" usage).toList.map .promptTokens

def toolCallItems (toolCall : List (String × Json)) : List Item :=
  let index := (unsigned "index" toolCall).getD 0
  .tool index :: ((nonEmpty "id" toolCall).map (.toolId index) ++
    (objectOf "function" toolCall).flatMap fun function =>
      (nonEmpty "name" function).map (.toolName index) ++
        (nonEmpty "arguments" function).map (.toolArguments index))

def deltaItems (delta : List (String × Json)) : List Item :=
  (nonEmpty "content" delta).map .content ++ (objectsOf "tool_calls" delta).flatMap toolCallItems

def choiceItems (choice : List (String × Json)) : List Item :=
  (objectOf "delta" choice).flatMap deltaItems ++
    (nonEmpty "finish_reason" choice).map .finishReason

/-- What is read from a payload, in its order. -/
def payloadItems (payload : Json) : List Item :=
  payload.asObject.toList.flatMap fun entries =>
    (objectOf "usage" entries).flatMap usageItems ++
      (objectsOf "choices" entries).flatMap choiceItems

/-! ## What items add up to -/

namespace Item

def content? : Item → Option String
  | .content text => some text
  | _ => none

def tool? : Item → Option ℕ
  | .tool index => some index
  | _ => none

def toolId? (index : ℕ) : Item → Option String
  | .toolId i id => if i = index then some id else none
  | _ => none

def toolName? (index : ℕ) : Item → Option String
  | .toolName i name => if i = index then some name else none
  | _ => none

def toolArguments? (index : ℕ) : Item → Option String
  | .toolArguments i arguments => if i = index then some arguments else none
  | _ => none

def finishReason? : Item → Option String
  | .finishReason reason => some reason
  | _ => none

def completionTokens? : Item → Option ℕ
  | .completionTokens tokens => some tokens
  | _ => none

/-- The tool index that an item refers to. -/
def refers? : Item → Option ℕ
  | .toolId index _ => some index
  | .toolName index _ => some index
  | .toolArguments index _ => some index
  | _ => none

/-- The characters of content and arguments. -/
def chars : Item → ℕ
  | .content text => text.length
  | .toolArguments _ arguments => arguments.length
  | _ => 0

end Item

/-- `BufferedToolCall`. -/
structure BufferedToolCall where
  id : Option String
  name : String
  arguments : String
deriving DecidableEq

/-- The values in the order in which each occurs first. -/
def firstSeen (values : List ℕ) : List ℕ :=
  values.foldl (fun seen i => if i ∈ seen then seen else seen ++ [i]) []

section Items

variable (items : List Item)

/-- The content deltas. -/
def contents : List String := items.filterMap Item.content?

/-- The tool indices in first-seen order. -/
def indices : List ℕ := firstSeen (items.filterMap Item.tool?)

/-- What the items say about a tool: the last id, the last name, and all argument fragments. -/
def toolOf (index : ℕ) : BufferedToolCall where
  id := (items.filterMap (Item.toolId? index)).getLast?
  name := ((items.filterMap (Item.toolName? index)).getLast?).getD ""
  arguments := String.join (items.filterMap (Item.toolArguments? index))

/-- The tool calls in first-seen order. -/
def toolCalls : List BufferedToolCall := (indices items).map (toolOf items)

/-- The last finish reason. -/
def finishReason : Option String := (items.filterMap Item.finishReason?).getLast?

/-- The last reported number of completion tokens. -/
def completionTokens : Option ℕ := (items.filterMap Item.completionTokens?).getLast?

/-- The number of characters of content and arguments, as far as 64 bits hold it. -/
def completionChars : ℕ := (items.map Item.chars).foldl U64.saturatingAdd 0

end Items

theorem firstSeen_append (values : List ℕ) (i : ℕ) :
    firstSeen (values ++ [i]) =
      if i ∈ firstSeen values then firstSeen values else firstSeen values ++ [i] := by
  rw [firstSeen, List.foldl_append]
  rfl

theorem nodup_firstSeen (values : List ℕ) : (firstSeen values).Nodup := by
  induction values using List.reverseRecOn with
  | nil => exact List.nodup_nil
  | append_singleton values i ih =>
    rw [firstSeen_append]
    split_ifs with hmem
    · exact ih
    · exact ih.append (List.nodup_singleton i) (List.disjoint_singleton.mpr hmem)

/-- A list of items with one more. -/
theorem filterMap_append_one {α β : Type} (f : α → Option β) (l : List α) (a : α) :
    (l ++ [a]).filterMap f = l.filterMap f ++ (f a).toList := by
  rw [List.filterMap_append]
  cases hfa : f a with
  | none => rw [List.filterMap_cons_none hfa]; rfl
  | some b => rw [List.filterMap_cons_some hfa]; rfl

section Append

variable (items : List Item) (item : Item)

theorem contents_append : contents (items ++ [item]) = contents items ++ item.content?.toList :=
  filterMap_append_one _ _ _

theorem finishReason_append :
    finishReason (items ++ [item]) = item.finishReason?.or (finishReason items) := by
  rw [finishReason, filterMap_append_one, List.getLast?_append]
  cases item.finishReason? with
  | none => rfl
  | some reason => rfl

theorem completionTokens_append :
    completionTokens (items ++ [item]) = item.completionTokens?.or (completionTokens items) := by
  rw [completionTokens, filterMap_append_one, List.getLast?_append]
  cases item.completionTokens? with
  | none => rfl
  | some tokens => rfl

theorem completionChars_append :
    completionChars (items ++ [item]) = U64.saturatingAdd (completionChars items) item.chars := by
  rw [completionChars, List.map_append, List.foldl_append]
  rfl

theorem indices_append : indices (items ++ [item]) =
    match item.tool? with
    | none => indices items
    | some i => if i ∈ indices items then indices items else indices items ++ [i] := by
  rw [indices, filterMap_append_one]
  cases item.tool? with
  | none => rw [Option.toList_none, List.append_nil]; rfl
  | some i => exact firstSeen_append _ i

theorem nodup_indices : (indices items).Nodup := nodup_firstSeen _

/-- What one more item says about a tool. -/
theorem toolOf_append (index : ℕ) : toolOf (items ++ [item]) index =
    { id := (item.toolId? index).or (toolOf items index).id
      name := (item.toolName? index).getD (toolOf items index).name
      arguments := (toolOf items index).arguments ++ (item.toolArguments? index).getD "" } := by
  simp only [toolOf, filterMap_append_one, List.getLast?_append]
  congr 1
  · cases item.toolId? index with
    | none => rfl
    | some id => rfl
  · cases item.toolName? index with
    | none => rfl
    | some name => rfl
  · cases item.toolArguments? index with
    | none => simp
    | some arguments => simp [String.join_append]

/-- An item that does not refer to a tool says nothing about it. -/
theorem toolOf_append_of_ne {index : ℕ} (h : item.refers? ≠ some index) :
    toolOf (items ++ [item]) index = toolOf items index := by
  have hid : item.toolId? index = none := by
    cases item with
    | toolId i id => exact if_neg fun heq => h (congrArg some heq)
    | _ => rfl
  have hname : item.toolName? index = none := by
    cases item with
    | toolName i name => exact if_neg fun heq => h (congrArg some heq)
    | _ => rfl
  have harguments : item.toolArguments? index = none := by
    cases item with
    | toolArguments i arguments => exact if_neg fun heq => h (congrArg some heq)
    | _ => rfl
  rw [toolOf_append, hid, hname, harguments]
  simp only [Option.getD_none, Option.none_or, String.append_empty]

end Append

/-! ## Announced tools -/

/-- Items refer only to tools that were announced before them. -/
inductive Announced : List Item → Prop
  | nil : Announced []
  | append {items : List Item} (h : Announced items) (item : Item)
    (hrefers : ∀ index, item.refers? = some index → index ∈ indices items) :
    Announced (items ++ [item])

theorem announced_append_iff {items : List Item} {item : Item} :
    Announced (items ++ [item]) ↔
      Announced items ∧ ∀ index, item.refers? = some index → index ∈ indices items := by
  constructor
  · intro h
    generalize hl : items ++ [item] = l at h
    cases h with
    | nil => exact absurd hl (List.append_ne_nil_of_right_ne_nil _ (List.cons_ne_nil _ _))
    | append h item' hrefers =>
      obtain ⟨rfl, hitem⟩ := List.append_inj' hl rfl
      cases hitem
      exact ⟨h, hrefers⟩
  · rintro ⟨h, hrefers⟩
    exact h.append item hrefers

theorem Announced.of_append {items rest : List Item} (h : Announced (items ++ rest)) :
    Announced items := by
  induction rest using List.reverseRecOn with
  | nil =>
    rw [List.append_nil] at h
    exact h
  | append_singleton rest item ih =>
    rw [← List.append_assoc] at h
    exact ih (announced_append_iff.mp h).1

/-- Nothing is said about a tool that was not announced. -/
theorem Announced.toolOf_eq {items : List Item} (h : Announced items) {index : ℕ}
    (hindex : index ∉ indices items) : toolOf items index = ⟨none, "", ""⟩ := by
  induction h with
  | nil => rfl
  | @append items h item hrefers ih =>
    have hbefore : index ∉ indices items := by
      intro hmem
      apply hindex
      rw [indices_append]
      cases item.tool? with
      | none => exact hmem
      | some i =>
        show index ∈ if i ∈ indices items then indices items else indices items ++ [i]
        split_ifs
        · exact hmem
        · exact List.mem_append_left _ hmem
    rw [toolOf_append_of_ne items item fun hrefer => hbefore (hrefers index hrefer), ih hbefore]

/-- Items that can follow any announced items. -/
def SelfContained (items : List Item) : Prop :=
  ∀ before, Announced before → Announced (before ++ items)

namespace SelfContained

theorem nil : SelfContained [] := fun before h => (List.append_nil before).symm ▸ h

theorem append {items items' : List Item} (h : SelfContained items)
    (h' : SelfContained items') : SelfContained (items ++ items') := by
  intro before hbefore
  rw [← List.append_assoc]
  exact h' _ (h before hbefore)

theorem singleton {item : Item} (h : item.refers? = none) : SelfContained [item] :=
  fun _ hbefore => hbefore.append item fun _ hrefers => (nomatch h.symm.trans hrefers)

theorem map {α : Type} {f : α → Item} (h : ∀ a, (f a).refers? = none) (l : List α) :
    SelfContained (l.map f) := by
  induction l with
  | nil => exact nil
  | cons a l ih => exact (singleton (h a)).append ih

theorem flatMap {α : Type} {f : α → List Item} (h : ∀ a, SelfContained (f a)) (l : List α) :
    SelfContained (l.flatMap f) := by
  induction l with
  | nil => exact nil
  | cons a l ih => exact (h a).append ih

end SelfContained

/-- Items about an announced tool. -/
theorem Announced.append_map {before : List Item} (h : Announced before) {index : ℕ}
    (hindex : index ∈ indices before) {α : Type} {f : α → Item}
    (hf : ∀ a, (f a).refers? = some index ∧ (f a).tool? = none) (l : List α) :
    Announced (before ++ l.map f) ∧ index ∈ indices (before ++ l.map f) := by
  induction l using List.reverseRecOn with
  | nil => simpa using ⟨h, hindex⟩
  | append_singleton l a ih =>
    obtain ⟨hannounced, hmem⟩ := ih
    rw [List.map_append, ← List.append_assoc]
    refine ⟨hannounced.append (f a) fun i hi => ?_, ?_⟩
    · rw [(hf a).1] at hi
      exact Option.some.inj hi ▸ hmem
    · rw [List.map_singleton, indices_append, (hf a).2]
      exact hmem

theorem selfContained_toolCallItems (toolCall : List (String × Json)) :
    SelfContained (toolCallItems toolCall) := by
  intro before hbefore
  rw [toolCallItems]
  generalize (unsigned "index" toolCall).getD 0 = index
  have hopened :
      Announced (before ++ [.tool index]) ∧ index ∈ indices (before ++ [.tool index]) := by
    refine ⟨hbefore.append _ fun _ h => (nomatch h), ?_⟩
    rw [indices_append]
    show index ∈ if index ∈ indices before then indices before else indices before ++ [index]
    split_ifs with hmem
    · exact hmem
    · exact List.mem_append_right _ (List.mem_singleton_self index)
  obtain ⟨hid, hmem⟩ := hopened.1.append_map hopened.2 (f := Item.toolId index)
    (fun _ => ⟨rfl, rfl⟩) (nonEmpty "id" toolCall)
  rw [List.append_cons, ← List.append_assoc]
  -- The optional function comes last.
  have hfunction : ∀ functions : List (List (String × Json)), ∀ before, Announced before →
      index ∈ indices before → Announced (before ++ functions.flatMap fun function =>
        (nonEmpty "name" function).map (.toolName index) ++
          (nonEmpty "arguments" function).map (.toolArguments index)) := by
    intro functions
    induction functions with
    | nil =>
      intro before hbefore _
      rw [List.flatMap_nil, List.append_nil]
      exact hbefore
    | cons function functions ih =>
      intro before hbefore hmem
      obtain ⟨hname, hmem⟩ := hbefore.append_map hmem (f := Item.toolName index)
        (fun _ => ⟨rfl, rfl⟩) (nonEmpty "name" function)
      obtain ⟨harguments, hmem⟩ := hname.append_map hmem (f := Item.toolArguments index)
        (fun _ => ⟨rfl, rfl⟩) (nonEmpty "arguments" function)
      rw [List.flatMap_cons, ← List.append_assoc, ← List.append_assoc]
      exact ih _ harguments hmem
  exact hfunction _ _ hid hmem

/-- A payload announces the tools it refers to. -/
theorem selfContained_payloadItems (payload : Json) : SelfContained (payloadItems payload) := by
  refine SelfContained.flatMap (fun entries => ?_) _
  refine (SelfContained.flatMap (fun usage => ?_) _).append
    (SelfContained.flatMap (fun choice => ?_) _)
  · exact (SelfContained.map (fun _ => rfl) _).append (SelfContained.map (fun _ => rfl) _)
  · refine (SelfContained.flatMap (fun delta => ?_) _).append
      (SelfContained.map (fun _ => rfl) _)
    exact (SelfContained.map (fun _ => rfl) _).append
      (SelfContained.flatMap selfContained_toolCallItems _)

end WayfinderRouter.Providers
