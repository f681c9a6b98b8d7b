import WayfinderRouter.Lines
import WayfinderRouter.Toml.Statements

/-!
# Texts of TOML statements

A statement is written on a line, with spaces, tabs and a comment. Only values can go over several
lines. The texts of values and of quoted keys are a parameter.

## Main definitions

- `Syntax` — how values and quoted keys are written
- `IsExpression` — the texts of a statement
- `IsDocument` — the items of a document, each with its text

## Main results

- `IsDocument.replace` — items of a document replaced by lines of their own
- `IsDocument.complete` — a document whose last line is ended
-/

namespace WayfinderRouter.Toml.Statements

open Lines (lineEnd lineEnd_append)

variable {V : Type}

/-- Spaces and tabs. -/
def IsBlank (text : List Char) : Prop := ∀ c ∈ text, c = ' ' ∨ c = '\t'

/-- Nothing, or a comment. -/
inductive IsComment : List Char → Prop where
  | none : IsComment []
  | comment {text : List Char} (h : ∀ c ∈ text, c = '\t' ∨ 32 ≤ c.toNat ∧ c.toNat ≠ 127) :
      IsComment ('#' :: text)

theorem IsBlank.newline_notMem {s : List Char} (h : IsBlank s) : '\n' ∉ s := by
  intro hmem
  rcases h _ hmem with h | h <;> cases h

theorem IsComment.newline_notMem {c : List Char} (h : IsComment c) : '\n' ∉ c := by
  cases h with
  | none => exact List.not_mem_nil
  | comment h =>
    intro hmem
    rcases List.mem_cons.mp hmem with heq | hmem
    · cases heq
    · rcases h _ hmem with heq | hle
      · cases heq
      · exact absurd hle.1 (by decide)

/-- The characters of bare keys. -/
def IsBareChar (c : Char) : Prop := c.isAlphanum ∨ c = '_' ∨ c = '-'

/-- A bare key. -/
def IsBare (text : List Char) : Prop := text ≠ [] ∧ ∀ c ∈ text, IsBareChar c

instance (c : Char) : Decidable (IsBareChar c) := inferInstanceAs (Decidable (_ ∨ _))

theorem IsBareChar.ne {c d : Char} (h : IsBareChar c) (hd : ¬IsBareChar d) : c ≠ d :=
  fun heq => hd (heq ▸ h)

theorem IsBare.head {key : List Char} (h : IsBare key) :
    ∃ c key', key = c :: key' ∧ IsBareChar c := by
  obtain ⟨c, key', rfl⟩ := List.exists_cons_of_ne_nil h.1
  exact ⟨c, key', rfl, h.2 c List.mem_cons_self⟩

/-- The keyword of a boolean. -/
def boolText (value : Bool) : List Char := (if value then "true" else "false").toList

/-- How quoted keys and values are written. -/
structure Syntax (V : Type) where
  quoted : List Char → String → Prop
  spells : List Char → V → Prop
  boolean : Bool → V
  spells_boolean (text : List Char) (value : Bool) :
    spells text (boolean value) ↔ text = boolText value
  spells_last {text : List Char} {value : V} (h : spells text value) :
    ∃ c ∈ text.getLast?, c ≠ '\n'

variable (g : Syntax V)

/-- A bare or quoted key. -/
inductive IsKey : List Char → String → Prop where
  | bare {text : List Char} (h : IsBare text) : IsKey text (String.ofList text)
  | quoted {text : List Char} {name : String} (h : g.quoted text name) : IsKey text name

/-- Keys with dots between them. -/
inductive IsDotted : List Char → List String → String → Prop where
  | last {text : List Char} {name : String} (h : IsKey g text name) : IsDotted text [] name
  | dot {text s s' rest : List Char} {key name : String} {above : List String}
      (h : IsKey g text key) (hs : IsBlank s) (hs' : IsBlank s')
      (hrest : IsDotted rest above name) :
      IsDotted (text ++ (s ++ '.' :: (s' ++ rest))) (key :: above) name

/-- What a statement and a comment after it are written as, without the end of the line. -/
inductive IsExpression : List Char → Statement V → Prop where
  | blank {s c : List Char} (hs : IsBlank s) (hc : IsComment c) : IsExpression (s ++ c) .blank
  | table {s s₁ s₂ s₃ keys c : List Char} {above : List String} {name : String} (hs : IsBlank s)
      (h₁ : IsBlank s₁) (hkeys : IsDotted g keys above name) (h₂ : IsBlank s₂) (h₃ : IsBlank s₃)
      (hc : IsComment c) :
      IsExpression (s ++ '[' :: (s₁ ++ keys ++ s₂ ++ ']' :: (s₃ ++ c))) (.table above name)
  | tables {s s₁ s₂ s₃ keys c : List Char} {above : List String} {name : String} (hs : IsBlank s)
      (h₁ : IsBlank s₁) (hkeys : IsDotted g keys above name) (h₂ : IsBlank s₂) (h₃ : IsBlank s₃)
      (hc : IsComment c) :
      IsExpression (s ++ '[' :: '[' :: (s₁ ++ keys ++ s₂ ++ ']' :: ']' :: (s₃ ++ c)))
        (.tables above name)
  | assign {s s₁ s₂ s₃ keys text c : List Char} {above : List String} {name : String} {value : V}
      (hs : IsBlank s) (hkeys : IsDotted g keys above name) (h₁ : IsBlank s₁) (h₂ : IsBlank s₂)
      (hvalue : g.spells text value) (h₃ : IsBlank s₃) (hc : IsComment c) :
      IsExpression (s ++ keys ++ s₁ ++ '=' :: (s₂ ++ text ++ (s₃ ++ c)))
        (.assign above name value)

/-- A statement with its text and the end of its line. -/
structure Item (V : Type) where
  body : List Char
  newline : List Char
  statement : Statement V

namespace Item

def text (item : Item V) : List Char := item.body ++ item.newline

/-- The item is written, up to the end of its line. -/
structure IsLine (item : Item V) : Prop where
  body : IsExpression g item.body item.statement
  newline : item.newline = ['\n'] ∨ item.newline = ['\r', '\n']

end Item

/-- The text of items. -/
def itemsText (items : List (Item V)) : List Char := items.flatMap Item.text

/-- The items of a document. The last line may have no end. -/
inductive IsDocument : List (Item V) → Prop where
  | nil : IsDocument []
  | last {body : List Char} {statement : Statement V} (h : IsExpression g body statement)
      (hne : body ≠ []) : IsDocument [⟨body, [], statement⟩]
  | cons {item : Item V} {items : List (Item V)} (h : item.IsLine g) (hrest : IsDocument items) :
      IsDocument (item :: items)

variable {g}

/-- The text of a statement does not end a line. -/
theorem IsExpression.getLast? {text : List Char} {statement : Statement V}
    (h : IsExpression g text statement) : '\n' ∉ text.getLast? := by
  have htrailing : ∀ {s c : List Char}, IsBlank s → IsComment c → '\n' ∉ s ++ c :=
    fun hs hc => List.not_mem_append hs.newline_notMem hc.newline_notMem
  have hlast : ∀ {l l' : List Char} {c : Char}, c ≠ '\n' → '\n' ∉ l' →
      '\n' ∉ (l ++ [c] ++ l').getLast? := by
    intro l l' c hc hl' hmem
    rw [List.getLast?_append, List.getLast?_concat] at hmem
    cases hlast' : l'.getLast? with
    | none =>
      rw [hlast', Option.none_or, Option.mem_some] at hmem
      exact hc hmem
    | some d =>
      rw [hlast', Option.some_or, Option.mem_some] at hmem
      exact hl' (hmem ▸ List.mem_of_getLast? hlast')
  cases h with
  | blank hs hc => exact fun hmem => htrailing hs hc (List.mem_of_getLast? hmem)
  | @table s s₁ s₂ s₃ keys c above name hs h₁ hkeys h₂ h₃ hc =>
    have heq : s ++ '[' :: (s₁ ++ keys ++ s₂ ++ ']' :: (s₃ ++ c)) =
        s ++ '[' :: (s₁ ++ keys ++ s₂) ++ [']'] ++ (s₃ ++ c) := by simp
    rw [heq]
    exact hlast (by decide) (htrailing h₃ hc)
  | @tables s s₁ s₂ s₃ keys c above name hs h₁ hkeys h₂ h₃ hc =>
    have heq : s ++ '[' :: '[' :: (s₁ ++ keys ++ s₂ ++ ']' :: ']' :: (s₃ ++ c)) =
        s ++ '[' :: '[' :: (s₁ ++ keys ++ s₂ ++ [']']) ++ [']'] ++ (s₃ ++ c) := by simp
    rw [heq]
    exact hlast (by decide) (htrailing h₃ hc)
  | @assign s s₁ s₂ s₃ keys text c above name value hs hkeys h₁ h₂ hvalue h₃ hc =>
    obtain ⟨d, hd, hne⟩ := g.spells_last hvalue
    obtain ⟨front, rfl⟩ := List.getLast?_eq_some_iff.mp hd
    have heq : s ++ keys ++ s₁ ++ '=' :: (s₂ ++ (front ++ [d]) ++ (s₃ ++ c)) =
        s ++ keys ++ s₁ ++ '=' :: (s₂ ++ front) ++ [d] ++ (s₃ ++ c) := by simp
    rw [heq]
    exact hlast hne (htrailing h₃ hc)

theorem isDocument_cons {item : Item V} {items : List (Item V)}
    (h : IsDocument g (item :: items)) :
    item.IsLine g ∧ IsDocument g items ∨
      items = [] ∧ item.newline = [] ∧ IsExpression g item.body item.statement := by
  cases h with
  | last h hne => exact .inr ⟨rfl, rfl, h⟩
  | cons h hrest => exact .inl ⟨h, hrest⟩

/-- The items before and after an item of a document. -/
theorem IsDocument.split {before after : List (Item V)} {item : Item V}
    (h : IsDocument g (before ++ item :: after)) :
    (∀ item ∈ before, item.IsLine g) ∧ IsDocument g after ∧
      IsExpression g item.body item.statement ∧
      (item.IsLine g ∨ after = [] ∧ item.newline = []) := by
  induction before with
  | nil =>
    rcases isDocument_cons h with ⟨hline, hafter⟩ | ⟨rfl, hend, hexpression⟩
    · exact ⟨fun _ h => absurd h List.not_mem_nil, hafter, hline.body, .inl hline⟩
    · exact ⟨fun _ h => absurd h List.not_mem_nil, .nil, hexpression, .inr ⟨rfl, hend⟩⟩
  | cons first before ih =>
    rcases isDocument_cons h with ⟨hline, hafter⟩ | ⟨hnil, -, -⟩
    · obtain ⟨hbefore, hrest⟩ := ih hafter
      exact ⟨List.forall_mem_cons.mpr ⟨hline, hbefore⟩, hrest⟩
    · cases List.append_ne_nil_of_right_ne_nil before (List.cons_ne_nil _ _) hnil

/-- Lines in front of a document. -/
theorem IsDocument.lines {items after : List (Item V)} (hitems : ∀ item ∈ items, item.IsLine g)
    (h : IsDocument g after) : IsDocument g (items ++ after) := by
  induction items with
  | nil => exact h
  | cons item items ih =>
    rw [List.forall_mem_cons] at hitems
    exact .cons hitems.1 (ih hitems.2)

/-- A line of a document is replaced by other lines. -/
theorem IsDocument.replace {before after items : List (Item V)} {item : Item V}
    (h : IsDocument g (before ++ item :: after)) (hitems : ∀ item ∈ items, item.IsLine g) :
    IsDocument g (before ++ (items ++ after)) := by
  obtain ⟨hbefore, hafter, -, -⟩ := h.split
  exact .lines hbefore (.lines hitems hafter)

@[simp] theorem itemsText_cons (item : Item V) (items : List (Item V)) :
    itemsText (item :: items) = item.text ++ itemsText items :=
  List.flatMap_cons

@[simp] theorem itemsText_append (items items' : List (Item V)) :
    itemsText (items ++ items') = itemsText items ++ itemsText items' :=
  List.flatMap_append

theorem Item.IsLine.ends {item : Item V} (h : item.IsLine g) :
    ∃ text, item.text = text ++ ['\n'] := by
  rcases h.newline with hend | hend
  · exact ⟨item.body, by rw [text, hend]⟩
  · exact ⟨item.body ++ ['\r'], by rw [text, hend, List.append_assoc]; rfl⟩

/-- The items of a text that ends its last line. -/
theorem IsDocument.complete {items : List (Item V)} (h : IsDocument g items) :
    ∃ items', (∀ item ∈ items', item.IsLine g) ∧
      items'.map Item.statement = items.map Item.statement ∧
      itemsText items' = itemsText items ++ lineEnd (itemsText items) := by
  induction h with
  | nil => exact ⟨[], fun _ h => absurd h List.not_mem_nil, rfl, rfl⟩
  | @last body statement h hne =>
    refine ⟨[⟨body, ['\n'], statement⟩], ?_, rfl, ?_⟩
    · rintro _ (_ | ⟨_, ⟨⟩⟩)
      exact ⟨h, .inl rfl⟩
    · have hlast : body.getLast? ≠ some '\n' := h.getLast?
      simp [itemsText, Item.text, lineEnd, hne, hlast]
  | @cons item items h hrest ih =>
    obtain ⟨items', hitems', hstatements, htext⟩ := ih
    refine ⟨item :: items', List.forall_mem_cons.mpr ⟨h, hitems'⟩, ?_, ?_⟩
    · rw [List.map_cons, List.map_cons, hstatements]
    · rw [itemsText_cons, itemsText_cons, htext, List.append_assoc]
      by_cases hnil : itemsText items = []
      · obtain ⟨text, hend⟩ := h.ends
        simp [hnil, hend, lineEnd]
      · rw [lineEnd_append _ hnil]

end WayfinderRouter.Toml.Statements
