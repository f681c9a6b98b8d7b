import WayfinderRouter.Json.Spelling

/-!
# The grammar of compact JSON

The texts of a value without white space between its tokens: numbers are tokens of the grammar, and
the characters of strings are spelled in one of the ways that it has.

## Main definitions

- `NumberToken` — the tokens of numbers
- `IsText` — a text of a value

## Main results

- `isText_renderWith` — a value written in a spelling is a text of it
- `forall_renderWith` — the characters of a written value
-/

namespace WayfinderRouter.Json

/-- Digits, at least one. -/
def IsDigits (text : List Char) : Prop := text ≠ [] ∧ ∀ c ∈ text, c.isDigit

/-- The whole part of a number: no digit comes after a leading zero. -/
inductive IsWhole : List Char → Prop where
  | zero : IsWhole ['0']
  | digits {d : Char} {rest : List Char} (hd : d.isDigit) (hne : d ≠ '0')
      (hrest : ∀ c ∈ rest, c.isDigit) : IsWhole (d :: rest)

/-- The part of a number after the point, with the point. -/
inductive IsFraction : List Char → Prop where
  | none : IsFraction []
  | point {digits : List Char} (h : IsDigits digits) : IsFraction ('.' :: digits)

/-- A number without an exponent. -/
inductive IsDecimal : List Char → Prop where
  | positive {whole fraction : List Char} (hwhole : IsWhole whole)
      (hfraction : IsFraction fraction) : IsDecimal (whole ++ fraction)
  | negative {whole fraction : List Char} (hwhole : IsWhole whole)
      (hfraction : IsFraction fraction) : IsDecimal ('-' :: (whole ++ fraction))

/-- The tokens of numbers. -/
inductive NumberToken : List Char → Prop where
  | plain {decimal : List Char} (h : IsDecimal decimal) : NumberToken decimal
  | exponent {decimal sign digits : List Char} {e : Char} (h : IsDecimal decimal)
      (he : e = 'e' ∨ e = 'E') (hsign : sign = [] ∨ sign = ['+'] ∨ sign = ['-'])
      (hdigits : IsDigits digits) : NumberToken (decimal ++ e :: (sign ++ digits))

/-- A quoted string: the characters are spelled one after the other. -/
inductive IsQuoted (value : String) : List Char → Prop where
  | intro {spellings : List (List Char)} (h : List.Forall₂ Spells value.toList spellings) :
      IsQuoted value ('"' :: (spellings.flatten ++ ['"']))

mutual

/-- The texts of a value. -/
inductive IsText : Json → List Char → Prop where
  | null : IsText .null ['n', 'u', 'l', 'l']
  | true : IsText (.bool true) ['t', 'r', 'u', 'e']
  | false : IsText (.bool false) ['f', 'a', 'l', 's', 'e']
  | number {text : String} (h : NumberToken text.toList) : IsText (.number text) text.toList
  | string {value : String} {text : List Char} (h : IsQuoted value text) :
      IsText (.string value) text
  | array {values : List Json} {texts : List (List Char)} (h : AreTexts values texts) :
      IsText (.array values) ('[' :: (List.intercalate [','] texts ++ [']']))
  | object {entries : List (String × Json)} {texts : List (List Char)}
      (h : AreMembers entries texts) :
      IsText (.object entries) ('\x7b' :: (List.intercalate [','] texts ++ ['\x7d']))

/-- The texts of the elements of an array. -/
inductive AreTexts : List Json → List (List Char) → Prop where
  | nil : AreTexts [] []
  | cons {value : Json} {values : List Json} {text : List Char} {texts : List (List Char)}
      (hvalue : IsText value text) (h : AreTexts values texts) :
      AreTexts (value :: values) (text :: texts)

/-- The texts of the members of an object. -/
inductive AreMembers : List (String × Json) → List (List Char) → Prop where
  | nil : AreMembers [] []
  | cons {key : String} {value : Json} {entries : List (String × Json)} {quoted text : List Char}
      {texts : List (List Char)} (hkey : IsQuoted key quoted) (hvalue : IsText value text)
      (h : AreMembers entries texts) :
      AreMembers ((key, value) :: entries) ((quoted ++ ':' :: text) :: texts)

end

/-! ## Written values -/

section

variable {spell : Char → List Char}

theorem isQuoted_quoteWith (hspell : ∀ c, Spells c (spell c)) (value : String) :
    IsQuoted value (quoteWith spell value) := by
  have hall : List.Forall₂ Spells value.toList (value.toList.map spell) := by
    rw [List.forall₂_map_right_iff, List.forall₂_same]
    exact fun c _ => hspell c
  rw [quoteWith, List.flatMap_def]
  exact .intro hall

mutual

/-- A value written in a spelling is a text of it. -/
theorem isText_renderWith (hspell : ∀ c, Spells c (spell c)) : ∀ value : Json,
    value.NumbersAre (fun text => NumberToken text.toList) → IsText value (value.renderWith spell)
  | .null, _ => .null
  | .bool true, _ => .true
  | .bool false, _ => .false
  | .number _, h => .number h
  | .string value, _ => .string (isQuoted_quoteWith hspell value)
  | .array values, h => .array (areTexts_renderAllWith hspell values h)
  | .object entries, h => .object (areMembers_renderEntriesWith hspell entries h)

theorem areTexts_renderAllWith (hspell : ∀ c, Spells c (spell c)) : ∀ values : List Json,
    NumbersAreAll (fun text => NumberToken text.toList) values →
      AreTexts values (renderAllWith spell values)
  | [], _ => .nil
  | value :: values, h =>
    .cons (isText_renderWith hspell value h.1) (areTexts_renderAllWith hspell values h.2)

theorem areMembers_renderEntriesWith (hspell : ∀ c, Spells c (spell c)) :
    ∀ entries : List (String × Json),
      NumbersAreEntries (fun text => NumberToken text.toList) entries →
        AreMembers entries (renderEntriesWith spell entries)
  | [], _ => .nil
  | (key, value) :: entries, h =>
    .cons (isQuoted_quoteWith hspell key) (isText_renderWith hspell value h.1)
      (areMembers_renderEntriesWith hspell entries h.2)

end

/-- The characters of a text that are neither of a string nor of a number. -/
def structural : List Char :=
  ['"', '[', ']', '\x7b', '\x7d', ',', ':', 'n', 'u', 'l', 't', 'r', 'e', 'f', 'a', 's']

variable {p : Char → Prop}

theorem forall_intercalate (hcomma : p ',') {texts : List (List Char)}
    (h : ∀ text ∈ texts, ∀ c ∈ text, p c) : ∀ c ∈ List.intercalate [','] texts, p c := by
  induction texts with
  | nil => exact fun c hc => absurd hc List.not_mem_nil
  | cons text texts ih =>
    have hfirst := h text List.mem_cons_self
    have hrest := ih fun text' hmem => h text' (List.mem_cons_of_mem _ hmem)
    cases texts with
    | nil =>
      rw [List.intercalate_singleton]
      exact hfirst
    | cons second texts =>
      rw [List.intercalate_cons_cons]
      simp only [List.forall_mem_append, List.forall_mem_singleton]
      exact ⟨⟨hfirst, hcomma⟩, hrest⟩

theorem forall_quoteWith (hquote : p '"') (hspell : ∀ c, ∀ d ∈ spell c, p d) (value : String) :
    ∀ c ∈ quoteWith spell value, p c := by
  rw [quoteWith]
  simp only [List.forall_mem_cons, List.forall_mem_append, List.mem_flatMap]
  refine ⟨hquote, fun d hd => ?_, hquote, fun d hd => absurd hd List.not_mem_nil⟩
  obtain ⟨c, -, hd⟩ := hd
  exact hspell c d hd

mutual

/-- What holds of the structural characters, of spellings and of numbers holds of a written
value. -/
theorem forall_renderWith (hstructural : ∀ c ∈ structural, p c)
    (hspell : ∀ c, ∀ d ∈ spell c, p d) : ∀ value : Json,
    value.NumbersAre (fun text => ∀ c ∈ text.toList, p c) → ∀ c ∈ value.renderWith spell, p c
  | .null, _ => fun c hc =>
    hstructural c ((by decide : ['n', 'u', 'l', 'l'] ⊆ structural) hc)
  | .bool true, _ => fun c hc =>
    hstructural c ((by decide : ['t', 'r', 'u', 'e'] ⊆ structural) hc)
  | .bool false, _ => fun c hc =>
    hstructural c ((by decide : ['f', 'a', 'l', 's', 'e'] ⊆ structural) hc)
  | .number _, h => h
  | .string value, _ => forall_quoteWith (hstructural _ (by decide)) hspell value
  | .array values, h => by
    have hinner := forall_intercalate (hstructural ',' (by decide))
      (forall_renderAllWith hstructural hspell values h)
    rw [renderWith]
    simp only [List.forall_mem_cons, List.forall_mem_append]
    exact ⟨hstructural _ (by decide), hinner, hstructural _ (by decide),
      fun c hc => absurd hc List.not_mem_nil⟩
  | .object entries, h => by
    have hinner := forall_intercalate (hstructural ',' (by decide))
      (forall_renderEntriesWith hstructural hspell entries h)
    rw [renderWith]
    simp only [List.forall_mem_cons, List.forall_mem_append]
    exact ⟨hstructural _ (by decide), hinner, hstructural _ (by decide),
      fun c hc => absurd hc List.not_mem_nil⟩

theorem forall_renderAllWith (hstructural : ∀ c ∈ structural, p c)
    (hspell : ∀ c, ∀ d ∈ spell c, p d) : ∀ values : List Json,
    NumbersAreAll (fun text => ∀ c ∈ text.toList, p c) values →
      ∀ text ∈ renderAllWith spell values, ∀ c ∈ text, p c
  | [], _ => fun text h => absurd h List.not_mem_nil
  | value :: values, h => by
    rw [renderAllWith, List.forall_mem_cons]
    exact ⟨forall_renderWith hstructural hspell value h.1,
      forall_renderAllWith hstructural hspell values h.2⟩

theorem forall_renderEntriesWith (hstructural : ∀ c ∈ structural, p c)
    (hspell : ∀ c, ∀ d ∈ spell c, p d) : ∀ entries : List (String × Json),
    NumbersAreEntries (fun text => ∀ c ∈ text.toList, p c) entries →
      ∀ text ∈ renderEntriesWith spell entries, ∀ c ∈ text, p c
  | [], _ => fun text h => absurd h List.not_mem_nil
  | (key, value) :: entries, h => by
    have hkey := forall_quoteWith (hstructural '"' (by decide)) hspell key
    have hvalue := forall_renderWith hstructural hspell value h.1
    rw [renderEntriesWith, List.forall_mem_cons]
    simp only [List.forall_mem_cons, List.forall_mem_append]
    exact ⟨⟨hkey, hstructural ':' (by decide), hvalue⟩,
      forall_renderEntriesWith hstructural hspell entries h.2⟩

end

end

end WayfinderRouter.Json
