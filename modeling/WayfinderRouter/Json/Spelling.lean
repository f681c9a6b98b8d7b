import WayfinderRouter.Json

/-!
# Spellings of a JSON value

A character of a string may be written as itself, with a short escape or with its code. A value
written with any such spelling of its strings is the same value to a parser.

## Main definitions

- `Json.Spells` — the spellings of a character
- `Json.renderWith` — the compact text of a value in a spelling
- `Json.Parser.Understands` — a parser reads a value in every spelling
- `Json.mapNumbers` — a value with other numbers

## Main results

- `Json.renderWith_escape` — the compact text is one of the spellings
-/

namespace WayfinderRouter.Json

/-- The value of a hexadecimal digit. -/
def hexDigit? (c : Char) : Option ℕ :=
  if c.isDigit then some (c.toNat - 48)
  else if 97 ≤ c.toNat ∧ c.toNat ≤ 102 then some (c.toNat - 87)
  else if 65 ≤ c.toNat ∧ c.toNat ≤ 70 then some (c.toNat - 55)
  else none

/-- The value of four hexadecimal digits. -/
def hexValue? : List Char → Option ℕ
  | [a, b, c, d] => do
    return 4096 * (← hexDigit? a) + 256 * (← hexDigit? b) + 16 * (← hexDigit? c) +
      (← hexDigit? d)
  | _ => none

/-- Four hexadecimal digits. -/
def hexDigits (n : ℕ) : List Char :=
  [Nat.digitChar (n / 4096 % 16), Nat.digitChar (n / 256 % 16), Nat.digitChar (n / 16 % 16),
    Nat.digitChar (n % 16)]

theorem hexDigit?_digitChar : ∀ d < 16, hexDigit? (Nat.digitChar d) = some d := by decide

theorem hexValue?_hexDigits {n : ℕ} (h : n < 65536) : hexValue? (hexDigits n) = some n := by
  have hdigit : ∀ m, hexDigit? (Nat.digitChar (m % 16)) = some (m % 16) := fun m =>
    hexDigit?_digitChar _ (Nat.mod_lt m (by decide))
  simp only [hexValue?, hexDigits, hdigit, Option.bind_eq_bind, Option.bind_some, Option.pure_def]
  congr 1
  omega

theorem hexDigits_control :
    ∀ n < 32, hexDigits n = ['0', '0', Nat.digitChar (n / 16), Nat.digitChar (n % 16)] := by
  decide

/-- The letters of the short escapes, and what they stand for. -/
def shortEscapes : List (Char × Char) :=
  [('"', '"'), ('\\', '\\'), ('/', '/'), ('b', Char.ofNat 8), ('f', Char.ofNat 12), ('n', '\n'),
    ('r', '\r'), ('t', '\t')]

/-- The spellings of a character of a string. -/
inductive Spells (c : Char) : List Char → Prop where
  | plain (h : 32 ≤ c.toNat) (hquote : c ≠ '"') (hbackslash : c ≠ '\\') : Spells c [c]
  | short {letter : Char} (h : (letter, c) ∈ shortEscapes) : Spells c ['\\', letter]
  | unicode {digits : List Char} (h : hexValue? digits = some c.toNat) :
    Spells c ('\\' :: 'u' :: digits)
  | surrogates {high low : List Char} {h l : ℕ} (hhigh : hexValue? high = some h)
      (hlow : hexValue? low = some l) (hh : 0xd800 ≤ h ∧ h < 0xdc00) (hl : 0xdc00 ≤ l ∧ l < 0xe000)
      (hc : c.toNat = 0x10000 + (h - 0xd800) * 0x400 + (l - 0xdc00)) :
    Spells c (('\\' :: 'u' :: high) ++ ('\\' :: 'u' :: low))

theorem spells_escape (c : Char) : Spells c (escape c) := by
  have hcode : ∀ n, c.toNat = n → c = Char.ofNat n := fun n h => h ▸ (Char.ofNat_toNat c).symm
  unfold escape
  split_ifs with h₁ h₂ h₃ h₄ h₅ h₆ h₇ h₈
  · subst h₁
    exact .short (by decide)
  · subst h₂
    exact .short (by decide)
  · subst h₃
    exact .short (by decide)
  · subst h₄
    exact .short (by decide)
  · subst h₅
    exact .short (by decide)
  · rw [hcode 8 h₆]
    exact .short (by decide)
  · rw [hcode 12 h₇]
    exact .short (by decide)
  · exact .unicode (hexDigits_control _ h₈ ▸ hexValue?_hexDigits (by omega))
  · exact .plain (by omega) h₁ h₂

/-! ## Writing -/

/-- A quoted string in a spelling. -/
def quoteWith (spell : Char → List Char) (value : String) : List Char :=
  '"' :: (value.toList.flatMap spell ++ ['"'])

mutual

/-- The compact text of a value in a spelling. -/
def renderWith (spell : Char → List Char) : Json → List Char
  | .null => ['n', 'u', 'l', 'l']
  | .bool true => ['t', 'r', 'u', 'e']
  | .bool false => ['f', 'a', 'l', 's', 'e']
  | .number text => text.toList
  | .string value => quoteWith spell value
  | .array values => '[' :: (List.intercalate [','] (renderAllWith spell values) ++ [']'])
  | .object entries =>
    '\x7b' :: (List.intercalate [','] (renderEntriesWith spell entries) ++ ['\x7d'])

def renderAllWith (spell : Char → List Char) : List Json → List (List Char)
  | [] => []
  | value :: values => value.renderWith spell :: renderAllWith spell values

def renderEntriesWith (spell : Char → List Char) : List (String × Json) → List (List Char)
  | [] => []
  | (key, value) :: entries =>
    (quoteWith spell key ++ ':' :: value.renderWith spell) :: renderEntriesWith spell entries

end

mutual

theorem renderWith_escape : ∀ value : Json, value.renderWith escape = value.render
  | .null => rfl
  | .bool true => rfl
  | .bool false => rfl
  | .number _ => rfl
  | .string _ => rfl
  | .array values => by rw [renderWith, render, renderAllWith_escape values]
  | .object entries => by rw [renderWith, render, renderEntriesWith_escape entries]

theorem renderAllWith_escape : ∀ values : List Json, renderAllWith escape values = renderAll values
  | [] => rfl
  | value :: values => by
    rw [renderAllWith, renderAll, renderWith_escape value, renderAllWith_escape values]

theorem renderEntriesWith_escape :
    ∀ entries : List (String × Json), renderEntriesWith escape entries = renderEntries entries
  | [] => rfl
  | (key, value) :: entries => by
    rw [renderEntriesWith, renderEntries, renderWith_escape value,
      renderEntriesWith_escape entries]
    rfl

end

/-- The parser reads the value in every spelling of its strings. -/
def Parser.Understands (parse : Parser) (value : Json) : Prop :=
  ∀ spell : Char → List Char, (∀ c, Spells c (spell c)) →
    parse (utf8 (value.renderWith spell)) = some value

theorem Parser.Understands.reads {parse : Parser} {value : Json} (h : parse.Understands value) :
    parse.Reads value := by
  have hparse := h escape spells_escape
  rwa [renderWith_escape] at hparse

/-! ## Numbers -/

mutual

/-- The value with other texts of its numbers. -/
def mapNumbers (f : String → String) : Json → Json
  | .null => .null
  | .bool value => .bool value
  | .number text => .number (f text)
  | .string value => .string value
  | .array values => .array (mapNumbersAll f values)
  | .object entries => .object (mapNumbersEntries f entries)

def mapNumbersAll (f : String → String) : List Json → List Json
  | [] => []
  | value :: values => value.mapNumbers f :: mapNumbersAll f values

def mapNumbersEntries (f : String → String) : List (String × Json) → List (String × Json)
  | [] => []
  | (key, value) :: entries => (key, value.mapNumbers f) :: mapNumbersEntries f entries

end

mutual

/-- All numbers of the value have the property. -/
def NumbersAre (p : String → Prop) : Json → Prop
  | .null => True
  | .bool _ => True
  | .number text => p text
  | .string _ => True
  | .array values => NumbersAreAll p values
  | .object entries => NumbersAreEntries p entries

def NumbersAreAll (p : String → Prop) : List Json → Prop
  | [] => True
  | value :: values => value.NumbersAre p ∧ NumbersAreAll p values

def NumbersAreEntries (p : String → Prop) : List (String × Json) → Prop
  | [] => True
  | (_, value) :: entries => value.NumbersAre p ∧ NumbersAreEntries p entries

end

mutual

theorem NumbersAre.imp {p q : String → Prop} (h : ∀ text, p text → q text) :
    ∀ value : Json, value.NumbersAre p → value.NumbersAre q
  | .null, _ => trivial
  | .bool _, _ => trivial
  | .number text, hp => h text hp
  | .string _, _ => trivial
  | .array values, hp => NumbersAreAll.imp h values hp
  | .object entries, hp => NumbersAreEntries.imp h entries hp

theorem NumbersAreAll.imp {p q : String → Prop} (h : ∀ text, p text → q text) :
    ∀ values : List Json, NumbersAreAll p values → NumbersAreAll q values
  | [], _ => trivial
  | value :: values, hp => ⟨NumbersAre.imp h value hp.1, NumbersAreAll.imp h values hp.2⟩

theorem NumbersAreEntries.imp {p q : String → Prop} (h : ∀ text, p text → q text) :
    ∀ entries : List (String × Json), NumbersAreEntries p entries →
      NumbersAreEntries q entries
  | [], _ => trivial
  | (_, value) :: entries, hp =>
    ⟨NumbersAre.imp h value hp.1, NumbersAreEntries.imp h entries hp.2⟩

end

end WayfinderRouter.Json
