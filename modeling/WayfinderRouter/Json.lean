import Mathlib.Data.String.Basic
import WayfinderRouter.Ordered.BoundedMap
import WayfinderRouter.Text
import WayfinderRouter.Unsigned

/-!
# JSON

Values and their compact text. Numbers are kept as they are written, and the entries of an object
in their order. The parser is a parameter.

## Main definitions

- `Json` — the values
- `Json.get`, `Json.asU64` and the like — how values are read
- `Json.render`, `Json.bytes` — the compact text of a value
- `Json.Parser.Reads` — a parser reads back a text
- `Json.Parser.ofValues` — a parser of a few texts
-/

namespace WayfinderRouter

inductive Json where
  | null
  | bool (value : Bool)
  | number (text : String)
  | string (value : String)
  | array (values : List Json)
  | object (entries : List (String × Json))

namespace Json

/-! ## Reading -/

def asObject : Json → Option (List (String × Json))
  | .object entries => some entries
  | _ => none

def asArray : Json → Option (List Json)
  | .array values => some values
  | _ => none

def asStr : Json → Option String
  | .string value => some value
  | _ => none

def asBool : Json → Option Bool
  | .bool value => some value
  | _ => none

/-- The value of an unsigned number without fraction and exponent. -/
def natOfText (text : String) : Option ℕ :=
  if text.toList ≠ [] ∧ text.toList.all Char.isDigit then
    some (Nat.ofDigitChars 10 text.toList 0)
  else none

def asU64 : Json → Option ℕ
  | .number text => (natOfText text).filter (· ≤ U64.max)
  | _ => none

/-- The value of a key of an object. -/
def get (key : String) (value : Json) : Option Json :=
  value.asObject.bind (Ordered.lookup key)

/-- The text under a key of an object. -/
def getStr (key : String) (value : Json) : Option String := (value.get key).bind asStr

/-- An object of the fields that have a value. -/
def ofFields (fields : List (String × Option Json)) : Json :=
  .object (fields.filterMap fun field => field.2.map (Prod.mk field.1))

/-- An unsigned number. -/
def nat (n : ℕ) : Json := .number n.repr

theorem asStr_eq_some {value : Json} {text : String} :
    value.asStr = some text ↔ value = .string text := by
  constructor
  · intro h
    cases value with
    | string value => rw [Option.some.inj h]
    | _ => cases h
  · rintro rfl
    rfl

theorem getStr_eq_some {key : String} {value : Json} {text : String} :
    value.getStr key = some text ↔ value.get key = some (.string text) := by
  simp only [getStr, Option.bind_eq_some_iff, asStr_eq_some, exists_eq_right]

theorem get_ofFields {fields : List (String × Option Json)}
    (h : (fields.map Prod.fst).Nodup) (key : String) :
    (ofFields fields).get key = (Ordered.lookup key fields).join := by
  show Ordered.lookup key (fields.filterMap fun field => field.2.map (Prod.mk field.1)) = _
  induction fields with
  | nil => rfl
  | cons field fields ih =>
    obtain ⟨key', value⟩ := field
    obtain ⟨hfirst, hrest⟩ := List.nodup_cons.mp h
    rw [Ordered.lookup]
    cases value with
    | some value =>
      show (if key' = key then some value else Ordered.lookup key _) = _
      rw [ih hrest]
      split_ifs
      · rfl
      · rfl
    | none =>
      show Ordered.lookup key (fields.filterMap _) = _
      rw [ih hrest]
      split_ifs with hkey
      · subst hkey
        rw [Ordered.lookup_eq_none_iff.mpr hfirst]
        rfl
      · rfl

theorem natOfText_repr (n : ℕ) : natOfText n.repr = some n := by
  have hdigits : (Nat.toDigits 10 n).all Char.isDigit = true :=
    List.all_eq_true.mpr fun c hc => Nat.isDigit_of_mem_toDigits (by decide) (by decide) hc
  rw [natOfText, Nat.toList_repr, if_pos ⟨Nat.toDigits_ne_nil, hdigits⟩,
    Nat.ofDigitChars_ten_toDigits]

theorem asU64_nat {n : ℕ} (h : n ≤ U64.max) : (nat n).asU64 = some n := by
  show (natOfText n.repr).filter (· ≤ U64.max) = some n
  rw [natOfText_repr]
  exact Option.filter_some_pos (decide_eq_true h)

theorem le_of_asU64 {value : Json} {n : ℕ} (h : value.asU64 = some n) : n ≤ U64.max := by
  cases value with
  | number text => exact of_decide_eq_true (Option.filter_eq_some_iff.mp h).2
  | _ => cases h

/-! ## Writing -/

/-- How a character of a string is written. -/
def escape (c : Char) : List Char :=
  if c = '"' then ['\\', '"']
  else if c = '\\' then ['\\', '\\']
  else if c = '\n' then ['\\', 'n']
  else if c = '\r' then ['\\', 'r']
  else if c = '\t' then ['\\', 't']
  else if c.toNat = 8 then ['\\', 'b']
  else if c.toNat = 12 then ['\\', 'f']
  else if c.toNat < 32 then
    ['\\', 'u', '0', '0', Nat.digitChar (c.toNat / 16), Nat.digitChar (c.toNat % 16)]
  else [c]

/-- A quoted string. -/
def quote (value : String) : List Char := '"' :: (value.toList.flatMap escape ++ ['"'])

mutual

/-- The compact text of a value. -/
def render : Json → List Char
  | .null => ['n', 'u', 'l', 'l']
  | .bool true => ['t', 'r', 'u', 'e']
  | .bool false => ['f', 'a', 'l', 's', 'e']
  | .number text => text.toList
  | .string value => quote value
  | .array values => '[' :: (List.intercalate [','] (renderAll values) ++ [']'])
  | .object entries => '\x7b' :: (List.intercalate [','] (renderEntries entries) ++ ['\x7d'])

def renderAll : List Json → List (List Char)
  | [] => []
  | value :: values => value.render :: renderAll values

def renderEntries : List (String × Json) → List (List Char)
  | [] => []
  | (key, value) :: entries => (quote key ++ ':' :: value.render) :: renderEntries entries

end

/-- The bytes of the compact text of a value. -/
def bytes (value : Json) : List UInt8 := utf8 value.render

theorem printable_escape (c : Char) : Printable (escape c) := by
  have hdigit : ∀ n, n < 16 → 32 ≤ (Nat.digitChar n).toNat := by decide
  unfold escape
  split_ifs with h₁ h₂ h₃ h₄ h₅ h₆ h₇ h₈
  · decide
  · decide
  · decide
  · decide
  · decide
  · decide
  · decide
  · simp only [printable_cons]
    refine ⟨by decide, by decide, by decide, by decide, hdigit _ (by omega), ?_, printable_nil⟩
    exact hdigit _ (Nat.mod_lt _ (by decide))
  · simp only [printable_cons]
    exact ⟨Nat.not_lt.mp h₈, printable_nil⟩

@[simp] theorem printable_quote (value : String) : Printable (quote value) := by
  have hmiddle : Printable (value.toList.flatMap escape) := by
    intro c hc
    obtain ⟨c', -, hmem⟩ := List.mem_flatMap.mp hc
    exact printable_escape c' c hmem
  simp only [quote, printable_cons, printable_append]
  exact ⟨by decide, hmiddle, by decide, printable_nil⟩

@[simp] theorem printable_nat (n : ℕ) : Printable (nat n).render := by
  intro c hc
  rw [nat, render, Nat.toList_repr] at hc
  have hdigit := Nat.isDigit_of_mem_toDigits (by decide) (by decide) hc
  exact le_trans (by decide) (Char.isDigit_iff_toNat.mp hdigit).1

/-- A parser. -/
def Parser := List UInt8 → Option Json

/-- The parser reads back the compact text of the value. -/
def Parser.Reads (parse : Parser) (value : Json) : Prop := parse value.bytes = some value

/-- A parser of the compact texts of the given values. -/
def Parser.ofValues (values : List Json) : Parser := fun text =>
  values.find? fun value => value.bytes = text

theorem Parser.reads_ofValues {values : List Json} (h : (values.map bytes).Nodup) {value : Json}
    (hmem : value ∈ values) : (ofValues values).Reads value := by
  induction values with
  | nil => exact absurd hmem List.not_mem_nil
  | cons first values ih =>
    rw [List.map_cons, List.nodup_cons] at h
    rw [Reads, ofValues]
    rcases List.mem_cons.mp hmem with rfl | hmem'
    · exact List.find?_cons_of_pos (decide_eq_true rfl)
    · have hne : first.bytes ≠ value.bytes := fun heq => h.1 (heq ▸ List.mem_map_of_mem hmem')
      rw [List.find?_cons_of_neg (by rw [decide_eq_true_eq]; exact hne)]
      exact ih h.2 hmem'

end Json

end WayfinderRouter
