import WayfinderRouter.Json.Spelling

/-!
# Arguments as Python writes them

The arguments of a tool call are the compact text of a value, with characters beyond ASCII written
by their code and the exponents of numbers padded to two digits. The text spells the value with its
numbers so padded.

## Main definitions

- `pythonCompactJson`, `padPythonExponents` — the text
- `NumberText`, `SameNumber` — the texts of numbers, and texts of one number
- `pythonNumber` — the text of a number as Python writes it

## Main results

- `pythonCompactJson_toList` — the text spells the value
- `sameNumber_pythonNumber` — padding keeps the number
-/

namespace WayfinderRouter.Providers.Anthropic

open Json

/-- A character of `python_compact_json`. -/
def pythonEscape (c : Char) : List Char :=
  let code := c.toNat
  if code ≤ 0x7e then [c]
  else if code ≤ 0xffff then '\\' :: 'u' :: hexDigits code
  else
    let code := code - 0x10000
    let high := 0xd800 + (code >>> 10)
    let low := 0xdc00 + (code &&& 0x3ff)
    ('\\' :: 'u' :: hexDigits high) ++ ('\\' :: 'u' :: hexDigits low)

/-- Where `pad_python_exponents` stands: `in_string`, with `escaped`, or not. -/
inductive Scan where
  | outside
  | inString (escaped : Bool)

/-- The state after a character of a string. -/
def Scan.next (escaped : Bool) (c : Char) : Scan :=
  if escaped then .inString false
  else if c = '\\' then .inString true
  else if c = '"' then .outside
  else .inString false

/-- The sign of an exponent, and what follows it. -/
def exponentSign : List Char → List Char × List Char
  | '+' :: rest => (['+'], rest)
  | '-' :: rest => (['-'], rest)
  | rest => ([], rest)

theorem length_exponentSign (text : List Char) : (exponentSign text).2.length ≤ text.length := by
  unfold exponentSign
  split
  · exact Nat.le_succ _
  · exact Nat.le_succ _
  · exact le_rfl

theorem length_dropDigits (text : List Char) :
    ((exponentSign text).2.dropWhile Char.isDigit).length < text.length + 1 :=
  Nat.lt_succ_of_le ((List.length_dropWhile_le ..).trans (length_exponentSign text))

/-- `pad_python_exponents`. -/
def padPythonExponents : Scan → List Char → List Char
  | _, [] => []
  | .inString escaped, c :: rest => c :: padPythonExponents (.next escaped c) rest
  | .outside, c :: rest =>
    if c = '"' then c :: padPythonExponents (.inString false) rest
    else if c ≠ 'e' ∧ c ≠ 'E' then c :: padPythonExponents .outside rest
    else
      let digits := (exponentSign rest).2.takeWhile Char.isDigit
      'e' :: ((exponentSign rest).1 ++ ((if digits.length = 1 then ['0'] else []) ++ digits) ++
        padPythonExponents .outside ((exponentSign rest).2.dropWhile Char.isDigit))
termination_by _ text => text.length
decreasing_by
  · exact Nat.lt_succ_self _
  · exact Nat.lt_succ_self _
  · exact Nat.lt_succ_self _
  · exact length_dropDigits rest

/-- `python_compact_json`. -/
def pythonCompactJson (value : Json) : String :=
  String.ofList (padPythonExponents .outside (value.render.flatMap pythonEscape))

/-! ## Numbers -/

def Mantissa (text : List Char) : Prop := ∀ c ∈ text, c.isDigit ∨ c = '-' ∨ c = '.'

def Digits (text : List Char) : Prop := text ≠ [] ∧ ∀ c ∈ text, c.isDigit

def Sign (text : List Char) : Prop := text = [] ∨ text = ['+'] ∨ text = ['-']

/-- The texts of numbers. -/
inductive NumberText : List Char → Prop where
  | plain {mantissa : List Char} (h : Mantissa mantissa) : NumberText mantissa
  | exponent {mantissa sign digits : List Char} {e : Char} (h : Mantissa mantissa)
      (he : e = 'e' ∨ e = 'E') (hsign : Sign sign) (hdigits : Digits digits) :
    NumberText (mantissa ++ e :: (sign ++ digits))

/-- Texts of one number, which differ in how the exponent is written. -/
inductive SameNumber : List Char → List Char → Prop where
  | refl (text : List Char) : SameNumber text text
  | exponent {mantissa sign digits digits' : List Char} {e e' : Char} (he : e = 'e' ∨ e = 'E')
      (he' : e' = 'e' ∨ e' = 'E') (hdigits : Digits digits) (hdigits' : Digits digits')
      (h : Nat.ofDigitChars 10 digits 0 = Nat.ofDigitChars 10 digits' 0) :
    SameNumber (mantissa ++ e :: (sign ++ digits)) (mantissa ++ e' :: (sign ++ digits'))

/-- The text of a number as Python writes it. -/
def pythonNumber (text : String) : String :=
  String.ofList (padPythonExponents .outside text.toList)

/-- What may follow a value. -/
def Delimited (rest : List Char) : Prop :=
  ∀ c ∈ rest.head?, ¬ c.isDigit ∧ c ≠ '+' ∧ c ≠ '-'

theorem pad_plain {c : Char} (hquote : c ≠ '"') (he : c ≠ 'e') (hE : c ≠ 'E')
    (rest : List Char) :
    padPythonExponents .outside (c :: rest) = c :: padPythonExponents .outside rest := by
  rw [padPythonExponents, if_neg hquote, if_pos ⟨he, hE⟩]

theorem Mantissa.pad {mantissa : List Char} (h : Mantissa mantissa) (rest : List Char) :
    padPythonExponents .outside (mantissa ++ rest) =
      mantissa ++ padPythonExponents .outside rest := by
  induction mantissa with
  | nil => rfl
  | cons c mantissa ih =>
    have hc : c ≠ '"' ∧ c ≠ 'e' ∧ c ≠ 'E' := by
      have hfirst := h c List.mem_cons_self
      refine ⟨?_, ?_, ?_⟩
      all_goals
        rintro rfl
        revert hfirst
        decide
    rw [List.cons_append, pad_plain hc.1 hc.2.1 hc.2.2,
      ih fun c hc => h c (List.mem_cons_of_mem _ hc), List.cons_append]

theorem Digits.takeWhile {digits rest : List Char} (h : ∀ c ∈ digits, c.isDigit)
    (hrest : ∀ c ∈ rest.head?, ¬ c.isDigit) :
    (digits ++ rest).takeWhile Char.isDigit = digits ∧
      (digits ++ rest).dropWhile Char.isDigit = rest := by
  have hstop : rest.takeWhile Char.isDigit = [] ∧ rest.dropWhile Char.isDigit = rest := by
    cases rest with
    | nil => exact ⟨rfl, rfl⟩
    | cons c rest =>
      have hc := hrest c rfl
      exact ⟨List.takeWhile_cons_of_neg hc, List.dropWhile_cons_of_neg hc⟩
  rw [List.takeWhile_append_of_pos h, List.dropWhile_append_of_pos h, hstop.1, hstop.2,
    List.append_nil]
  exact ⟨rfl, rfl⟩

theorem Sign.split {sign digits : List Char} (hsign : Sign sign)
    (hdigits : ∀ c ∈ digits.head?, c ≠ '+' ∧ c ≠ '-') :
    exponentSign (sign ++ digits) = (sign, digits) := by
  obtain rfl | rfl | rfl := hsign
  · rw [List.nil_append]
    unfold exponentSign
    split
    · exact absurd rfl (hdigits '+' rfl).1
    · exact absurd rfl (hdigits '-' rfl).2
    · rfl
  · rfl
  · rfl

/-- How an exponent is padded. -/
theorem pad_exponent {e : Char} {sign digits rest : List Char} (he : e = 'e' ∨ e = 'E')
    (hsign : Sign sign) (hdigits : ∀ c ∈ digits, c.isDigit)
    (hrest : ∀ c ∈ rest.head?, ¬ c.isDigit)
    (hhead : ∀ c ∈ (digits ++ rest).head?, c ≠ '+' ∧ c ≠ '-') :
    padPythonExponents .outside (e :: (sign ++ digits ++ rest)) =
      'e' :: (sign ++ ((if digits.length = 1 then ['0'] else []) ++ digits) ++
        padPythonExponents .outside rest) := by
  have hquote : e ≠ '"' := by rcases he with rfl | rfl <;> decide
  obtain ⟨htake, hdrop⟩ := Digits.takeWhile hdigits hrest
  have hsplit := hsign.split hhead
  rw [padPythonExponents, if_neg hquote, if_neg fun h => he.elim h.1 h.2, List.append_assoc,
    hsplit, htake, hdrop]

theorem Digits.head {digits : List Char} (h : Digits digits) (rest : List Char) :
    ∀ c ∈ (digits ++ rest).head?, c ≠ '+' ∧ c ≠ '-' := by
  obtain ⟨hne, hall⟩ := h
  cases digits with
  | nil => exact absurd rfl hne
  | cons d digits =>
    intro c hc
    cases hc
    have hd := hall d List.mem_cons_self
    constructor
    all_goals
      rintro rfl
      revert hd
      decide

theorem pad_exponent_last {e : Char} {sign digits : List Char} (he : e = 'e' ∨ e = 'E')
    (hsign : Sign sign) (hdigits : Digits digits) :
    padPythonExponents .outside (e :: (sign ++ digits)) =
      'e' :: (sign ++ ((if digits.length = 1 then ['0'] else []) ++ digits)) := by
  have hpad := @pad_exponent e sign digits [] he hsign hdigits.2
    (fun c hc => (Option.not_mem_none c hc).elim) (hdigits.head [])
  rwa [List.append_nil, padPythonExponents, List.append_nil] at hpad

/-- A number is padded on its own. -/
theorem NumberText.pad {text : List Char} (h : NumberText text) {rest : List Char}
    (hrest : ∀ c ∈ rest.head?, ¬ c.isDigit) :
    padPythonExponents .outside (text ++ rest) =
      padPythonExponents .outside text ++ padPythonExponents .outside rest := by
  cases h with
  | plain h =>
    have hself := h.pad []
    rw [List.append_nil] at hself
    rw [h.pad, hself, padPythonExponents, List.append_nil]
  | exponent h he hsign hdigits =>
    rw [List.append_assoc, h.pad, List.cons_append,
      pad_exponent he hsign hdigits.2 hrest (hdigits.head rest), h.pad,
      pad_exponent_last he hsign hdigits]
    simp only [List.append_assoc, List.cons_append]

/-- Padding keeps the number. -/
theorem sameNumber_pythonNumber {text : String} (h : NumberText text.toList) :
    SameNumber text.toList (pythonNumber text).toList := by
  rw [pythonNumber, String.toList_ofList]
  generalize text.toList = chars at h
  cases h with
  | plain h =>
    have hself := h.pad []
    rw [List.append_nil, padPythonExponents, List.append_nil] at hself
    rw [hself]
    exact .refl chars
  | @exponent mantissa sign digits e h he hsign hdigits =>
    rw [h.pad, pad_exponent_last he hsign hdigits]
    refine .exponent he (.inl rfl) hdigits ?_ ?_
    · refine ⟨fun hnil => hdigits.1 (List.append_eq_nil_iff.mp hnil).2, ?_⟩
      intro c hc
      rcases List.mem_append.mp hc with hc | hc
      · split_ifs at hc
        · rw [List.mem_singleton.mp hc]
          decide
        · exact absurd hc List.not_mem_nil
      · exact hdigits.2 c hc
    · split_ifs
      · rfl
      · rfl

/-! ## Values -/

theorem pad_inString (escaped : Bool) (c : Char) (rest : List Char) :
    padPythonExponents (.inString escaped) (c :: rest) =
      c :: padPythonExponents (.next escaped c) rest := by
  rw [padPythonExponents]

/-- A text within a string, which is kept. -/
def Verbatim (text : List Char) : Prop :=
  ∀ rest, padPythonExponents (.inString false) (text ++ rest) =
    text ++ padPythonExponents (.inString false) rest

theorem verbatim_of_plain {text : List Char} (h : ∀ c ∈ text, c ≠ '\\' ∧ c ≠ '"') :
    Verbatim text := by
  intro rest
  induction text with
  | nil => rfl
  | cons c text ih =>
    obtain ⟨hbackslash, hquote⟩ := h c List.mem_cons_self
    rw [List.cons_append, pad_inString, Scan.next, if_neg Bool.false_ne_true,
      if_neg hbackslash, if_neg hquote, ih fun c hc => h c (List.mem_cons_of_mem _ hc),
      List.cons_append]

theorem Verbatim.append {text text' : List Char} (h : Verbatim text) (h' : Verbatim text') :
    Verbatim (text ++ text') := by
  intro rest
  rw [List.append_assoc, h, h', List.append_assoc]

/-- After a backslash one character is kept, whatever it is. -/
theorem verbatim_escaped (c : Char) {text : List Char} (h : Verbatim text) :
    Verbatim ('\\' :: c :: text) := by
  intro rest
  rw [List.cons_append, List.cons_append, pad_inString]
  show '\\' :: padPythonExponents (.inString true) (c :: (text ++ rest)) = _
  rw [pad_inString]
  show '\\' :: c :: padPythonExponents (.inString false) (text ++ rest) = _
  rw [h rest, List.cons_append, List.cons_append]

theorem plain_of_hexDigit? {c : Char} {n : ℕ} (h : hexDigit? c = some n) : c ≠ '\\' ∧ c ≠ '"' := by
  constructor
  all_goals
    rintro rfl
    cases h

theorem verbatim_of_hexValue? {digits : List Char} {n : ℕ} (h : hexValue? digits = some n) :
    Verbatim digits := by
  apply verbatim_of_plain
  unfold hexValue? at h
  split at h
  · rename_i a b c d
    simp only [Option.bind_eq_bind, Option.bind_eq_some_iff] at h
    obtain ⟨_, ha, _, hb, _, hc, _, hd, -⟩ := h
    simp only [List.forall_mem_cons]
    exact ⟨plain_of_hexDigit? ha, plain_of_hexDigit? hb, plain_of_hexDigit? hc,
      plain_of_hexDigit? hd, fun _ h => absurd h List.not_mem_nil⟩
  · cases h

/-- The spellings of a character are kept. -/
theorem verbatim_of_spells {c : Char} {text : List Char} (h : Spells c text) : Verbatim text := by
  cases h with
  | plain h hquote hbackslash =>
    exact verbatim_of_plain (List.forall_mem_singleton.mpr ⟨hbackslash, hquote⟩)
  | short h => exact verbatim_escaped _ fun _ => rfl
  | unicode h => exact verbatim_escaped 'u' (verbatim_of_hexValue? h)
  | surrogates hhigh hlow _ _ _ =>
    exact (verbatim_escaped 'u' (verbatim_of_hexValue? hhigh)).append
      (verbatim_escaped 'u' (verbatim_of_hexValue? hlow))

section Spelling

variable {spell : Char → List Char} (hspell : ∀ c, Spells c (spell c))

include hspell

/-- A quoted string is kept. -/
theorem pad_quoteWith (value : String) (rest : List Char) :
    padPythonExponents .outside (quoteWith spell value ++ rest) =
      quoteWith spell value ++ padPythonExponents .outside rest := by
  have hbody : Verbatim (value.toList.flatMap spell) := by
    generalize value.toList = chars
    induction chars with
    | nil => exact fun _ => rfl
    | cons c chars ih =>
      rw [List.flatMap_cons]
      exact (verbatim_of_spells (hspell c)).append ih
  rw [quoteWith, List.cons_append, List.append_assoc, List.singleton_append, padPythonExponents,
    if_pos rfl, hbody, pad_inString]
  show _ :: (_ ++ '"' :: padPythonExponents .outside rest) = _
  rw [List.cons_append, List.append_assoc, List.singleton_append]

end Spelling

/-- Padding turns one text into the other, before whatever may follow a value. -/
def Pads (text text' : List Char) : Prop :=
  ∀ rest, Delimited rest →
    padPythonExponents .outside (text ++ rest) = text' ++ padPythonExponents .outside rest

theorem delimited_cons {c : Char} (h : c = ',' ∨ c = ']' ∨ c = '\x7d') (rest : List Char) :
    Delimited (c :: rest) := by
  intro c' hc'
  cases hc'
  rcases h with rfl | rfl | rfl <;> decide

theorem Pads.intercalate {texts texts' : List (List Char)} (h : List.Forall₂ Pads texts texts') :
    Pads (List.intercalate [','] texts) (List.intercalate [','] texts') := by
  induction h with
  | nil => exact fun _ _ => rfl
  | @cons text text' texts texts' hfirst hrest ih =>
    cases hrest with
    | nil => simpa only [List.intercalate_singleton] using hfirst
    | cons hsecond hrest =>
      intro rest hdelimited
      have htail := ih rest hdelimited
      rw [List.intercalate_cons_cons, List.intercalate_cons_cons, List.append_assoc,
        List.append_assoc, List.singleton_append, hfirst _ (delimited_cons (.inl rfl) _),
        pad_plain (by decide) (by decide) (by decide), htail, List.append_assoc,
        List.append_assoc, List.singleton_append]

/-- A bracketed text. -/
theorem Pads.bracket {text text' : List Char} (h : Pads text text') {left right : Char}
    (hleft : left = '[' ∨ left = '\x7b') (hright : right = ']' ∨ right = '\x7d') :
    Pads (left :: (text ++ [right])) (left :: (text' ++ [right])) := by
  have hopen : left ≠ '"' ∧ left ≠ 'e' ∧ left ≠ 'E' := by rcases hleft with rfl | rfl <;> decide
  have hclose : right ≠ '"' ∧ right ≠ 'e' ∧ right ≠ 'E' := by
    rcases hright with rfl | rfl <;> decide
  intro rest _
  rw [List.cons_append, List.append_assoc, List.singleton_append,
    pad_plain hopen.1 hopen.2.1 hopen.2.2, h _ (delimited_cons (.inr hright) rest),
    pad_plain hclose.1 hclose.2.1 hclose.2.2, List.cons_append, List.append_assoc,
    List.singleton_append]

theorem Pads.cons {c : Char} (hquote : c ≠ '"') (he : c ≠ 'e') (hE : c ≠ 'E')
    {text text' : List Char} (h : Pads text text') : Pads (c :: text) (c :: text') := by
  intro rest hrest
  rw [List.cons_append, pad_plain hquote he hE, h rest hrest, List.cons_append]

/-- The last letter of `true` and `false` starts no exponent. -/
theorem pads_e : Pads ['e'] ['e'] := by
  intro rest hrest
  exact pad_exponent (.inl rfl) (.inl rfl) (fun _ h => absurd h List.not_mem_nil)
    (fun c hc => (hrest c hc).1) (fun c hc => (hrest c hc).2)

theorem pads_nil : Pads [] [] := fun _ _ => rfl

theorem pads_true : Pads ['t', 'r', 'u', 'e'] ['t', 'r', 'u', 'e'] :=
  ((pads_e.cons (by decide) (by decide) (by decide)).cons (by decide) (by decide)
    (by decide)).cons (by decide) (by decide) (by decide)

theorem pads_false : Pads ['f', 'a', 'l', 's', 'e'] ['f', 'a', 'l', 's', 'e'] :=
  (((pads_e.cons (by decide) (by decide) (by decide)).cons (by decide) (by decide)
    (by decide)).cons (by decide) (by decide) (by decide)).cons (by decide) (by decide) (by decide)

theorem pads_null : Pads ['n', 'u', 'l', 'l'] ['n', 'u', 'l', 'l'] :=
  (((pads_nil.cons (by decide) (by decide) (by decide)).cons (by decide) (by decide)
    (by decide)).cons (by decide) (by decide) (by decide)).cons (by decide) (by decide) (by decide)

/-- The numbers of a value are written as numbers are. -/
def NumberTexts (value : Json) : Prop := value.NumbersAre fun text => NumberText text.toList

mutual

/-- Padding a spelled value spells the value with its numbers padded. -/
theorem pads_renderWith {spell : Char → List Char} (hspell : ∀ c, Spells c (spell c)) :
    ∀ value : Json, NumberTexts value →
      Pads (value.renderWith spell) ((value.mapNumbers pythonNumber).renderWith spell)
  | .null, _ => pads_null
  | .bool true, _ => pads_true
  | .bool false, _ => pads_false
  | .number text, h => by
    intro rest hrest
    rw [mapNumbers, renderWith, renderWith, pythonNumber, String.toList_ofList]
    exact NumberText.pad h fun c hc => (hrest c hc).1
  | .string value, _ => fun rest _ => pad_quoteWith hspell value rest
  | .array values, h =>
    (Pads.intercalate (pads_renderAllWith hspell values h)).bracket (.inl rfl) (.inl rfl)
  | .object entries, h =>
    (Pads.intercalate (pads_renderEntriesWith hspell entries h)).bracket (.inr rfl) (.inr rfl)

theorem pads_renderAllWith {spell : Char → List Char} (hspell : ∀ c, Spells c (spell c)) :
    ∀ values : List Json, NumbersAreAll (fun text => NumberText text.toList) values →
      List.Forall₂ Pads (renderAllWith spell values)
        (renderAllWith spell (mapNumbersAll pythonNumber values))
  | [], _ => .nil
  | value :: values, h =>
    .cons (pads_renderWith hspell value h.1) (pads_renderAllWith hspell values h.2)

theorem pads_renderEntriesWith {spell : Char → List Char} (hspell : ∀ c, Spells c (spell c)) :
    ∀ entries : List (String × Json),
      NumbersAreEntries (fun text => NumberText text.toList) entries →
      List.Forall₂ Pads (renderEntriesWith spell entries)
        (renderEntriesWith spell (mapNumbersEntries pythonNumber entries))
  | [], _ => .nil
  | (key, value) :: entries, h => by
    refine .cons ?_ (pads_renderEntriesWith hspell entries h.2)
    intro rest hrest
    rw [List.append_assoc, pad_quoteWith hspell, List.cons_append,
      pad_plain (by decide) (by decide) (by decide), pads_renderWith hspell value h.1 rest hrest,
      List.append_assoc, List.cons_append]

end

/-! ## The text of a value -/

/-- How Python spells a character. -/
def pythonSpell (c : Char) : List Char := (escape c).flatMap pythonEscape

theorem pythonEscape_of_le {c : Char} (h : c.toNat ≤ 0x7e) : pythonEscape c = [c] := if_pos h

theorem flatMap_pythonEscape {text : List Char} (h : ∀ c ∈ text, c.toNat ≤ 0x7e) :
    text.flatMap pythonEscape = text := by
  induction text with
  | nil => rfl
  | cons c text ih =>
    rw [List.flatMap_cons, pythonEscape_of_le (h c List.mem_cons_self),
      ih fun c hc => h c (List.mem_cons_of_mem _ hc), List.singleton_append]

theorem spells_pythonEscape {c : Char} (h : 0x7e < c.toNat) : Spells c (pythonEscape c) := by
  have hmax : c.toNat < 0x110000 :=
    c.valid.elim (fun h => h.trans (by decide)) And.right
  rw [pythonEscape, if_neg (Nat.not_le.mpr h)]
  split_ifs with hcode
  · exact .unicode (hexValue?_hexDigits (Nat.lt_succ_of_le hcode))
  · have hhigh : (c.toNat - 0x10000) >>> 10 = (c.toNat - 0x10000) / 0x400 :=
      Nat.shiftRight_eq_div_pow _ 10
    have hlow : (c.toNat - 0x10000) &&& 0x3ff = (c.toNat - 0x10000) % 0x400 :=
      Nat.and_two_pow_sub_one_eq_mod _ 10
    refine .surrogates (hexValue?_hexDigits ?_) (hexValue?_hexDigits ?_) ?_ ?_ ?_
    all_goals omega

theorem escape_of_lt {c : Char} (h : 0x7e < c.toNat) : escape c = [c] := by
  have hne : ∀ d : Char, d.toNat ≤ 0x7e → c ≠ d := fun d hd heq => absurd hd (by rw [← heq]; omega)
  rw [escape, if_neg (hne _ (by decide)), if_neg (hne _ (by decide)), if_neg (hne _ (by decide)),
    if_neg (hne _ (by decide)), if_neg (hne _ (by decide)), if_neg (by omega), if_neg (by omega),
    if_neg (by omega)]

theorem escape_ascii {c : Char} (h : c.toNat ≤ 0x7e) : ∀ d ∈ escape c, d.toNat ≤ 0x7e := by
  have hdigit : ∀ n < 16, (Nat.digitChar n).toNat ≤ 0x7e := by decide
  have hpair : ∀ d : Char, d.toNat ≤ 0x7e → ∀ e ∈ ['\\', d], e.toNat ≤ 0x7e := by
    intro d hd
    simp only [List.forall_mem_cons]
    exact ⟨by decide, hd, fun _ h => absurd h List.not_mem_nil⟩
  unfold escape
  split_ifs with h₁ h₂ h₃ h₄ h₅ h₆ h₇ h₈
  iterate 7 exact hpair _ (by decide)
  · simp only [List.forall_mem_cons]
    exact ⟨by decide, by decide, by decide, by decide, hdigit _ (by omega), hdigit _ (by omega),
      fun _ h => absurd h List.not_mem_nil⟩
  · exact List.forall_mem_singleton.mpr h

theorem spells_pythonSpell (c : Char) : Spells c (pythonSpell c) := by
  rw [pythonSpell]
  by_cases hc : c.toNat ≤ 0x7e
  · rw [flatMap_pythonEscape (escape_ascii hc)]
    exact spells_escape c
  · rw [escape_of_lt (Nat.not_le.mp hc), List.flatMap_singleton]
    exact spells_pythonEscape (Nat.not_le.mp hc)

theorem flatMap_quote (value : String) :
    (quote value).flatMap pythonEscape = quoteWith pythonSpell value := by
  rw [quote, List.flatMap_cons, List.flatMap_append, List.flatMap_assoc]
  rfl

theorem flatMap_intercalate (texts : List (List Char)) :
    (List.intercalate [','] texts).flatMap pythonEscape =
      List.intercalate [','] (texts.map fun text => text.flatMap pythonEscape) := by
  induction texts with
  | nil => rfl
  | cons text texts ih =>
    cases texts with
    | nil => rw [List.intercalate_singleton, List.map_singleton, List.intercalate_singleton]
    | cons second texts =>
      rw [List.intercalate_cons_cons, List.flatMap_append, List.flatMap_append, ih]
      exact List.intercalate_cons_cons.symm

theorem NumberText.ascii {text : List Char} (h : NumberText text) : ∀ c ∈ text, c.toNat ≤ 0x7e := by
  have hdigit : ∀ c : Char, c.isDigit → c.toNat ≤ 0x7e := fun c hc =>
    (Char.isDigit_iff_toNat.mp hc).2.trans (by decide)
  have hmantissa : ∀ mantissa, Mantissa mantissa → ∀ c ∈ mantissa, c.toNat ≤ 0x7e := by
    intro mantissa hm c hc
    rcases hm c hc with hc | rfl | rfl
    · exact hdigit c hc
    · decide
    · decide
  intro c hc
  cases h with
  | plain h => exact hmantissa text h c hc
  | exponent h he hsign hdigits =>
    rcases List.mem_append.mp hc with hc | hc
    · exact hmantissa _ h c hc
    rcases List.mem_cons.mp hc with rfl | hc
    · rcases he with rfl | rfl <;> decide
    rcases List.mem_append.mp hc with hc | hc
    · rcases hsign with rfl | rfl | rfl
      · exact absurd hc List.not_mem_nil
      · rw [List.mem_singleton.mp hc]
        decide
      · rw [List.mem_singleton.mp hc]
        decide
    · exact hdigit c (hdigits.2 c hc)

mutual

theorem flatMap_render : ∀ value : Json, NumberTexts value →
    value.render.flatMap pythonEscape = value.renderWith pythonSpell
  | .null, _ => rfl
  | .bool true, _ => rfl
  | .bool false, _ => rfl
  | .number _, h => flatMap_pythonEscape (NumberText.ascii h)
  | .string value, _ => flatMap_quote value
  | .array values, h => by
    rw [render, renderWith, List.flatMap_cons, List.flatMap_append, flatMap_intercalate,
      map_renderAll values h]
    rfl
  | .object entries, h => by
    rw [render, renderWith, List.flatMap_cons, List.flatMap_append, flatMap_intercalate,
      map_renderEntries entries h]
    rfl

theorem map_renderAll : ∀ values : List Json,
    NumbersAreAll (fun text => NumberText text.toList) values →
    (renderAll values).map (fun text => text.flatMap pythonEscape) =
      renderAllWith pythonSpell values
  | [], _ => rfl
  | value :: values, h => by
    rw [renderAll, renderAllWith, List.map_cons, flatMap_render value h.1,
      map_renderAll values h.2]

theorem map_renderEntries : ∀ entries : List (String × Json),
    NumbersAreEntries (fun text => NumberText text.toList) entries →
    (renderEntries entries).map (fun text => text.flatMap pythonEscape) =
      renderEntriesWith pythonSpell entries
  | [], _ => rfl
  | (key, value) :: entries, h => by
    rw [renderEntries, renderEntriesWith, List.map_cons, List.flatMap_append, flatMap_quote,
      List.flatMap_cons, flatMap_render value h.1, map_renderEntries entries h.2]
    rfl

end

/-- The text spells the value with its numbers padded. -/
theorem pythonCompactJson_toList {value : Json} (h : NumberTexts value) :
    (pythonCompactJson value).toList = (value.mapNumbers pythonNumber).renderWith pythonSpell := by
  have hpads := pads_renderWith spells_pythonSpell value h []
    fun _ h => (Option.not_mem_none _ h).elim
  rw [List.append_nil, padPythonExponents, List.append_nil] at hpads
  rw [pythonCompactJson, String.toList_ofList, flatMap_render value h, hpads]

/-- The text is read as the value with its numbers padded. -/
theorem parse_pythonCompactJson {parse : Json.Parser} {value : Json} (h : NumberTexts value)
    (hparse : parse.Understands (value.mapNumbers pythonNumber)) :
    parse (utf8 (pythonCompactJson value).toList) = some (value.mapNumbers pythonNumber) := by
  rw [pythonCompactJson_toList h]
  exact hparse pythonSpell spells_pythonSpell

end WayfinderRouter.Providers.Anthropic
