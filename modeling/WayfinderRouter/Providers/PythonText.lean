import WayfinderRouter.Json.Grammar
import WayfinderRouter.Providers.PythonJson

/-!
# Arguments as Python writes them are JSON

The compact text that Python writes is a text of the value in the grammar of JSON, of printable
ASCII characters, and differs from the value only in the exponents of its numbers.

## Main results

- `numberToken_pythonNumber` — a padded number is a number
- `pythonCompactJson_exact` — the text of a value
-/

namespace WayfinderRouter.Providers.Anthropic

open Json

/-- A character of ASCII that is printed. -/
def PrintableAscii (c : Char) : Prop := 0x20 ≤ c.toNat ∧ c.toNat ≤ 0x7e

instance (c : Char) : Decidable (PrintableAscii c) :=
  inferInstanceAs (Decidable (0x20 ≤ c.toNat ∧ c.toNat ≤ 0x7e))

/-! ## Numbers -/

theorem printable_of_isDigit {c : Char} (h : c.isDigit) : PrintableAscii c := by
  have hrange := Char.isDigit_iff_toNat.mp h
  exact ⟨le_trans (by decide) hrange.1, hrange.2.trans (by decide)⟩

theorem mantissa_of_isDigits {digits : List Char} (h : ∀ c ∈ digits, c.isDigit) :
    Mantissa digits :=
  fun c hc => .inl (h c hc)

theorem Mantissa.append {l l' : List Char} (h : Mantissa l) (h' : Mantissa l') :
    Mantissa (l ++ l') := by
  intro c hc
  rcases List.mem_append.mp hc with hc | hc
  · exact h c hc
  · exact h' c hc

theorem Mantissa.cons {c : Char} {l : List Char} (hc : c.isDigit ∨ c = '-' ∨ c = '.')
    (h : Mantissa l) : Mantissa (c :: l) :=
  List.forall_mem_cons.mpr ⟨hc, h⟩

theorem mantissa_of_isDecimal {decimal : List Char} (h : IsDecimal decimal) :
    Mantissa decimal := by
  have hwhole : ∀ {whole : List Char}, IsWhole whole → Mantissa whole := by
    rintro whole (_ | ⟨hd, -, hrest⟩)
    · exact .cons (.inl (by decide)) fun _ hc => absurd hc List.not_mem_nil
    · exact .cons (.inl hd) (mantissa_of_isDigits hrest)
  have hfraction : ∀ {fraction : List Char}, IsFraction fraction → Mantissa fraction := by
    rintro fraction (_ | hdigits)
    · exact mantissa_of_isDigits fun c hc => absurd hc List.not_mem_nil
    · exact .cons (.inr (.inr rfl)) (mantissa_of_isDigits hdigits.2)
  cases h with
  | positive hw hf => exact (hwhole hw).append (hfraction hf)
  | negative hw hf => exact .cons (.inr (.inl rfl)) ((hwhole hw).append (hfraction hf))

theorem numberText_of_token {text : List Char} (h : NumberToken text) : NumberText text := by
  cases h with
  | plain h => exact .plain (mantissa_of_isDecimal h)
  | exponent h he hsign hdigits => exact .exponent (mantissa_of_isDecimal h) he hsign hdigits

/-- A padded number is a number. -/
theorem numberToken_pythonNumber {text : String} (h : NumberToken text.toList) :
    NumberToken (pythonNumber text).toList := by
  rw [pythonNumber, String.toList_ofList]
  generalize text.toList = chars at h
  cases h with
  | plain h =>
    have hself := (mantissa_of_isDecimal h).pad []
    rw [List.append_nil, padPythonExponents, List.append_nil] at hself
    rw [hself]
    exact .plain h
  | exponent h he hsign hdigits =>
    rw [(mantissa_of_isDecimal h).pad, pad_exponent_last he hsign hdigits]
    refine .exponent h (.inl rfl) hsign ⟨?_, ?_⟩
    · exact fun hnil => hdigits.1 (List.append_eq_nil_iff.mp hnil).2
    · rw [List.forall_mem_append]
      refine ⟨?_, hdigits.2⟩
      split_ifs
      · exact List.forall_mem_singleton.mpr (by decide)
      · exact fun c hc => absurd hc List.not_mem_nil

theorem printable_of_numberToken {text : List Char} (h : NumberToken text) :
    ∀ c ∈ text, PrintableAscii c := by
  have hmantissa : ∀ {mantissa : List Char}, Mantissa mantissa →
      ∀ c ∈ mantissa, PrintableAscii c := by
    intro mantissa hm c hc
    rcases hm c hc with hc | rfl | rfl
    · exact printable_of_isDigit hc
    · decide
    · decide
  cases h with
  | plain h => exact hmantissa (mantissa_of_isDecimal h)
  | exponent h he hsign hdigits =>
    simp only [List.forall_mem_append, List.forall_mem_cons]
    refine ⟨hmantissa (mantissa_of_isDecimal h), ?_, ?_, ?_⟩
    · rcases he with rfl | rfl <;> decide
    · rcases hsign with rfl | rfl | rfl
      · exact fun c hc => absurd hc List.not_mem_nil
      · exact List.forall_mem_singleton.mpr (by decide)
      · exact List.forall_mem_singleton.mpr (by decide)
    · exact fun c hc => printable_of_isDigit (hdigits.2 c hc)

/-! ## Characters -/

theorem printable_hexDigits (n : ℕ) : ∀ c ∈ hexDigits n, PrintableAscii c := by
  have hdigit : ∀ m < 16, PrintableAscii (Nat.digitChar m) := by decide
  rw [hexDigits]
  simp only [List.forall_mem_cons]
  exact ⟨hdigit _ (Nat.mod_lt _ (by decide)), hdigit _ (Nat.mod_lt _ (by decide)),
    hdigit _ (Nat.mod_lt _ (by decide)), hdigit _ (Nat.mod_lt _ (by decide)),
    fun _ h => absurd h List.not_mem_nil⟩

/-- What is escaped once more is in ASCII, and nothing before it is a control character. -/
theorem printable_pythonEscape {c : Char} (h : 0x20 ≤ c.toNat) :
    ∀ d ∈ pythonEscape c, PrintableAscii d := by
  rw [pythonEscape]
  split_ifs with hascii hplane
  · exact List.forall_mem_singleton.mpr ⟨h, hascii⟩
  · simp only [List.forall_mem_cons]
    exact ⟨by decide, by decide, printable_hexDigits _⟩
  · simp only [List.forall_mem_append, List.forall_mem_cons]
    exact ⟨⟨by decide, by decide, printable_hexDigits _⟩, by decide, by decide,
      printable_hexDigits _⟩

theorem printable_pythonSpell (c : Char) : ∀ d ∈ pythonSpell c, PrintableAscii d := by
  intro d hd
  rw [pythonSpell, List.mem_flatMap] at hd
  obtain ⟨e, he, hd⟩ := hd
  exact printable_pythonEscape (printable_escape c e he) d hd

/-! ## Values -/

mutual

theorem numbersAre_mapNumbers {p q : String → Prop} {f : String → String}
    (h : ∀ text, p text → q (f text)) :
    ∀ value : Json, value.NumbersAre p → (value.mapNumbers f).NumbersAre q
  | .null, _ => trivial
  | .bool _, _ => trivial
  | .number text, hp => h text hp
  | .string _, _ => trivial
  | .array values, hp => numbersAreAll_mapNumbersAll h values hp
  | .object entries, hp => numbersAreEntries_mapNumbersEntries h entries hp

theorem numbersAreAll_mapNumbersAll {p q : String → Prop} {f : String → String}
    (h : ∀ text, p text → q (f text)) :
    ∀ values : List Json, NumbersAreAll p values → NumbersAreAll q (mapNumbersAll f values)
  | [], _ => trivial
  | value :: values, hp =>
    ⟨numbersAre_mapNumbers h value hp.1, numbersAreAll_mapNumbersAll h values hp.2⟩

theorem numbersAreEntries_mapNumbersEntries {p q : String → Prop} {f : String → String}
    (h : ∀ text, p text → q (f text)) :
    ∀ entries : List (String × Json), NumbersAreEntries p entries →
      NumbersAreEntries q (mapNumbersEntries f entries)
  | [], _ => trivial
  | (_, value) :: entries, hp =>
    ⟨numbersAre_mapNumbers h value hp.1, numbersAreEntries_mapNumbersEntries h entries hp.2⟩

end

/-- The text has printable ASCII characters only, is a text of the value with its numbers padded
in the grammar of JSON, and the padded numbers are the numbers of the value. A parser that reads
that value in every spelling reads it in this one. -/
theorem pythonCompactJson_exact {value : Json}
    (h : value.NumbersAre fun text => NumberToken text.toList) :
    (∀ c ∈ (pythonCompactJson value).toList, PrintableAscii c) ∧
      IsText (value.mapNumbers pythonNumber) (pythonCompactJson value).toList ∧
      (value.NumbersAre fun text => SameNumber text.toList (pythonNumber text).toList) ∧
      ∀ parse : Json.Parser, parse.Understands (value.mapNumbers pythonNumber) →
        parse (utf8 (pythonCompactJson value).toList) = some (value.mapNumbers pythonNumber) := by
  have htexts : NumberTexts value := NumbersAre.imp (fun _ => numberText_of_token) value h
  have hpadded : (value.mapNumbers pythonNumber).NumbersAre fun text => NumberToken text.toList :=
    numbersAre_mapNumbers (fun _ => numberToken_pythonNumber) value h
  refine ⟨?_, ?_, ?_, fun parse => parse_pythonCompactJson htexts⟩
  · rw [pythonCompactJson_toList htexts]
    exact forall_renderWith (List.forall_iff_forall_mem.mp (by decide)) printable_pythonSpell _
      (NumbersAre.imp (fun _ => printable_of_numberToken) _ hpadded)
  · rw [pythonCompactJson_toList htexts]
    exact isText_renderWith spells_pythonSpell _ hpadded
  · exact NumbersAre.imp (fun _ hnumber => sameNumber_pythonNumber (numberText_of_token hnumber))
      value h

/-- A number with a short exponent beside a string with a quote and a character beyond the basic
plane. -/
theorem pythonCompactJson_exact_array :
    (∀ c ∈ (pythonCompactJson (.array [.number "1e-6", .string "\"😀"])).toList,
      PrintableAscii c) ∧
    IsText (.array [.number (pythonNumber "1e-6"), .string "\"😀"])
      (pythonCompactJson (.array [.number "1e-6", .string "\"😀"])).toList := by
  have hwhole : IsWhole ['1'] := .digits (by decide) (by decide)
    fun _ hc => absurd hc List.not_mem_nil
  have hdecimal : IsDecimal ['1'] := .positive hwhole .none
  have hnumber : NumberToken ['1', 'e', '-', '6'] :=
    .exponent hdecimal (.inl rfl) (.inr (.inr rfl))
      ⟨by decide, List.forall_mem_singleton.mpr (by decide)⟩
  have htoken : NumberToken "1e-6".toList := hnumber
  have hexact := pythonCompactJson_exact
    (show Json.NumbersAre (fun text => NumberToken text.toList)
        (.array [.number "1e-6", .string "\"😀"]) from
      ⟨htoken, trivial, trivial⟩)
  exact ⟨hexact.1, hexact.2.1⟩

end WayfinderRouter.Providers.Anthropic
