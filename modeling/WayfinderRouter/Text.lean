import Mathlib.Data.List.DropRight

/-!
# Texts

## Main definitions

- `isWhitespace`, `trim` — white space at the ends of a text
- `utf8` — the bytes of a text
- `Printable`, `SingleLine` — texts without control characters, and without line endings
-/

namespace WayfinderRouter

/-- `char::is_whitespace`. -/
def isWhitespace (c : Char) : Bool :=
  let n := c.toNat
  (9 ≤ n && n ≤ 13) || n = 0x20 || n = 0x85 || n = 0xa0 || n = 0x1680 ||
    (0x2000 ≤ n && n ≤ 0x200a) || n = 0x2028 || n = 0x2029 || n = 0x202f || n = 0x205f ||
    n = 0x3000

/-- `str::trim`. -/
def trim (text : String) : String :=
  String.ofList ((text.toList.dropWhile isWhitespace).rdropWhile isWhitespace)

/-- The bytes of a text. -/
def utf8 (text : List Char) : List UInt8 := text.flatMap String.utf8EncodeChar

theorem utf8_append (l l' : List Char) : utf8 (l ++ l') = utf8 l ++ utf8 l' :=
  List.flatMap_append

theorem utf8Encode_eq (l : List Char) : l.utf8Encode = ⟨(utf8 l).toArray⟩ := by
  apply ByteArray.ext
  rw [List.utf8Encode, List.data_toByteArray, utf8]

/-- The bytes of a text are read back. -/
theorem fromUTF8_utf8 (l : List Char) :
    String.fromUTF8? ⟨(utf8 l).toArray⟩ = some (String.ofList l) := by
  rw [← utf8Encode_eq, String.fromUTF8?, dif_pos ByteArray.isValidUTF8_utf8Encode]
  rfl

theorem utf8ByteSize_ofList (l : List Char) :
    (String.ofList l).utf8ByteSize = (utf8 l).length := by
  show l.utf8Encode.size = _
  rw [utf8Encode_eq]
  rfl

/-- A byte of an encoded character is the character itself or not an ASCII one. -/
theorem toNat_of_mem_utf8EncodeChar {c : Char} {b : UInt8} (h : b ∈ String.utf8EncodeChar c) :
    b.toNat = c.toNat ∨ 128 ≤ b.toNat := by
  have hlarge : ∀ n k m : ℕ, 0 < k → k + m ≤ 256 → 128 ≤ m →
      128 ≤ (UInt8.ofNat (n % k + m)).toNat := by
    intro n k m hk hm hle
    have hlt := Nat.mod_lt n hk
    rw [UInt8.toNat_ofNat', Nat.mod_eq_of_lt (by omega)]
    omega
  rw [String.utf8EncodeChar] at h
  split_ifs at h with h₁ h₂ h₃
  · rw [List.mem_singleton.mp h, UInt8.toNat_ofNat', Nat.mod_eq_of_lt (by omega)]
    exact .inl rfl
  all_goals
    simp only [List.mem_cons, List.not_mem_nil, or_false] at h
    right
  · rcases h with rfl | rfl
    · exact hlarge _ 0x20 0xc0 (by decide) (by decide) (by decide)
    · exact hlarge _ 0x40 0x80 (by decide) (by decide) (by decide)
  · rcases h with rfl | rfl | rfl
    · exact hlarge _ 0x10 0xe0 (by decide) (by decide) (by decide)
    · exact hlarge _ 0x40 0x80 (by decide) (by decide) (by decide)
    · exact hlarge _ 0x40 0x80 (by decide) (by decide) (by decide)
  · rcases h with rfl | rfl | rfl | rfl
    · exact hlarge _ 0x08 0xf0 (by decide) (by decide) (by decide)
    · exact hlarge _ 0x40 0x80 (by decide) (by decide) (by decide)
    · exact hlarge _ 0x40 0x80 (by decide) (by decide) (by decide)
    · exact hlarge _ 0x40 0x80 (by decide) (by decide) (by decide)

/-- An ASCII byte of a text is a character of it. -/
theorem mem_of_mem_utf8 {l : List Char} {c : Char} (hc : c.toNat < 128)
    (h : UInt8.ofNat c.toNat ∈ utf8 l) : c ∈ l := by
  obtain ⟨c', hc', hmem⟩ := List.mem_flatMap.mp h
  have hnat : (UInt8.ofNat c.toNat).toNat = c.toNat := by
    rw [UInt8.toNat_ofNat', Nat.mod_eq_of_lt (by omega)]
  rcases toNat_of_mem_utf8EncodeChar hmem with heq | hlarge
  · rw [hnat] at heq
    rw [Char.toNat_inj.mp heq]
    exact hc'
  · omega

/-- A text without control characters. -/
def Printable (l : List Char) : Prop := ∀ c ∈ l, 32 ≤ c.toNat

instance (l : List Char) : Decidable (Printable l) :=
  (List.decidableBAll (fun c : Char => 32 ≤ c.toNat) l : Decidable (∀ c ∈ l, 32 ≤ c.toNat))

theorem printable_nil : Printable [] := fun _ h => absurd h List.not_mem_nil

@[simp] theorem printable_cons {c : Char} {l : List Char} :
    Printable (c :: l) ↔ 32 ≤ c.toNat ∧ Printable l :=
  List.forall_mem_cons

@[simp] theorem printable_append {l l' : List Char} :
    Printable (l ++ l') ↔ Printable l ∧ Printable l' :=
  List.forall_mem_append

/-- A text without line endings. -/
def SingleLine (l : List Char) : Prop := '\n' ∉ l ∧ '\r' ∉ l

instance (l : List Char) : Decidable (SingleLine l) :=
  inferInstanceAs (Decidable ('\n' ∉ l ∧ '\r' ∉ l))

theorem SingleLine.append {l l' : List Char} (h : SingleLine l) (h' : SingleLine l') :
    SingleLine (l ++ l') :=
  ⟨List.not_mem_append h.1 h'.1, List.not_mem_append h.2 h'.2⟩

theorem Printable.singleLine {l : List Char} (h : Printable l) : SingleLine l :=
  ⟨fun hmem => absurd (h _ hmem) (by decide), fun hmem => absurd (h _ hmem) (by decide)⟩

end WayfinderRouter
