import WayfinderRouter.Json.Spelling

/-!
# Texts of different values

The compact texts of two values are equal only if the values are, entries in the same order
included. A text shows where it ends: a number ends before a comma or a bracket, a string at its
quote, and every other value at its last character.

## Main definitions

- `Numeral` — the characters of a number
- `unescape` — the first character that a text of a string stands for

## Main results

- `Json.induct` — induction over the values of arrays and of objects
- `bytes_injective` — the value of a text
-/

namespace WayfinderRouter.Json

/-- Induction over the values of arrays and of objects. -/
@[elab_as_elim] theorem induct {motive : Json → Prop} (null : motive .null)
    (bool : ∀ value, motive (.bool value)) (number : ∀ text, motive (.number text))
    (string : ∀ value, motive (.string value))
    (array : ∀ values, (∀ value ∈ values, motive value) → motive (.array values))
    (object : ∀ entries, (∀ e ∈ entries, motive e.2) → motive (.object entries)) (value : Json) :
    motive value :=
  @Json.rec motive (fun values => ∀ value ∈ values, motive value)
    (fun entries => ∀ e ∈ entries, motive e.2) (fun e => motive e.2) null bool number string array
    object (fun _ h => absurd h List.not_mem_nil)
    (fun _ _ h hs => List.forall_mem_cons.mpr ⟨h, hs⟩) (fun _ h => absurd h List.not_mem_nil)
    (fun _ _ h hs => List.forall_mem_cons.mpr ⟨h, hs⟩) (fun _ _ h => h) value

/-! ## Strings -/

/-- The character that a text of a string starts with, and what follows it. -/
def unescape : List Char → Option (Char × List Char)
  | '\\' :: 'u' :: '0' :: '0' :: high :: low :: rest =>
    (hexValue? ['0', '0', high, low]).map fun code => (Char.ofNat code, rest)
  | '\\' :: letter :: rest => (shortEscapes.lookup letter).map fun c => (c, rest)
  | c :: rest => some (c, rest)
  | [] => none

theorem unescape_escape (c : Char) (rest : List Char) :
    unescape (escape c ++ rest) = some (c, rest) := by
  have hcode : ∀ n, c.toNat = n → Char.ofNat n = c := fun n h => h ▸ Char.ofNat_toNat c
  unfold escape
  split_ifs with h₁ h₂ h₃ h₄ h₅ h₆ h₇ h₈
  · subst h₁
    rfl
  · subst h₂
    rfl
  · subst h₃
    rfl
  · subst h₄
    rfl
  · subst h₅
    rfl
  · rw [← hcode 8 h₆]
    rfl
  · rw [← hcode 12 h₇]
    rfl
  · have hvalue : hexValue? ['0', '0', Nat.digitChar (c.toNat / 16), Nat.digitChar (c.toNat % 16)] =
        some c.toNat := by
      rw [← hexDigits_control _ h₈]
      exact hexValue?_hexDigits (by omega)
    show (hexValue? _).map (fun code => (Char.ofNat code, rest)) = _
    rw [hvalue, Option.map_some, Char.ofNat_toNat]
  · show unescape (c :: rest) = _
    unfold unescape
    split
    · next heq => exact absurd (List.cons.inj heq).1 h₂
    · next heq => exact absurd (List.cons.inj heq).1 h₂
    · next heq => 
      cases heq
      rfl
    · next heq => cases heq

/-- The texts of two strings, read up to their quotes. -/
theorem flatMap_escape_append_inj {l l' rest rest' : List Char}
    (h : l.flatMap escape ++ '"' :: rest = l'.flatMap escape ++ '"' :: rest') :
    l = l' ∧ rest = rest' := by
  have hquote : ∀ (c : Char) (l r : List Char), '"' :: r ≠ escape c ++ l := by
    intro c l r heq
    have hread := unescape_escape c l
    rw [← heq] at hread
    cases hread
    cases heq
  induction l generalizing l' with
  | nil =>
    cases l' with
    | nil => exact ⟨rfl, (List.cons.inj h).2⟩
    | cons c' l' =>
      rw [List.flatMap_cons, List.append_assoc] at h
      exact absurd h (hquote _ _ _)
  | cons c l ih =>
    cases l' with
    | nil =>
      rw [List.flatMap_cons, List.append_assoc] at h
      exact absurd h.symm (hquote _ _ _)
    | cons c' l' =>
      rw [List.flatMap_cons, List.flatMap_cons, List.append_assoc, List.append_assoc] at h
      have hread := unescape_escape c (l.flatMap escape ++ '"' :: rest)
      rw [h, unescape_escape] at hread
      obtain ⟨hc, hrest⟩ := Prod.mk.inj (Option.some.inj hread)
      obtain ⟨hl, hends⟩ := ih hrest.symm
      exact ⟨by rw [hc, hl], hends⟩

theorem quote_append_inj {value value' : String} {rest rest' : List Char}
    (h : quote value ++ rest = quote value' ++ rest') : value = value' ∧ rest = rest' := by
  rw [quote, quote, List.cons_append, List.cons_append, List.append_assoc, List.append_assoc] at h
  obtain ⟨hchars, hrest⟩ := flatMap_escape_append_inj (List.cons.inj h).2
  exact ⟨String.toList_inj.mp hchars, hrest⟩

/-! ## Numbers -/

/-- A character that the text of a number may have. -/
def Numeral (c : Char) : Prop := c.isDigit ∨ c = '-' ∨ c = '+' ∨ c = '.' ∨ c = 'e' ∨ c = 'E'

instance (c : Char) : Decidable (Numeral c) := inferInstanceAs (Decidable (_ ∨ _))

/-- The text of a number starts with a digit or a sign. -/
def NumberLike (text : String) : Prop :=
  (∃ c ∈ text.toList.head?, c.isDigit ∨ c = '-') ∧ ∀ c ∈ text.toList, Numeral c

/-- What can follow a value. -/
def Ends (rest : List Char) : Prop := ∀ c ∈ rest.head?, c = ',' ∨ c = ']' ∨ c = '\x7d'

theorem number_append_inj {l l' rest rest' : List Char} (hl : ∀ c ∈ l, Numeral c)
    (hl' : ∀ c ∈ l', Numeral c) (hrest : Ends rest) (hrest' : Ends rest')
    (h : l ++ rest = l' ++ rest') : l = l' ∧ rest = rest' := by
  have htake : ∀ {l rest : List Char}, (∀ c ∈ l, Numeral c) → Ends rest →
      (l ++ rest).takeWhile (fun c => decide (Numeral c)) = l := by
    intro l rest hl hrest
    rw [List.takeWhile_append_of_pos fun c hc => decide_eq_true (hl c hc)]
    cases rest with
    | nil => exact List.append_nil l
    | cons c rest =>
      have hstop : ¬Numeral c := by
        rcases hrest c rfl with rfl | rfl | rfl <;> decide
      rw [List.takeWhile_cons_of_neg (by rwa [decide_eq_true_eq]), List.append_nil]
  have heq : l = l' := by
    rw [← htake hl hrest, h, htake hl' hrest']
  subst heq
  exact ⟨rfl, List.append_cancel_left h⟩

/-! ## Values -/

/-- What the first character of a value shows. -/
inductive Kind where
  | null
  | bool (value : Bool)
  | number
  | string
  | array
  | object
deriving DecidableEq

def kindOf (c : Char) : Kind :=
  if c = 'n' then .null
  else if c = 't' then .bool true
  else if c = 'f' then .bool false
  else if c = '"' then .string
  else if c = '[' then .array
  else if c = '\x7b' then .object
  else .number

def kind : Json → Kind
  | .null => .null
  | .bool value => .bool value
  | .number _ => .number
  | .string _ => .string
  | .array _ => .array
  | .object _ => .object

/-- The first character of a value shows its kind, and closes no array. -/
theorem head_render {value : Json} (h : value.NumbersAre NumberLike) (rest : List Char) :
    ∃ c, (value.render ++ rest).head? = some c ∧ kindOf c = value.kind ∧ c ≠ ']' := by
  cases value with
  | bool value =>
    cases value with
    | true => exact ⟨'t', rfl, rfl, by decide⟩
    | false => exact ⟨'f', rfl, rfl, by decide⟩
  | number text =>
    obtain ⟨⟨c, hc, hfirst⟩, -⟩ := h
    have hne : ∀ d : Char, ¬(d.isDigit ∨ d = '-') → c ≠ d := fun d hd heq => hd (heq ▸ hfirst)
    refine ⟨c, ?_, ?_, hne _ (by decide)⟩
    · rw [render, List.head?_append_of_ne_nil]
      · exact hc
      · intro hnil
        rw [hnil] at hc
        cases hc
    · rw [kindOf, if_neg (hne _ (by decide)), if_neg (hne _ (by decide)),
        if_neg (hne _ (by decide)), if_neg (hne _ (by decide)), if_neg (hne _ (by decide)),
        if_neg (hne _ (by decide))]
      rfl
  | null => exact ⟨'n', rfl, rfl, by decide⟩
  | string value => exact ⟨'"', rfl, rfl, by decide⟩
  | array values => exact ⟨'[', rfl, rfl, by decide⟩
  | object entries => exact ⟨'\x7b', rfl, rfl, by decide⟩

section

variable {α : Type} {text : α → List Char} {close : Char}

/-- What follows the first of several texts: the others, each behind a comma, and the end. -/
def following (close : Char) (rest : List Char) : List (List Char) → List Char
  | [] => close :: rest
  | t :: texts => ',' :: (t ++ following close rest texts)

theorem intercalate_following (t : List Char) (texts : List (List Char)) (rest : List Char) :
    List.intercalate [','] (t :: texts) ++ close :: rest = t ++ following close rest texts := by
  induction texts generalizing t with
  | nil => rw [List.intercalate_singleton, following]
  | cons t' texts ih =>
    rw [List.intercalate_cons_cons, List.append_assoc, List.append_assoc, ih, following]
    rfl

theorem ends_following (hclose : close = ']' ∨ close = '\x7d') (rest : List Char)
    (texts : List (List Char)) : Ends (following close rest texts) := by
  intro c hc
  cases texts with
  | nil =>
    cases hc
    exact .inr hclose
  | cons t texts =>
    cases hc
    exact .inl rfl

/-- The texts of two lists of items, read up to the bracket that closes them. -/
theorem items_append_inj (hclose : close = ']' ∨ close = '\x7d') {as bs : List α}
    (hcancel : ∀ a ∈ as, ∀ b ∈ bs, ∀ r r', Ends r → Ends r' → text a ++ r = text b ++ r' →
      a = b ∧ r = r')
    (hstart : ∀ a, a ∈ as ∨ a ∈ bs → ∀ r, (text a ++ r).head? ≠ some close) {rest rest' : List Char}
    (h : List.intercalate [','] (as.map text) ++ close :: rest =
      List.intercalate [','] (bs.map text) ++ close :: rest') : as = bs ∧ rest = rest' := by
  have hcomma : close ≠ ',' := by
    rcases hclose with rfl | rfl <;> decide
  have htails : ∀ as' bs' : List α, (∀ a ∈ as', a ∈ as) → (∀ b ∈ bs', b ∈ bs) →
      following close rest (as'.map text) = following close rest' (bs'.map text) →
      as' = bs' ∧ rest = rest' := by
    intro as'
    induction as' with
    | nil =>
      intro bs' _ _ heq
      cases bs' with
      | nil => exact ⟨rfl, (List.cons.inj heq).2⟩
      | cons b bs' => exact absurd (List.cons.inj heq).1 hcomma
    | cons a as' ih =>
      intro bs' ha hb heq
      cases bs' with
      | nil => exact absurd (List.cons.inj heq).1.symm hcomma
      | cons b bs' =>
        obtain ⟨hitem, hrest⟩ := hcancel a (ha a List.mem_cons_self) b (hb b List.mem_cons_self) _ _
          (ends_following hclose _ _) (ends_following hclose _ _) (List.cons.inj heq).2
        obtain ⟨hitems, hends⟩ := ih bs' (fun x hx => ha x (List.mem_cons_of_mem _ hx))
          (fun x hx => hb x (List.mem_cons_of_mem _ hx)) hrest
        exact ⟨by rw [hitem, hitems], hends⟩
  cases as with
  | nil =>
    cases bs with
    | nil => exact ⟨rfl, (List.cons.inj h).2⟩
    | cons b bs =>
      rw [List.map_cons, intercalate_following] at h
      exact absurd (congrArg List.head? h).symm (hstart b (.inr List.mem_cons_self) _)
  | cons a as =>
    cases bs with
    | nil =>
      rw [List.map_cons, intercalate_following] at h
      exact absurd (congrArg List.head? h) (hstart a (.inl List.mem_cons_self) _)
    | cons b bs =>
      rw [List.map_cons, List.map_cons, intercalate_following, intercalate_following] at h
      obtain ⟨hitem, hrest⟩ := hcancel a List.mem_cons_self b List.mem_cons_self _ _
        (ends_following hclose _ _) (ends_following hclose _ _) h
      obtain ⟨hitems, hends⟩ := htails as bs (fun x hx => List.mem_cons_of_mem _ hx)
        (fun x hx => List.mem_cons_of_mem _ hx) hrest
      exact ⟨by rw [hitem, hitems], hends⟩

end

theorem renderAll_eq (values : List Json) : renderAll values = values.map render := by
  induction values with
  | nil => rfl
  | cons value values ih => rw [renderAll, List.map_cons, ih]

theorem renderEntries_eq (entries : List (String × Json)) :
    renderEntries entries = entries.map fun e => quote e.1 ++ ':' :: e.2.render := by
  induction entries with
  | nil => rfl
  | cons e entries ih => rw [renderEntries, List.map_cons, ih]

theorem NumbersAreAll.of_mem {p : String → Prop} {values : List Json} (h : NumbersAreAll p values) :
    ∀ value ∈ values, value.NumbersAre p := by
  induction values with
  | nil => exact fun _ hmem => absurd hmem List.not_mem_nil
  | cons value values ih => exact List.forall_mem_cons.mpr ⟨h.1, ih h.2⟩

theorem NumbersAreEntries.of_mem {p : String → Prop} {entries : List (String × Json)}
    (h : NumbersAreEntries p entries) : ∀ e ∈ entries, e.2.NumbersAre p := by
  induction entries with
  | nil => exact fun _ hmem => absurd hmem List.not_mem_nil
  | cons e entries ih => exact List.forall_mem_cons.mpr ⟨h.1, ih h.2⟩

theorem NumbersAreAll.of_forall {p : String → Prop} {values : List Json}
    (h : ∀ value ∈ values, value.NumbersAre p) : NumbersAreAll p values := by
  induction values with
  | nil => trivial
  | cons value values ih =>
    rw [List.forall_mem_cons] at h
    exact ⟨h.1, ih h.2⟩

theorem NumbersAreEntries.of_forall {p : String → Prop} {entries : List (String × Json)}
    (h : ∀ e ∈ entries, e.2.NumbersAre p) : NumbersAreEntries p entries := by
  induction entries with
  | nil => trivial
  | cons e entries ih =>
    rw [List.forall_mem_cons] at h
    exact ⟨h.1, ih h.2⟩

/-- The texts of two values, each read up to its end. -/
theorem render_append_inj (a : Json) : ∀ b : Json, a.NumbersAre NumberLike →
    b.NumbersAre NumberLike → ∀ rest rest', Ends rest → Ends rest' →
      a.render ++ rest = b.render ++ rest' → a = b ∧ rest = rest' := by
  have hkind : ∀ {a b : Json} {rest rest' : List Char}, a.NumbersAre NumberLike →
      b.NumbersAre NumberLike → a.render ++ rest = b.render ++ rest' → a.kind = b.kind := by
    intro a b rest rest' ha hb h
    obtain ⟨c, hc, hca, -⟩ := head_render ha rest
    obtain ⟨c', hc', hcb, -⟩ := head_render hb rest'
    rw [h, hc'] at hc
    rw [← hca, ← hcb, Option.some.inj hc]
  induction a using induct with
  | null =>
    intro b ha hb rest rest' _ _ h
    have hsame := hkind ha hb h
    cases b with
    | null => exact ⟨rfl, List.append_cancel_left h⟩
    | _ => cases hsame
  | bool value =>
    intro b ha hb rest rest' _ _ h
    have hsame := hkind ha hb h
    cases b with
    | bool value' =>
      cases hsame
      exact ⟨rfl, List.append_cancel_left h⟩
    | _ => cases hsame
  | number text =>
    intro b ha hb rest rest' hrest hrest' h
    have hsame := hkind ha hb h
    cases b with
    | number text' =>
      obtain ⟨htext, hends⟩ := number_append_inj ha.2 hb.2 hrest hrest' h
      exact ⟨by rw [String.toList_inj.mp htext], hends⟩
    | _ => cases hsame
  | string value =>
    intro b ha hb rest rest' _ _ h
    have hsame := hkind ha hb h
    cases b with
    | string value' =>
      obtain ⟨hvalue, hends⟩ := quote_append_inj h
      exact ⟨by rw [hvalue], hends⟩
    | _ => cases hsame
  | array values ih =>
    intro b ha hb rest rest' _ _ h
    have hsame := hkind ha hb h
    cases b with
    | array values' =>
      have hvalues := NumbersAreAll.of_mem ha
      have hvalues' := NumbersAreAll.of_mem hb
      have hstart : ∀ v, v ∈ values ∨ v ∈ values' → ∀ r, (v.render ++ r).head? ≠ some ']' := by
        intro v hv r heq
        obtain ⟨c, hc, -, hne⟩ := head_render (hv.elim (hvalues v) (hvalues' v)) r
        rw [hc] at heq
        exact hne (Option.some.inj heq)
      rw [render, render, renderAll_eq, renderAll_eq, List.cons_append, List.cons_append,
        List.append_assoc, List.append_assoc] at h
      obtain ⟨heq, hends⟩ := items_append_inj (.inl rfl)
        (fun v hv w hw => ih v hv w (hvalues v hv) (hvalues' w hw)) hstart (List.cons.inj h).2
      exact ⟨by rw [heq], hends⟩
    | _ => cases hsame
  | object entries ih =>
    intro b ha hb rest rest' _ _ h
    have hsame := hkind ha hb h
    cases b with
    | object entries' =>
      have hentries := NumbersAreEntries.of_mem ha
      have hentries' := NumbersAreEntries.of_mem hb
      rw [render, render, renderEntries_eq, renderEntries_eq, List.cons_append, List.cons_append,
        List.append_assoc, List.append_assoc] at h
      have hcancel : ∀ e ∈ entries, ∀ f ∈ entries', ∀ r r', Ends r → Ends r' →
          quote e.1 ++ ':' :: e.2.render ++ r = quote f.1 ++ ':' :: f.2.render ++ r' →
            e = f ∧ r = r' := by
        intro e he f hf r r' hr hr' heq
        rw [List.append_assoc, List.append_assoc] at heq
        obtain ⟨hkey, hvalue⟩ := quote_append_inj heq
        obtain ⟨hvalue, hends⟩ := ih e he f.2 (hentries e he) (hentries' f hf) r r' hr hr'
          (List.cons.inj hvalue).2
        exact ⟨Prod.ext hkey hvalue, hends⟩
      obtain ⟨heq, hends⟩ := items_append_inj (.inr rfl) hcancel
        (fun e _ r => show some '"' ≠ some '\x7d' by decide) (List.cons.inj h).2
      exact ⟨by rw [heq], hends⟩
    | _ => cases hsame

theorem render_injective {a b : Json} (ha : a.NumbersAre NumberLike) (hb : b.NumbersAre NumberLike)
    (h : a.render = b.render) : a = b :=
  (render_append_inj a b ha hb [] [] (fun _ hc => by cases hc) (fun _ hc => by cases hc)
    (by rw [h])).1

theorem utf8_injective : Function.Injective utf8 := by
  intro l l' h
  have hread := fromUTF8_utf8 l
  rw [h, fromUTF8_utf8] at hread
  have heq := Option.some.inj hread
  rw [← String.toList_inj, String.toList_ofList, String.toList_ofList] at heq
  exact heq.symm

/-- Values with the same bytes are equal. -/
theorem bytes_injective {a b : Json} (ha : a.NumbersAre NumberLike) (hb : b.NumbersAre NumberLike)
    (h : a.bytes = b.bytes) : a = b :=
  render_injective ha hb (utf8_injective h)

end WayfinderRouter.Json
