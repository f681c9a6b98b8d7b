import WayfinderRouter.Slices
import WayfinderRouter.Text
import WayfinderRouter.Toml.Expressions

/-!
# Editing one boolean of a text

`set_toml_bool` works on the lines of a text. A line in brackets starts a section; the first line
of the section that assigns the key is replaced, a key that is not assigned is inserted after the
last header of the section, and a section that has no header is appended. A header before a
comment is no header to the scan, and a line inside of a long string may be one.

## Main definitions

- `setTomlBool` — the edit
- `Heads`, `Assigns`, `sectionAfter` — how lines are read
- `Scanned` — what the scan finds
- `Framed`, `Merges` — one place is changed, and when a header takes the new line up

## Main results

- `Scanned.unique` — the scan finds one place
- `framed`, `edited_again` — a change at one place, and a second one at the same place
- `assigned_of_bodies`, `headed_of_bodies`, `missing_of_bodies` — the place, from the lines of
  both edits
-/

namespace WayfinderRouter.Config

open Toml.Statements Lines

/-- `str::trim`. -/
def strip (line : List Char) : List Char :=
  (line.dropWhile isWhitespace).rdropWhile isWhitespace

/-- The assignment of a boolean, without the end of its line. -/
def assignment (key : List Char) (value : Bool) : List Char :=
  key ++ [' ', '=', ' '] ++ boolText value

/-- The line is a header to the scan. -/
def isHeader (stripped : List Char) : Bool :=
  stripped.head? = some '[' && stripped.getLast? = some ']'

/-- The name in a header. -/
def headerName (stripped : List Char) : List Char :=
  strip ((stripped.dropWhile (· = '[')).rdropWhile (· = ']'))

/-- The line assigns the key, in its own section. -/
def assigns (key stripped : List Char) : Bool :=
  stripped.head? ≠ some '#' && '=' ∈ stripped && strip (stripped.takeWhile (· ≠ '=')) = key

/-- The white space at the start of a line. -/
def indentation (line : List Char) : List Char :=
  line.takeWhile fun c => isWhitespace c && c ≠ '\n'

/-- Where the edit takes place: at an assignment, after a header, or at the end. -/
inductive Place where
  | assignment (index : ℕ)
  | header (index : ℕ)
  | missing
deriving DecidableEq

/-- The loop over the lines. -/
def scan (table key : List Char) : List (List Char) → ℕ → List Char → Option ℕ → Place
  | [], _, _, headerIndex => headerIndex.elim .missing .header
  | line :: lines, index, current, headerIndex =>
    let stripped := strip line
    if isHeader stripped then
      let current := headerName stripped
      scan table key lines (index + 1) current
        (if current = table then some index else headerIndex)
    else if current = table && assigns key stripped then .assignment index
    else scan table key lines (index + 1) current headerIndex

/-- The lines of the text; what they leave of it is a line of its own. -/
def capturedLines (text : List Char) : List (List Char) :=
  let lines := split text
  if text ≠ [] ∧ text.getLast? ≠ some '\n' then
    let captured := (lines.map Slices.size).sum
    if captured < Slices.size text then
      lines ++ (Slices.slice text captured (Slices.size text)).toList
    else lines
  else lines

/-- `set_toml_bool`. -/
def setTomlBool (text table key : List Char) (value : Bool) : List Char :=
  let lines := capturedLines text
  match scan table key lines 0 [] none with
  | .assignment index =>
    (lines.modify index fun line => indentation line ++ assignment key value ++ ['\n']).flatten
  | .header index => (lines.insertIdx (index + 1) (assignment key value ++ ['\n'])).flatten
  | .missing =>
    text ++ lineEnd text ++
      (['\n'] ++ ('[' :: table ++ [']', '\n']) ++ (assignment key value ++ ['\n']))

/-! ## How lines are read -/

/-- A header of the section. -/
def Heads (table line : List Char) : Prop :=
  isHeader (strip line) = true ∧ headerName (strip line) = table

instance (table line : List Char) : Decidable (Heads table line) :=
  inferInstanceAs (Decidable (_ ∧ _))

/-- A line that assigns the key. -/
def Assigns (key line : List Char) : Prop :=
  isHeader (strip line) = false ∧ assigns key (strip line) = true

/-- The section after lines. -/
def sectionAfter (lines : List (List Char)) : List Char :=
  lines.foldl (fun current line =>
    if isHeader (strip line) then headerName (strip line) else current) []

/-- No line assigns the key in the section. -/
def Unassigned (table key : List Char) (lines : List (List Char)) : Prop :=
  ∀ pre line post, lines = pre ++ line :: post → sectionAfter pre = table → ¬Assigns key line

section Scan

variable {table key line : List Char} {lines pre post : List (List Char)}

theorem sectionAfter_concat (lines : List (List Char)) (line : List Char) :
    sectionAfter (lines ++ [line]) =
      if isHeader (strip line) then headerName (strip line) else sectionAfter lines := by
  rw [sectionAfter, List.foldl_append]
  rfl

theorem sectionAfter_heads (h : Heads table line) : sectionAfter (lines ++ [line]) = table := by
  rw [sectionAfter_concat, if_pos h.1, h.2]

theorem unassigned_nil : Unassigned table key [] := by
  intro pre line post heq
  cases List.append_ne_nil_of_right_ne_nil pre (List.cons_ne_nil _ _) heq.symm

theorem unassigned_concat : Unassigned table key (lines ++ [line]) ↔
    Unassigned table key lines ∧ (sectionAfter lines = table → ¬Assigns key line) := by
  constructor
  · intro h
    refine ⟨fun pre line' post heq => h pre line' (post ++ [line]) ?_, h lines line [] rfl⟩
    rw [heq, List.append_assoc, List.cons_append]
  · rintro ⟨hlines, hline⟩ pre line' post heq
    rcases List.eq_nil_or_concat post with rfl | ⟨post, last, rfl⟩
    · obtain ⟨rfl, hlast⟩ := List.append_inj' heq rfl
      cases hlast
      exact hline
    · rw [List.concat_eq_append, ← List.cons_append, ← List.append_assoc] at heq
      exact hlines pre line' post (List.append_inj' heq rfl).1

theorem Unassigned.left (h : Unassigned table key (pre ++ post)) : Unassigned table key pre :=
  fun pre' line' post' heq => h pre' line' (post' ++ post) (by
    rw [heq, List.append_assoc, List.cons_append])

/-- Without a header there is no section. -/
theorem sectionAfter_ne (htable : table ≠ []) (h : ∀ line ∈ lines, ¬Heads table line) :
    sectionAfter lines ≠ table := by
  induction lines using List.reverseRecOn with
  | nil => exact htable.symm
  | append_singleton lines line ih =>
    rw [List.forall_mem_append, List.forall_mem_singleton] at h
    rw [sectionAfter_concat]
    split_ifs with hheader
    · exact fun hname => h.2 ⟨hheader, hname⟩
    · exact ih h.1

theorem unassigned_of_not_heads (htable : table ≠ []) (h : ∀ line ∈ lines, ¬Heads table line) :
    Unassigned table key lines := by
  rintro pre line post rfl hsection
  rw [List.forall_mem_append] at h
  exact absurd hsection (sectionAfter_ne htable h.1)

/-- What the scan finds: the first assignment, or else the last header. -/
inductive Scanned (table key : List Char) (lines : List (List Char)) : Place → Prop where
  | assignment {pre post : List (List Char)} {line : List Char}
      (heq : lines = pre ++ line :: post) (hsection : sectionAfter pre = table)
      (hassigns : Assigns key line) (hfirst : Unassigned table key pre) :
      Scanned table key lines (.assignment pre.length)
  | header {pre post : List (List Char)} {line : List Char} (heq : lines = pre ++ line :: post)
      (hheads : Heads table line) (hlast : ∀ line ∈ post, ¬Heads table line)
      (hnone : Unassigned table key lines) : Scanned table key lines (.header pre.length)
  | missing (hheads : ∀ line ∈ lines, ¬Heads table line) (hnone : Unassigned table key lines) :
      Scanned table key lines .missing

/-- The last header so far. -/
inductive LastHeader (table : List Char) : List (List Char) → Option ℕ → Prop where
  | none {lines : List (List Char)} (h : ∀ line ∈ lines, ¬Heads table line) :
      LastHeader table lines none
  | some {pre post : List (List Char)} {line : List Char} (hheads : Heads table line)
      (h : ∀ line ∈ post, ¬Heads table line) :
      LastHeader table (pre ++ line :: post) (some pre.length)

theorem LastHeader.concat {headerIndex : Option ℕ} (h : LastHeader table lines headerIndex)
    (line : List Char) :
    LastHeader table (lines ++ [line])
      (if Heads table line then .some lines.length else headerIndex) := by
  split_ifs with hheads
  · exact .some hheads fun _ h => absurd h List.not_mem_nil
  · cases h with
    | none h => exact .none (List.forall_mem_append.mpr ⟨h, List.forall_mem_singleton.mpr hheads⟩)
    | some hheads' h =>
      rw [List.append_assoc, List.cons_append]
      exact .some hheads'
        (List.forall_mem_append.mpr ⟨h, List.forall_mem_singleton.mpr hheads⟩)

/-- The loop over the remaining lines, after some that do not assign the key. -/
theorem scanned_scan {done : List (List Char)} {headerIndex : Option ℕ}
    (hdone : Unassigned table key done) (hlast : LastHeader table done headerIndex) :
    Scanned table key (done ++ lines)
      (scan table key lines done.length (sectionAfter done) headerIndex) := by
  induction lines generalizing done headerIndex with
  | nil =>
    rw [List.append_nil]
    cases hlast with
    | none h => exact .missing h hdone
    | some hheads h => exact .header rfl hheads h hdone
  | cons line lines ih =>
    have hnext : ∀ {headerIndex'}, Unassigned table key (done ++ [line]) →
        LastHeader table (done ++ [line]) headerIndex' →
        Scanned table key (done ++ line :: lines)
          (scan table key lines (done.length + 1) (sectionAfter (done ++ [line]))
            headerIndex') := by
      intro headerIndex' hnone hlast'
      have h := ih hnone hlast'
      rwa [List.append_assoc, List.singleton_append, List.length_append] at h
    have hconcat := hlast.concat line
    rw [scan]
    by_cases hheader : isHeader (strip line) = true
    · simp only [hheader, if_true]
      have hheads : Heads table line ↔ headerName (strip line) = table := by
        simp [Heads, hheader]
      have hnone : Unassigned table key (done ++ [line]) :=
        unassigned_concat.mpr ⟨hdone, fun _ h => absurd (hheader.symm.trans h.1) (by decide)⟩
      have h := hnext hnone hconcat
      rw [sectionAfter_concat, if_pos hheader] at h
      simpa only [hheads] using h
    · simp only [hheader, Bool.false_eq_true, if_false]
      have hheads : ¬Heads table line := fun h => hheader h.1
      rw [if_neg hheads] at hconcat
      split_ifs with hassigns
      · rw [Bool.and_eq_true, decide_eq_true_iff] at hassigns
        exact .assignment rfl hassigns.1 ⟨Bool.eq_false_iff.mpr hheader, hassigns.2⟩ hdone
      · have hnone : Unassigned table key (done ++ [line]) := by
          refine unassigned_concat.mpr ⟨hdone, fun hsection h => hassigns ?_⟩
          rw [Bool.and_eq_true, decide_eq_true_iff]
          exact ⟨hsection, h.2⟩
        have h := hnext hnone hconcat
        rwa [sectionAfter_concat, if_neg hheader] at h

theorem Unassigned.le {rest post' : List (List Char)} {pre' : List (List Char)}
    (h : Unassigned table key pre) (heq : pre ++ rest = pre' ++ line :: post')
    (hsection : sectionAfter pre' = table) (hassigns : Assigns key line) :
    pre.length ≤ pre'.length := by
  rcases List.append_eq_append_iff.mp heq with ⟨l, rfl, -⟩ | ⟨l, rfl, hl⟩
  · simp
  · cases l with
    | nil => simp
    | cons line' l =>
      cases hl
      exact absurd hassigns (h pre' line l rfl hsection)

theorem heads_le {pre' post' : List (List Char)} {line' : List Char}
    (h : ∀ line ∈ post, ¬Heads table line) (heq : pre ++ line :: post = pre' ++ line' :: post')
    (hheads : Heads table line') : pre'.length ≤ pre.length := by
  rcases List.append_eq_append_iff.mp heq with ⟨l, rfl, hl⟩ | ⟨l, rfl, -⟩
  · cases l with
    | nil => simp
    | cons line'' l =>
      cases hl
      exact absurd hheads (h line' (List.mem_append_right _ List.mem_cons_self))
  · simp

theorem Scanned.unique {place place' : Place} (h : Scanned table key lines place)
    (h' : Scanned table key lines place') : place = place' := by
  cases h with
  | assignment heq hsection hassigns hfirst =>
    cases h' with
    | assignment heq' hsection' hassigns' hfirst' =>
      exact congrArg Place.assignment (le_antisymm
        (hfirst.le (heq.symm.trans heq') hsection' hassigns')
        (hfirst'.le (heq'.symm.trans heq) hsection hassigns))
    | header _ _ _ hnone => exact absurd hassigns (hnone _ _ _ heq hsection)
    | missing _ hnone => exact absurd hassigns (hnone _ _ _ heq hsection)
  | header heq hheads hlast hnone =>
    cases h' with
    | assignment heq' hsection' hassigns' _ => exact absurd hassigns' (hnone _ _ _ heq' hsection')
    | header heq' hheads' hlast' _ =>
      exact congrArg Place.header (le_antisymm
        (heads_le hlast' (heq'.symm.trans heq) hheads)
        (heads_le hlast (heq.symm.trans heq') hheads'))
    | missing hmissing _ =>
      rw [heq] at hmissing
      exact absurd hheads (hmissing _ (List.mem_append_right _ List.mem_cons_self))
  | missing hmissing hnone =>
    cases h' with
    | assignment heq' hsection' hassigns' _ => exact absurd hassigns' (hnone _ _ _ heq' hsection')
    | header heq' hheads' _ _ =>
      rw [heq'] at hmissing
      exact absurd hheads' (hmissing _ (List.mem_append_right _ List.mem_cons_self))
    | missing => rfl

end Scan

/-! ## Lines with a key -/

theorem isWhitespace_of_bare {c : Char} (h : IsBareChar c) : isWhitespace c = false := by
  have hcode : c.toNat = 45 ∨ c.toNat = 95 ∨ 48 ≤ c.toNat ∧ c.toNat ≤ 57 ∨
      65 ≤ c.toNat ∧ c.toNat ≤ 90 ∨ 97 ≤ c.toNat ∧ c.toNat ≤ 122 := by
    rcases h with h | rfl | rfl
    · change ((decide (c.val ≥ 65 ∧ c.val ≤ 90) || c.val ≥ 97 && c.val ≤ 122) ||
        c.val ≥ 48 && c.val ≤ 57) = true at h
      simp only [Bool.or_eq_true, Bool.and_eq_true, decide_eq_true_eq, UInt32.le_iff_toNat_le,
        ge_iff_le] at h
      change ((65 ≤ c.toNat ∧ c.toNat ≤ 90) ∨ (97 ≤ c.toNat ∧ c.toNat ≤ 122)) ∨
        (48 ≤ c.toNat ∧ c.toNat ≤ 57) at h
      omega
    · decide
    · decide
  simp only [isWhitespace, Bool.or_eq_false_iff, Bool.and_eq_false_iff, decide_eq_false_iff_not]
  omega

section Strip

variable {line s : List Char}

theorem rdropWhile_append_of_pos (hs : ∀ c ∈ s, isWhitespace c) :
    (line ++ s).rdropWhile isWhitespace = line.rdropWhile isWhitespace := by
  rw [List.rdropWhile, List.reverse_append, List.dropWhile_append_of_pos]
  · rfl
  · exact fun c hc => hs c (List.mem_reverse.mp hc)

/-- Only what comes after a character that is no white space is dropped. -/
theorem rdropWhile_append_cons {c : Char} (hc : isWhitespace c = false) (rest : List Char) :
    (line ++ c :: rest).rdropWhile isWhitespace =
      line ++ c :: rest.rdropWhile isWhitespace := by
  induction rest using List.reverseRecOn with
  | nil => rw [List.rdropWhile_concat_neg _ _ _ (by simp [hc]), List.rdropWhile_nil]
  | append_singleton rest d ih =>
    rw [← List.cons_append, ← List.append_assoc]
    by_cases hd : isWhitespace d = true
    · rw [List.rdropWhile_concat_pos _ _ _ hd, ih, List.rdropWhile_concat_pos _ _ _ hd]
    · rw [List.rdropWhile_concat_neg _ _ _ hd, List.rdropWhile_concat_neg _ _ _ hd,
        List.append_assoc, List.cons_append]

/-- White space at the end of a line is stripped. -/
theorem strip_append (hs : ∀ c ∈ s, isWhitespace c) : strip (line ++ s) = strip line := by
  rw [strip, List.dropWhile_append]
  split_ifs with hline
  · have hnil : s.dropWhile isWhitespace = [] := List.dropWhile_eq_nil_iff.mpr hs
    rw [hnil, strip, List.isEmpty_iff.mp hline]
  · exact rdropWhile_append_of_pos hs

/-- The strip of a line that starts with white space and another character. -/
theorem strip_cons {c : Char} (hs : ∀ c ∈ s, isWhitespace c) (hc : isWhitespace c = false)
    (rest : List Char) : strip (s ++ c :: rest) = c :: rest.rdropWhile isWhitespace := by
  rw [strip, List.dropWhile_append_of_pos hs, List.dropWhile_cons_of_neg (by simp [hc])]
  exact @rdropWhile_append_cons [] c hc rest

end Strip

section Bare

variable {key s s' rest : List Char}

theorem strip_bare (h : IsBare key) (hs' : ∀ c ∈ s', isWhitespace c) :
    strip (key ++ s') = key := by
  rw [strip_append hs']
  obtain ⟨c, key', rfl, hc⟩ := h.head
  rw [← List.nil_append (c :: key'), strip_cons (fun _ h => absurd h List.not_mem_nil)
    (isWhitespace_of_bare hc), List.nil_append, List.rdropWhile_eq_self_iff.mpr]
  intro hne
  rw [isWhitespace_of_bare (h.2 _ (List.mem_cons_of_mem _ (List.getLast_mem hne)))]
  exact Bool.false_ne_true

/-- A line that has a bare key before its first equals sign assigns the key. -/
theorem assigns_of_bare (hkey : IsBare key) (hs : ∀ c ∈ s, isWhitespace c)
    (hs' : ∀ c ∈ s', isWhitespace c) (rest : List Char) :
    Assigns key (s ++ key ++ s' ++ '=' :: rest) := by
  have hstrip : strip (s ++ key ++ s' ++ '=' :: rest) =
      key ++ s' ++ '=' :: rest.rdropWhile isWhitespace := by
    obtain ⟨c, key', rfl, hc⟩ := hkey.head
    have hline : s ++ (c :: key') ++ s' ++ '=' :: rest =
        s ++ c :: (key' ++ s' ++ '=' :: rest) := by simp
    rw [hline, strip_cons hs (isWhitespace_of_bare hc), rdropWhile_append_cons (by decide)]
    rfl
  have hname : ∀ c ∈ key ++ s', c ≠ '=' := by
    intro c hc
    rcases List.mem_append.mp hc with hc | hc
    · exact (hkey.2 c hc).ne (by decide)
    · rintro rfl
      exact absurd (hs' _ hc) (by decide)
  have hbefore : (key ++ s' ++ '=' :: rest.rdropWhile isWhitespace).takeWhile (· ≠ '=') =
      key ++ s' := by
    rw [List.takeWhile_append_of_pos fun c hc => by simpa using hname c hc]
    simp
  have hhead : ∀ d, ¬IsBareChar d →
      (key ++ s' ++ '=' :: rest.rdropWhile isWhitespace).head? ≠ some d := by
    intro d hd
    obtain ⟨c, key', rfl, hc⟩ := hkey.head
    simpa using hc.ne hd
  have hmem : '=' ∈ key ++ s' ++ '=' :: rest.rdropWhile isWhitespace :=
    List.mem_append_right _ List.mem_cons_self
  rw [Assigns, hstrip]
  generalize key ++ s' ++ '=' :: rest.rdropWhile isWhitespace = stripped at hbefore hhead hmem
  constructor
  · simp [isHeader, hhead '[' (by decide)]
  · simp only [assigns, hbefore, strip_bare hkey hs', hmem, hhead '#' (by decide), ne_eq,
      not_false_iff, decide_true, Bool.and_self]

/-- The white space before a bare key is the indentation. -/
theorem indentation_of_bare (hkey : IsBare key) (hs : ∀ c ∈ s, isWhitespace c ∧ c ≠ '\n')
    (rest : List Char) : indentation (s ++ key ++ rest) = s := by
  obtain ⟨c, key', rfl, hc⟩ := hkey.head
  rw [indentation, List.append_assoc, List.takeWhile_append_of_pos]
  · simp [isWhitespace_of_bare hc]
  · intro c hc
    simpa using hs c hc

end Bare

/-! ## The edit -/

theorem size_flatten (lines : List (List Char)) :
    Slices.size lines.flatten = (lines.map Slices.size).sum := by
  induction lines with
  | nil => rfl
  | cons line lines ih => rw [List.flatten_cons, Slices.size_append, ih]; rfl

/-- The lines leave nothing of the text. -/
theorem capturedLines_eq (text : List Char) : capturedLines text = split text := by
  have hsize : ((split text).map Slices.size).sum = Slices.size text := by
    rw [← size_flatten, flatten_split]
  simp only [capturedLines, hsize, Nat.lt_irrefl, if_false, ite_self]

theorem newline_notMem_of_bare {key : List Char} (hkey : IsBare key) : '\n' ∉ key :=
  fun h => absurd (hkey.2 _ h) (by decide)

theorem newline_notMem_assignment {key : List Char} (hkey : IsBare key) (value : Bool) :
    '\n' ∉ assignment key value := by
  have hkey := newline_notMem_of_bare hkey
  cases value <;> simp [assignment, boolText, hkey]

theorem newline_notMem_indentation (line : List Char) : '\n' ∉ indentation line :=
  fun h => absurd (List.mem_takeWhile_imp h) (by decide)

theorem isWhitespace_of_indentation {line : List Char} :
    ∀ c ∈ indentation line, isWhitespace c ∧ c ≠ '\n' := by
  intro c hc
  simpa using List.mem_takeWhile_imp hc

theorem modify_middle {α : Type} (pre : List α) (line : α) (post : List α) (f : α → α) :
    (pre ++ line :: post).modify pre.length f = pre ++ f line :: post := by
  induction pre with
  | nil => rfl
  | cons first pre ih => rw [List.cons_append, List.length_cons, List.modify_succ_cons, ih]; rfl

theorem insertIdx_middle {α : Type} (pre : List α) (line : α) (post : List α) (new : α) :
    (pre ++ line :: post).insertIdx (pre.length + 1) new = pre ++ line :: new :: post := by
  induction pre with
  | nil => rfl
  | cons first pre ih => rw [List.cons_append, List.length_cons, List.insertIdx_succ_cons, ih]; rfl

section Edit

variable {text table key line : List Char} {pre post : List (List Char)}

theorem scan_eq {place : Place} (h : Scanned table key (split text) place) :
    scan table key (capturedLines text) 0 [] none = place := by
  rw [capturedLines_eq]
  refine Scanned.unique ?_ h
  exact scanned_scan unassigned_nil (.none fun _ h => absurd h List.not_mem_nil)

/-- The first assignment of the section is replaced. -/
theorem setTomlBool_assigned (hlines : split text = pre ++ line :: post)
    (hsection : sectionAfter pre = table) (hassigns : Assigns key line)
    (hfirst : Unassigned table key pre) (value : Bool) :
    setTomlBool text table key value =
      (pre ++ (indentation line ++ assignment key value ++ ['\n']) :: post).flatten := by
  rw [setTomlBool, scan_eq (.assignment hlines hsection hassigns hfirst), capturedLines_eq,
    hlines]
  exact congrArg List.flatten (modify_middle _ _ _ _)

/-- The line of an assignment that is not there comes after the last header. -/
theorem setTomlBool_headed (hlines : split text = pre ++ line :: post)
    (hheads : Heads table line) (hlast : ∀ line ∈ post, ¬Heads table line)
    (hnone : Unassigned table key (split text)) (value : Bool) :
    setTomlBool text table key value =
      (pre ++ line :: (assignment key value ++ ['\n']) :: post).flatten := by
  rw [setTomlBool, scan_eq (.header hlines hheads hlast hnone), capturedLines_eq, hlines]
  exact congrArg List.flatten (insertIdx_middle _ _ _ _)

/-- A section without a header is appended. -/
theorem setTomlBool_missing (htable : table ≠ []) (hheads : ∀ line ∈ split text, ¬Heads table line)
    (value : Bool) :
    setTomlBool text table key value = text ++ lineEnd text ++
      (['\n'] ++ ('[' :: table ++ [']', '\n']) ++ (assignment key value ++ ['\n'])) := by
  rw [setTomlBool, scan_eq (.missing hheads (unassigned_of_not_heads htable hheads))]

theorem terminated_assignment (hkey : IsBare key) {s : List Char} (hs : '\n' ∉ s)
    (value : Bool) : Terminated (s ++ assignment key value ++ ['\n']) :=
  ⟨_, List.not_mem_append hs (newline_notMem_assignment hkey value), rfl⟩

theorem terminated_unindented (hkey : IsBare key) (value : Bool) :
    Terminated (assignment key value ++ ['\n']) :=
  ⟨_, newline_notMem_assignment hkey value, rfl⟩

/-- The lines with one line replaced by others. -/
theorem split_replaced (hlines : split text = pre ++ line :: post) {lines : List (List Char)}
    (hnew : ∀ line ∈ lines, Terminated line) :
    split (pre ++ (lines ++ post)).flatten = pre ++ (lines ++ post) := by
  have h : AreLines (pre ++ line :: post) := hlines ▸ areLines_split text
  exact split_flatten (.append h.drop.1 (.append hnew h.drop.2.head.1))

theorem split_assigned (hkey : IsBare key) (hlines : split text = pre ++ line :: post)
    (hsection : sectionAfter pre = table) (hassigns : Assigns key line)
    (hfirst : Unassigned table key pre) (value : Bool) :
    split (setTomlBool text table key value) =
      pre ++ (indentation line ++ assignment key value ++ ['\n']) :: post := by
  rw [setTomlBool_assigned hlines hsection hassigns hfirst]
  exact split_replaced hlines (List.forall_mem_singleton.mpr
    (terminated_assignment hkey (newline_notMem_indentation line) value))

theorem split_headed (hkey : IsBare key) (hlines : split text = pre ++ line :: post)
    (hend : Terminated line) (hheads : Heads table line)
    (hlast : ∀ line ∈ post, ¬Heads table line) (hnone : Unassigned table key (split text))
    (value : Bool) :
    split (setTomlBool text table key value) =
      pre ++ line :: (assignment key value ++ ['\n']) :: post := by
  rw [setTomlBool_headed hlines hheads hlast hnone]
  have hnew : ∀ line' ∈ [line, assignment key value ++ ['\n']], Terminated line' :=
    List.forall_mem_cons.mpr ⟨hend, List.forall_mem_singleton.mpr
      (terminated_unindented hkey value)⟩
  exact split_replaced hlines hnew

theorem lineEnd_lineEnd (text : List Char) : lineEnd (text ++ lineEnd text) = [] := by
  by_cases h : text = [] ∨ text.getLast? = some '\n'
  · have hnil : lineEnd text = [] := if_pos h
    rw [hnil, List.append_nil, hnil]
  · have hend : lineEnd text = ['\n'] := if_neg h
    rw [hend, lineEnd_terminated]

/-- The lines of a section that is appended. -/
def sectionLines (table key : List Char) (value : Bool) : List (List Char) :=
  [['\n'], '[' :: table ++ [']', '\n'], assignment key value ++ ['\n']]

theorem areLines_section (htable : IsBare table) (hkey : IsBare key) (value : Bool) :
    AreLines (sectionLines table key value) := by
  have hheader : '\n' ∉ '[' :: table ++ [']'] := by
    simp [newline_notMem_of_bare htable]
  have hlines : ∀ line ∈ sectionLines table key value, Terminated line := by
    simp only [sectionLines, List.forall_mem_cons]
    refine ⟨⟨[], List.not_mem_nil, rfl⟩, ⟨_, hheader, by simp⟩,
      terminated_unindented hkey value, fun _ h => ?_⟩
    exact absurd h List.not_mem_nil
  have h := AreLines.append hlines .nil
  rwa [List.append_nil] at h

theorem split_missing (htable : IsBare table) (hkey : IsBare key)
    (hheads : ∀ line ∈ split text, ¬Heads table line) (value : Bool) :
    split (setTomlBool text table key value) =
      split (text ++ lineEnd text) ++ sectionLines table key value := by
  have htext : ['\n'] ++ ('[' :: table ++ [']', '\n']) ++ (assignment key value ++ ['\n']) =
      (sectionLines table key value).flatten := by
    simp [sectionLines]
  rw [setTomlBool_missing htable.1 hheads, split_append (lineEnd_lineEnd text), htext,
    split_flatten (areLines_section htable hkey value)]

end Edit

/-! ## What is claimed of the edit -/

/-- One line is replaced, inserted, or a section is appended. -/
def Framed (text table key : List Char) (value : Bool) : Prop :=
  let edited := bodies (setTomlBool text table key value)
  (∃ pre line post, split text = pre ++ line :: post ∧ sectionAfter pre = table ∧
      Assigns key line ∧ edited = pre.map bodyOf ++
        (indentation line ++ assignment key value) :: post.map bodyOf) ∨
    (∃ pre line post, split text = pre ++ line :: post ∧ Heads table line ∧
      edited = pre.map bodyOf ++ bodyOf line :: assignment key value :: post.map bodyOf) ∨
    edited = bodies text ++ [[], '[' :: table ++ [']'], assignment key value]

/-- The last line is the header after which the assignment would be inserted, and it has no end. -/
def Merges (text table key : List Char) : Prop :=
  ∃ pre line, split text = pre ++ [line] ∧ Heads table line ∧ '\n' ∉ line ∧
    Unassigned table key (split text)

section Frame

variable {text table key : List Char} {pre post : List (List Char)} {line : List Char}

theorem bodyOf_assigned (hkey : IsBare key) (line : List Char) (value : Bool) :
    bodyOf (indentation line ++ assignment key value ++ ['\n']) =
      indentation line ++ assignment key value :=
  bodyOf_terminated (List.not_mem_append (newline_notMem_indentation line)
    (newline_notMem_assignment hkey value))

theorem bodies_header (htable : IsBare table) :
    [['\n'], '[' :: table ++ [']', '\n']].map bodyOf = [[], '[' :: table ++ [']']] := by
  have hheader : '\n' ∉ '[' :: table ++ [']'] := by
    simp [newline_notMem_of_bare htable]
  have hlines : [['\n'], '[' :: table ++ [']', '\n']] =
      [[] ++ ['\n'], '[' :: table ++ [']'] ++ ['\n']] := by
    simp
  rw [hlines, List.map_cons, List.map_cons, bodyOf_terminated List.not_mem_nil,
    bodyOf_terminated hheader]
  rfl

theorem bodies_section (htable : IsBare table) (hkey : IsBare key) (value : Bool) :
    (sectionLines table key value).map bodyOf =
      [[], '[' :: table ++ [']'], assignment key value] := by
  show ([['\n'], '[' :: table ++ [']', '\n']] ++ [assignment key value ++ ['\n']]).map bodyOf = _
  rw [List.map_append, bodies_header htable, List.map_singleton,
    bodyOf_terminated (newline_notMem_assignment hkey value)]
  rfl

theorem bodies_assigned (hkey : IsBare key) (hlines : split text = pre ++ line :: post)
    (hsection : sectionAfter pre = table) (hassigns : Assigns key line)
    (hfirst : Unassigned table key pre) (value : Bool) :
    bodies (setTomlBool text table key value) =
      pre.map bodyOf ++ (indentation line ++ assignment key value) :: post.map bodyOf := by
  rw [bodies, split_assigned hkey hlines hsection hassigns hfirst, List.map_append,
    List.map_cons, bodyOf_assigned hkey]

theorem bodies_headed (hkey : IsBare key) (hlines : split text = pre ++ line :: post)
    (hend : Terminated line) (hheads : Heads table line)
    (hlast : ∀ line ∈ post, ¬Heads table line) (hnone : Unassigned table key (split text))
    (value : Bool) :
    bodies (setTomlBool text table key value) =
      pre.map bodyOf ++ bodyOf line :: assignment key value :: post.map bodyOf := by
  rw [bodies, split_headed hkey hlines hend hheads hlast hnone, List.map_append, List.map_cons,
    List.map_cons, bodyOf_terminated (newline_notMem_assignment hkey value)]

theorem bodies_missing (htable : IsBare table) (hkey : IsBare key)
    (hheads : ∀ line ∈ split text, ¬Heads table line) (value : Bool) :
    bodies (setTomlBool text table key value) =
      bodies text ++ [[], '[' :: table ++ [']'], assignment key value] := by
  rw [bodies, split_missing htable hkey hheads, List.map_append, bodies_section htable hkey]
  exact congrArg (· ++ _) (bodies_lineEnd text)

/-- The three ways in which the edit goes. -/
inductive Course (text table key : List Char) : Prop where
  | assigned {pre post : List (List Char)} {line : List Char}
      (hlines : split text = pre ++ line :: post) (hsection : sectionAfter pre = table)
      (hassigns : Assigns key line) (hfirst : Unassigned table key pre)
  | headed {pre post : List (List Char)} {line : List Char}
      (hlines : split text = pre ++ line :: post) (hend : Terminated line)
      (hheads : Heads table line) (hlast : ∀ line ∈ post, ¬Heads table line)
      (hnone : Unassigned table key (split text))
  | missing (hheads : ∀ line ∈ split text, ¬Heads table line)

theorem course (hmerges : ¬Merges text table key) : Course text table key := by
  obtain ⟨place, hplace⟩ : ∃ place, Scanned table key (split text) place :=
    ⟨_, scanned_scan unassigned_nil (.none fun _ h => absurd h List.not_mem_nil)⟩
  cases hplace with
  | assignment hlines hsection hassigns hfirst => exact .assigned hlines hsection hassigns hfirst
  | @header pre post line hlines hheads hlast hnone =>
    have hline : AreLines (pre ++ line :: post) := hlines ▸ areLines_split text
    rcases hline.drop.2.head.2 with hend | ⟨rfl, -, hend⟩
    · exact .headed hlines hend hheads hlast hnone
    · exact absurd ⟨pre, line, hlines, hheads, hend, hnone⟩ hmerges
  | missing hheads _ => exact .missing hheads

/-- A header that has no end takes the assignment up. -/
theorem Merges.not_framed (hkey : IsBare key) (h : Merges text table key) (value : Bool) :
    ¬Framed text table key value := by
  obtain ⟨pre, line, hlines, hheads, hend, hnone⟩ := h
  have hpre : ∀ line ∈ pre, Terminated line :=
    (AreLines.drop (hlines ▸ areLines_split text : AreLines (pre ++ [line]))).1
  have hmerged : AreLines (pre ++ [line ++ assignment key value ++ ['\n']]) :=
    .append hpre (.cons (List.not_mem_append hend (newline_notMem_assignment hkey value)) .nil)
  have htext : setTomlBool text table key value =
      (pre ++ [line ++ assignment key value ++ ['\n']]).flatten := by
    rw [setTomlBool_headed hlines hheads (fun _ h => absurd h List.not_mem_nil) hnone]
    simp
  have hcount : (bodies (setTomlBool text table key value)).length = pre.length + 1 := by
    rw [htext, bodies_flatten hmerged, List.length_map, List.length_append]
    rfl
  have hlength : (split text).length = pre.length + 1 := by
    rw [hlines, List.length_append]
    rfl
  rintro (⟨pre', line', post', hlines', hsection, hassigns, -⟩ |
    ⟨pre', line', post', hlines', -, hedited⟩ | hedited)
  · exact hnone pre' line' post' hlines' hsection hassigns
  · rw [hedited] at hcount
    rw [hlines'] at hlength
    simp only [List.length_append, List.length_map, List.length_cons] at hcount hlength
    omega
  · rw [hedited, List.length_append, bodies, List.length_map, hlength] at hcount
    simp only [List.length_cons, List.length_nil] at hcount
    omega

theorem framed (htable : IsBare table) (hkey : IsBare key) (h : Course text table key)
    (value : Bool) : Framed text table key value := by
  cases h with
  | assigned hlines hsection hassigns hfirst =>
    exact .inl ⟨_, _, _, hlines, hsection, hassigns,
      bodies_assigned hkey hlines hsection hassigns hfirst value⟩
  | headed hlines hend hheads hlast hnone =>
    exact .inr (.inl ⟨_, _, _, hlines, hheads,
      bodies_headed hkey hlines hend hheads hlast hnone value⟩)
  | missing hheads => exact .inr (.inr (bodies_missing htable hkey hheads value))

/-- The line of an assignment is found again. -/
theorem assigns_assignment (hkey : IsBare key) {s : List Char}
    (hs : ∀ c ∈ s, isWhitespace c) (value : Bool) :
    Assigns key (s ++ assignment key value ++ ['\n']) := by
  have hline : s ++ assignment key value ++ ['\n'] =
      s ++ key ++ [' '] ++ '=' :: (' ' :: boolText value ++ ['\n']) := by
    simp [assignment]
  rw [hline]
  exact assigns_of_bare hkey hs (List.forall_mem_singleton.mpr (by decide)) _

theorem indentation_assignment (hkey : IsBare key) {s : List Char}
    (hs : ∀ c ∈ s, isWhitespace c ∧ c ≠ '\n') (value : Bool) :
    indentation (s ++ assignment key value ++ ['\n']) = s := by
  have hline : s ++ assignment key value ++ ['\n'] =
      s ++ key ++ ([' ', '=', ' '] ++ boolText value ++ ['\n']) := by
    simp [assignment]
  rw [hline]
  exact indentation_of_bare hkey hs _

theorem strip_bodyOf (h : Terminated line ∨ '\n' ∉ line) : strip (bodyOf line) = strip line := by
  rcases h with ⟨body, hbody, rfl⟩ | hline
  · rw [bodyOf_terminated hbody, strip_append (List.forall_mem_singleton.mpr (by decide))]
  · rw [bodyOf_last hline]

/-- What is on the lines decides whether there is a header. -/
theorem not_heads_of_bodies {text' : List Char} (h : bodies text' = bodies text)
    (hheads : ∀ line ∈ split text, ¬Heads table line) :
    ∀ line ∈ split text', ¬Heads table line := by
  intro line hline
  have hmem : bodyOf line ∈ bodies text := h ▸ List.mem_map_of_mem hline
  obtain ⟨line', hline', hbody⟩ := List.mem_map.mp hmem
  have hstrip : strip line = strip line' := by
    rw [← strip_bodyOf ((areLines_split text').mem line hline),
      ← strip_bodyOf ((areLines_split text).mem line' hline'), hbody]
  rw [Heads, hstrip]
  exact hheads line' hline'

theorem heads_of_bare (htable : IsBare table) : Heads table ('[' :: table ++ [']', '\n']) := by
  have hstrip : strip ('[' :: table ++ [']', '\n']) = '[' :: (table ++ [']']) := by
    have hline : '[' :: table ++ [']', '\n'] = ([] ++ '[' :: (table ++ [']'])) ++ ['\n'] := by
      simp
    rw [hline, strip_append (List.forall_mem_singleton.mpr (by decide)),
      strip_cons (fun _ h => absurd h List.not_mem_nil) (by decide),
      List.rdropWhile_concat_neg _ _ _ (by decide)]
  have hlast : ∀ hne : table ≠ [], ¬(table.getLast hne = ']') := fun hne =>
    (htable.2 _ (List.getLast_mem hne)).ne (by decide)
  have hname : (('[' :: (table ++ [']'])).dropWhile (· = '[')).rdropWhile (· = ']') = table := by
    obtain ⟨c, table', rfl, hc⟩ := htable.head
    rw [List.dropWhile_cons_of_pos (by decide), List.cons_append,
      List.dropWhile_cons_of_neg (by simpa using hc.ne (by decide)), ← List.cons_append,
      List.rdropWhile_concat_pos _ _ _ (by decide), List.rdropWhile_eq_self_iff]
    simpa using hlast
  refine ⟨?_, ?_⟩
  · rw [hstrip, isHeader, ← List.cons_append, List.getLast?_concat]
    rfl
  · have hself : strip (table ++ []) = table :=
      strip_bare htable fun _ h => absurd h List.not_mem_nil
    rw [List.append_nil] at hself
    rw [hstrip, headerName, hname, hself]

/-- A second edit changes the line of the first one. -/
theorem edited_again (htable : IsBare table) (hkey : IsBare key) (h : Course text table key)
    (value value' : Bool) :
    bodies (setTomlBool (setTomlBool text table key value) table key value') =
      bodies (setTomlBool text table key value') := by
  cases h with
  | assigned hlines hsection hassigns hfirst =>
    have hagain := bodies_assigned hkey (split_assigned hkey hlines hsection hassigns hfirst value)
      hsection (assigns_assignment hkey (fun c hc => (isWhitespace_of_indentation c hc).1) value)
      hfirst value'
    rw [hagain, indentation_assignment hkey isWhitespace_of_indentation,
      bodies_assigned hkey hlines hsection hassigns hfirst]
  | @headed pre post line hlines hend hheads hlast hnone =>
    have hsplit : split (setTomlBool text table key value) =
        (pre ++ [line]) ++ ([] ++ assignment key value ++ ['\n']) :: post := by
      rw [split_headed hkey hlines hend hheads hlast hnone, List.append_assoc]
      rfl
    have hbefore : Unassigned table key (pre ++ [line]) := by
      have hwhole : split text = (pre ++ [line]) ++ post := by rw [hlines]; simp
      exact Unassigned.left (hwhole ▸ hnone)
    have hagain := bodies_assigned hkey hsplit (sectionAfter_heads hheads)
      (assigns_assignment hkey (fun _ h => absurd h List.not_mem_nil) value) hbefore value'
    rw [hagain, indentation_assignment hkey (fun _ h => absurd h List.not_mem_nil),
      bodies_headed hkey hlines hend hheads hlast hnone]
    simp
  | missing hheads =>
    have hsplit : split (setTomlBool text table key value) =
        (split (text ++ lineEnd text) ++ [['\n'], '[' :: table ++ [']', '\n']]) ++
          ([] ++ assignment key value ++ ['\n']) :: [] := by
      rw [split_missing htable hkey hheads, List.append_assoc]
      rfl
    have hlines := not_heads_of_bodies (bodies_lineEnd text) hheads
    have hblank : ¬Heads table ['\n'] := fun h => absurd h.1 (by decide)
    have hblanks : ∀ line ∈ split (text ++ lineEnd text) ++ [['\n']], ¬Heads table line :=
      List.forall_mem_append.mpr ⟨hlines, List.forall_mem_singleton.mpr hblank⟩
    have hheader : split (text ++ lineEnd text) ++ [['\n'], '[' :: table ++ [']', '\n']] =
        (split (text ++ lineEnd text) ++ [['\n']]) ++ ['[' :: table ++ [']', '\n']] := by
      simp
    have hbefore : Unassigned table key
        (split (text ++ lineEnd text) ++ [['\n'], '[' :: table ++ [']', '\n']]) := by
      rw [hheader]
      exact unassigned_concat.mpr ⟨unassigned_of_not_heads htable.1 hblanks,
        fun h => absurd h (sectionAfter_ne htable.1 hblanks)⟩
    have hsection : sectionAfter
        (split (text ++ lineEnd text) ++ [['\n'], '[' :: table ++ [']', '\n']]) = table := by
      rw [hheader, sectionAfter_heads (heads_of_bare htable)]
    have hagain := bodies_assigned hkey hsplit hsection
      (assigns_assignment hkey (fun _ h => absurd h List.not_mem_nil) value) hbefore value'
    rw [hagain, indentation_assignment hkey (fun _ h => absurd h List.not_mem_nil),
      bodies_missing htable hkey hheads, List.map_append, bodies_header htable,
      show (split (text ++ lineEnd text)).map bodyOf = bodies text from bodies_lineEnd text,
      List.append_assoc]
    rfl

end Frame

/-! ## The line of an edit -/

section Line

variable {text table key line' : List Char} {before after : List (List Char)}

theorem assignment_ne (key : List Char) : assignment key true ≠ assignment key false := by
  intro h
  exact absurd (List.append_cancel_left h) (by decide)

/-- What depends on the value is at one place only. -/
theorem same_place {α : Type} {pre post pre' post' : List α} {u u' : Bool → α}
    (hu : u true ≠ u false) (hu' : u' true ≠ u' false)
    (h : ∀ value, pre ++ u value :: post = pre' ++ u' value :: post') : pre = pre' := by
  have hle : ∀ {pre post post' : List α} {u u' : Bool → α} (l : List α), u true ≠ u false →
      (∀ value, pre ++ u value :: post = (pre ++ l) ++ u' value :: post') → l = [] := by
    intro pre post post' u u' l hu h
    cases l with
    | nil => rfl
    | cons a l =>
      have hvalue : ∀ value, u value = a := fun value =>
        (List.cons.inj (List.append_cancel_left ((h value).trans (List.append_assoc ..)))).1
      exact absurd ((hvalue true).trans (hvalue false).symm) hu
  rcases List.append_eq_append_iff.mp (h true) with ⟨l, rfl, -⟩ | ⟨l, rfl, -⟩
  · rw [hle l hu h, List.append_nil]
  · rw [hle l hu' fun value => (h value).symm, List.append_nil]

theorem same_split {pre post : List (List Char)} {line : List Char}
    (h : pre ++ line :: post = before ++ line' :: after)
    (hmap : pre.map bodyOf = before.map bodyOf) :
    pre = before ∧ line = line' ∧ post = after := by
  have hlength := congrArg List.length hmap
  rw [List.length_map, List.length_map] at hlength
  obtain ⟨hpre, hrest⟩ := List.append_inj h hlength
  exact ⟨hpre, List.cons.inj hrest⟩

/-- The number of lines tells a line that is replaced. -/
theorem assigned_of_bodies (htable : IsBare table) (hkey : IsBare key)
    (hcourse : Course text table key) (hlines : split text = before ++ line' :: after)
    (s : List Char)
    (h : ∀ value, bodies (setTomlBool text table key value) =
      before.map bodyOf ++ (s ++ assignment key value) :: after.map bodyOf) :
    sectionAfter before = table ∧ Unassigned table key before := by
  have hcount := congrArg List.length hlines
  simp only [List.length_append, List.length_cons] at hcount
  cases hcourse with
  | @assigned pre post line hlines' hsection hassigns hfirst =>
    have hplace := @same_place _ _ _ _ _ (fun value => indentation line ++ assignment key value)
      (fun value => s ++ assignment key value)
      (fun h => assignment_ne key (List.append_cancel_left h))
      (fun h => assignment_ne key (List.append_cancel_left h))
      fun value => (bodies_assigned hkey hlines' hsection hassigns hfirst value).symm.trans
        (h value)
    obtain ⟨rfl, -, -⟩ := same_split (hlines'.symm.trans hlines) hplace
    exact ⟨hsection, hfirst⟩
  | headed hlines' hend hheads hlast hnone =>
    have hlength := congrArg List.length
      ((bodies_headed hkey hlines' hend hheads hlast hnone true).symm.trans (h true))
    have hcount' := congrArg List.length hlines'
    simp only [List.length_append, List.length_map, List.length_cons] at hlength hcount'
    omega
  | missing hheads =>
    have hlength := congrArg List.length
      ((bodies_missing htable hkey hheads true).symm.trans (h true))
    simp only [bodies, List.length_append, List.length_map, List.length_cons,
      List.length_nil] at hlength
    omega

/-- The number of lines tells a line that is inserted. -/
theorem headed_of_bodies (htable : IsBare table) (hkey : IsBare key)
    (hcourse : Course text table key) (hlines : split text = before ++ line' :: after)
    (h : ∀ value, bodies (setTomlBool text table key value) =
      before.map bodyOf ++ bodyOf line' :: assignment key value :: after.map bodyOf) :
    Heads table line' ∧ (∀ line ∈ after, ¬Heads table line) ∧
      Unassigned table key (split text) := by
  have hcount := congrArg List.length hlines
  simp only [List.length_append, List.length_cons] at hcount
  cases hcourse with
  | assigned hlines' hsection hassigns hfirst =>
    have hlength := congrArg List.length
      ((bodies_assigned hkey hlines' hsection hassigns hfirst true).symm.trans (h true))
    have hcount' := congrArg List.length hlines'
    simp only [List.length_append, List.length_map, List.length_cons] at hlength hcount'
    omega
  | @headed pre post line hlines' hend hheads hlast hnone =>
    have hedits : ∀ value,
        (pre.map bodyOf ++ [bodyOf line]) ++ assignment key value :: post.map bodyOf =
          (before.map bodyOf ++ [bodyOf line']) ++ assignment key value :: after.map bodyOf := by
      intro value
      rw [List.append_assoc, List.append_assoc]
      exact (bodies_headed hkey hlines' hend hheads hlast hnone value).symm.trans (h value)
    have hplace := same_place (assignment_ne key) (assignment_ne key) hedits
    obtain ⟨rfl, rfl, rfl⟩ := same_split (hlines'.symm.trans hlines)
      (List.append_inj' hplace rfl).1
    exact ⟨hheads, hlast, hnone⟩
  | missing hheads =>
    have hlength := congrArg List.length
      ((bodies_missing htable hkey hheads true).symm.trans (h true))
    simp only [bodies, List.length_append, List.length_map, List.length_cons,
      List.length_nil] at hlength
    omega

/-- The number of lines tells a section that is appended. -/
theorem missing_of_bodies (hkey : IsBare key) (hcourse : Course text table key)
    (h : bodies (setTomlBool text table key true) =
      bodies text ++ [[], '[' :: table ++ [']'], assignment key true]) :
    ∀ line ∈ split text, ¬Heads table line := by
  cases hcourse with
  | assigned hlines' hsection hassigns hfirst =>
    have hlength := congrArg List.length
      ((bodies_assigned hkey hlines' hsection hassigns hfirst true).symm.trans h)
    simp only [bodies, hlines', List.length_append, List.length_map, List.length_cons,
      List.length_nil] at hlength
    omega
  | headed hlines' hend hheads hlast hnone =>
    have hlength := congrArg List.length
      ((bodies_headed hkey hlines' hend hheads hlast hnone true).symm.trans h)
    simp only [bodies, hlines', List.length_append, List.length_map, List.length_cons,
      List.length_nil] at hlength
    omega
  | missing hheads => exact hheads

end Line

end WayfinderRouter.Config
