import Mathlib.Data.List.Basic
import WayfinderRouter.Slices
import WayfinderRouter.Text

/-!
# Lines of a prompt

The lines of a prompt are cut as Python cuts them, and a block at its start that is set off by
markers is left out. Both walk over byte offsets.

## Main definitions

- `pythonSplitlines` — the lines of a text, cut at every separator
- `SplitsInto` — `str.splitlines` of Python as a relation
- `stripFrontmatter` — a text without the block at its start
- `Frontmatter` — the line that closes the block

## Main results

- `pythonSplitlines_iff` — the lines are those of Python, which are unique
- `stripFrontmatter_exact` — what is left is the lines after the block
-/

namespace WayfinderRouter.Routing

open Slices

/-! ## Python's lines -/

/-- `python_line_separator`. -/
def pythonLineSeparator (character : Char) : Bool :=
  character = '\n' || character = '\r' || character.toNat = 0x0b || character.toNat = 0x0c ||
    character.toNat = 0x1c || character.toNat = 0x1d || character.toNat = 0x1e ||
    character.toNat = 0x85 || character.toNat = 0x2028 || character.toNat = 0x2029

/-- What is left after a separator, with its offset: an LF goes with the CR before it. -/
def afterSeparator (index : ℕ) (character : Char) : List Char → ℕ × List Char
  | [] => (index + character.utf8Size, [])
  | next :: characters =>
    if character = '\r' ∧ next = '\n' then (index + character.utf8Size + 1, characters)
    else (index + character.utf8Size, next :: characters)

theorem length_afterSeparator (index : ℕ) (character : Char) (characters : List Char) :
    (afterSeparator index character characters).2.length ≤ characters.length := by
  cases characters with
  | nil => exact le_rfl
  | cons next characters =>
    rw [afterSeparator]
    split_ifs
    · exact Nat.le_succ _
    · exact le_rfl

/-- The loop of `python_splitlines`, with the line begun at `start` and the characters from
`index` on left to read. -/
def splitlinesFrom (text : List Char) (start index : ℕ) : List Char → List (List Char)
  | [] => if start < size text then (slice text start (size text)).toList else []
  | character :: characters =>
    if pythonLineSeparator character then
      let next := afterSeparator index character characters
      (slice text start index).toList ++ splitlinesFrom text next.1 next.1 next.2
    else splitlinesFrom text start (index + character.utf8Size) characters
termination_by characters => characters.length
decreasing_by
  · exact Nat.lt_succ_of_le (length_afterSeparator index character characters)
  · exact Nat.lt_succ_self _

/-- `python_splitlines`. -/
def pythonSplitlines (text : List Char) : List (List Char) :=
  if text = [] then [] else splitlinesFrom text 0 0 text

/-- A separator between lines: one of the characters, or CR LF. -/
inductive IsSeparator : List Char → Prop where
  | single {c : Char} (hc : pythonLineSeparator c = true) : IsSeparator [c]
  | crlf : IsSeparator ['\r', '\n']

/-- A part of a line: no character separates lines. -/
def Unbroken (line : List Char) : Prop := ∀ c ∈ line, pythonLineSeparator c = false

/-- The lines of a text as `str.splitlines` of Python has them: they alternate with separators, a
CR is not a separator of its own in front of an LF, and what comes after the last separator is a
line only when it is not empty. -/
inductive SplitsInto : List Char → List (List Char) → Prop where
  | nil : SplitsInto [] []
  | last {line : List Char} (hne : line ≠ []) (hline : Unbroken line) : SplitsInto line [line]
  | cons {line separator text : List Char} {lines : List (List Char)} (hline : Unbroken line)
      (hseparator : IsSeparator separator)
      (hwhole : separator = ['\r'] → text.head? ≠ some '\n') (h : SplitsInto text lines) :
      SplitsInto (line ++ separator ++ text) (line :: lines)

instance (line : List Char) : Decidable (Unbroken line) :=
  (List.decidableBAll (fun c => pythonLineSeparator c = false) line :
    Decidable (∀ c ∈ line, pythonLineSeparator c = false))

theorem unbroken_nil : Unbroken [] := fun _ h => absurd h List.not_mem_nil

theorem unbroken_concat {line : List Char} {c : Char} (h : Unbroken line)
    (hc : pythonLineSeparator c = false) : Unbroken (line ++ [c]) := by
  intro d hd
  rcases List.mem_append.mp hd with hd | hd
  · exact h d hd
  · rw [List.mem_singleton.mp hd]
    exact hc

/-- The first character of a separator separates lines. -/
theorem IsSeparator.head {separator : List Char} (h : IsSeparator separator) :
    ∃ c rest, separator = c :: rest ∧ pythonLineSeparator c = true := by
  cases h with
  | @single c hc => exact ⟨c, [], rfl, hc⟩
  | crlf => exact ⟨'\r', ['\n'], rfl, by decide⟩

/-- What is left after a separator. -/
theorem afterSeparator_eq {c : Char} (hc : pythonLineSeparator c = true) (index : ℕ)
    (rest : List Char) :
    ∃ separator rest', IsSeparator separator ∧ (separator = ['\r'] → rest'.head? ≠ some '\n') ∧
      c :: rest = separator ++ rest' ∧
      afterSeparator index c rest = (index + size separator, rest') := by
  cases rest with
  | nil =>
    refine ⟨[c], [], .single hc, fun _ => ?_, rfl, ?_⟩
    · rw [List.head?_nil]
      exact (Option.some_ne_none '\n').symm
    · rw [afterSeparator, size_cons, size_nil, Nat.add_zero]
  | cons next rest =>
    rw [afterSeparator]
    split_ifs with hcrlf
    · obtain ⟨rfl, rfl⟩ := hcrlf
      refine ⟨['\r', '\n'], rest, .crlf, fun h => ?_, rfl, rfl⟩
      cases h
    · refine ⟨[c], next :: rest, .single hc, fun h => ?_, rfl, ?_⟩
      · rw [List.head?_cons, ne_eq, Option.some.injEq]
        exact fun hnext => hcrlf ⟨List.head_eq_of_cons_eq h, hnext⟩
      · rw [size_cons, size_nil, Nat.add_zero]

/-- The loop at the end of a text. -/
theorem splitsInto_nil {line : List Char} (hline : Unbroken line) (before : List Char)
    (index : ℕ) :
    SplitsInto line (splitlinesFrom (before ++ line) (size before) index []) := by
  rw [splitlinesFrom, slice_suffix]
  by_cases hempty : line = []
  · rw [hempty, List.append_nil, if_neg (lt_irrefl _)]
    exact .nil
  · have hpos := size_pos hempty
    rw [if_pos (by rw [size_append]; omega)]
    exact .last hempty hline

/-- The loop, when `line` is what it has of a line, splits the line with the rest of the text. The
induction is on the length of the rest, since CR LF is read in one turn. -/
theorem splitsInto_splitlinesFrom (n : ℕ) : ∀ before line rest : List Char, rest.length ≤ n →
    Unbroken line →
    SplitsInto (line ++ rest) (splitlinesFrom (before ++ line ++ rest) (size before)
      (size (before ++ line)) rest) := by
  induction n with
  | zero =>
    intro before line rest hlength hline
    rw [List.length_eq_zero_iff.mp (Nat.le_zero.mp hlength), List.append_nil, List.append_nil]
    exact splitsInto_nil hline before _
  | succ n ih =>
    intro before line rest hlength hline
    cases rest with
    | nil =>
      rw [List.append_nil, List.append_nil]
      exact splitsInto_nil hline before _
    | cons c rest =>
      have hlength' : rest.length ≤ n := Nat.le_of_succ_le_succ hlength
      rw [splitlinesFrom]
      by_cases hc : pythonLineSeparator c = true
      · obtain ⟨separator, rest', hseparator, hwhole, hrest, hafter⟩ :=
          afterSeparator_eq hc (size (before ++ line)) rest
        have hle := length_afterSeparator (size (before ++ line)) c rest
        rw [hafter] at hle
        have hstep := ih (before ++ line ++ separator) [] rest' (hle.trans hlength') unbroken_nil
        rw [List.append_nil, List.nil_append, size_append (before ++ line)] at hstep
        rw [if_pos hc, hafter, slice_append, hrest, ← List.append_assoc line,
          ← List.append_assoc (before ++ line)]
        exact .cons hline hseparator hwhole hstep
      · rw [Bool.not_eq_true] at hc
        have hstep := ih before (line ++ [c]) rest hlength' (unbroken_concat hline hc)
        rw [← List.append_assoc, size_append (before ++ line), size_cons, size_nil, Nat.add_zero,
          List.append_assoc line, List.append_assoc (before ++ line), List.singleton_append]
          at hstep
        rw [hc]
        exact hstep

/-- A line ends at the first character that separates lines. -/
theorem line_unique {line : List Char} (hline : Unbroken line) :
    ∀ {line' separator separator' text text' : List Char}, Unbroken line' →
      IsSeparator separator → IsSeparator separator' →
      (separator = ['\r'] → text.head? ≠ some '\n') →
      (separator' = ['\r'] → text'.head? ≠ some '\n') →
      line ++ separator ++ text = line' ++ separator' ++ text' →
      line = line' ∧ separator = separator' ∧ text = text' := by
  induction line with
  | nil =>
    intro line' separator separator' text text' hline' hsep hsep' hwhole hwhole' heq
    cases line' with
    | nil =>
      cases hsep with
      | @single c hc =>
        cases hsep' with
        | single hc' =>
          obtain ⟨rfl, rfl⟩ := List.cons.inj heq
          exact ⟨rfl, rfl, rfl⟩
        | crlf =>
          obtain ⟨rfl, rfl⟩ := List.cons.inj heq
          exact absurd rfl (hwhole rfl)
      | crlf =>
        cases hsep' with
        | single hc' =>
          obtain ⟨rfl, rfl⟩ := List.cons.inj heq
          exact absurd rfl (hwhole' rfl)
        | crlf =>
          obtain ⟨-, htext⟩ := List.cons.inj heq
          exact ⟨rfl, rfl, (List.cons.inj htext).2⟩
    | cons d line' =>
      obtain ⟨c, rest, rfl, hc⟩ := hsep.head
      have hd := hline' d List.mem_cons_self
      rw [← (List.cons.inj heq).1, hc] at hd
      cases hd
  | cons c line ih =>
    intro line' separator separator' text text' hline' hsep hsep' hwhole hwhole' heq
    have hc := hline c List.mem_cons_self
    cases line' with
    | nil =>
      obtain ⟨d, rest, rfl, hd⟩ := hsep'.head
      rw [(List.cons.inj heq).1, hd] at hc
      cases hc
    | cons d line' =>
      obtain ⟨rfl, htail⟩ := List.cons.inj heq
      obtain ⟨rfl, hrest⟩ := ih (fun d hd => hline d (List.mem_cons_of_mem _ hd))
        (fun d hd => hline' d (List.mem_cons_of_mem _ hd)) hsep hsep' hwhole hwhole' htail
      exact ⟨rfl, hrest⟩

/-- A line that is not the last one ends with a separator. -/
theorem separator_not_unbroken {line separator text : List Char} (hsep : IsSeparator separator) :
    ¬ Unbroken (line ++ separator ++ text) := by
  intro h
  obtain ⟨c, rest, rfl, hc⟩ := hsep.head
  have := h c (by simp)
  rw [hc] at this
  cases this

/-- A text has one list of lines. -/
theorem SplitsInto.unique {text : List Char} {lines lines' : List (List Char)}
    (h : SplitsInto text lines) (h' : SplitsInto text lines') : lines = lines' := by
  induction h generalizing lines' with
  | nil =>
    generalize htext : ([] : List Char) = text at h'
    cases h' with
    | nil => rfl
    | last hne => exact absurd htext.symm hne
    | cons _ hsep =>
      obtain ⟨c, rest, rfl, -⟩ := hsep.head
      simp at htext
  | @last line hne hline =>
    cases h' with
    | nil => exact absurd rfl hne
    | last => rfl
    | cons _ hsep => exact absurd hline (separator_not_unbroken hsep)
  | @cons line separator text lines hline hsep hwhole _ ih =>
    generalize htext : line ++ separator ++ text = whole at h'
    cases h' with
    | nil =>
      obtain ⟨c, rest, rfl, -⟩ := hsep.head
      simp at htext
    | last _ hline' =>
      rw [← htext] at hline'
      exact absurd hline' (separator_not_unbroken hsep)
    | cons hline' hsep' hwhole' h' =>
      obtain ⟨rfl, rfl, rfl⟩ := line_unique hline hline' hsep hsep' hwhole hwhole' htext
      rw [ih h']

theorem splitsInto_pythonSplitlines (text : List Char) :
    SplitsInto text (pythonSplitlines text) := by
  rw [pythonSplitlines]
  split_ifs with hempty
  · rw [hempty]
    exact .nil
  · exact splitsInto_splitlinesFrom text.length [] [] text le_rfl unbroken_nil

/-- A line with a newline comes before the lines of the text after it. -/
theorem SplitsInto.newline {line text : List Char} {lines : List (List Char)}
    (hline : Unbroken line) (h : SplitsInto text lines) :
    SplitsInto (line ++ '\n' :: text) (line :: lines) := by
  have hseparator : IsSeparator ['\n'] := .single rfl
  have hcons := h.cons hline hseparator fun heq => absurd heq (by decide)
  rwa [List.append_assoc] at hcons

/-- Lines joined by newlines. -/
abbrev joined (lines : List (List Char)) : List Char := ['\n'].intercalate lines

/-- Lines joined by newlines are the lines of the text. -/
theorem splitsInto_joined {lines : List (List Char)} (hlines : ∀ line ∈ lines, Unbroken line)
    (hlast : ∀ line ∈ lines.getLast?, line ≠ []) : SplitsInto (joined lines) lines := by
  induction lines with
  | nil => exact .nil
  | cons line lines ih =>
    have hline := hlines line List.mem_cons_self
    cases lines with
    | nil =>
      rw [joined, List.intercalate_singleton]
      exact .last (hlast line rfl) hline
    | cons next lines =>
      rw [joined, List.intercalate_cons_cons, List.append_assoc]
      exact (ih (fun l hl => hlines l (List.mem_cons_of_mem _ hl)) hlast).newline hline

theorem pythonSplitlines_eq {text : List Char} {lines : List (List Char)}
    (h : SplitsInto text lines) : pythonSplitlines text = lines :=
  (splitsInto_pythonSplitlines text).unique h

/-- The lines are those of Python's `str.splitlines`. -/
theorem pythonSplitlines_iff (text : List Char) (lines : List (List Char)) :
    pythonSplitlines text = lines ↔ SplitsInto text lines := by
  constructor
  · rintro rfl
    exact splitsInto_pythonSplitlines text
  · exact pythonSplitlines_eq

/-! ## The block at the start -/

/-- A line that closes the block, `---` or `...`. -/
def isMarker (line : List Char) : Bool :=
  trim (String.ofList line) = "---" || trim (String.ofList line) = "..."

/-- The loop of `strip_frontmatter`, with the next line at `start`. -/
def stripFrom (text : List Char) (start : ℕ) : List Char :=
  if start ≤ size text then
    match slice text start (size text) with
    | none => text
    | some rest =>
      let relativeEnd := find '\n' rest
      let stop := relativeEnd.elim (size text) (start + ·)
      match slice text start stop with
      | none => text
      | some line =>
        if isMarker line then
          if stop = size text then [] else (slice text (stop + 1) (size text)).getD []
        else if relativeEnd.isNone then text
        else stripFrom text (stop + 1)
  else text
termination_by size text + 1 - start
decreasing_by
  show size text + 1 - ((find '\n' rest).elim (size text) (start + ·) + 1) < size text + 1 - start
  cases find '\n' rest with
  | none =>
    rw [Option.elim_none]
    omega
  | some offset =>
    rw [Option.elim_some]
    omega

/-- `strip_frontmatter`. -/
def stripFrontmatter (text : List Char) : List Char :=
  let firstEnd := (find '\n' text).getD (size text)
  match slice text 0 firstEnd with
  | none => text
  | some firstLine =>
    if trim (String.ofList firstLine) ≠ "---" then text
    else if firstEnd = size text then text
    else stripFrom text (firstEnd + 1)

/-- The lines have a block at their start, which the line `i` closes. -/
structure Frontmatter (lines : List (List Char)) (i : ℕ) : Prop where
  opens : ∃ line, lines.head? = some line ∧ trim (String.ofList line) = "---"
  pos : 1 ≤ i
  closes : ∃ line, lines[i]? = some line ∧ isMarker line = true
  least : ∀ j, 1 ≤ j → j < i → ∀ line, lines[j]? = some line → isMarker line = false

/-- A text is a line, or a line with a newline and the text after it. -/
theorem line_or_lines (text : List Char) :
    '\n' ∉ text ∨ ∃ line rest, '\n' ∉ line ∧ text = line ++ '\n' :: rest := by
  by_cases h : '\n' ∈ text
  · obtain ⟨line, rest, htext, hline⟩ := List.eq_append_cons_of_mem h
    exact .inr ⟨line, rest, hline, htext⟩
  · exact .inl h

/-- What the loop leaves: the lines after the first marker, if there is one. -/
theorem stripFrom_eq (n : ℕ) : ∀ before rest : List Char, rest.length < n →
    stripFrom (before ++ rest) (size before) =
      ((rest.splitOn '\n').findIdx? isMarker).elim (before ++ rest)
        fun i => joined ((rest.splitOn '\n').drop (i + 1)) := by
  induction n with
  | zero => exact fun _ _ hlength => absurd hlength (Nat.not_lt_zero _)
  | succ n ih =>
    intro before rest hlength
    rw [stripFrom, if_pos (by rw [size_append]; omega), slice_suffix]
    rcases line_or_lines rest with hline | ⟨line, rest, hline, rfl⟩
    · simp only [find_eq_none hline, Option.elim_none, slice_suffix,
        List.splitOn_eq_singleton hline, List.findIdx?_cons, List.findIdx?_nil]
      cases isMarker rest <;> rfl
    · have hstop : size before + size line = size (before ++ line) := (size_append _ _).symm
      have hlong : size (before ++ line) ≠ size (before ++ (line ++ '\n' :: rest)) := by
        have hc := Char.utf8Size_pos '\n'
        rw [← List.append_assoc, size_append (before ++ line), size_cons]
        omega
      have hnext : size (before ++ line) + 1 = size (before ++ (line ++ ['\n'])) := by
        rw [← List.append_assoc, size_append (before ++ line)]
        rfl
      have htext : before ++ (line ++ '\n' :: rest) = before ++ (line ++ ['\n']) ++ rest := by
        simp
      have hslice : slice (before ++ (line ++ '\n' :: rest)) (size before)
          (size (before ++ line)) = some line := by
        rw [← List.append_assoc]
        exact slice_append before line _
      simp only [find_append hline, Option.elim_some, hstop, hslice, if_neg hlong,
        Option.isNone_some, List.splitOn_append_cons_self_of_not_mem hline, List.findIdx?_cons,
        Bool.false_eq_true, if_false]
      cases hmarker : isMarker line with
      | true =>
        rw [if_pos rfl, if_pos rfl, hnext, htext, slice_suffix]
        exact (List.intercalate_splitOn '\n').symm
      | false =>
        rw [if_neg Bool.false_ne_true, if_neg Bool.false_ne_true, hnext, htext, ih]
        · cases (rest.splitOn '\n').findIdx? isMarker <;> rfl
        · rw [List.length_append, List.length_cons] at hlength
          omega

theorem joined_drop_suffix (lines : List (List Char)) (n : ℕ) :
    joined (lines.drop n) <:+ joined lines := by
  induction lines generalizing n with
  | nil => simp only [List.drop_nil, List.suffix_refl]
  | cons line lines ih =>
    cases n with
    | zero => exact List.suffix_refl _
    | succ n =>
      rw [List.drop_succ_cons]
      refine (ih n).trans ?_
      cases lines with
      | nil => exact List.nil_suffix
      | cons line' lines =>
        rw [joined, joined, List.intercalate_cons_cons]
        exact List.suffix_append _ _

/-- What is left of a text. -/
theorem stripFrontmatter_eq {text line : List Char} {lines : List (List Char)}
    (hlines : text.splitOn '\n' = line :: lines) :
    stripFrontmatter text =
      if trim (String.ofList line) = "---" then
        (lines.findIdx? isMarker).elim text fun i => joined (lines.drop (i + 1))
      else text := by
  rw [stripFrontmatter]
  rcases line_or_lines text with hline | ⟨first, rest, hline, rfl⟩
  · rw [List.splitOn_eq_singleton hline] at hlines
    obtain ⟨rfl, rfl⟩ := List.cons.inj hlines
    have hslice : slice text 0 (size text) = some text := slice_suffix [] text
    simp only [find_eq_none hline, Option.getD_none, hslice, if_true, List.findIdx?_nil,
      Option.elim_none, ite_self]
  · rw [List.splitOn_append_cons_self_of_not_mem hline] at hlines
    obtain ⟨rfl, rfl⟩ := List.cons.inj hlines
    have hslice : slice (first ++ '\n' :: rest) 0 (size first) = some first :=
      slice_append [] first ('\n' :: rest)
    have hlong : size first ≠ size (first ++ '\n' :: rest) := by
      have hc := Char.utf8Size_pos '\n'
      rw [size_append, size_cons]
      omega
    have hnext : size first + 1 = size (first ++ ['\n']) := by
      rw [size_append]
      rfl
    have hloop := stripFrom_eq (rest.length + 1) (first ++ ['\n']) rest (Nat.lt_succ_self _)
    rw [List.append_assoc, List.singleton_append, ← hnext] at hloop
    simp only [find_append hline, Option.getD_some, hslice, if_neg hlong, hloop, ne_eq, ite_not]

theorem frontmatter_cons {line : List Char} {lines : List (List Char)} {i : ℕ} :
    Frontmatter (line :: lines) i ↔
      trim (String.ofList line) = "---" ∧ ∃ j, i = j + 1 ∧ lines.findIdx? isMarker = some j := by
  constructor
  · rintro ⟨⟨first, hfirst, hopens⟩, hpos, ⟨last, hlast, hcloses⟩, hleast⟩
    obtain rfl := Option.some.inj hfirst
    obtain ⟨j, rfl⟩ : ∃ j, i = j + 1 := ⟨i - 1, by omega⟩
    refine ⟨hopens, j, rfl, List.findIdx?_eq_some_iff_getElem.mpr ?_⟩
    obtain ⟨hj, rfl⟩ := List.getElem?_eq_some_iff.mp (List.getElem?_cons_succ ▸ hlast)
    refine ⟨hj, hcloses, fun k hk => ?_⟩
    have hget : (line :: lines)[k + 1]? = some lines[k] := List.getElem?_eq_getElem (hk.trans hj)
    rw [hleast (k + 1) (by omega) (by omega) _ hget]
    exact Bool.false_ne_true
  · rintro ⟨hopens, j, rfl, hfind⟩
    obtain ⟨hj, hcloses, hleast⟩ := List.findIdx?_eq_some_iff_getElem.mp hfind
    refine ⟨⟨line, rfl, hopens⟩, by omega, ⟨lines[j], List.getElem?_eq_getElem hj, hcloses⟩, ?_⟩
    intro k hpos hk l hl
    obtain ⟨k, rfl⟩ : ∃ k', k = k' + 1 := ⟨k - 1, by omega⟩
    obtain ⟨hk', rfl⟩ := List.getElem?_eq_some_iff.mp (List.getElem?_cons_succ ▸ hl)
    exact Bool.eq_false_iff.mpr (hleast k (by omega))

/-- What is left of a text is the lines after the line that closes the block, or all of it when
there is no block, and always a suffix of it. -/
theorem stripFrontmatter_exact (text : List Char) :
    (∀ i, Frontmatter (text.splitOn '\n') i →
      stripFrontmatter text = joined ((text.splitOn '\n').drop (i + 1))) ∧
    ((∀ i, ¬ Frontmatter (text.splitOn '\n') i) → stripFrontmatter text = text) ∧
    stripFrontmatter text <:+ text := by
  cases hlines : text.splitOn '\n' with
  | nil => exact absurd hlines (List.splitOn_ne_nil _ _)
  | cons line lines =>
    have heq := stripFrontmatter_eq hlines
    have hjoined : joined (line :: lines) = text := by
      rw [← hlines]
      exact List.intercalate_splitOn '\n'
    simp only [frontmatter_cons]
    by_cases hopens : trim (String.ofList line) = "---"
    · rw [if_pos hopens] at heq
      cases hfind : lines.findIdx? isMarker with
      | none =>
        rw [hfind, Option.elim_none] at heq
        refine ⟨?_, fun _ => heq, heq.symm ▸ List.suffix_refl text⟩
        rintro i ⟨-, j, -, h⟩
        cases h
      | some j =>
        rw [hfind, Option.elim_some] at heq
        refine ⟨?_, fun h => absurd ⟨hopens, j, rfl, rfl⟩ (h (j + 1)), ?_⟩
        · rintro i ⟨-, j', rfl, h⟩
          rw [heq, Option.some.inj h]
          rfl
        · rw [heq, ← hjoined]
          exact joined_drop_suffix (line :: lines) (j + 2)
    · rw [if_neg hopens] at heq
      exact ⟨fun i h => absurd h.1 hopens, fun _ => heq, heq.symm ▸ List.suffix_refl text⟩

end WayfinderRouter.Routing
