import Mathlib.Data.List.DropRight
import Mathlib.Tactic.Common

/-!
# Lines

A text is cut after every newline. The lines of a text are its pieces, the last of which may lack
the newline, and they are determined by their concatenation.

## Main definitions

- `split` — the lines of a text, with their newlines
- `AreLines` — a list of lines of some text
- `bodies` — the lines without their newlines
- `lineEnd` — what ends the last line of a text

## Main results

- `split_flatten` — the lines of the text that is made of lines
- `split_append` — the lines of two texts, of which the first one ends its last line
- `bodies_lineEnd` — ending the last line does not change it
-/

namespace Lines

variable {text body line : List Char} {lines : List (List Char)}

/-- A character in front of the first of some lines. -/
def push (c : Char) : List (List Char) → List (List Char)
  | [] => [[c]]
  | line :: lines => (c :: line) :: lines

/-- The lines of a text, each with its newline (`str::split_inclusive`). -/
def split : List Char → List (List Char)
  | [] => []
  | c :: text => if c = '\n' then [c] :: split text else push c (split text)

/-- Lines of a text: all but the last one end with a newline, and have no other. -/
inductive AreLines : List (List Char) → Prop where
  | nil : AreLines []
  | last {line : List Char} (hne : line ≠ []) (hline : '\n' ∉ line) : AreLines [line]
  | cons {body : List Char} {lines : List (List Char)} (hbody : '\n' ∉ body)
      (h : AreLines lines) : AreLines ((body ++ ['\n']) :: lines)

/-- A line without its newline. -/
def bodyOf (line : List Char) : List Char := line.takeWhile (· ≠ '\n')

/-- The lines of a text without their newlines. -/
def bodies (text : List Char) : List (List Char) := (split text).map bodyOf

theorem flatten_push (c : Char) (lines : List (List Char)) :
    (push c lines).flatten = c :: lines.flatten := by
  cases lines with
  | nil => rfl
  | cons line lines => rfl

theorem flatten_split (text : List Char) : (split text).flatten = text := by
  induction text with
  | nil => rfl
  | cons c text ih =>
    rw [split]
    split_ifs
    · exact congrArg (c :: ·) ih
    · rw [flatten_push, ih]

theorem areLines_split (text : List Char) : AreLines (split text) := by
  induction text with
  | nil => exact .nil
  | cons c text ih =>
    rw [split]
    split_ifs with hc
    · subst hc
      exact @AreLines.cons [] _ List.not_mem_nil ih
    · cases h : split text with
      | nil => exact .last (List.cons_ne_nil _ _) (by simpa using Ne.symm hc)
      | cons line lines =>
        rw [h] at ih
        cases ih with
        | last hne hline =>
          exact .last (List.cons_ne_nil _ _) (by simp [hline, Ne.symm hc])
        | @cons body lines hbody hlines =>
          exact @AreLines.cons (c :: body) lines (by simp [hbody, Ne.symm hc]) hlines

/-- A line with its newline is the first line of a text. -/
theorem split_line (hbody : '\n' ∉ body) (text : List Char) :
    split (body ++ '\n' :: text) = (body ++ ['\n']) :: split text := by
  induction body with
  | nil => exact if_pos rfl
  | cons c body ih =>
    rw [List.mem_cons, not_or] at hbody
    rw [List.cons_append, split, if_neg (Ne.symm hbody.1), ih hbody.2]
    rfl

/-- A text without a newline is one line. -/
theorem split_last (hne : line ≠ []) (hline : '\n' ∉ line) : split line = [line] := by
  induction line with
  | nil => exact absurd rfl hne
  | cons c line ih =>
    rw [List.mem_cons, not_or] at hline
    rw [split, if_neg (Ne.symm hline.1)]
    cases line with
    | nil => rfl
    | cons c' line =>
      rw [ih (List.cons_ne_nil _ _) hline.2]
      rfl

/-- The lines of the text that is made of lines. -/
theorem split_flatten (h : AreLines lines) : split lines.flatten = lines := by
  induction h with
  | nil => rfl
  | last hne hline =>
    rw [List.flatten_singleton]
    exact split_last hne hline
  | cons hbody _ ih =>
    rw [List.flatten_cons, List.append_assoc, List.singleton_append, split_line hbody, ih]

/-- The lines after a newline do not depend on those before it. -/
theorem split_append_newline (text rest : List Char) :
    split (text ++ '\n' :: rest) = split (text ++ ['\n']) ++ split rest := by
  induction text with
  | nil => exact split_line List.not_mem_nil rest
  | cons c text ih =>
    rw [List.cons_append, List.cons_append, split, split, ih]
    split_ifs
    · rfl
    · cases h : split (text ++ ['\n']) with
      | nil =>
        have hflat := flatten_split (text ++ ['\n'])
        rw [h] at hflat
        cases text with
        | nil => cases hflat
        | cons => cases hflat
      | cons line lines => rfl

/-! ## Ends of lines -/

/-- A line with its newline. -/
def Terminated (line : List Char) : Prop := ∃ body, '\n' ∉ body ∧ line = body ++ ['\n']

theorem bodyOf_terminated (hbody : '\n' ∉ body) : bodyOf (body ++ ['\n']) = body := by
  rw [bodyOf, List.takeWhile_append_of_pos]
  · simp
  · intro c hc
    have hne : c ≠ '\n' := fun h => hbody (h ▸ hc)
    simpa using hne

theorem bodyOf_last (hline : '\n' ∉ line) : bodyOf line = line := by
  rw [bodyOf, List.takeWhile_eq_self_iff]
  intro c hc
  have hne : c ≠ '\n' := fun h => hline (h ▸ hc)
  simpa using hne

theorem bodies_flatten (h : AreLines lines) : bodies lines.flatten = lines.map bodyOf := by
  rw [bodies, split_flatten h]

/-- Only the last line may lack its newline. -/
theorem AreLines.head {lines : List (List Char)} (h : AreLines (line :: lines)) :
    AreLines lines ∧ (Terminated line ∨ lines = [] ∧ line ≠ [] ∧ '\n' ∉ line) := by
  cases h with
  | last hne hline => exact ⟨.nil, .inr ⟨rfl, hne, hline⟩⟩
  | cons hbody h => exact ⟨h, .inl ⟨_, hbody, rfl⟩⟩

theorem AreLines.drop {pre post : List (List Char)} (h : AreLines (pre ++ line :: post)) :
    (∀ line ∈ pre, Terminated line) ∧ AreLines (line :: post) := by
  induction pre with
  | nil => exact ⟨fun _ h => absurd h List.not_mem_nil, h⟩
  | cons first pre ih =>
    obtain ⟨hrest, hfirst | ⟨hnil, -⟩⟩ := h.head
    · obtain ⟨hpre, hline⟩ := ih hrest
      exact ⟨List.forall_mem_cons.mpr ⟨hfirst, hpre⟩, hline⟩
    · cases List.append_ne_nil_of_right_ne_nil pre (List.cons_ne_nil _ _) hnil

/-- A line has no newline, or just the one at its end. -/
theorem AreLines.mem (h : AreLines lines) : ∀ line ∈ lines, Terminated line ∨ '\n' ∉ line := by
  induction h with
  | nil => exact fun _ h => absurd h List.not_mem_nil
  | last _ hline => exact List.forall_mem_singleton.mpr (.inr hline)
  | cons hbody _ ih => exact List.forall_mem_cons.mpr ⟨.inl ⟨_, hbody, rfl⟩, ih⟩

theorem AreLines.append {pre post : List (List Char)} (hpre : ∀ line ∈ pre, Terminated line)
    (h : AreLines post) : AreLines (pre ++ post) := by
  induction pre with
  | nil => exact h
  | cons line pre ih =>
    rw [List.forall_mem_cons] at hpre
    obtain ⟨body, hbody, rfl⟩ := hpre.1
    exact .cons hbody (ih hpre.2)

/-- What ends the last line of a text. -/
def lineEnd (text : List Char) : List Char :=
  if text = [] ∨ text.getLast? = some '\n' then [] else ['\n']

theorem lineEnd_append (text : List Char) {text' : List Char} (h : text' ≠ []) :
    lineEnd (text ++ text') = lineEnd text' := by
  obtain ⟨front, c, rfl⟩ := (List.eq_nil_or_concat text').resolve_left h
  simp [lineEnd, ← List.append_assoc]

theorem lineEnd_terminated (text : List Char) : lineEnd (text ++ ['\n']) = [] := by
  simp [lineEnd]

/-- The lines of a text whose last line has its end. -/
theorem split_append {text : List Char} (h : lineEnd text = []) (rest : List Char) :
    split (text ++ rest) = split text ++ split rest := by
  rcases List.eq_nil_or_concat text with rfl | ⟨front, c, rfl⟩
  · rfl
  · have hc : c = '\n' := by
      by_contra hne
      simp [lineEnd, hne] at h
    rw [List.concat_eq_append, hc, List.append_assoc, List.singleton_append,
      split_append_newline]

theorem bodies_append {text : List Char} (h : lineEnd text = []) (rest : List Char) :
    bodies (text ++ rest) = bodies text ++ bodies rest := by
  rw [bodies, split_append h, List.map_append]
  rfl

/-- The end of the last line does not change what is on the lines. -/
theorem bodies_lineEnd (text : List Char) : bodies (text ++ lineEnd text) = bodies text := by
  have hlines : ∀ {lines : List (List Char)}, AreLines lines →
      ∃ lines', AreLines lines' ∧ lines'.flatten = lines.flatten ++ lineEnd lines.flatten ∧
        lines'.map bodyOf = lines.map bodyOf := by
    intro lines h
    induction h with
    | nil => exact ⟨[], .nil, rfl, rfl⟩
    | @last line hne hline =>
      refine ⟨[line ++ ['\n']], .cons hline .nil, ?_, ?_⟩
      · have hlast : line.getLast? ≠ some '\n' := fun h => hline (List.mem_of_getLast? h)
        simp [lineEnd, hne, hlast]
      · simp only [List.map_cons, List.map_nil, bodyOf_terminated hline, bodyOf_last hline]
    | @cons body lines hbody h ih =>
      obtain ⟨lines', hlines', htext, hbodies⟩ := ih
      refine ⟨(body ++ ['\n']) :: lines', .cons hbody hlines', ?_, ?_⟩
      · rw [List.flatten_cons, List.flatten_cons, htext]
        by_cases hnil : lines.flatten = []
        · rw [hnil, List.append_nil, lineEnd_terminated]
          rfl
        · rw [lineEnd_append _ hnil, ← List.append_assoc]
      · rw [List.map_cons, List.map_cons, hbodies]
  obtain ⟨lines', hlines', htext, hbodies⟩ := hlines (areLines_split text)
  rw [flatten_split] at htext
  rw [← htext, bodies_flatten hlines', hbodies]
  rfl

end Lines
