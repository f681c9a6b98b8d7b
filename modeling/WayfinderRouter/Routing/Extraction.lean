import WayfinderRouter.Routing.Score
import WayfinderRouter.Routing.Splitting
import WayfinderRouter.Unsigned

/-!
# Features of a text

Words and symbols are counted over a whole text. Headings, list items, table rows and links are
counted line by line, outside of fenced code. The patterns are parameters.

## Main definitions

- `Patterns` — the regular expressions
- `extractFeaturesWithLexicon` — the features of a text
- `SameOutsideFences` — lines that differ inside of fences only

## Main results

- `foldl_scanLine_eq` — lines inside of fences do not change what is counted
- `fenced_code_not_counted` — texts that differ inside of fences have the same structure
-/

namespace WayfinderRouter.Routing

open Config Slices

/-- `Patterns`: matches as lists, and the first group of a heading if it took part. -/
structure Patterns where
  heading : List Char → Option (Option (List Char))
  list : List Char → Bool
  tableRow : List Char → Bool
  fence : List Char → Bool
  link : List Char → List (List Char)
  wordToken : List Char → List (List Char)
  mathSymbol : List Char → List (List Char)

/-- `python_whitespace`. -/
def pythonWhitespace (character : Char) : Bool :=
  isWhitespace character || (0x1c ≤ character.toNat && character.toNat ≤ 0x1f)

/-- One turn of `python_word_count`, with whether a word has begun. -/
def countWord (s : Bool × ℕ) (character : Char) : Bool × ℕ :=
  if pythonWhitespace character then (false, s.2)
  else if s.1 then s
  else (true, U64.saturatingAdd s.2 1)

/-- `python_word_count`. -/
def pythonWordCount (text : List Char) : ℕ := (text.foldl countWord (false, 0)).2

/-- A count as a `u64`. -/
def toU64 (n : ℕ) : ℕ := min n U64.max

/-- The counts of the loop over lines, with whether the line is in a fence. -/
structure Scan where
  inFence : Bool
  headingCount : ℕ
  maxHeadingDepth : ℕ
  listItemCount : ℕ
  linkCount : ℕ
  codeBlockCount : ℕ
  tableRowCount : ℕ

/-- The counts before the first line. -/
def Scan.start : Scan := ⟨false, 0, 0, 0, 0, 0, 0⟩

section

variable (patterns : Patterns)

/-- A line outside of fences is a heading, a list item or a table row, in this order. -/
def countBlock (s : Scan) (line : List Char) : Scan :=
  match patterns.heading line with
  | some captures =>
    let depth := captures.elim 0 fun matched => toU64 (size matched)
    { s with
      headingCount := U64.saturatingAdd s.headingCount 1
      maxHeadingDepth := max s.maxHeadingDepth depth }
  | none =>
    if patterns.list line then { s with listItemCount := U64.saturatingAdd s.listItemCount 1 }
    else if patterns.tableRow line then
      { s with tableRowCount := U64.saturatingAdd s.tableRowCount 1 }
    else s

/-- One turn of the loop over lines. -/
def scanLine (s : Scan) (line : List Char) : Scan :=
  if patterns.fence line then
    { s with
      inFence := !s.inFence
      codeBlockCount :=
        if s.inFence then s.codeBlockCount else U64.saturatingAdd s.codeBlockCount 1 }
  else if s.inFence then s
  else
    let s := countBlock patterns s line
    { s with linkCount := U64.saturatingAdd s.linkCount (toU64 (patterns.link line).length) }

/-- The tokens of a text that are terms. -/
def termCount (terms : Finset String) (tokens : List (List Char)) : ℕ :=
  tokens.foldl
    (fun count token => if String.ofList token ∈ terms then U64.saturatingAdd count 1 else count) 0

/-- `extract_features_with_lexicon`, with the patterns if they compile. -/
def extractFeaturesWithLexicon (patterns : Except CoreError Patterns) (text : String)
    (lexicon : Lexicon) : Except CoreError Features := do
  let patterns ← patterns
  let body := stripFrontmatter text.toList
  let scan := (pythonSplitlines body).foldl (scanLine patterns) .start
  let tokens := patterns.wordToken (body.map Char.toLower)
  .ok ⟨![pythonWordCount body, scan.headingCount, scan.maxHeadingDepth, scan.listItemCount,
    scan.linkCount, scan.codeBlockCount, scan.tableRowCount, termCount lexicon.reasoning tokens,
    toU64 (patterns.mathSymbol body).length, termCount lexicon.constraints tokens,
    toU64 ((utf8 body).count 0x3f)]⟩

end

/-- The counts of headings, their depth, list items, links, code blocks and table rows. -/
def Features.structural (features : Features) : List ℕ :=
  [features.values 1, features.values 2, features.values 3, features.values 4, features.values 5,
    features.values 6]

/-- The same counts, as the loop over lines has them. -/
def Scan.structural (s : Scan) : List ℕ :=
  [s.headingCount, s.maxHeadingDepth, s.listItemCount, s.linkCount, s.codeBlockCount,
    s.tableRowCount]

theorem extractFeatures_error (error : CoreError) (text : String) (lexicon : Lexicon) :
    extractFeaturesWithLexicon (.error error) text lexicon = .error error :=
  rfl

theorem structural_extractFeatures (patterns : Patterns) (text : String) (lexicon : Lexicon) :
    (extractFeaturesWithLexicon (.ok patterns) text lexicon).map Features.structural =
      .ok ((pythonSplitlines (stripFrontmatter text.toList)).foldl (scanLine patterns)
        .start).structural :=
  rfl

/-! ## Fences -/

/-- Lines that agree outside of fences and on the fences. What stands between a fence that opens
and the one that closes it, or the end, is arbitrary. -/
inductive SameOutsideFences (fence : List Char → Bool) :
    List (List Char) → List (List Char) → Prop where
  | nil : SameOutsideFences fence [] []
  | line {line : List Char} {lines lines' : List (List Char)} (hline : fence line = false)
      (h : SameOutsideFences fence lines lines') :
      SameOutsideFences fence (line :: lines) (line :: lines')
  | block {first last : List Char} {inner inner' lines lines' : List (List Char)}
      (hfirst : fence first = true) (hlast : fence last = true)
      (hinner : ∀ line ∈ inner, fence line = false)
      (hinner' : ∀ line ∈ inner', fence line = false) (h : SameOutsideFences fence lines lines') :
      SameOutsideFences fence (first :: inner ++ last :: lines) (first :: inner' ++ last :: lines')
  | unterminated {first : List Char} {inner inner' : List (List Char)}
      (hfirst : fence first = true) (hinner : ∀ line ∈ inner, fence line = false)
      (hinner' : ∀ line ∈ inner', fence line = false) :
      SameOutsideFences fence (first :: inner) (first :: inner')

variable {patterns : Patterns}

/-- Lines inside of a fence change nothing. -/
theorem foldl_scanLine_inner {inner : List (List Char)}
    (hinner : ∀ line ∈ inner, patterns.fence line = false) {s : Scan} (hs : s.inFence = true) :
    inner.foldl (scanLine patterns) s = s := by
  induction inner with
  | nil => rfl
  | cons line inner ih =>
    have hstep : scanLine patterns s line = s := by
      rw [scanLine, hinner line List.mem_cons_self, hs]
      rfl
    rw [List.foldl_cons, hstep]
    exact ih fun line hline => hinner line (List.mem_cons_of_mem _ hline)

theorem inFence_scanLine_fence {line : List Char} (hline : patterns.fence line = true) (s : Scan) :
    (scanLine patterns s line).inFence = !s.inFence := by
  rw [scanLine, if_pos hline]

theorem inFence_countBlock (s : Scan) (line : List Char) :
    (countBlock patterns s line).inFence = s.inFence := by
  rw [countBlock]
  cases patterns.heading line with
  | some captures => rfl
  | none =>
    dsimp only
    split_ifs <;> rfl

theorem inFence_scanLine_line {line : List Char} (hline : patterns.fence line = false) (s : Scan) :
    (scanLine patterns s line).inFence = s.inFence := by
  rw [scanLine, hline, if_neg Bool.false_ne_true]
  split_ifs
  · rfl
  · exact inFence_countBlock s line

/-- Outside of a fence, lines that agree outside of fences are counted alike. -/
theorem foldl_scanLine_eq {lines lines' : List (List Char)}
    (h : SameOutsideFences patterns.fence lines lines') :
    ∀ {s : Scan}, s.inFence = false →
      lines.foldl (scanLine patterns) s = lines'.foldl (scanLine patterns) s := by
  induction h with
  | nil => exact fun _ => rfl
  | @line line _ _ hline _ ih =>
    intro s hs
    rw [List.foldl_cons, List.foldl_cons]
    exact ih ((inFence_scanLine_line hline s).trans hs)
  | @block first last inner inner' lines lines' hfirst hlast hinner hinner' _ ih =>
    intro s hs
    have hopen : (scanLine patterns s first).inFence = true := by
      rw [inFence_scanLine_fence hfirst, hs]
      rfl
    have hclosed : (scanLine patterns (scanLine patterns s first) last).inFence = false := by
      rw [inFence_scanLine_fence hlast, hopen]
      rfl
    rw [List.foldl_append, List.foldl_append, List.foldl_cons, List.foldl_cons, List.foldl_cons,
      List.foldl_cons, foldl_scanLine_inner hinner hopen, foldl_scanLine_inner hinner' hopen]
    exact ih hclosed
  | @unterminated first inner inner' hfirst hinner hinner' =>
    intro s hs
    have hopen : (scanLine patterns s first).inFence = true := by
      rw [inFence_scanLine_fence hfirst, hs]
      rfl
    rw [List.foldl_cons, List.foldl_cons, foldl_scanLine_inner hinner hopen,
      foldl_scanLine_inner hinner' hopen]

/-- The first line of a text is the marker of a block at the start. -/
def OpensFrontmatter (text : List Char) : Prop :=
  ∃ line, (text.splitOn '\n').head? = some line ∧ trim (String.ofList line) = "---"

theorem stripFrontmatter_of_not_opens {text : List Char} (h : ¬ OpensFrontmatter text) :
    stripFrontmatter text = text := by
  cases hlines : text.splitOn '\n' with
  | nil => exact absurd hlines (List.splitOn_ne_nil _ _)
  | cons line lines =>
    rw [stripFrontmatter_eq hlines, if_neg]
    intro hopens
    rw [OpensFrontmatter, hlines] at h
    exact h ⟨line, rfl, hopens⟩

/-- Texts that agree outside of fences have the same structure. -/
theorem fenced_code_not_counted (compiled : Except CoreError Patterns) (lexicon : Lexicon)
    {text text' : String}
    (hsame : ∀ patterns, compiled = .ok patterns → SameOutsideFences patterns.fence
      (pythonSplitlines text.toList) (pythonSplitlines text'.toList))
    (hopens : ¬ OpensFrontmatter text.toList) (hopens' : ¬ OpensFrontmatter text'.toList) :
    (extractFeaturesWithLexicon compiled text lexicon).map Features.structural =
      (extractFeaturesWithLexicon compiled text' lexicon).map Features.structural := by
  cases compiled with
  | error error => rw [extractFeatures_error, extractFeatures_error]
  | ok patterns =>
    rw [structural_extractFeatures, structural_extractFeatures,
      stripFrontmatter_of_not_opens hopens, stripFrontmatter_of_not_opens hopens',
      foldl_scanLine_eq (hsame patterns rfl) rfl]

/-- Patterns that look at the first characters of a line. -/
def plainPatterns : Patterns where
  heading line := if line.take 2 = ['#', ' '] then some (some ['#']) else none
  list line := line.take 2 = ['-', ' ']
  tableRow line := line.take 1 = ['|']
  fence line := line.take 3 = ['~', '~', '~']
  link _ := []
  wordToken _ := []
  mathSymbol _ := []

/-- A heading and a list item inside of a fence are not counted. -/
theorem fenced_code_not_counted_heading :
    (extractFeaturesWithLexicon (.ok plainPatterns) "# a\n~~~\nb\n~~~" .default).map
        Features.structural =
      (extractFeaturesWithLexicon (.ok plainPatterns) "# a\n~~~\n# b\n- c\n~~~" .default).map
        Features.structural := by
  refine fenced_code_not_counted (.ok plainPatterns) .default ?_ ?_ ?_
  · intro patterns h
    cases h
    have hfirst : pythonSplitlines "# a\n~~~\nb\n~~~".toList =
        ['#', ' ', 'a'] :: ([['~', '~', '~'], ['b']] ++ [['~', '~', '~']]) := by
      have htext : "# a\n~~~\nb\n~~~".toList =
          joined [['#', ' ', 'a'], ['~', '~', '~'], ['b'], ['~', '~', '~']] := by decide
      rw [htext]
      exact pythonSplitlines_eq (splitsInto_joined (by decide) (by decide))
    have hsecond : pythonSplitlines "# a\n~~~\n# b\n- c\n~~~".toList =
        ['#', ' ', 'a'] ::
          ([['~', '~', '~'], ['#', ' ', 'b'], ['-', ' ', 'c']] ++ [['~', '~', '~']]) := by
      have htext : "# a\n~~~\n# b\n- c\n~~~".toList =
          joined [['#', ' ', 'a'], ['~', '~', '~'], ['#', ' ', 'b'], ['-', ' ', 'c'],
            ['~', '~', '~']] := by decide
      rw [htext]
      exact pythonSplitlines_eq (splitsInto_joined (by decide) (by decide))
    rw [hfirst, hsecond]
    exact .line (by decide) (.block (by decide) (by decide) (by decide) (by decide) .nil)
  · rintro ⟨line, hline, htrim⟩
    rw [← Option.some.inj hline] at htrim
    exact absurd htrim (by decide)
  · rintro ⟨line, hline, htrim⟩
    rw [← Option.some.inj hline] at htrim
    exact absurd htrim (by decide)

end WayfinderRouter.Routing
