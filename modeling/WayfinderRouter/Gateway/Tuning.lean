import WayfinderRouter.Config.RoutingRoundTrip
import WayfinderRouter.Fallible.Rules
import WayfinderRouter.Gateway.CacheKey

/-!
# The tuning of a request

A request may bring weights and terms of its own. They are put over those of the configuration for
this request only. The tiers and the classifier stay what they are, and a configuration that could
be read stays one.

Numbers are read by a parameter, and so is a text put in lower case.

## Main definitions

- `applyScoringOverrides` — the configuration with the tuning of a request
- `givenWeight` — the weight that a tuning has for a feature

## Main results

- `tuning_exact` — what a tuning changes
-/

namespace WayfinderRouter.Gateway.Tuning

open Config

variable (asF64 : String → Option ℚ) (lower : String → String)

/-- `MAX_LEXICON_TERMS`. -/
def maxTerms : ℕ := 2000

def badWeight (name : String) : String :=
  "wayfinder_tuning.weights." ++ name ++ " must be a non-negative number"

def badTerms (key : String) : String :=
  "wayfinder_tuning.lexicon." ++ key ++ " must be a list of strings"

/-- The name of a feature between quotes. -/
def escapeName (name : String) : String :=
  String.ofList (name.toList.flatMap fun c => if c = '\\' ∨ c = '\'' then ['\\', c] else [c])

/-- The number of a value, as far as it is a weight. -/
def weightOf : Json → Option ℚ
  | .number text => (asF64 text).filter fun value => 0 ≤ value
  | _ => none

/-- One weight of a tuning. -/
def overrideWeight (weights : Weights) (entry : String × Json) : Except String Weights :=
  match weights.get entry.1 with
  | none => .error ("wayfinder_tuning.weights: unknown feature '" ++ escapeName entry.1 ++ "'")
  | some _ =>
    match weightOf asF64 entry.2 with
    | none => .error (badWeight entry.1)
    | some value => .ok ((weights.set entry.1 value).getD weights)

/-- The weights with those of a tuning. -/
def overrideWeights (weights : Weights) : Option Json → Except String Weights
  | none => .ok weights
  | some (.object entries) => entries.foldlM (overrideWeight asF64) weights
  | some _ => .error "wayfinder_tuning.weights must be an object"

/-- A term of a tuning, as it is collected. -/
def cleanTerm (key : String) : Json → Except String String
  | .string term => .ok (lower (trim term))
  | _ => .error (badTerms key)

/-- `parse_tuning_terms`. -/
def parseTuningTerms (key : String) : Json → Except String (Finset String)
  | .array values => do
    let terms ← values.mapM (cleanTerm lower key)
    let cleaned := (terms.filter fun term => term ≠ "").toFinset
    if maxTerms < cleaned.card then
      .error ("wayfinder_tuning.lexicon." ++ key ++ " exceeds " ++ toString maxTerms ++ " terms")
    else .ok cleaned
  | _ => .error (badTerms key)

/-- The terms of a tuning, or those of the configuration. -/
def overrideTerms (key : String) (terms : Finset String) (lexicon : Json) :
    Except String (Finset String) :=
  match lexicon.get key with
  | none => .ok terms
  | some value => parseTuningTerms lower key value

/-- The sets of terms with those of a tuning. -/
def overrideLexicon (lexicon : Lexicon) :
    Option Json → Except String (Finset String × Finset String)
  | none => .ok (lexicon.reasoning, lexicon.constraints)
  | some (.object entries) => do
    let reasoning ← overrideTerms lower "reasoning_terms" lexicon.reasoning (.object entries)
    let constraints ← overrideTerms lower "constraint_terms" lexicon.constraints (.object entries)
    .ok (reasoning, constraints)
  | some _ => .error "wayfinder_tuning.lexicon must be an object"

/-- `apply_scoring_overrides`. -/
def applyScoringOverrides (routing : RoutingConfig) : Option Json → Except String RoutingConfig
  | none => .ok routing
  | some (.object entries) => do
    let weights ← overrideWeights asF64 routing.weights ((Json.object entries).get "weights")
    let (reasoning, constraints) ←
      overrideLexicon lower routing.lexicon ((Json.object entries).get "lexicon")
    .ok
      { weights
        tiers := routing.tiers
        classifier := routing.classifier
        lexicon := .new (sortedTerms reasoning) (sortedTerms constraints) }
  | some _ => .error "wayfinder_tuning must be an object"

/-! ## Weights -/

/-- The weight that a tuning has for a feature. -/
def givenWeight (tuning : Option Json) (i : Fin 11) : Option ℚ :=
  (tuning.bind (Json.get (featureOrder i))).bind (weightOf asF64)

variable {asF64 lower}

theorem featureOrder_of_index {name : String} {i : Fin 11} (h : featureIndex name = some i) :
    featureOrder i = name := by
  rw [featureIndex] at h
  simpa using List.find?_some h

theorem overrideWeight_eq_ok {weights weights' : Weights} {entry : String × Json} :
    overrideWeight asF64 weights entry = .ok weights' ↔
      ∃ i value, featureOrder i = entry.1 ∧ weightOf asF64 entry.2 = some value ∧
        weights' = ⟨Function.update weights.values i value⟩ := by
  have hget : weights.get entry.1 = (featureIndex entry.1).map weights.values := rfl
  have hset : ∀ value, weights.set entry.1 value =
      (featureIndex entry.1).map fun i => ⟨Function.update weights.values i value⟩ := fun _ => rfl
  rw [overrideWeight, hget]
  constructor
  · intro h
    cases hindex : featureIndex entry.1 with
    | none =>
      rw [hindex] at h
      cases h
    | some i =>
      rw [hindex] at h
      cases hvalue : weightOf asF64 entry.2 with
      | none =>
        rw [hvalue] at h
        cases h
      | some value =>
        rw [hvalue] at h
        dsimp only [Option.map_some] at h
        rw [hset, hindex] at h
        cases h
        exact ⟨i, value, featureOrder_of_index hindex, rfl, rfl⟩
  · rintro ⟨i, value, hi, hvalue, rfl⟩
    have hindex := featureIndex_featureOrder i
    rw [hi] at hindex
    rw [hindex, hvalue]
    dsimp only [Option.map_some]
    rw [hset, hindex, Option.map_some, Option.getD_some]

/-- The weights after some entries of a tuning with different names. -/
theorem foldlM_overrideWeight {entries : List (String × Json)}
    (hnodup : (entries.map Prod.fst).Nodup) {weights weights' : Weights}
    (h : entries.foldlM (overrideWeight asF64) weights = .ok weights') (i : Fin 11) :
    weights'.values i =
      (givenWeight asF64 (some (.object entries)) i).getD (weights.values i) := by
  induction entries generalizing weights with
  | nil =>
    cases h
    rfl
  | cons entry entries ih =>
    rw [List.foldlM_cons, bind_eq_ok] at h
    obtain ⟨next, hnext, h⟩ := h
    obtain ⟨j, value, hj, hvalue, rfl⟩ := overrideWeight_eq_ok.mp hnext
    obtain ⟨hnew, hnodup⟩ := List.nodup_cons.mp hnodup
    have hget : ∀ key, (Json.object (entry :: entries)).get key =
        if entry.1 = key then some entry.2 else (Json.object entries).get key := fun _ => rfl
    rw [ih hnodup h, givenWeight, givenWeight, Option.bind_some, Option.bind_some, hget, ← hj]
    by_cases hij : i = j
    · subst hij
      -- the other entries are not for this feature
      have hnone : (Json.object entries).get (featureOrder i) = none :=
        Ordered.lookup_eq_none_iff.mpr (hj ▸ hnew)
      rw [if_pos rfl, hnone, Option.bind_none, Option.bind_some, hvalue, Option.getD_none,
        Option.getD_some]
      exact Function.update_self ..
    · rw [if_neg fun heq => hij (featureOrder_injective heq).symm]
      exact congrArg _ (Function.update_of_ne hij ..)

theorem nonneg_of_weightOf {value : Json} {weight : ℚ} (h : weightOf asF64 value = some weight) :
    0 ≤ weight := by
  cases value with
  | number text => exact of_decide_eq_true (Option.filter_eq_some_iff.mp h).2
  | _ => cases h

/-- What a tuning makes of the weights. -/
theorem overrideWeights_spec {weights weights' : Weights} {tuning : Option Json}
    (hdistinct : ∀ value ∈ tuning, CacheKey.Distinct value)
    (h : overrideWeights asF64 weights tuning = .ok weights') (i : Fin 11) :
    weights'.values i = (givenWeight asF64 tuning i).getD (weights.values i) := by
  cases tuning with
  | none =>
    cases h
    rfl
  | some value =>
    cases value with
    | object entries => exact foldlM_overrideWeight (hdistinct _ rfl).1 h i
    | _ => cases h

/-! ## Terms -/

/-- Lower case leaves white space as it is. -/
def Lowers (lower : String → String) : Prop := ∀ text, trim (lower text) = lower (trim text)

theorem trim_lower (hlower : Lowers lower) (text : String) :
    trim (lower (trim text)) = lower (trim text) := by
  rw [hlower, trim, trim, String.toList_ofList, trim_trim]

/-- The terms of a tuning can be read back. -/
theorem readable_parseTuningTerms (hlower : Lowers lower) {key : String} {value : Json}
    {terms default : Finset String} (h : parseTuningTerms lower key value = .ok terms) :
    TermsReadable ((sortedTerms terms).map Config.normalize).toFinset default := by
  cases value with
  | array values =>
    obtain ⟨cleaned, hcleaned, h⟩ := bind_eq_ok.mp h
    dsimp only at h
    split_ifs at h with hcard
    cases h
    have htrimmed : Ensures (values.mapM (cleanTerm lower key)) fun terms =>
        ∀ term ∈ terms, trim term = term := by
      refine .mapM fun value _ term hterm => ?_
      cases value with
      | string text =>
        cases hterm
        exact trim_lower hlower text
      | _ => cases hterm
    refine .inr ⟨?_, ?_⟩
    · simp only [List.mem_toFinset, List.mem_map, not_exists, not_and]
      intro term hterm hempty
      rw [sortedTerms, Finset.mem_sort, List.mem_toFinset, List.mem_filter, decide_eq_true_iff]
        at hterm
      rw [Config.normalize, htrimmed _ hcleaned term hterm.1, toAsciiLowercase_eq_empty] at hempty
      exact hterm.2 hempty
    · refine (List.toFinset_card_le _).trans ?_
      rw [List.length_map, sortedTerms, Finset.length_sort]
      exact not_lt.mp hcard
  | _ => cases h

/-- The terms of a tuning, or those that were there. -/
theorem overrideTerms_spec (hlower : Lowers lower) {key : String}
    {terms terms' default : Finset String} {lexicon : Json}
    (hnormal : ∀ term ∈ terms, Config.normalize term = term)
    (h : overrideTerms lower key terms lexicon = .ok terms') :
    (lexicon.get key = none → ((sortedTerms terms').map Config.normalize).toFinset = terms) ∧
      (TermsReadable terms default →
        TermsReadable ((sortedTerms terms').map Config.normalize).toFinset default) := by
  rw [overrideTerms] at h
  cases hget : lexicon.get key with
  | none =>
    rw [hget] at h
    cases h
    rw [sortedTerms_normal hnormal]
    exact ⟨fun _ => rfl, id⟩
  | some value =>
    rw [hget] at h
    exact ⟨fun hnone => (by cases hnone), fun _ => readable_parseTuningTerms hlower h⟩

/-- What a tuning makes of the terms. -/
theorem overrideLexicon_spec (hlower : Lowers lower) {lexicon : Lexicon} {tuning : Option Json}
    {terms : Finset String × Finset String} (h : overrideLexicon lower lexicon tuning = .ok terms) :
    (tuning.bind (Json.get "reasoning_terms") = none →
        ((sortedTerms terms.1).map Config.normalize).toFinset = lexicon.reasoning) ∧
      (tuning.bind (Json.get "constraint_terms") = none →
        ((sortedTerms terms.2).map Config.normalize).toFinset = lexicon.constraints) ∧
      (lexicon.Readable → (Lexicon.new (sortedTerms terms.1) (sortedTerms terms.2)).Readable) := by
  have hreasoning : ∀ term ∈ lexicon.reasoning, Config.normalize term = term :=
    fun term hterm => lexicon.normal term (Finset.mem_union_left _ hterm)
  have hconstraints : ∀ term ∈ lexicon.constraints, Config.normalize term = term :=
    fun term hterm => lexicon.normal term (Finset.mem_union_right _ hterm)
  cases tuning with
  | none =>
    cases h
    refine ⟨fun _ => sortedTerms_normal hreasoning, fun _ => sortedTerms_normal hconstraints, ?_⟩
    rw [Lexicon.new_sortedTerms]
    exact id
  | some value =>
    cases value with
    | object entries =>
      obtain ⟨reasoning, hfirst, h⟩ := bind_eq_ok.mp h
      obtain ⟨constraints, hsecond, h⟩ := bind_eq_ok.mp h
      cases h
      obtain ⟨hkept, hread⟩ := overrideTerms_spec hlower hreasoning hfirst
      obtain ⟨hkept', hread'⟩ := overrideTerms_spec hlower hconstraints hsecond
      exact ⟨hkept, hkept', fun hlexicon =>
        ⟨hread hlexicon.reasoning, hread' hlexicon.constraints⟩⟩
    | _ => cases h

/-! ## Configurations -/

/-- A configuration with the tuning of a request. -/
structure Tuned (asF64 : String → Option ℚ) (routing : RoutingConfig) (tuning : Option Json)
    (tuned : RoutingConfig) : Prop where
  tiers : tuned.tiers = routing.tiers
  classifier : tuned.classifier = routing.classifier
  weights : ∀ i, tuned.weights.values i =
    (givenWeight asF64 (tuning.bind (Json.get "weights")) i).getD (routing.weights.values i)
  reasoning : (tuning.bind (Json.get "lexicon")).bind (Json.get "reasoning_terms") = none →
    tuned.lexicon.reasoning = routing.lexicon.reasoning
  constraints : (tuning.bind (Json.get "lexicon")).bind (Json.get "constraint_terms") = none →
    tuned.lexicon.constraints = routing.lexicon.constraints
  accepted : routing.Accepted → tuned.Accepted

/-- **Every tuning** that is taken leaves the tiers and the classifier as they are, has exactly the
weights that it gives, and makes a configuration that can be read of one that can. -/
theorem tuning_exact (hlower : Lowers lower) {routing tuned : RoutingConfig} {tuning : Option Json}
    (hdistinct : ∀ value ∈ tuning, CacheKey.Distinct value)
    (h : applyScoringOverrides asF64 lower routing tuning = .ok tuned) :
    Tuned asF64 routing tuning tuned := by
  cases tuning with
  | none =>
    cases h
    exact ⟨rfl, rfl, fun _ => rfl, fun _ => rfl, fun _ => rfl, id⟩
  | some value =>
    cases value with
    | object entries =>
      obtain ⟨weights, hweights, h⟩ := bind_eq_ok.mp h
      obtain ⟨terms, hterms, h⟩ := bind_eq_ok.mp h
      cases h
      have hmembers : ∀ value ∈ (Json.object entries).get "weights", CacheKey.Distinct value :=
        fun value hvalue => CacheKey.DistinctMembers.of_mem (hdistinct _ rfl).2 _
          (Ordered.mem_of_lookup hvalue)
      have hvalues := overrideWeights_spec hmembers hweights
      obtain ⟨hreasoning, hconstraints, hreadable⟩ := overrideLexicon_spec hlower hterms
      refine ⟨rfl, rfl, hvalues, hreasoning, hconstraints, fun haccepted => ?_⟩
      refine ⟨fun i => ?_, hreadable haccepted.lexicon, haccepted.mode⟩
      -- a weight is given, and then it is not negative, or it is the one of the configuration
      change 0 ≤ weights.values i
      rw [hvalues]
      cases hgiven : givenWeight asF64 ((Json.object entries).get "weights") i with
      | none => exact haccepted.weights i
      | some weight =>
        obtain ⟨value, -, hvalue⟩ := Option.bind_eq_some_iff.mp hgiven
        exact nonneg_of_weightOf hvalue
    | _ => cases h

theorem lowers_toAsciiLowercase : Lowers toAsciiLowercase := by
  intro text
  have hcomp : isWhitespace ∘ Char.toLower = isWhitespace := funext isWhitespace_toLower
  have hreverse : ∀ l : List Char, (l.map Char.toLower).rdropWhile isWhitespace =
      (l.rdropWhile isWhitespace).map Char.toLower := by
    intro l
    rw [List.rdropWhile, List.rdropWhile, ← List.map_reverse, List.dropWhile_map, hcomp,
      List.map_reverse]
  simp only [toAsciiLowercase, trim, String.toList_ofList, List.dropWhile_map, hcomp, hreverse]

/-- A tuning with one weight. -/
def twiceWords : Json := .object [("weights", .object [("word_count", .number "2")])]

/-- A parser of one number. -/
def readTwo (text : String) : Option ℚ := if text = "2" then some 2 else none

theorem tuned_twiceWords : ∃ tuned,
    applyScoringOverrides readTwo toAsciiLowercase
        ⟨.default, binaryTiers (1 / 2), none, .default⟩ (some twiceWords) = .ok tuned ∧
      Tuned readTwo ⟨.default, binaryTiers (1 / 2), none, .default⟩ (some twiceWords) tuned := by
  have hdistinct : ∀ value ∈ some twiceWords, CacheKey.Distinct value := by
    rintro _ ⟨⟩
    exact ⟨by decide, ⟨by decide, trivial, trivial⟩, trivial⟩
  refine ⟨_, rfl, tuning_exact lowers_toAsciiLowercase hdistinct rfl⟩

end WayfinderRouter.Gateway.Tuning
