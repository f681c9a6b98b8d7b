import Mathlib.Algebra.BigOperators.Field
import Mathlib.Algebra.BigOperators.Fin
import Mathlib.Algebra.Order.BigOperators.Group.Finset
import WayfinderRouter.Config.RoutingRoundTrip

/-!
# Complexity scores

A score is the weighted mean of the saturated features of a text, rounded to two decimals. It
selects the last tier of a ladder whose boundary it has reached. A classifier selects a model from
the same features.

Sums and products are those of the exact values. Features are counted by regular expressions: the
counting is a parameter.

## Main definitions

- `scalarScore` — the score of the features of a text
- `recommendTier` — the model of a score
- `scoreComplexity` — the decision for a text
- `LastReached` — the last tier that a score has reached

## Main results

- `scalarScore_mono` — more of a feature never lowers the score
- `recommendTier_eq_some` — the model is that of the last tier reached
- `routing_monotone` — more complex texts are never given a lower tier
-/

namespace WayfinderRouter.Routing

open Config

/-- `CoreError`. -/
inductive CoreError where
  | invalidPattern (message : String)
  | missingTier
  | invalidClassifier (message : String)
  | invalidContract (message : String)
deriving DecidableEq

/-! ## Features -/

/-- The counts of the features, in the order of `featureOrder`. -/
@[ext] structure Features where
  values : Fin 11 → ℕ
deriving DecidableEq

/-- `SATURATION`. -/
def saturation : Fin 11 → ℚ := ![400, 8, 4, 15, 10, 4, 12, 2, 6, 3, 3]

/-- `normalized_features`. -/
def normalizedFeatures (features : Features) (i : Fin 11) : ℚ :=
  min (features.values i / saturation i) 1

/-- The weights, summed. -/
def totalWeight (weights : Weights) : ℚ := ∑ i, weights.values i

/-- The normalized features, weighted and summed. -/
def weighted (features : Features) (weights : Weights) : ℚ :=
  ∑ i, weights.values i * normalizedFeatures features i

/-- `scalar_score`. -/
def scalarScore (features : Features) (weights : Weights) : ℚ :=
  if totalWeight weights = 0 then 0
  else pythonRound (weighted features weights / totalWeight weights) 2

/-! ## Recommendations -/

/-- The loop of `recommend_tier`. -/
def reach (score : ℚ) (chosen : String) : List Tier → String
  | [] => chosen
  | tier :: tiers => if tier.minScore ≤ score then reach score tier.model tiers else chosen

/-- `recommend_tier`. -/
def recommendTier (score : ℚ) (tiers : List Tier) : Option String :=
  tiers.head?.map fun first => reach score first.model tiers

/-- `ClassifierModel::logits`. -/
def logits (classifier : ClassifierModel) (features : Features) : List ℚ :=
  classifier.intercepts.mapIdx fun j intercept =>
    intercept + ∑ i, (classifier.weights i).getD j 0 * normalizedFeatures features i

/-- The first index of the greatest value. -/
def bestIndex : List ℚ → Option ℕ
  | [] => none
  | first :: rest =>
    some ((rest.zipIdx 1).foldl (fun best entry =>
      if best.2 < entry.1 then (entry.2, entry.1) else best) (0, first)).1

/-- `ClassifierModel::predict`. -/
def predict (classifier : ClassifierModel) (features : Features) : Option String :=
  (bestIndex (logits classifier features)).bind fun i => classifier.models[i]?

inductive RoutingMode where
  | tiered
  | classifier
deriving DecidableEq

/-- `ComplexityScore`. -/
structure ComplexityScore where
  schemaVersion : String
  score : ℚ
  recommendation : String
  mode : RoutingMode
  features : Features
  tiers : Option (List Tier)
  models : Option (List String)
deriving DecidableEq

section

variable (extractFeatures : String → Lexicon → Except CoreError Features)

/-- `score_complexity`. -/
def scoreComplexity (text : String) (config : RoutingConfig) :
    Except CoreError ComplexityScore := do
  let features ← extractFeatures text config.lexicon
  let score := scalarScore features config.weights
  match config.classifier with
  | some classifier =>
    match predict classifier features with
    | none => .error (.invalidClassifier "classifier has no prediction")
    | some recommendation =>
      .ok
        { schemaVersion := "3", score, recommendation, mode := .classifier, features
          tiers := none, models := some classifier.models }
  | none =>
    match recommendTier score config.tiers with
    | none => .error .missingTier
    | some recommendation =>
      .ok
        { schemaVersion := "3", score, recommendation, mode := .tiered, features
          tiers := some config.tiers, models := none }

end

/-! ## Scores are bounded and monotone -/

variable {features features' : Features} {weights : Weights}

theorem saturation_pos (i : Fin 11) : 0 < saturation i := by
  revert i
  decide

theorem normalizedFeatures_nonneg (features : Features) (i : Fin 11) :
    0 ≤ normalizedFeatures features i :=
  le_min (div_nonneg (Nat.cast_nonneg _) (saturation_pos i).le) zero_le_one

theorem normalizedFeatures_le_one (features : Features) (i : Fin 11) :
    normalizedFeatures features i ≤ 1 := min_le_right _ _

theorem normalizedFeatures_mono (h : ∀ i, features.values i ≤ features'.values i) (i : Fin 11) :
    normalizedFeatures features i ≤ normalizedFeatures features' i := by
  have hcast : (features.values i : ℚ) ≤ features'.values i := by exact_mod_cast h i
  exact min_le_min_right _ ((div_le_div_iff_of_pos_right (saturation_pos i)).mpr hcast)

theorem weighted_nonneg (hweights : ∀ i, 0 ≤ weights.values i) (features : Features) :
    0 ≤ weighted features weights :=
  Finset.sum_nonneg fun i _ => mul_nonneg (hweights i) (normalizedFeatures_nonneg features i)

theorem weighted_mono (hweights : ∀ i, 0 ≤ weights.values i)
    (h : ∀ i, features.values i ≤ features'.values i) :
    weighted features weights ≤ weighted features' weights :=
  Finset.sum_le_sum fun i _ =>
    mul_le_mul_of_nonneg_left (normalizedFeatures_mono h i) (hweights i)

theorem weighted_le_totalWeight (hweights : ∀ i, 0 ≤ weights.values i) (features : Features) :
    weighted features weights ≤ totalWeight weights :=
  Finset.sum_le_sum fun i _ =>
    mul_le_of_le_one_right (hweights i) (normalizedFeatures_le_one features i)

/-- The mean lies between zero and one. -/
theorem weighted_div_le_one (hweights : ∀ i, 0 ≤ weights.values i) (features : Features) :
    weighted features weights / totalWeight weights ≤ 1 :=
  div_le_one_of_le₀ (weighted_le_totalWeight hweights features)
    (Finset.sum_nonneg fun i _ => hweights i)

theorem weighted_div_nonneg (hweights : ∀ i, 0 ≤ weights.values i) (features : Features) :
    0 ≤ weighted features weights / totalWeight weights :=
  div_nonneg (weighted_nonneg hweights features) (Finset.sum_nonneg fun i _ => hweights i)

theorem scalarScore_nonneg (hweights : ∀ i, 0 ≤ weights.values i) (features : Features) :
    0 ≤ scalarScore features weights := by
  unfold scalarScore
  split_ifs
  · exact le_rfl
  · exact pythonRound_nonneg (weighted_div_nonneg hweights features)
      (weighted_div_le_one hweights features)

theorem scalarScore_le_one (hweights : ∀ i, 0 ≤ weights.values i) (features : Features) :
    scalarScore features weights ≤ 1 := by
  unfold scalarScore
  split_ifs
  · exact zero_le_one
  · exact pythonRound_le_one (weighted_div_nonneg hweights features)
      (weighted_div_le_one hweights features)

/-- More of a feature never lowers the score. -/
theorem scalarScore_mono (hweights : ∀ i, 0 ≤ weights.values i)
    (h : ∀ i, features.values i ≤ features'.values i) :
    scalarScore features weights ≤ scalarScore features' weights := by
  unfold scalarScore
  split_ifs
  · exact le_rfl
  · refine pythonRound_mono (weighted_div_nonneg hweights features) ?_
      (weighted_div_le_one hweights features')
    exact div_le_div_of_nonneg_right (weighted_mono hweights h)
      (Finset.sum_nonneg fun i _ => hweights i)

/-! ## Tiers -/

/-- The tier is the last one that the score has reached. -/
structure LastReached (score : ℚ) (tiers : List Tier) (i : Fin tiers.length) : Prop where
  reached : tiers[i].minScore ≤ score
  last : ∀ j, i < j → score < tiers[j].minScore

/-- A greater score reaches at least as far. -/
theorem LastReached.mono {score score' : ℚ} {tiers : List Tier} {i j : Fin tiers.length}
    (hi : LastReached score tiers i) (hj : LastReached score' tiers j) (h : score ≤ score') :
    i ≤ j := by
  by_contra hlt
  exact (hj.last i (not_le.mp hlt)).not_ge (hi.reached.trans h)

theorem pairwise_of_ascending {tiers : List Tier} (h : ascending tiers = true) :
    tiers.Pairwise fun tier tier' => tier.minScore < tier'.minScore := by
  have hchain : tiers.IsChain fun tier tier' => tier.minScore < tier'.minScore := by
    induction tiers with
    | nil => exact .nil
    | cons tier tiers ih =>
      cases tiers with
      | nil => exact .singleton tier
      | cons second tiers =>
        obtain ⟨hlt, hrest⟩ := Bool.and_eq_true_iff.mp h
        exact .cons_cons (of_decide_eq_true hlt) (ih hrest)
  exact List.isChain_iff_pairwise.mp hchain

/-- The scan stops behind the last tier that is reached. -/
theorem reach_eq {score : ℚ} {tier : Tier} {tiers : List Tier} (chosen : String)
    (hascending : (tier :: tiers).Pairwise fun tier tier' => tier.minScore < tier'.minScore)
    (hreached : tier.minScore ≤ score) :
    ∃ i : Fin (tier :: tiers).length, LastReached score (tier :: tiers) i ∧
      reach score chosen (tier :: tiers) = (tier :: tiers)[i].model := by
  induction tiers generalizing tier chosen with
  | nil =>
    refine ⟨0, ⟨hreached, fun j hj => ?_⟩, if_pos hreached⟩
    have hlt : j.val < 1 := j.isLt
    exact absurd (Fin.lt_def.mp hj) (by omega)
  | cons second tiers ih =>
    obtain ⟨hfirst, hrest⟩ := List.pairwise_cons.mp hascending
    have hreach : reach score chosen (tier :: second :: tiers) =
        reach score tier.model (second :: tiers) := if_pos hreached
    by_cases hsecond : second.minScore ≤ score
    · obtain ⟨i, hi, hmodel⟩ := ih tier.model hrest hsecond
      refine ⟨i.succ, ⟨hi.reached, fun j hj => ?_⟩, hreach.trans hmodel⟩
      obtain ⟨k, rfl⟩ := Fin.exists_succ_eq.mpr (Fin.ne_zero_of_lt hj)
      exact hi.last k (Fin.succ_lt_succ_iff.mp hj)
    · refine ⟨0, ⟨hreached, fun j hj => ?_⟩, hreach.trans (if_neg hsecond)⟩
      -- the later tiers start above the second one
      obtain ⟨k, rfl⟩ := Fin.exists_succ_eq.mpr (Fin.ne_zero_of_lt hj)
      rcases List.mem_cons.mp (List.getElem_mem k.isLt) with heq | hmem
      · show score < (second :: tiers)[k.val].minScore
        rw [heq]
        exact not_le.mp hsecond
      · exact (not_le.mp hsecond).trans ((List.pairwise_cons.mp hrest).1 _ hmem)

/-- The model of a score is that of the last tier it has reached. -/
theorem recommendTier_eq_some {score : ℚ} {tiers : List Tier} (hladder : Ladder tiers)
    (hscore : 0 ≤ score) :
    ∃ i, LastReached score tiers i ∧ recommendTier score tiers = some tiers[i].model := by
  cases tiers with
  | nil => cases hladder.first
  | cons tier tiers =>
    have hfirst : tier.minScore = 0 := Option.some.inj hladder.first
    obtain ⟨i, hi, hmodel⟩ := reach_eq tier.model (pairwise_of_ascending hladder.ascending)
      (hfirst.trans_le hscore)
    exact ⟨i, hi, congrArg some hmodel⟩

/-- Scores lie between zero and one and grow with the features. A ladder that was read gives each
score the model of the last tier it has reached, and a text with more of the features is never
given a tier below. -/
theorem routing_monotone (weights : Weights) (hweights : ∀ i, 0 ≤ weights.values i)
    (first second : Features) (h : ∀ i, first.values i ≤ second.values i) (value : Toml.Value)
    (where_ : String) (order : TierOrderPolicy) (tiers : List Tier)
    (htiers : parseTiers value where_ order = .ok tiers) :
    0 ≤ scalarScore first weights ∧
      scalarScore first weights ≤ scalarScore second weights ∧
      scalarScore second weights ≤ 1 ∧
      (∀ score, 0 ≤ score → ∃ i, LastReached score tiers i ∧
        recommendTier score tiers = some tiers[i].model) ∧
      ∀ i j, LastReached (scalarScore first weights) tiers i →
        LastReached (scalarScore second weights) tiers j → i ≤ j :=
  have hmono := scalarScore_mono hweights h
  ⟨scalarScore_nonneg hweights first, hmono, scalarScore_le_one hweights second,
    fun _ hscore => recommendTier_eq_some (of_parseTiers htiers) hscore,
    fun _ _ hi hj => hi.mono hj hmono⟩

/-- A ladder of two tiers. -/
def sampleLadder : Toml.Value :=
  .array [.table [("min_score", .float (.finite 0)), ("model", .string "local")],
    .table [("min_score", .float (.finite (1 / 2))), ("model", .string "cloud")]]

theorem routing_monotone_sample :
    (∀ i, (0 : ℚ) ≤ Weights.default.values i) ∧
      parseTiers sampleLadder "here" .strictInput =
        .ok [⟨0, "local", none⟩, ⟨1 / 2, "cloud", none⟩] ∧
      scalarScore ⟨fun _ => 1⟩ Weights.default ≤ scalarScore ⟨fun _ => 2⟩ Weights.default :=
  have hweights : ∀ i, (0 : ℚ) ≤ Weights.default.values i := by decide +kernel
  have htiers : parseTiers sampleLadder "here" .strictInput =
    .ok [⟨0, "local", none⟩, ⟨1 / 2, "cloud", none⟩] := by decide +kernel
  ⟨hweights, htiers, (routing_monotone Weights.default hweights ⟨fun _ => 1⟩ ⟨fun _ => 2⟩
    (fun _ => Nat.le_succ 1) sampleLadder "here" .strictInput _ htiers).2.1⟩

end WayfinderRouter.Routing
