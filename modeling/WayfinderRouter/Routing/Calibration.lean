import Mathlib.Data.Finset.Max
import Mathlib.Data.List.Sort
import WayfinderRouter.Config.Number
import WayfinderRouter.Fallible
import WayfinderRouter.NearMinima

/-!
# Calibration of a threshold

A threshold between a cheap and an expensive arm is chosen for labelled scores: the one with the
least expected loss, which is the mean cost of the arms and a penalty for each text that needs the
expensive arm and does not get it. The candidates are zero, one and the scores.

Scores are finite doubles at their exact values, and costs are rationals.

## Main definitions

- `metricsAt` — what a threshold costs
- `calibrateMinCost` — the threshold that is chosen

## Main results

- `exists_candidate` — every threshold costs what a candidate costs
- `calibrate_optimal` — the threshold that is chosen costs about the least of all
-/

namespace WayfinderRouter.Routing

open Config NearMinima

/-- `OBJECTIVE_EPSILON`. -/
def objectiveEpsilon : ℚ := 1 / 10 ^ 12

structure ThresholdSample where
  score : ℚ
  requiresHigh : Bool
deriving DecidableEq

structure MinCostCalibration where
  threshold : ℚ
  accuracy : ℚ
  qualityRecovered : ℚ
  costSavings : ℚ
  expectedMoneyCost : ℚ
  expectedLoss : ℚ
deriving DecidableEq

inductive CalibrationError where
  | emptyDataset
  | missingLabelClass
  | invalidScore (index : ℕ) (score : ℚ)
  | invalidCost (name : String) (value : ℚ)
  | unorderedCosts
deriving DecidableEq

/-! ## Inputs -/

/-- `validate_cost`. -/
def validateCost (name : String) (value : ℚ) : Except CalibrationError Unit :=
  if value < 0 then .error (.invalidCost name value) else .ok ()

/-- One score. -/
def validateScore (entry : ThresholdSample × ℕ) : Except CalibrationError Unit :=
  if 0 ≤ entry.1.score ∧ entry.1.score ≤ 1 then .ok ()
  else .error (.invalidScore entry.2 entry.1.score)

/-- `validate_inputs`. -/
def validateInputs (samples : List ThresholdSample) (lowCost highCost qualityPenalty : ℚ) :
    Except CalibrationError Unit := do
  if samples.isEmpty then .error .emptyDataset
  samples.zipIdx.forM validateScore
  if !samples.any (fun sample => sample.requiresHigh) ||
      !samples.any (fun sample => !sample.requiresHigh) then
    .error .missingLabelClass
  validateCost "low_cost" lowCost
  validateCost "high_cost" highCost
  validateCost "quality_penalty" qualityPenalty
  if highCost ≤ lowCost then .error .unorderedCosts else .ok ()

/-! ## Metrics -/

section Metrics

variable (samples : List ThresholdSample)

/-- The sample is routed to the expensive arm. -/
def ThresholdSample.routedHigh (threshold : ℚ) (sample : ThresholdSample) : Bool :=
  threshold ≤ sample.score

/-- `metrics_at`. -/
def metricsAt (threshold lowCost highCost qualityPenalty : ℚ) : MinCostCalibration :=
  let total : ℚ := samples.length
  let highLabels : ℚ := samples.countP ThresholdSample.requiresHigh
  let correct : ℚ := samples.countP fun sample =>
    sample.routedHigh threshold = sample.requiresHigh
  let recovered : ℚ := samples.countP fun sample =>
    sample.requiresHigh && sample.routedHigh threshold
  let missedHigh : ℚ := samples.countP fun sample =>
    sample.requiresHigh && !sample.routedHigh threshold
  let money := (samples.map fun sample =>
    if sample.routedHigh threshold then highCost else lowCost).sum
  let expectedMoneyCost := money / total
  let missedHighRate := missedHigh / total
  { threshold
    accuracy := correct / total
    qualityRecovered := recovered / highLabels
    costSavings := (highCost - expectedMoneyCost) / highCost
    expectedMoneyCost
    expectedLoss := expectedMoneyCost + qualityPenalty * missedHighRate }

/-- The cuts that are tried, in order. -/
def candidates : List ℚ :=
  ((0 :: 1 :: samples.map fun sample => pythonRound sample.score 4).mergeSort (· ≤ ·)).dedup

/-- The expected loss of a threshold. -/
def lossAt (lowCost highCost qualityPenalty threshold : ℚ) : ℚ :=
  (metricsAt samples threshold lowCost highCost qualityPenalty).expectedLoss

/-- The cuts of about the least loss. -/
def bestCuts (lowCost highCost qualityPenalty : ℚ) : List ℚ :=
  (nearMinima objectiveEpsilon (lossAt samples lowCost highCost qualityPenalty)
    (candidates samples)).cuts

/-- `calibrate_min_cost`. -/
def calibrateMinCost (lowCost highCost qualityPenalty : ℚ) :
    Except CalibrationError MinCostCalibration := do
  validateInputs samples lowCost highCost qualityPenalty
  let cuts := bestCuts samples lowCost highCost qualityPenalty
  let chosen := cuts[cuts.length / 2]?.getD 0
  .ok (metricsAt samples chosen lowCost highCost qualityPenalty)

end Metrics

/-! ## Candidates -/

variable {samples : List ThresholdSample} {lowCost highCost qualityPenalty : ℚ}

/-- A score with at most four decimals. -/
def HasFourDecimals (score : ℚ) : Prop := ∃ n : ℕ, n ≤ 10 ^ 4 ∧ score = nearest (n / 10 ^ 4)

theorem HasFourDecimals.pythonRound {score : ℚ} (h : HasFourDecimals score) :
    Config.pythonRound score 4 = score := by
  obtain ⟨n, hn, rfl⟩ := h
  exact pythonRound_four (abs_of_nonneg (nearest_nonneg (by positivity))) hn

theorem mem_candidates (hscores : ∀ sample ∈ samples, HasFourDecimals sample.score) {c : ℚ} :
    c ∈ candidates samples ↔ c = 0 ∨ c = 1 ∨ ∃ sample ∈ samples, sample.score = c := by
  rw [candidates, List.mem_dedup, List.mem_mergeSort, List.mem_cons, List.mem_cons, List.mem_map]
  refine or_congr_right (or_congr_right (exists_congr fun sample => and_congr_right fun hmem => ?_))
  rw [(hscores sample hmem).pythonRound]

/-- The candidates ascend. -/
theorem candidates_pairwise (samples : List ThresholdSample) :
    (candidates samples).Pairwise (· < ·) := by
  have hsorted : (candidates samples).Pairwise (· ≤ ·) := by
    refine List.Pairwise.sublist (List.dedup_sublist _) ?_
    have hmerge := @List.pairwise_mergeSort _ (fun a b : ℚ => decide (a ≤ b))
      (fun a b c hab hbc => by
        rw [decide_eq_true_eq] at *
        exact hab.trans hbc)
      (fun a b => by
        rw [Bool.or_eq_true, decide_eq_true_eq, decide_eq_true_eq]
        exact le_total a b)
      (0 :: 1 :: samples.map fun sample => pythonRound sample.score 4)
    exact hmerge.imp fun h => of_decide_eq_true h
  have hnodup : (candidates samples).Nodup := List.nodup_dedup _
  exact (hsorted.and hnodup).imp fun h => lt_of_le_of_ne h.1 h.2

/-- Thresholds that route all samples alike cost the same. -/
theorem lossAt_congr {t t' : ℚ}
    (h : ∀ sample ∈ samples, t ≤ sample.score ↔ t' ≤ sample.score) :
    lossAt samples lowCost highCost qualityPenalty t =
      lossAt samples lowCost highCost qualityPenalty t' := by
  have hrouted : ∀ sample ∈ samples, sample.routedHigh t = sample.routedHigh t' :=
    fun sample hmem => decide_eq_decide.mpr (h sample hmem)
  have hmoney : (samples.map fun sample => if sample.routedHigh t then highCost else lowCost) =
      samples.map fun sample => if sample.routedHigh t' then highCost else lowCost :=
    List.map_congr_left fun sample hmem => by rw [hrouted sample hmem]
  have hmissed : (samples.countP fun sample => sample.requiresHigh && !sample.routedHigh t) =
      samples.countP fun sample => sample.requiresHigh && !sample.routedHigh t' :=
    List.countP_congr fun sample hmem => by rw [hrouted sample hmem]
  simp only [lossAt, metricsAt, hmoney, hmissed]

/-- Every threshold costs what a candidate costs. -/
theorem exists_candidate (hscores : ∀ sample ∈ samples, HasFourDecimals sample.score) {t : ℚ}
    (ht : t ≤ 1) :
    ∃ c ∈ candidates samples, ∀ sample ∈ samples, t ≤ sample.score ↔ c ≤ sample.score := by
  by_cases hroutes : ∃ sample ∈ samples, t ≤ sample.score
  · -- the least score that is routed to the expensive arm
    have hne : ((samples.filter fun sample => t ≤ sample.score).map
        ThresholdSample.score).toFinset.Nonempty := by
      obtain ⟨sample, hmem, hle⟩ := hroutes
      exact ⟨sample.score, by simpa using ⟨sample, ⟨hmem, hle⟩, rfl⟩⟩
    obtain ⟨c, hc, hmin⟩ := Finset.exists_min_image _ id hne
    simp only [List.mem_toFinset, List.mem_map, List.mem_filter, decide_eq_true_eq, id] at hc hmin
    obtain ⟨sample, ⟨hmem, hle⟩, rfl⟩ := hc
    refine ⟨sample.score, (mem_candidates hscores).mpr (.inr (.inr ⟨sample, hmem, rfl⟩)), ?_⟩
    intro sample' hmem'
    exact ⟨fun h => hmin _ ⟨sample', ⟨hmem', h⟩, rfl⟩, hle.trans⟩
  · refine ⟨1, (mem_candidates hscores).mpr (.inr (.inl rfl)), fun sample hmem => ?_⟩
    exact ⟨fun h => absurd ⟨sample, hmem, h⟩ hroutes,
      fun h => absurd ⟨sample, hmem, ht.trans h⟩ hroutes⟩

/-! ## The threshold that is chosen -/

theorem objectiveEpsilon_nonneg : 0 ≤ objectiveEpsilon := by
  unfold objectiveEpsilon
  positivity

theorem candidates_ne_nil (samples : List ThresholdSample) : candidates samples ≠ [] := by
  have hzero : (0 : ℚ) ∈ candidates samples := by
    rw [candidates, List.mem_dedup, List.mem_mergeSort]
    exact List.mem_cons_self
  exact List.ne_nil_of_mem hzero

/-- The threshold that is chosen lies in the middle of the best cuts. -/
theorem calibrateMinCost_eq_ok
    (h : validateInputs samples lowCost highCost qualityPenalty = .ok ()) :
    ∃ chosen ∈ bestCuts samples lowCost highCost qualityPenalty,
      (bestCuts samples lowCost highCost qualityPenalty)[
        (bestCuts samples lowCost highCost qualityPenalty).length / 2]? = some chosen ∧
      calibrateMinCost samples lowCost highCost qualityPenalty =
        .ok (metricsAt samples chosen lowCost highCost qualityPenalty) := by
  obtain ⟨_, hscan⟩ := NearMinimal.run objectiveEpsilon_nonneg
    (lossAt samples lowCost highCost qualityPenalty) (candidates_ne_nil samples)
  have hpos : 0 < (bestCuts samples lowCost highCost qualityPenalty).length :=
    List.length_pos_iff.mpr hscan.cuts
  have hmiddle := List.getElem?_eq_getElem (Nat.div_lt_self hpos one_lt_two)
  refine ⟨_, List.getElem_mem _, hmiddle, ?_⟩
  rw [calibrateMinCost, h]
  show Except.ok (metricsAt samples ((bestCuts samples lowCost highCost qualityPenalty)[
    (bestCuts samples lowCost highCost qualityPenalty).length / 2]?.getD 0) _ _ _) = _
  rw [hmiddle, Option.getD_some]

/-- The threshold that is chosen costs about the least of all thresholds between zero and one. It
is zero, one or a score. When candidates that do not cost the same differ enough, it is the upper
median of those that cost the least. -/
theorem calibrate_optimal (samples : List ThresholdSample) (lowCost highCost qualityPenalty : ℚ)
    (h : validateInputs samples lowCost highCost qualityPenalty = .ok ())
    (hscores : ∀ sample ∈ samples, HasFourDecimals sample.score) :
    ∃ result, calibrateMinCost samples lowCost highCost qualityPenalty = .ok result ∧
      result.expectedLoss = lossAt samples lowCost highCost qualityPenalty result.threshold ∧
      (∀ threshold, 0 ≤ threshold → threshold ≤ 1 →
        result.expectedLoss ≤
          lossAt samples lowCost highCost qualityPenalty threshold + 2 / 10 ^ 12) ∧
      (result.threshold = 0 ∨ result.threshold = 1 ∨
        ∃ sample ∈ samples, sample.score = result.threshold) ∧
      (candidates samples).Pairwise (· < ·) ∧
      (∀ c, c ∈ candidates samples ↔ c = 0 ∨ c = 1 ∨ ∃ sample ∈ samples, sample.score = c) ∧
      ((∀ c ∈ candidates samples, ∀ c' ∈ candidates samples,
          lossAt samples lowCost highCost qualityPenalty c =
            lossAt samples lowCost highCost qualityPenalty c' ∨
          2 / 10 ^ 12 < |lossAt samples lowCost highCost qualityPenalty c -
            lossAt samples lowCost highCost qualityPenalty c'|) →
        ∀ minimising, minimising = ((candidates samples).filter fun c =>
            ∀ c' ∈ candidates samples, lossAt samples lowCost highCost qualityPenalty c ≤
              lossAt samples lowCost highCost qualityPenalty c') →
          minimising[minimising.length / 2]? = some result.threshold) := by
  obtain ⟨chosen, hchosen, hmiddle, hresult⟩ := calibrateMinCost_eq_ok h
  obtain ⟨_, hscan⟩ := NearMinimal.run objectiveEpsilon_nonneg
    (lossAt samples lowCost highCost qualityPenalty) (candidates_ne_nil samples)
  have hdouble : 2 * objectiveEpsilon = 2 / 10 ^ 12 := by
    unfold objectiveEpsilon
    ring
  refine ⟨_, hresult, rfl, ?_, (mem_candidates hscores).mp (hscan.near chosen hchosen).1,
    candidates_pairwise samples, fun c => mem_candidates hscores, ?_⟩
  · intro threshold _ hone
    obtain ⟨c, hc, hroutes⟩ := exists_candidate hscores hone
    rw [lossAt_congr hroutes, ← hdouble]
    exact hscan.le_add hchosen hc
  · rintro hseparated _ rfl
    have hcuts := hscan.cuts_eq objectiveEpsilon_nonneg fun c hc c' hc' => by
      rw [hdouble]
      exact hseparated c hc c' hc'
    rw [← hcuts]
    exact hmiddle

/-- Two samples that a threshold separates. -/
def sampleScores : List ThresholdSample := [⟨0, false⟩, ⟨1, true⟩]

theorem calibrate_optimal_sample :
    ∃ result, calibrateMinCost sampleScores 1 2 3 = .ok result ∧
      ∀ threshold, 0 ≤ threshold → threshold ≤ 1 →
        result.expectedLoss ≤ lossAt sampleScores 1 2 3 threshold + 2 / 10 ^ 12 := by
  have hvalid : validateInputs sampleScores 1 2 3 = .ok () := by decide +kernel
  have hscores : ∀ sample ∈ sampleScores, HasFourDecimals sample.score := by
    intro sample hmem
    rcases List.mem_cons.mp hmem with rfl | hmem
    · exact ⟨0, by decide, by decide +kernel⟩
    · rw [List.mem_singleton.mp hmem]
      exact ⟨10 ^ 4, le_rfl, by decide +kernel⟩
  obtain ⟨result, hresult, -, hleast, -⟩ := calibrate_optimal sampleScores 1 2 3 hvalid hscores
  exact ⟨result, hresult, hleast⟩

end WayfinderRouter.Routing
