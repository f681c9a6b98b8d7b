import WayfinderRouter.Gateway.Destination
import WayfinderRouter.Routing.Score

/-!
# Proposals from user outcomes

The outcomes that users have reported for their requests can speak for a lower threshold of a
ladder of a local and a hosted tier. A report counts the outcomes by what can be learned from them
and proposes a threshold at the least score that a local answer has failed at.

Scores and thresholds are finite doubles at their exact values. The entries are those of a ring of
a few hundred, so counters are naturals.

## Main definitions

- `proposeLocalThreshold` — the report for a workspace
- `actionable` — an entry that observes the local tier
- `influences` — an entry that may speak for or against a proposal

## Main results

- `counted_run` — what the entries of a workspace are counted as
- `proposal_exact` — what a proposal does, and what it depends on
-/

namespace WayfinderRouter.Gateway

open Config Routing

/-- `UserOutcome`. -/
inductive UserOutcome where
  | success
  | correction
  | failure
deriving DecidableEq

/-- The fields of a recent entry that a report reads. -/
structure RecentEntry where
  model : String
  score : ℚ
  mode : String
  executionBoundary : Option ExecutionBoundary
  userOutcome : Option UserOutcome
  workspace : Option String
deriving DecidableEq

inductive BoundaryClass where
  | local
  | hosted
deriving DecidableEq

/-- `OutcomePolicyReport`. -/
structure OutcomePolicyReport where
  schemaVersion : String := "wf-local-outcome-policy-v1"
  workspaceId : String
  retention : String := "process-local-bounded-shared-ring"
  disposition : String := "unsupported-policy"
  reason : String :=
    "a review-only proposal requires a two-tier scored local/hosted policy"
  currentTiers : List Tier
  proposedTiers : List Tier := []
  currentThreshold : Option ℚ := none
  proposedThreshold : Option ℚ := none
  labelled : ℕ := 0
  actionableLocal : ℕ := 0
  localSuccesses : ℕ := 0
  localNegatives : ℕ := 0
  confoundedCrossBoundary : ℕ := 0
  hostedSelected : ℕ := 0
  nonScored : ℕ := 0
  unknownBoundary : ℕ := 0
  reclassifiedLocalSuccesses : ℕ := 0
  limitations : List String :=
    ["the proposal uses only explicit prompt-free labels on currently retained receipts",
      "cross-boundary fallback labels are confounded and never drive a threshold change",
      "the proposal can narrow local routing but cannot expand it",
      "the proposal never edits, activates, or reloads policy",
      "retained labels may be sparse or selection-biased"]
deriving DecidableEq

/-- `selected_boundary`. -/
def selectedBoundary (models : List ConfiguredModel) (name : String) : Option BoundaryClass :=
  (findModel models name).map fun model =>
    if model.tier = some .local then .local else .hosted

/-- `actual_boundary`. -/
def actualBoundary : ExecutionBoundary → BoundaryClass
  | .onDevice | .localNetwork => .local
  | .hosted => .hosted

/-! ## Counting -/

/-- The report as it is counted, with the scores of the two kinds of local entries. -/
structure OutcomeTally where
  report : OutcomePolicyReport
  negativeScores : List ℚ
  successfulScores : List ℚ

/-- An actionable entry, by its label. -/
def OutcomeTally.actionable (tally : OutcomeTally) (label : UserOutcome) (score : ℚ) :
    OutcomeTally :=
  let report := { tally.report with actionableLocal := tally.report.actionableLocal + 1 }
  match label with
  | .success =>
    { tally with
      report := { report with localSuccesses := report.localSuccesses + 1 }
      successfulScores := tally.successfulScores ++ [score] }
  | .correction | .failure =>
    { tally with
      report := { report with localNegatives := report.localNegatives + 1 }
      negativeScores := tally.negativeScores ++ [score] }

/-- One entry of the workspace. -/
def countEntry (models : List ConfiguredModel) (lower : Tier) (tally : OutcomeTally)
    (entry : RecentEntry) : OutcomeTally :=
  match entry.userOutcome with
  | none => tally
  | some label =>
    let report := { tally.report with labelled := tally.report.labelled + 1 }
    if entry.mode ≠ "scored" then
      { tally with report := { report with nonScored := report.nonScored + 1 } }
    else
      match selectedBoundary models entry.model, entry.executionBoundary.map actualBoundary with
      | some selected, some actual =>
        if selected ≠ actual then
          { tally with
            report := { report with
              confoundedCrossBoundary := report.confoundedCrossBoundary + 1 } }
        else if entry.model ≠ lower.model then
          { tally with report := { report with hostedSelected := report.hostedSelected + 1 } }
        else { tally with report }.actionable label entry.score
      | _, _ =>
        { tally with report := { report with unknownBoundary := report.unknownBoundary + 1 } }

/-- The entries of the workspace, counted. -/
def countEntries (report : OutcomePolicyReport) (models : List ConfiguredModel) (lower : Tier)
    (entries : List RecentEntry) : OutcomeTally :=
  (entries.filter fun entry => entry.workspace = some report.workspaceId).foldl
    (countEntry models lower) ⟨report, [], []⟩

/-! ## Proposing -/

/-- `{:.6}` of a double. -/
def fixedSix (value : ℚ) : String :=
  let scaled := (roundHalfEven (|value| * 10 ^ 6)).toNat
  let decimals := toString (scaled % 10 ^ 6)
  (if value < 0 then "-" else "") ++ toString (scaled / 10 ^ 6) ++ "." ++
    String.ofList (List.replicate (6 - decimals.length) '0') ++ decimals

/-- `f64::clamp`. -/
def clamp (value low high : ℚ) : ℚ :=
  if value < low then low else if high < value then high else value

/-- The report with a lower threshold. -/
def OutcomePolicyReport.propose (report : OutcomePolicyReport) (lower upper : Tier)
    (threshold : ℚ) (successfulScores : List ℚ) : OutcomePolicyReport :=
  let reclassified := successfulScores.countP fun score =>
    threshold ≤ score ∧ score < upper.minScore
  { report with
    reclassifiedLocalSuccesses := reclassified
    disposition := "propose-narrower-local-range"
    reason :=
      "lower the hosted threshold from " ++ fixedSix upper.minScore ++ " to " ++
        fixedSix threshold ++ " so every actionable negative local score escalates; " ++
        toString reclassified ++ " labelled local successes would also escalate"
    proposedThreshold := some threshold
    proposedTiers := [lower, { upper with minScore := threshold }] }

/-- What is made of the counted entries. -/
def OutcomeTally.evaluate (tally : OutcomeTally) (lower upper : Tier) : OutcomePolicyReport :=
  let report := tally.report
  if report.labelled = 0 then
    { report with
      disposition := "insufficient-evidence"
      reason := "no explicit outcome labels are retained for this workspace" }
  else if report.actionableLocal = 0 then
    { report with
      disposition := "no-actionable-local-evidence"
      reason := "retained labels do not directly observe a scored local selection" }
  else if tally.negativeScores.isEmpty then
    { report with
      disposition := "retain"
      reason := "no actionable local correction or failure justifies narrowing local routing" }
  else
    let threshold :=
      clamp (tally.negativeScores.foldl min upper.minScore) lower.minScore upper.minScore
    if upper.minScore ≤ threshold then
      { report with
        disposition := "retain"
        reason := "actionable negative labels do not fall below the current hosted threshold" }
    else report.propose lower upper (pythonRound threshold 6) tally.successfulScores

/-- The policy is a ladder of a local and a hosted tier. -/
def supported (models : List ConfiguredModel) (lower upper : Tier) : Bool :=
  lower.minScore = 0 ∧ lower.minScore < upper.minScore ∧
    selectedBoundary models lower.model = some .local ∧
    selectedBoundary models upper.model = some .hosted

/-- `propose_local_threshold`. -/
def proposeLocalThreshold (workspaceId : String) (routing : RoutingConfig)
    (models : List ConfiguredModel) (entries : List RecentEntry) : OutcomePolicyReport :=
  let report : OutcomePolicyReport := { workspaceId, currentTiers := routing.tiers }
  match routing.classifier, routing.tiers with
  | none, [lower, upper] =>
    if supported models lower upper then
      (countEntries { report with currentThreshold := some upper.minScore } models lower
        entries).evaluate lower upper
    else report
  | _, _ => report

/-! ## What the entries are counted as -/

/-- The entry has a label, its model was chosen by its score, and it was served on the side of the
boundary that was chosen. -/
def observes (models : List ConfiguredModel) (entry : RecentEntry) : Bool :=
  entry.userOutcome.isSome ∧ entry.mode = "scored" ∧
    (selectedBoundary models entry.model).isSome ∧
    selectedBoundary models entry.model = entry.executionBoundary.map actualBoundary

/-- The entry observes the tier. -/
def actionable (models : List ConfiguredModel) (lower : Tier) (entry : RecentEntry) : Bool :=
  observes models entry && entry.model = lower.model

/-- An actionable entry that has been corrected or has failed. -/
def negative (models : List ConfiguredModel) (lower : Tier) (entry : RecentEntry) : Bool :=
  actionable models lower entry && entry.userOutcome ≠ some .success

/-- An actionable entry that has succeeded. -/
def successful (models : List ConfiguredModel) (lower : Tier) (entry : RecentEntry) : Bool :=
  actionable models lower entry && entry.userOutcome = some .success

/-- The labels are those that are excluded, for one reason each, and the actionable ones. -/
def OutcomePolicyReport.Balanced (report : OutcomePolicyReport) : Prop :=
  report.labelled = report.nonScored + report.unknownBoundary + report.confoundedCrossBoundary +
    report.hostedSelected + report.actionableLocal

/-- The entries have been counted, and nothing has been proposed. -/
structure Counted (models : List ConfiguredModel) (lower : Tier) (report : OutcomePolicyReport)
    (entries : List RecentEntry) (tally : OutcomeTally) : Prop where
  negatives : tally.negativeScores =
    (entries.filter (negative models lower)).map RecentEntry.score
  successes : tally.successfulScores =
    (entries.filter (successful models lower)).map RecentEntry.score
  actionables : tally.report.actionableLocal = entries.countP (actionable models lower)
  balanced : tally.report.Balanced
  current : tally.report.currentThreshold = report.currentThreshold
  nothing : tally.report.proposedThreshold = none ∧ tally.report.proposedTiers = [] ∧
    tally.report.reclassifiedLocalSuccesses = 0

variable {models : List ConfiguredModel} {lower upper : Tier} {report : OutcomePolicyReport}
  {entries : List RecentEntry} {tally : OutcomeTally}

/-- An entry that is not actionable leaves the scores alone. -/
theorem Counted.skip (h : Counted models lower report entries tally) {entry : RecentEntry}
    (hnot : actionable models lower entry = false) {report' : OutcomePolicyReport}
    (hactionable : report'.actionableLocal = tally.report.actionableLocal)
    (hbalanced : report'.Balanced)
    (hcurrent : report'.currentThreshold = tally.report.currentThreshold)
    (hnothing : report'.proposedThreshold = tally.report.proposedThreshold ∧
      report'.proposedTiers = tally.report.proposedTiers ∧
      report'.reclassifiedLocalSuccesses = tally.report.reclassifiedLocalSuccesses) :
    Counted models lower report (entries ++ [entry]) { tally with report := report' } := by
  have hnegative : negative models lower entry = false := by rw [negative, hnot, Bool.false_and]
  have hsuccessful : successful models lower entry = false := by
    rw [successful, hnot, Bool.false_and]
  refine ⟨?_, ?_, ?_, hbalanced, hcurrent.trans h.current, ?_⟩
  · rw [List.filter_append, List.filter_cons_of_neg (by simp [hnegative]), List.filter_nil,
      List.append_nil]
    exact h.negatives
  · rw [List.filter_append, List.filter_cons_of_neg (by simp [hsuccessful]), List.filter_nil,
      List.append_nil]
    exact h.successes
  · rw [List.countP_append, List.countP_cons_of_neg (by simp [hnot]), List.countP_nil, add_zero]
    exact hactionable.trans h.actionables
  · obtain ⟨hthreshold, htiers, hcount⟩ := hnothing
    rw [hthreshold, htiers, hcount]
    exact h.nothing

/-- An actionable entry is counted under its label. -/
theorem Counted.add (h : Counted models lower report entries tally) {entry : RecentEntry}
    (hactionable : actionable models lower entry = true) {label : UserOutcome}
    (hlabel : entry.userOutcome = some label) :
    Counted models lower report (entries ++ [entry])
      (OutcomeTally.actionable
        { tally with report := { tally.report with labelled := tally.report.labelled + 1 } }
        label entry.score) := by
  have hbalanced := h.balanced
  unfold OutcomePolicyReport.Balanced at hbalanced
  have hcount : tally.report.actionableLocal + 1 =
      (entries ++ [entry]).countP (actionable models lower) := by
    rw [List.countP_append, List.countP_cons_of_pos hactionable, List.countP_nil, zero_add,
      h.actionables]
  have hnegative : negative models lower entry = decide (label ≠ .success) := by
    rw [negative, hactionable, Bool.true_and, hlabel]
    simp
  have hsuccessful : successful models lower entry = decide (label = .success) := by
    rw [successful, hactionable, Bool.true_and, hlabel]
    simp
  cases label <;>
    refine ⟨?_, ?_, hcount, ?_, h.current, h.nothing⟩ <;>
    simp only [OutcomeTally.actionable, OutcomePolicyReport.Balanced, List.filter_append,
      List.map_append, List.filter_cons, List.filter_nil, hnegative, hsuccessful, h.negatives,
      h.successes]
  all_goals first | omega | simp

/-- **Step rule**: one entry of the workspace. -/
theorem Counted.step (h : Counted models lower report entries tally) (entry : RecentEntry) :
    Counted models lower report (entries ++ [entry]) (countEntry models lower tally entry) := by
  have hbalanced := h.balanced
  unfold OutcomePolicyReport.Balanced at hbalanced
  unfold countEntry
  split
  · next hlabel =>
    have hnot : actionable models lower entry = false := by simp [actionable, observes, hlabel]
    exact h.skip hnot rfl h.balanced rfl ⟨rfl, rfl, rfl⟩
  · next label hlabel =>
    dsimp only
    by_cases hmode : entry.mode = "scored"
    · rw [if_neg (not_not.mpr hmode)]
      split
      · next selected actual hselected hactual =>
        by_cases hcross : selected = actual
        · rw [if_neg (not_not.mpr hcross)]
          by_cases hmodel : entry.model = lower.model
          · rw [if_neg (not_not.mpr hmodel)]
            refine h.add ?_ hlabel
            rw [actionable, decide_eq_true hmodel, Bool.and_true]
            simp [observes, hlabel, hmode, hselected, hactual, hcross]
          · rw [if_pos hmodel]
            have hnot : actionable models lower entry = false := by simp [actionable, hmodel]
            refine h.skip hnot rfl ?_ rfl ⟨rfl, rfl, rfl⟩
            simp only [OutcomePolicyReport.Balanced]
            omega
        · rw [if_pos hcross]
          have hnot : actionable models lower entry = false := by
            simp [actionable, observes, hselected, hactual, hcross]
          refine h.skip hnot rfl ?_ rfl ⟨rfl, rfl, rfl⟩
          simp only [OutcomePolicyReport.Balanced]
          omega
      · next hunknown =>
        -- one of the two boundaries is missing
        have hnot : actionable models lower entry = false := by
          rw [actionable, Bool.and_eq_false_iff]
          left
          simp only [observes, decide_eq_false_iff_not, not_and]
          rintro - - hsome heq
          obtain ⟨selected, hselected⟩ := Option.isSome_iff_exists.mp hsome
          exact hunknown selected selected hselected (heq.symm.trans hselected)
        refine h.skip hnot rfl ?_ rfl ⟨rfl, rfl, rfl⟩
        simp only [OutcomePolicyReport.Balanced]
        omega
    · rw [if_pos hmode]
      have hnot : actionable models lower entry = false := by simp [actionable, observes, hmode]
      refine h.skip hnot rfl ?_ rfl ⟨rfl, rfl, rfl⟩
      simp only [OutcomePolicyReport.Balanced]
      omega

/-- **Run rule**: the entries of a workspace. -/
theorem counted_run (hbalanced : report.Balanced) (hzero : report.actionableLocal = 0)
    (hnothing : report.proposedThreshold = none ∧ report.proposedTiers = [] ∧
      report.reclassifiedLocalSuccesses = 0) (entries : List RecentEntry) :
    Counted models lower report
      (entries.filter fun entry => entry.workspace = some report.workspaceId)
      (countEntries report models lower entries) := by
  unfold countEntries
  induction entries.filter fun entry => entry.workspace = some report.workspaceId
    using List.reverseRecOn with
  | nil => exact ⟨rfl, rfl, hzero, hbalanced, rfl, hnothing⟩
  | append_singleton entries entry ih =>
    rw [List.foldl_concat]
    exact ih.step entry

/-! ## What is proposed -/

/-- The proposal of a report. -/
structure Proposal where
  threshold : Option ℚ
  tiers : List Tier
  reclassified : ℕ
deriving DecidableEq

def OutcomePolicyReport.proposal (report : OutcomePolicyReport) : Proposal :=
  ⟨report.proposedThreshold, report.proposedTiers, report.reclassifiedLocalSuccesses⟩

/-- The least score of negative entries, between the two tiers. -/
def leastNegative (lower upper : Tier) (negatives : List ℚ) : ℚ :=
  clamp (negatives.foldl min upper.minScore) lower.minScore upper.minScore

/-- The proposal that the scores of actionable entries lead to. -/
def proposalOf (lower upper : Tier) (negatives successes : List ℚ) : Proposal :=
  let threshold := leastNegative lower upper negatives
  if upper.minScore ≤ threshold then ⟨none, [], 0⟩
  else
    ⟨some (pythonRound threshold 6), [lower, { upper with minScore := pythonRound threshold 6 }],
      successes.countP fun score => pythonRound threshold 6 ≤ score ∧ score < upper.minScore⟩

theorem leastNegative_nil (h : lower.minScore < upper.minScore) :
    leastNegative lower upper [] = upper.minScore := by
  rw [leastNegative, List.foldl_nil, clamp, if_neg h.not_gt, if_neg (lt_irrefl _)]

theorem Counted.negatives_eq_nil (h : Counted models lower report entries tally)
    (hzero : tally.report.actionableLocal = 0) : tally.negativeScores = [] := by
  have hnone := List.countP_eq_zero.mp (h.actionables.symm.trans hzero)
  rw [h.negatives, List.map_eq_nil_iff, List.filter_eq_nil_iff]
  intro entry hmem hnegative
  exact hnone entry hmem (Bool.and_eq_true_iff.mp hnegative).1

/-- What is proposed depends on the scores of the actionable entries only. -/
theorem Counted.proposal_evaluate (h : Counted models lower report entries tally)
    (htiers : lower.minScore < upper.minScore) :
    (tally.evaluate lower upper).proposal =
      proposalOf lower upper tally.negativeScores tally.successfulScores := by
  obtain ⟨hthreshold, hproposed, hcount⟩ := h.nothing
  have hnothing : tally.negativeScores = [] →
      proposalOf lower upper tally.negativeScores tally.successfulScores = ⟨none, [], 0⟩ := by
    intro hnil
    rw [hnil, proposalOf, leastNegative_nil htiers, if_pos le_rfl]
  have hbalanced := h.balanced
  unfold OutcomePolicyReport.Balanced at hbalanced
  unfold OutcomeTally.evaluate
  dsimp only
  split_ifs with hlabelled hactionable hnegative hretain
  · rw [hnothing (h.negatives_eq_nil (by omega))]
    simp only [OutcomePolicyReport.proposal, hthreshold, hproposed, hcount]
  · rw [hnothing (h.negatives_eq_nil hactionable)]
    simp only [OutcomePolicyReport.proposal, hthreshold, hproposed, hcount]
  · rw [hnothing (List.isEmpty_iff.mp hnegative)]
    simp only [OutcomePolicyReport.proposal, hthreshold, hproposed, hcount]
  · rw [proposalOf, if_pos (show upper.minScore ≤ leastNegative _ _ _ from hretain)]
    simp only [OutcomePolicyReport.proposal, hthreshold, hproposed, hcount]
  · rw [proposalOf, if_neg (show ¬upper.minScore ≤ leastNegative _ _ _ from hretain)]
    rfl

theorem Counted.balanced_evaluate (h : Counted models lower report entries tally) :
    (tally.evaluate lower upper).Balanced ∧
      (tally.evaluate lower upper).currentThreshold = report.currentThreshold := by
  have hcurrent := h.current
  have hbalanced := h.balanced
  unfold OutcomeTally.evaluate
  dsimp only
  split_ifs <;> exact ⟨hbalanced, hcurrent⟩

/-! ## Scores with two decimals -/

/-- A score is read from a number of hundredths. -/
def IsScore (score : ℚ) : Prop := ∃ n : ℕ, n ≤ 100 ∧ score = nearest (n / 100)

theorem IsScore.nonneg {score : ℚ} (h : IsScore score) : 0 ≤ score := by
  obtain ⟨n, -, rfl⟩ := h
  exact nearest_nonneg (by positivity)

theorem IsScore.pythonRound {score : ℚ} (h : IsScore score) :
    Config.pythonRound score 6 = score := by
  have hnonneg := h.nonneg
  obtain ⟨n, hn, rfl⟩ := h
  refine IsMillionths.pythonRound (n := n * 10 ^ 4) ?_ (by omega)
  have hscale : ((n * 10 ^ 4 : ℕ) : ℚ) / 10 ^ 6 = n / 100 := by
    push_cast
    ring
  rw [IsMillionths, abs_of_nonneg hnonneg, hscale]

theorem foldl_min_le (l : List ℚ) (x : ℚ) :
    l.foldl min x ≤ x ∧ ∀ y ∈ l, l.foldl min x ≤ y := by
  induction l generalizing x with
  | nil => exact ⟨le_rfl, fun _ h => absurd h List.not_mem_nil⟩
  | cons y l ih =>
    obtain ⟨hle, hall⟩ := ih (min x y)
    exact ⟨hle.trans (min_le_left _ _), List.forall_mem_cons.mpr
      ⟨hle.trans (min_le_right _ _), hall⟩⟩

theorem foldl_min_mem (l : List ℚ) (x : ℚ) : l.foldl min x = x ∨ l.foldl min x ∈ l := by
  induction l generalizing x with
  | nil => exact .inl rfl
  | cons y l ih =>
    rw [List.foldl_cons]
    rcases ih (min x y) with heq | hmem
    · rcases min_choice x y with hx | hy
      · exact .inl (heq.trans hx)
      · right
        rw [heq, hy]
        exact List.mem_cons_self
    · exact .inr (List.mem_cons_of_mem _ hmem)

/-- A threshold that is proposed is the least of the negative scores. -/
theorem leastNegative_eq {negatives : List ℚ} (hzero : lower.minScore = 0)
    (hscores : ∀ score ∈ negatives, IsScore score)
    (hlt : leastNegative lower upper negatives < upper.minScore) :
    leastNegative lower upper negatives ∈ negatives ∧
      ∀ score ∈ negatives, leastNegative lower upper negatives ≤ score := by
  obtain ⟨hle, hall⟩ := foldl_min_le negatives upper.minScore
  have hmem := foldl_min_mem negatives upper.minScore
  unfold leastNegative clamp at hlt ⊢
  rw [if_neg hle.not_gt] at hlt ⊢
  split_ifs at hlt ⊢ with hlow
  · -- scores are not below the lower tier
    rcases hmem with heq | hmem
    · rw [heq] at hlow
      exact absurd hlow hlt.not_gt
    · have hnonneg := (hscores _ hmem).nonneg
      rw [hzero] at hlow
      exact absurd hlow hnonneg.not_gt
  · exact ⟨hmem.resolve_left hlt.ne, hall⟩

/-- A ladder of two tiers. -/
theorem recommendTier_pair {score : ℚ} (h : lower.minScore ≤ score) :
    recommendTier score [lower, upper] =
      some (if upper.minScore ≤ score then upper.model else lower.model) := by
  show some (reach score lower.model [lower, upper]) = _
  rw [reach, if_pos h, reach, reach]

/-! ## Reports -/

/-- The entry is of the workspace and observes a tier. -/
def influences (workspaceId : String) (models : List ConfiguredModel) (entry : RecentEntry) :
    Bool :=
  entry.workspace = some workspaceId && observes models entry

theorem supported_iff : supported models lower upper = true ↔
    lower.minScore = 0 ∧ lower.minScore < upper.minScore ∧
      selectedBoundary models lower.model = some .local ∧
      selectedBoundary models upper.model = some .hosted := decide_eq_true_iff

/-- A supported policy is evaluated, and another one is not. -/
theorem proposeLocalThreshold_cases (workspaceId : String) (routing : RoutingConfig)
    (models : List ConfiguredModel) :
    (∃ lower upper, routing.tiers = [lower, upper] ∧ supported models lower upper = true ∧
      ∀ entries, proposeLocalThreshold workspaceId routing models entries =
        (countEntries
          { workspaceId, currentTiers := routing.tiers, currentThreshold := some upper.minScore }
          models lower entries).evaluate lower upper) ∨
      ∀ entries, proposeLocalThreshold workspaceId routing models entries =
        { workspaceId, currentTiers := routing.tiers } := by
  unfold proposeLocalThreshold
  dsimp only
  split
  · next lower upper _ htiers =>
    by_cases hsupported : supported models lower upper = true
    · exact .inl ⟨lower, upper, htiers, hsupported, fun entries => if_pos hsupported⟩
    · exact .inr fun entries => if_neg hsupported
  · exact .inr fun entries => rfl

/-- The actionable entries of a kind are among the entries that influence. -/
theorem filter_filter_influences {workspaceId : String} {p : RecentEntry → Bool}
    (hp : ∀ entry, p entry = true → actionable models lower entry = true) :
    (entries.filter fun entry => entry.workspace = some workspaceId).filter p =
      ((entries.filter (influences workspaceId models)).filter p) := by
  rw [List.filter_filter, List.filter_filter]
  apply List.filter_congr
  intro entry _
  cases hentry : p entry with
  | false => rfl
  | true =>
    have hobserves := (Bool.and_eq_true_iff.mp (hp entry hentry)).1
    rw [influences, hobserves, Bool.and_true]

theorem actionable_of_negative {entry : RecentEntry}
    (h : negative models lower entry = true) : actionable models lower entry = true :=
  (Bool.and_eq_true_iff.mp h).1

theorem actionable_of_successful {entry : RecentEntry}
    (h : successful models lower entry = true) : actionable models lower entry = true :=
  (Bool.and_eq_true_iff.mp h).1

/-- A score that the tiers keep local and the lower threshold escalates. -/
theorem reclassified_iff {score threshold : ℚ} (hmodels : lower.model ≠ upper.model)
    (hzero : lower.minScore ≤ score) :
    threshold ≤ score ∧ score < upper.minScore ↔
      recommendTier score [lower, upper] = some lower.model ∧
        recommendTier score [lower, { upper with minScore := threshold }] = some upper.model := by
  rw [recommendTier_pair hzero, recommendTier_pair hzero, Option.some.injEq, Option.some.injEq,
    and_comm]
  refine and_congr ?_ ?_
  · rw [ite_eq_right_iff, not_le.symm]
    exact ⟨fun h hle => absurd hle h, fun h hle => hmodels (h hle).symm⟩
  · rw [ite_eq_left_iff]
    exact ⟨fun h hlt => absurd h hlt, fun h => by_contra fun hlt => hmodels (h hlt)⟩

/-- The scores of the entries of a workspace that meet a test. -/
def scoresOf (workspaceId : String) (p : RecentEntry → Bool) (entries : List RecentEntry) :
    List ℚ :=
  ((entries.filter fun entry => entry.workspace = some workspaceId).filter p).map RecentEntry.score

theorem mem_scoresOf {workspaceId : String} {p : RecentEntry → Bool} {score : ℚ} :
    score ∈ scoresOf workspaceId p entries ↔
      ∃ entry ∈ entries, entry.workspace = some workspaceId ∧ p entry = true ∧
        entry.score = score := by
  simp only [scoresOf, List.mem_map, List.mem_filter, decide_eq_true_eq]
  constructor
  · rintro ⟨entry, ⟨⟨hmem, hworkspace⟩, hp⟩, rfl⟩
    exact ⟨entry, hmem, hworkspace, hp, rfl⟩
  · rintro ⟨entry, hmem, hworkspace, hp, rfl⟩
    exact ⟨entry, ⟨⟨hmem, hworkspace⟩, hp⟩, rfl⟩

/-- A proposed threshold is the least of the negative scores, below the current one. -/
theorem proposalOf_threshold {negatives successes : List ℚ} {threshold : ℚ}
    (hzero : lower.minScore = 0) (hscores : ∀ score ∈ negatives, IsScore score)
    (h : (proposalOf lower upper negatives successes).threshold = some threshold) :
    0 ≤ threshold ∧ threshold < upper.minScore ∧
      (∀ score ∈ negatives, threshold ≤ score) ∧
      proposalOf lower upper negatives successes =
        ⟨some threshold, [lower, { upper with minScore := threshold }],
          successes.countP fun score => threshold ≤ score ∧ score < upper.minScore⟩ := by
  unfold proposalOf at h ⊢
  dsimp only at h ⊢
  split_ifs at h ⊢ with hretain
  have hlt := not_le.mp hretain
  obtain ⟨hmem, hall⟩ := leastNegative_eq hzero hscores hlt
  have hscore := hscores _ hmem
  rw [hscore.pythonRound] at h ⊢
  obtain rfl := Option.some.inj h
  exact ⟨hscore.nonneg, hlt, hall, rfl⟩

/-- What a report proposes and counts. A threshold that is proposed is lower than the current one.
With it every negative entry goes to the hosted tier, and the successes that go there besides are
counted. Only entries of the workspace that observe a tier have a say. The labels are those that
are excluded and the actionable ones. -/
theorem proposal_exact (workspaceId : String) (routing : RoutingConfig)
    (models : List ConfiguredModel) (entries : List RecentEntry)
    (hscores : ∀ entry ∈ entries, IsScore entry.score) :
    let report := proposeLocalThreshold workspaceId routing models entries
    (∀ threshold, report.proposedThreshold = some threshold →
      ∃ lower upper, routing.tiers = [lower, upper] ∧
        selectedBoundary models lower.model = some .local ∧
        selectedBoundary models upper.model = some .hosted ∧
        report.currentThreshold = some upper.minScore ∧
        0 ≤ threshold ∧ threshold < upper.minScore ∧
        report.proposedTiers = [lower, { upper with minScore := threshold }] ∧
        (∀ entry ∈ entries, entry.workspace = some workspaceId →
          negative models lower entry = true →
            recommendTier entry.score report.proposedTiers = some upper.model) ∧
        report.reclassifiedLocalSuccesses = entries.countP fun entry =>
          entry.workspace = some workspaceId ∧ successful models lower entry = true ∧
            recommendTier entry.score routing.tiers = some lower.model ∧
            recommendTier entry.score report.proposedTiers = some upper.model) ∧
      (∀ entries' : List RecentEntry,
        entries'.filter (influences workspaceId models) =
          entries.filter (influences workspaceId models) →
        (proposeLocalThreshold workspaceId routing models entries').proposal =
          report.proposal) ∧
      report.Balanced := by
  intro report
  rcases proposeLocalThreshold_cases workspaceId routing models with
    ⟨lower, upper, htiers, hsupported, heq⟩ | heq
  · obtain ⟨hzero, hlt, hlocal, hhosted⟩ := supported_iff.mp hsupported
    have hmodels : lower.model ≠ upper.model := by
      intro h
      rw [h, hhosted] at hlocal
      cases hlocal
    have hcounted := fun entries => @counted_run models lower
      { workspaceId, currentTiers := routing.tiers, currentThreshold := some upper.minScore }
      rfl rfl ⟨rfl, rfl, rfl⟩ entries
    have hproposal : ∀ entries,
        (proposeLocalThreshold workspaceId routing models entries).proposal = proposalOf lower upper
          (((entries.filter (influences workspaceId models)).filter (negative models lower)).map
            RecentEntry.score)
          (((entries.filter (influences workspaceId models)).filter (successful models lower)).map
            RecentEntry.score) := by
      intro entries
      rw [heq, (hcounted entries).proposal_evaluate hlt, (hcounted entries).negatives,
        (hcounted entries).successes, filter_filter_influences fun _ => actionable_of_negative,
        filter_filter_influences fun _ => actionable_of_successful]
    refine ⟨?_, fun entries' hsame => ?_, ?_⟩
    · intro threshold hthreshold
      have hnegatives : ∀ score ∈ scoresOf workspaceId (negative models lower) entries,
          IsScore score := by
        intro score hmem
        obtain ⟨entry, hentry, -, -, rfl⟩ := mem_scoresOf.mp hmem
        exact hscores entry hentry
      have hreport : report.proposal =
          proposalOf lower upper (scoresOf workspaceId (negative models lower) entries)
            (scoresOf workspaceId (successful models lower) entries) := by
        show (proposeLocalThreshold workspaceId routing models entries).proposal = _
        rw [heq, (hcounted entries).proposal_evaluate hlt, (hcounted entries).negatives,
          (hcounted entries).successes]
        rfl
      obtain ⟨hnonneg, hlower, hall, hproposed⟩ := proposalOf_threshold hzero hnegatives
        ((congrArg Proposal.threshold hreport).symm.trans hthreshold)
      have hproposedTiers : report.proposedTiers =
          [lower, { upper with minScore := threshold }] :=
        congrArg Proposal.tiers (hreport.trans hproposed)
      have hreclassified : report.reclassifiedLocalSuccesses = _ :=
        congrArg Proposal.reclassified (hreport.trans hproposed)
      refine ⟨lower, upper, htiers, hlocal, hhosted, ?_, hnonneg, hlower, hproposedTiers, ?_, ?_⟩
      · show (proposeLocalThreshold workspaceId routing models entries).currentThreshold = _
        rw [heq]
        exact (hcounted entries).balanced_evaluate.2
      · intro entry hentry hworkspace hnegative
        have hscore := (hscores entry hentry).nonneg
        have hle := hall _ (mem_scoresOf.mpr ⟨entry, hentry, hworkspace, hnegative, rfl⟩)
        rw [hproposedTiers, recommendTier_pair (hzero.trans_le hscore), if_pos hle]
      · rw [hreclassified, hproposedTiers, htiers, scoresOf, List.countP_map, List.countP_filter,
          List.countP_filter]
        apply List.countP_congr
        intro entry hentry
        have hscore := (hscores entry hentry).nonneg
        simp only [Function.comp, Bool.and_eq_true, decide_eq_true_eq]
        rw [reclassified_iff hmodels (hzero.trans_le hscore)]
        tauto
    · show _ = (proposeLocalThreshold workspaceId routing models entries).proposal
      rw [hproposal, hproposal, hsame]
    · show (proposeLocalThreshold workspaceId routing models entries).Balanced
      rw [heq]
      exact (hcounted entries).balanced_evaluate.1
  · have hreport : report = { workspaceId, currentTiers := routing.tiers } := heq entries
    refine ⟨?_, fun entries' _ => ?_, ?_⟩
    · intro threshold hthreshold
      rw [hreport] at hthreshold
      cases hthreshold
    · rw [heq, hreport]
    · rw [hreport]
      rfl

/-- A model of a tier. -/
def sampleTierModel (name : String) (tier : Option ProviderTier) : ConfiguredModel where
  name := name
  endpoint := "http://127.0.0.1:11434/v1"
  providerModel := name
  provider := .openAiCompatible
  tier := tier
  apiKeyEnv := none
  keyReady := true
  baseKeyReady := true
  costPer1k := none
  fallbacks := []
  contextWindow := none
  deployments := []
  deploymentSelection := ⟨.weighted, none, 0⟩
  deploymentId := none

/-- A local answer with a score of `0.4` that had to be corrected. -/
def sampleCorrection : RecentEntry :=
  ⟨"local", nearest (40 / 100), "scored", some .onDevice, some .correction, some "project-a"⟩

def binaryRouting : RoutingConfig :=
  ⟨Weights.default, binaryTiers (1 / 2), none, Lexicon.new [] []⟩

theorem proposal_exact_sample :
    (proposeLocalThreshold "project-a" binaryRouting
      [sampleTierModel "local" (some .local), sampleTierModel "cloud" none]
      [sampleCorrection]).proposedThreshold = some (nearest (40 / 100)) ∧
    (proposeLocalThreshold "project-a" binaryRouting
      [sampleTierModel "local" (some .local), sampleTierModel "cloud" none]
      [sampleCorrection]).Balanced := by
  refine ⟨by decide +kernel, (proposal_exact "project-a" binaryRouting _ [sampleCorrection] ?_).2.2⟩
  intro entry hentry
  rw [List.mem_singleton.mp hentry]
  exact ⟨40, by decide, rfl⟩

end WayfinderRouter.Gateway
