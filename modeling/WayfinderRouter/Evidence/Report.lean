import Mathlib.Data.List.Sort
import Mathlib.Data.Prod.Lex
import Mathlib.Data.String.Basic
import WayfinderRouter.Binary64
import WayfinderRouter.Double
import WayfinderRouter.Ordered.BoundedMap
import WayfinderRouter.Unsigned

/-!
# Evidence reports

A report over shadow records and quality labels. The verdict of a report is folded from the
verdicts of its routes; the checks of the samples go to a list of reasons.

Doubles are finite and taken at their exact values, with the rounding of every operation written
out. The Wilson interval is a parameter.

## Main definitions

- `qualityReport`, `providerReport`, `candidateReport` — the evidence for one route
- `EvidenceReport.fromSnapshot` — the report of a snapshot
- `Promotable` — when a report says to enforce, in terms of its inputs
-/

namespace WayfinderRouter.Evidence

/-! ## Records and labels -/

/-- The fields of a shadow record that a report reads. -/
structure ShadowRecord where
  requestId : String
  candidateRoute : String
  shadowModel : Option String
  divergent : Bool
  status : String
  providerCompared : Bool
  providerStatus : Option ℕ
  providerLatencyMs : Option ℕ
  providerCost : Option ℚ
  providerCostClass : Option String
  scorerVersion : ℕ
  configFingerprint : String
  candidateFingerprint : String
deriving DecidableEq

/-- The fields of a snapshot that a report reads. -/
structure ShadowSnapshot where
  records : List ShadowRecord
  sampled : ℕ
  droppedInFlight : ℕ
  completed : ℕ
  errors : ℕ

inductive EvidenceLabelValue where
  | win
  | loss
  | tie
  | abstain
deriving DecidableEq

/-- A preference for one of the two answers. -/
def EvidenceLabelValue.isDecisive : EvidenceLabelValue → Bool
  | win => true
  | loss => true
  | _ => false

inductive EvidenceEvaluator where
  | human
  | automated (version : String)
deriving DecidableEq

/-- `EvidenceEvaluator::key`. -/
def EvidenceEvaluator.key : EvidenceEvaluator → String
  | human => "human"
  | automated version => "automated:" ++ version

structure EvidenceLabel where
  requestId : String
  candidateRoute : String
  label : EvidenceLabelValue
  evaluator : EvidenceEvaluator
deriving DecidableEq

def evidenceMinSamples : ℕ := 30

inductive EvidenceOutcome where
  | enforce
  | keepShadowing
  | doNotEnforce
deriving DecidableEq

/-- `EvidenceOutcome::rank`. -/
def EvidenceOutcome.rank : EvidenceOutcome → ℕ
  | enforce => 0
  | keepShadowing => 1
  | doNotEnforce => 2

structure EvidenceInterval where
  lower : ℚ
  upper : ℚ

/-- `round`. -/
def round (value : ℚ) : ℚ :=
  nearest (roundHalfAway (nearest (value * 1000000)) / 1000000)

/-- A count divided by another one, and rounded. -/
def ratio (n m : ℕ) : ℚ := round (nearest (nearest n / nearest m))

/-- A sum of doubles. -/
def sumDoubles (values : List ℚ) : ℚ := values.foldl (fun total value => nearest (total + value)) 0

/-! ## Quality -/

structure EvidenceAgreement where
  samples : ℕ
  agreement : ℚ
  kappa : ℚ

structure EvidenceQuality where
  labels : ℕ
  decisive : ℕ
  wins : ℕ
  losses : ℕ
  ties : ℕ
  abstentions : ℕ
  coverage : ℚ
  winRate : Option ℚ
  lossRate : Option ℚ
  delta : Option ℚ
  deltaInterval : Option EvidenceInterval
  evaluatorCounts : List (String × ℕ)
  judgeAgreement : List (String × EvidenceAgreement)

/-- The labels of one record, by evaluator. -/
def byKey (labels : List EvidenceLabel) :
    List ((String ×ₗ String) × List (String × EvidenceLabelValue)) :=
  labels.foldl (fun m label =>
    Ordered.upsert (toLex (label.requestId, label.candidateRoute)) (fun values =>
      Ordered.upsert label.evaluator.key (fun _ => label.label) (values.getD [])) m) []

def machineEpsilon : ℚ := 2 ^ (-52 : ℤ)

/-- The share of the pairs that pass a test. -/
def share (pairs : List (EvidenceLabelValue × EvidenceLabelValue))
    (test : EvidenceLabelValue × EvidenceLabelValue → Bool) : ℚ :=
  nearest (nearest (pairs.countP test) / nearest pairs.length)

/-- `agreement`. -/
def agreement (pairs : List (EvidenceLabelValue × EvidenceLabelValue)) : EvidenceAgreement :=
  let values : List EvidenceLabelValue := [.win, .loss, .tie]
  let observed := sumDoubles (values.map fun value =>
    share pairs fun pair => pair.1 = value ∧ pair.2 = value)
  let expected := sumDoubles (values.map fun value => nearest
    ((share pairs fun pair => pair.1 = value) * (share pairs fun pair => pair.2 = value)))
  { samples := pairs.length
    agreement := round (share pairs fun pair => pair.1 = pair.2)
    kappa :=
      if |nearest (1 - expected)| ≤ machineEpsilon then
        if |nearest (observed - expected)| ≤ machineEpsilon then 1 else 0
      else round (nearest (nearest (observed - expected) / nearest (1 - expected))) }

/-- The labels of a human and of an automated evaluator for the same record. -/
def judgedPairs (version : String)
    (entries : List ((String ×ₗ String) × List (String × EvidenceLabelValue))) :
    List (EvidenceLabelValue × EvidenceLabelValue) :=
  entries.filterMap fun entry => do
    let human ← Ordered.lookup "human" entry.2
    let automated ← Ordered.lookup ("automated:" ++ version) entry.2
    if human ≠ .abstain ∧ automated ≠ .abstain then return (human, automated) else none

/-- The labels of the given records. -/
def matching (records : List ShadowRecord) (labels : List EvidenceLabel) : List EvidenceLabel :=
  labels.filter fun label => records.any fun record =>
    record.requestId = label.requestId ∧ record.candidateRoute = label.candidateRoute

/-- The number of labels with the given value. -/
def countOf (value : EvidenceLabelValue) (labels : List EvidenceLabel) : ℕ :=
  labels.countP fun label => label.label = value

section Report

variable (wilson : ℕ → ℕ → EvidenceInterval)

/-- The interval of the difference of the two rates. -/
def deltaInterval (wins losses : ℕ) : EvidenceInterval :=
  let win := wilson wins (U64.saturatingAdd wins losses)
  let loss := wilson losses (U64.saturatingAdd wins losses)
  ⟨round (nearest (win.lower - loss.upper)), round (nearest (win.upper - loss.lower))⟩

/-- `quality_report`. -/
def qualityReport (records : List ShadowRecord) (labels : List EvidenceLabel) : EvidenceQuality :=
  let labels := matching records labels
  let evaluatorCounts := labels.foldl (fun m label =>
    Ordered.upsert label.evaluator.key (fun n => n.getD 0 + 1) m) []
  let wins := countOf .win labels
  let losses := countOf .loss labels
  let decisive := U64.saturatingAdd wins losses
  let versions := evaluatorCounts.filterMap fun entry =>
    (entry.1.toList.dropPrefix? "automated:".toList).map String.ofList
  { labels := labels.length
    decisive := decisive
    wins := wins
    losses := losses
    ties := countOf .tie labels
    abstentions := countOf .abstain labels
    coverage := if records = [] then 0 else ratio labels.length records.length
    winRate := if 0 < decisive then some (ratio wins decisive) else none
    lossRate := if 0 < decisive then some (ratio losses decisive) else none
    delta :=
      if 0 < decisive then
        some (round (nearest (nearest (nearest wins - nearest losses) / nearest decisive)))
      else none
    deltaInterval := if 0 < decisive then some (deltaInterval wilson wins losses) else none
    evaluatorCounts := evaluatorCounts
    judgeAgreement := versions.foldl (fun m version =>
      let pairs := judgedPairs version (byKey labels)
      if pairs = [] then m else Ordered.upsert version (fun _ => agreement pairs) m) [] }

/-! ## Candidates -/

structure EvidenceProvider where
  comparisons : ℕ
  successes : ℕ
  errors : ℕ
  errorRate : Option ℚ
  meanLatencyMs : Option ℚ
  latencySamples : ℕ
  costSamples : ℕ
  estimatedCost : Option ℚ
  costClass : String

/-- `provider_report`. -/
def providerReport (records : List ShadowRecord) : EvidenceProvider :=
  if records = [] then ⟨0, 0, 0, none, none, 0, 0, none, "unknown"⟩
  else
    let successes := records.countP fun record =>
      record.providerStatus.any fun status => 200 ≤ status ∧ status < 300
    let errors := records.length - successes
    let latencies := records.filterMap fun record =>
      record.providerLatencyMs.map fun value => nearest value
    let costs := records.filterMap ShadowRecord.providerCost
    { comparisons := records.length
      successes := successes
      errors := errors
      errorRate := some (ratio errors records.length)
      meanLatencyMs :=
        if latencies = [] then none
        else some (round (nearest (sumDoubles latencies / nearest latencies.length)))
      latencySamples := latencies.length
      costSamples := costs.length
      estimatedCost := if costs = [] then none else some (round (sumDoubles costs))
      costClass :=
        if costs = [] then "unknown"
        else (records.findSome? ShadowRecord.providerCostClass).getD "unknown" }

structure EvidenceCandidate where
  candidateRoute : String
  samples : ℕ
  completed : ℕ
  missingCandidate : ℕ
  divergent : ℕ
  errors : ℕ
  provider : EvidenceProvider
  quality : EvidenceQuality
  outcome : EvidenceOutcome
  reasons : List String

/-- A provider error rate above 20 percent. -/
def aboveErrorRate (provider : EvidenceProvider) : Bool :=
  provider.errorRate.any fun rate => nearest (1 / 5) < rate

/-- `candidate_report`. -/
def candidateReport (route : String) (records : List ShadowRecord) (labels : List EvidenceLabel) :
    EvidenceCandidate :=
  let samples := records.length
  let completed := records.countP fun record => record.status = "completed"
  let provider := providerReport (records.filter ShadowRecord.providerCompared)
  let quality := qualityReport wilson records labels
  { candidateRoute := route
    samples := samples
    completed := completed
    missingCandidate := records.countP fun record => record.shadowModel.isNone
    divergent := records.countP ShadowRecord.divergent
    errors := samples - completed
    provider := provider
    quality := quality
    outcome :=
      if aboveErrorRate provider then .doNotEnforce
      else if quality.decisive < evidenceMinSamples then .keepShadowing
      else if quality.deltaInterval.any fun interval => 0 ≤ interval.lower then .enforce
      else if quality.deltaInterval.any fun interval => interval.upper < 0 then .doNotEnforce
      else .keepShadowing
    reasons :=
      (if quality.decisive < evidenceMinSamples then
        ["insufficient-quality-labels:" ++ toString quality.decisive ++ "/" ++
          toString evidenceMinSamples]
      else if quality.deltaInterval.isNone then ["quality-interval-unavailable"] else []) ++
      if aboveErrorRate provider then ["provider-error-rate-above-20-percent"] else [] }

/-! ## Reports -/

structure EvidenceReport where
  scorerVersions : List ℕ
  configFingerprints : List String
  candidateFingerprints : List String
  sampled : ℕ
  completed : ℕ
  shadowErrors : ℕ
  droppedInFlight : ℕ
  candidates : List EvidenceCandidate
  outcome : EvidenceOutcome
  reasons : List String

/-- `aggregate_outcome`. -/
def aggregateOutcome (candidates : List EvidenceCandidate) : EvidenceOutcome :=
  if candidates.isEmpty then .keepShadowing
  else candidates.foldl (fun outcome candidate =>
    if outcome.rank < candidate.outcome.rank then candidate.outcome else outcome) .enforce

/-- A set of values, in order. -/
def ordered {K : Type} [LinearOrder K] (values : List K) : List K :=
  (Ordered.collect (values.map fun value => (value, ()))).map Prod.fst

/-- The records of each route. -/
def routeRecords (records : List ShadowRecord) : List (String × List ShadowRecord) :=
  records.foldl (fun m record =>
    Ordered.upsert record.candidateRoute (fun before => before.getD [] ++ [record]) m) []

/-- The reason for too few samples. -/
def insufficientSamples (completed : ℕ) : String :=
  "insufficient-shadow-samples:" ++ toString completed ++ "/" ++ toString evidenceMinSamples

/-- The reasons of a report, but for an inconclusive one. -/
def snapshotReasons (snapshot : ShadowSnapshot) (configs fingerprints : List String)
    (candidates : List EvidenceCandidate) : List String :=
  (if snapshot.sampled = 0 then ["no-shadow-samples"] else []) ++
  (if snapshot.completed < evidenceMinSamples then [insufficientSamples snapshot.completed]
  else []) ++
  (if 1 < configs.length then ["mixed-config-fingerprint"] else []) ++
  (if 1 < fingerprints.length then ["mixed-candidate-fingerprint"] else []) ++
  (if candidates.any fun candidate => candidate.reasons.any fun reason =>
      "insufficient-quality-labels".toList.isPrefixOf reason.toList then
    ["quality-labels-incomplete"] else []) ++
  if candidates.isEmpty then ["no-candidate-records"] else []

/-- `EvidenceReport::from_snapshot`. -/
def EvidenceReport.fromSnapshot (snapshot : ShadowSnapshot) (labels : List EvidenceLabel) :
    EvidenceReport :=
  let configFingerprints := ordered (snapshot.records.map ShadowRecord.configFingerprint)
  let candidateFingerprints := ordered (snapshot.records.map ShadowRecord.candidateFingerprint)
  let candidates := ((routeRecords snapshot.records).map fun entry =>
    candidateReport wilson entry.1 entry.2 labels).insertionSort
      fun a b => a.candidateRoute ≤ b.candidateRoute
  let reasons := snapshotReasons snapshot configFingerprints candidateFingerprints candidates
  let outcome :=
    if "mixed-config-fingerprint" ∈ reasons ∨ "mixed-candidate-fingerprint" ∈ reasons then
      .keepShadowing
    else aggregateOutcome candidates
  { scorerVersions := ordered (snapshot.records.map ShadowRecord.scorerVersion)
    configFingerprints := configFingerprints
    candidateFingerprints := candidateFingerprints
    sampled := snapshot.sampled
    completed := snapshot.completed
    shadowErrors := snapshot.errors
    droppedInFlight := snapshot.droppedInFlight
    candidates := candidates
    outcome := outcome
    reasons :=
      if outcome = .keepShadowing ∧ reasons = [] then ["evidence-inconclusive"] else reasons }

/-! ## When a report says to enforce -/

/-- The evidence for one route says to enforce: enough decisive labels, a low error rate and a
difference that is not negative. -/
structure RoutePromotable (records : List ShadowRecord) (labels : List EvidenceLabel) : Prop where
  decisive : evidenceMinSamples ≤
    countOf .win (matching records labels) + countOf .loss (matching records labels)
  errorRate : aboveErrorRate (providerReport (records.filter ShadowRecord.providerCompared)) = false
  lower : 0 ≤ (deltaInterval wilson (countOf .win (matching records labels))
    (countOf .loss (matching records labels))).lower

/-- The evidence says to enforce: all records have the same fingerprints, and every route is
promotable. -/
structure Promotable (snapshot : ShadowSnapshot) (labels : List EvidenceLabel) : Prop where
  nonempty : snapshot.records ≠ []
  config : ∀ r ∈ snapshot.records, ∀ r' ∈ snapshot.records,
    r.configFingerprint = r'.configFingerprint
  candidate : ∀ r ∈ snapshot.records, ∀ r' ∈ snapshot.records,
    r.candidateFingerprint = r'.candidateFingerprint
  routes : ∀ r ∈ snapshot.records, RoutePromotable wilson
    (snapshot.records.filter fun r' => r'.candidateRoute = r.candidateRoute) labels

end Report

variable {wilson : ℕ → ℕ → EvidenceInterval} {records : List ShadowRecord}
  {labels : List EvidenceLabel} {snapshot : ShadowSnapshot}

theorem decisive_iff (wins losses : ℕ) :
    U64.saturatingAdd wins losses < evidenceMinSamples ↔ wins + losses < evidenceMinSamples := by
  unfold U64.saturatingAdd U64.max evidenceMinSamples
  omega

theorem decisive_pos {wins losses : ℕ} (h : evidenceMinSamples ≤ wins + losses) :
    0 < U64.saturatingAdd wins losses := by
  unfold U64.saturatingAdd U64.max
  unfold evidenceMinSamples at h
  omega

theorem candidate_enforce_iff {route : String} :
    (candidateReport wilson route records labels).outcome = .enforce ↔
      RoutePromotable wilson records labels := by
  obtain ⟨wins, hwins⟩ : ∃ n, countOf .win (matching records labels) = n := ⟨_, rfl⟩
  obtain ⟨losses, hlosses⟩ : ∃ n, countOf .loss (matching records labels) = n := ⟨_, rfl⟩
  have hiff : RoutePromotable wilson records labels ↔
      evidenceMinSamples ≤ wins + losses ∧
      aboveErrorRate (providerReport (records.filter ShadowRecord.providerCompared)) = false ∧
      0 ≤ (deltaInterval wilson wins losses).lower := by
    subst hwins hlosses
    exact ⟨fun h => ⟨h.decisive, h.errorRate, h.lower⟩, fun h => ⟨h.1, h.2.1, h.2.2⟩⟩
  rw [hiff]
  simp only [candidateReport, qualityReport, hwins, hlosses, decisive_iff]
  cases aboveErrorRate (providerReport (records.filter ShadowRecord.providerCompared)) with
  | true => simp
  | false =>
    by_cases hdecisive : wins + losses < evidenceMinSamples
    · have hnot : ¬ evidenceMinSamples ≤ wins + losses := Nat.not_le.mpr hdecisive
      simp [hdecisive, hnot]
    · have hle : evidenceMinSamples ≤ wins + losses := Nat.not_lt.mp hdecisive
      have hpos := decisive_pos hle
      by_cases hlower : 0 ≤ (deltaInterval wilson wins losses).lower
      · simp [hdecisive, hle, hpos, hlower]
      · by_cases hupper : (deltaInterval wilson wins losses).upper < 0
        · simp [hdecisive, hpos, hlower, hupper]
        · simp [hdecisive, hpos, hlower, hupper]

/-- A route that is promotable gives no reasons. -/
theorem RoutePromotable.reasons (h : RoutePromotable wilson records labels) (route : String) :
    (candidateReport wilson route records labels).reasons = [] := by
  obtain ⟨hdecisive, herror, -⟩ := h
  generalize hwins : countOf .win (matching records labels) = wins at hdecisive
  generalize hlosses : countOf .loss (matching records labels) = losses at hdecisive
  have hpos := decisive_pos hdecisive
  have hnot : ¬ U64.saturatingAdd wins losses < evidenceMinSamples := by
    rw [decisive_iff]
    exact Nat.not_lt.mpr hdecisive
  simp only [candidateReport, qualityReport, hwins, hlosses]
  rw [if_neg hnot, if_pos hpos, herror]
  rfl

theorem foldl_rank_eq_enforce (outcome : EvidenceOutcome) (candidates : List EvidenceCandidate) :
    candidates.foldl (fun outcome candidate =>
        if outcome.rank < candidate.outcome.rank then candidate.outcome else outcome) outcome =
      .enforce ↔ outcome = .enforce ∧ ∀ candidate ∈ candidates, candidate.outcome = .enforce := by
  have hstep : ∀ a b : EvidenceOutcome,
      (if a.rank < b.rank then b else a) = .enforce ↔ a = .enforce ∧ b = .enforce := by
    intro a b
    cases a with
    | _ =>
      cases b with
      | _ => decide
  induction candidates generalizing outcome with
  | nil => simp
  | cons candidate candidates ih =>
    rw [List.foldl_cons, List.forall_mem_cons, ← and_assoc, ← hstep]
    exact ih _

/-- The fold of the verdicts. -/
theorem aggregateOutcome_eq_enforce_iff (candidates : List EvidenceCandidate) :
    aggregateOutcome candidates = .enforce ↔
      candidates ≠ [] ∧ ∀ candidate ∈ candidates, candidate.outcome = .enforce := by
  unfold aggregateOutcome
  cases candidates with
  | nil => simp
  | cons candidate candidates =>
    rw [List.isEmpty_cons, if_neg Bool.false_ne_true, foldl_rank_eq_enforce]
    simp

/-- The records of a route. -/
theorem lookup_routeRecords (records : List ShadowRecord) :
    Ordered.Sorted (routeRecords records) ∧ ∀ route,
      Ordered.lookup route (routeRecords records) =
        if records.filter (fun r => r.candidateRoute = route) = [] then none
        else some (records.filter fun r => r.candidateRoute = route) := by
  induction records using List.reverseRecOn with
  | nil => exact ⟨List.Pairwise.nil, fun _ => rfl⟩
  | append_singleton records record ih =>
    obtain ⟨hsorted, hlookup⟩ := ih
    have hstep : routeRecords (records ++ [record]) = Ordered.upsert record.candidateRoute
        (fun before => before.getD [] ++ [record]) (routeRecords records) := by
      rw [routeRecords, List.foldl_append]
      rfl
    rw [hstep]
    refine ⟨hsorted.upsert, fun route => ?_⟩
    rw [Ordered.lookup_upsert hsorted, List.filter_append]
    by_cases hroute : route = record.candidateRoute
    · have hself : [record].filter (fun r => r.candidateRoute = route) = [record] :=
        List.filter_cons_of_pos (decide_eq_true hroute.symm)
      have hne : records.filter (fun r => r.candidateRoute = route) ++ [record] ≠ [] :=
        List.append_ne_nil_of_right_ne_nil _ (List.cons_ne_nil _ _)
      rw [if_pos hroute, ← hroute, hlookup, hself, if_neg hne]
      split_ifs with hnone
      · rw [hnone]
        rfl
      · rfl
    · have hother : [record].filter (fun r => r.candidateRoute = route) = [] :=
        List.filter_cons_of_neg (by rw [decide_eq_true_eq]; exact Ne.symm hroute)
      rw [if_neg hroute, hlookup, hother, List.append_nil]

/-- The report of a candidate is the report of the records of a route. -/
theorem mem_candidates_iff {candidate : EvidenceCandidate} :
    candidate ∈ (EvidenceReport.fromSnapshot wilson snapshot labels).candidates ↔
      ∃ r ∈ snapshot.records, candidate = candidateReport wilson r.candidateRoute
        (snapshot.records.filter fun r' => r'.candidateRoute = r.candidateRoute) labels := by
  obtain ⟨hsorted, hlookup⟩ := lookup_routeRecords snapshot.records
  simp only [EvidenceReport.fromSnapshot, (List.perm_insertionSort _ _).mem_iff, List.mem_map]
  constructor
  · rintro ⟨⟨route, found⟩, hentry, rfl⟩
    have hfound := hsorted.lookup_of_mem hentry
    rw [hlookup] at hfound
    split_ifs at hfound with hnone
    obtain ⟨r, hr⟩ := List.exists_mem_of_ne_nil _ hnone
    obtain ⟨hmem, hroute⟩ := List.mem_filter.mp hr
    rw [← of_decide_eq_true hroute] at hfound
    refine ⟨r, hmem, ?_⟩
    rw [← Option.some.inj hfound, of_decide_eq_true hroute]
  · rintro ⟨r, hr, rfl⟩
    refine ⟨(r.candidateRoute, _), Ordered.mem_of_lookup ?_, rfl⟩
    rw [hlookup, if_neg]
    exact List.ne_nil_of_mem (List.mem_filter.mpr ⟨hr, decide_eq_true rfl⟩)

/-- A set has at most one element when all values are equal. -/
theorem length_ordered_le_one_iff {K : Type} [LinearOrder K] (values : List K) :
    (ordered values).length ≤ 1 ↔ ∀ a ∈ values, ∀ b ∈ values, a = b := by
  have hmem : ∀ a, a ∈ ordered values ↔ a ∈ values := by
    intro a
    rw [ordered, Ordered.mem_keys_collect, List.map_map]
    simp
  have hsorted : (ordered values).Pairwise (· < ·) := Ordered.sorted_collect _
  simp only [← hmem]
  match hvalues : ordered values with
  | [] => simp
  | [a] => simp
  | a :: b :: rest =>
    rw [hvalues] at hsorted
    have hlt : a < b := List.rel_of_pairwise_cons hsorted List.mem_cons_self
    constructor
    · intro hlength
      simp at hlength
    · intro hequal
      exact absurd (hequal a List.mem_cons_self b
        (List.mem_cons_of_mem _ List.mem_cons_self)) hlt.ne

theorem head?_append {s : String} {c : Char} (h : s.toList.head? = some c) (t : String) :
    (s ++ t).toList.head? = some c := by
  rw [String.toList_append, List.head?_append, h]
  rfl

theorem ne_insufficientSamples {reason : String} (hreason : reason.toList.head? ≠ some 'i')
    (completed : ℕ) : reason ≠ insufficientSamples completed := by
  intro heq
  have hhead : (insufficientSamples completed).toList.head? = some 'i' :=
    head?_append (head?_append (head?_append (by decide) _) _) _
  rw [heq] at hreason
  exact hreason hhead

variable (snapshot) in
/-- The reasons that keep a report from enforcing. -/
theorem mem_snapshotReasons (configs fingerprints : List String)
    (candidates : List EvidenceCandidate) :
    ("mixed-config-fingerprint" ∈ snapshotReasons snapshot configs fingerprints candidates ↔
      1 < configs.length) ∧
    ("mixed-candidate-fingerprint" ∈ snapshotReasons snapshot configs fingerprints candidates ↔
      1 < fingerprints.length) := by
  have hconfig := ne_insufficientSamples
    (by decide : "mixed-config-fingerprint".toList.head? ≠ some 'i') snapshot.completed
  have hcandidate := ne_insufficientSamples
    (by decide : "mixed-candidate-fingerprint".toList.head? ≠ some 'i') snapshot.completed
  simp only [snapshotReasons, List.mem_append, List.mem_ite_nil_right, List.mem_singleton]
  constructor
  · simp [hconfig]
  · simp [hcandidate]

/-- A report says to enforce exactly when the evidence is promotable. -/
theorem outcome_eq_enforce_iff :
    (EvidenceReport.fromSnapshot wilson snapshot labels).outcome = .enforce ↔
      Promotable wilson snapshot labels := by
  obtain ⟨candidates, hcandidates⟩ : ∃ candidates,
      (EvidenceReport.fromSnapshot wilson snapshot labels).candidates = candidates := ⟨_, rfl⟩
  have hmem : ∀ candidate, candidate ∈ candidates ↔ ∃ r ∈ snapshot.records,
      candidate = candidateReport wilson r.candidateRoute
        (snapshot.records.filter fun r' => r'.candidateRoute = r.candidateRoute) labels := by
    intro candidate
    rw [← hcandidates]
    exact mem_candidates_iff
  have houtcome : (EvidenceReport.fromSnapshot wilson snapshot labels).outcome =
      if 1 < (ordered (snapshot.records.map ShadowRecord.configFingerprint)).length ∨
          1 < (ordered (snapshot.records.map ShadowRecord.candidateFingerprint)).length then
        .keepShadowing
      else aggregateOutcome candidates := by
    obtain ⟨hconfig, hcandidate⟩ := mem_snapshotReasons snapshot
      (ordered (snapshot.records.map ShadowRecord.configFingerprint))
      (ordered (snapshot.records.map ShadowRecord.candidateFingerprint)) candidates
    subst hcandidates
    exact if_congr (or_congr hconfig hcandidate) rfl rfl
  have hempty : candidates ≠ [] ↔ snapshot.records ≠ [] := by
    constructor
    · intro hne hnone
      obtain ⟨candidate, hcandidate⟩ := List.exists_mem_of_ne_nil _ hne
      obtain ⟨r, hr, -⟩ := (hmem candidate).mp hcandidate
      rw [hnone] at hr
      exact absurd hr List.not_mem_nil
    · intro hne
      obtain ⟨r, hr⟩ := List.exists_mem_of_ne_nil _ hne
      exact List.ne_nil_of_mem ((hmem _).mpr ⟨r, hr, rfl⟩)
  have hconfig := length_ordered_le_one_iff
    (snapshot.records.map ShadowRecord.configFingerprint)
  have hcandidate := length_ordered_le_one_iff
    (snapshot.records.map ShadowRecord.candidateFingerprint)
  simp only [List.forall_mem_map] at hconfig hcandidate
  rw [houtcome]
  constructor
  · intro h
    split_ifs at h with hmixed
    obtain ⟨hone, hone'⟩ := not_or.mp hmixed
    obtain ⟨hne, henforce⟩ := (aggregateOutcome_eq_enforce_iff candidates).mp h
    refine ⟨hempty.mp hne, hconfig.mp (Nat.not_lt.mp hone), hcandidate.mp (Nat.not_lt.mp hone'),
      fun r hr => ?_⟩
    exact candidate_enforce_iff.mp (henforce _ ((hmem _).mpr ⟨r, hr, rfl⟩))
  · intro h
    rw [if_neg (not_or.mpr ⟨Nat.not_lt.mpr (hconfig.mpr h.config),
      Nat.not_lt.mpr (hcandidate.mpr h.candidate)⟩), aggregateOutcome_eq_enforce_iff]
    refine ⟨hempty.mpr h.nonempty, fun candidate hmember => ?_⟩
    obtain ⟨r, hr, rfl⟩ := (hmem candidate).mp hmember
    exact candidate_enforce_iff.mpr (h.routes r hr)

/-- The reasons of a promotable report are about the samples. -/
theorem Promotable.reasons_eq_nil_iff (h : Promotable wilson snapshot labels) :
    (EvidenceReport.fromSnapshot wilson snapshot labels).reasons = [] ↔
      0 < snapshot.sampled ∧ evidenceMinSamples ≤ snapshot.completed := by
  obtain ⟨candidates, hcandidates⟩ : ∃ candidates,
      (EvidenceReport.fromSnapshot wilson snapshot labels).candidates = candidates := ⟨_, rfl⟩
  have henforce := outcome_eq_enforce_iff.mpr h
  have hreasons : (EvidenceReport.fromSnapshot wilson snapshot labels).reasons =
      snapshotReasons snapshot (ordered (snapshot.records.map ShadowRecord.configFingerprint))
        (ordered (snapshot.records.map ShadowRecord.candidateFingerprint)) candidates := by
    subst hcandidates
    refine if_neg fun hkeep => ?_
    exact absurd (henforce.symm.trans hkeep.1) (by decide)
  have hconfig := (length_ordered_le_one_iff
    (snapshot.records.map ShadowRecord.configFingerprint)).mpr
    (by simpa only [List.forall_mem_map] using h.config)
  have hcandidate := (length_ordered_le_one_iff
    (snapshot.records.map ShadowRecord.candidateFingerprint)).mpr
    (by simpa only [List.forall_mem_map] using h.candidate)
  have hnone : candidates.any (fun candidate => candidate.reasons.any fun reason =>
      "insufficient-quality-labels".toList.isPrefixOf reason.toList) = false := by
    rw [List.any_eq_false]
    intro candidate hmember
    rw [← hcandidates] at hmember
    obtain ⟨r, hr, rfl⟩ := mem_candidates_iff.mp hmember
    rw [(h.routes r hr).reasons]
    exact Bool.false_ne_true
  have hempty : candidates.isEmpty = false := by
    obtain ⟨r, hr⟩ := List.exists_mem_of_ne_nil _ h.nonempty
    rw [← hcandidates]
    exact List.isEmpty_eq_false_iff.mpr
      (List.ne_nil_of_mem (mem_candidates_iff.mpr ⟨r, hr, rfl⟩))
  rw [hreasons, snapshotReasons, hnone, hempty, if_neg (Nat.not_lt.mpr hconfig),
    if_neg (Nat.not_lt.mpr hcandidate)]
  by_cases hsampled : snapshot.sampled = 0
  · simp [hsampled]
  · by_cases hcompleted : snapshot.completed < evidenceMinSamples
    · simp [hsampled, hcompleted]
    · simp [hsampled, hcompleted, Nat.pos_of_ne_zero hsampled, Nat.not_lt.mp hcompleted]

/-- The requests of a route with a decisive label. -/
def decidedRequests (snapshot : ShadowSnapshot) (labels : List EvidenceLabel) (route : String) :
    Finset String :=
  ((snapshot.records.filter fun record => record.candidateRoute = route ∧
    labels.any fun label => label.requestId = record.requestId ∧
      label.candidateRoute = route ∧ label.label.isDecisive).map ShadowRecord.requestId).toFinset

/-- What the report is to be based on when it says to enforce. -/
structure Supported (snapshot : ShadowSnapshot) (labels : List EvidenceLabel)
    (report : EvidenceReport) : Prop where
  reasons : report.reasons = []
  completed : evidenceMinSamples ≤ snapshot.completed
  nonempty : report.candidates ≠ []
  candidates : ∀ candidate ∈ report.candidates, candidate.outcome = .enforce ∧
    candidate.reasons = [] ∧
    evidenceMinSamples ≤ (decidedRequests snapshot labels candidate.candidateRoute).card

/-- A report that says to enforce is supported exactly when promotable evidence is never based on
too few samples, too few completed evaluations or too few labelled records. -/
theorem enforce_supported_iff (wilson : ℕ → ℕ → EvidenceInterval) (snapshot : ShadowSnapshot)
    (labels : List EvidenceLabel) :
    ((EvidenceReport.fromSnapshot wilson snapshot labels).outcome = .enforce →
      Supported snapshot labels (EvidenceReport.fromSnapshot wilson snapshot labels)) ↔
    (Promotable wilson snapshot labels →
      0 < snapshot.sampled ∧ evidenceMinSamples ≤ snapshot.completed ∧
      ∀ r ∈ snapshot.records,
        evidenceMinSamples ≤ (decidedRequests snapshot labels r.candidateRoute).card) := by
  rw [outcome_eq_enforce_iff]
  refine forall_congr' fun h => ?_
  constructor
  · intro hsupported
    obtain ⟨hsampled, hcompleted⟩ := h.reasons_eq_nil_iff.mp hsupported.reasons
    refine ⟨hsampled, hcompleted, fun r hr => ?_⟩
    exact (hsupported.candidates _ (mem_candidates_iff.mpr ⟨r, hr, rfl⟩)).2.2
  · rintro ⟨hsampled, hcompleted, hdecided⟩
    refine ⟨h.reasons_eq_nil_iff.mpr ⟨hsampled, hcompleted⟩, hcompleted, ?_, ?_⟩
    · obtain ⟨r, hr⟩ := List.exists_mem_of_ne_nil _ h.nonempty
      exact List.ne_nil_of_mem (mem_candidates_iff.mpr ⟨r, hr, rfl⟩)
    · intro candidate hcandidate
      obtain ⟨r, hr, rfl⟩ := mem_candidates_iff.mp hcandidate
      exact ⟨candidate_enforce_iff.mpr (h.routes r hr), (h.routes r hr).reasons _, hdecided r hr⟩

theorem round_nonneg {q : ℚ} (h : 0 ≤ q) : 0 ≤ round q := by
  have hinner : 0 ≤ nearest (q * 1000000) := nearest_nonneg (by positivity)
  have hround := roundHalfAway_nonneg hinner
  exact nearest_nonneg (div_nonneg (by exact_mod_cast hround) (by norm_num))

/-- One completed shadow evaluation. -/
def singleSnapshot : ShadowSnapshot where
  records := [⟨"request", "cheap", some "small", false, "completed", false, none, none, none, none,
    1, "config", "candidate"⟩]
  sampled := 1
  droppedInFlight := 0
  completed := 1
  errors := 0

/-- A win for the one record by each of thirty versions of an evaluator. -/
def repeatedLabels : List EvidenceLabel :=
  (List.range 30).map fun version =>
    ⟨"request", "cheap", .win, .automated (String.ofList (List.replicate version 'v'))⟩

/-- The intervals for thirty wins and no loss. -/
def thirtyWins (successes _total : ℕ) : EvidenceInterval :=
  if successes = 0 then ⟨0, 113514 / 1000000⟩ else ⟨886486 / 1000000, 1⟩

theorem promotable_single : Promotable thirtyWins singleSnapshot repeatedLabels := by
  have hsame : ∀ r ∈ singleSnapshot.records, ∀ r' ∈ singleSnapshot.records, r = r' := by
    intro r hr r' hr'
    rw [List.mem_singleton.mp hr, List.mem_singleton.mp hr']
  refine ⟨List.cons_ne_nil _ _, fun r hr r' hr' => ?_, fun r hr r' hr' => ?_, fun r hr => ?_⟩
  · rw [hsame r hr r' hr']
  · rw [hsame r hr r' hr']
  · obtain rfl := List.mem_singleton.mp hr
    have hwins : countOf .win (matching (singleSnapshot.records.filter fun r' =>
        r'.candidateRoute = "cheap") repeatedLabels) = 30 := by
      decide
    have hlosses : countOf .loss (matching (singleSnapshot.records.filter fun r' =>
        r'.candidateRoute = "cheap") repeatedLabels) = 0 := by
      decide
    refine ⟨?_, by decide, ?_⟩
    · rw [hwins, hlosses]
      decide
    · rw [hwins, hlosses]
      apply round_nonneg
      apply nearest_nonneg
      norm_num [thirtyWins]

/-- One record that many evaluators have labelled is promoted. -/
theorem single_record_promoted :
    ¬ ∀ wilson snapshot labels,
      (EvidenceReport.fromSnapshot wilson snapshot labels).outcome = .enforce →
        Supported snapshot labels (EvidenceReport.fromSnapshot wilson snapshot labels) := by
  intro h
  have hsupported := h thirtyWins singleSnapshot repeatedLabels
    (outcome_eq_enforce_iff.mpr promotable_single)
  exact absurd hsupported.completed (by decide)

end WayfinderRouter.Evidence
