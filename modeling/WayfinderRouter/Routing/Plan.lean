import WayfinderRouter.Fallible
import WayfinderRouter.Gateway.Destination
import WayfinderRouter.Routing.Score

/-!
# Automatic routes

A plan chooses among destinations that are free of secrets. The score of the prompt selects a tier.
The first destination of the tier that may receive the request is selected, and the others of the
tier that may receive it are its fallbacks.

## Main definitions

- `planAutomaticRoute` — the plan of a request
- `Qualifies` — the destination may receive the request, in terms of its fields

## Main results

- `isEligible_iff` — a destination without exclusions is one that qualifies
- `plan_exact` — a plan lists the destinations of the tier that qualify, in order
-/

namespace WayfinderRouter.Routing

open Config Gateway

/-- `RUNTIME_CONTRACT_VERSION`. -/
def runtimeContractVersion : ℕ := 1

/-- The fields of a destination that planning reads. -/
structure PlannedDestination extends DestinationSnapshot where
  providerId : String
  modelId : String
  routeTier : String
deriving DecidableEq

/-- A routing request with the version of its contract. -/
structure PlanRequest extends RoutingRequest where
  schemaVersion : ℕ
deriving DecidableEq

/-- `RoutePlan`. -/
structure RoutePlan where
  schemaVersion : ℕ
  requestId : String
  score : ℚ
  recommendation : String
  selectedDestinationId : Option String
  fallbackDestinationIds : List String
  candidates : List CandidateAssessment
deriving DecidableEq

/-! ## Contracts -/

/-- `str::trim` leaves nothing. -/
def isBlank (text : String) : Bool := (trim text).isEmpty

/-- The loop of `validate_runtime_contract`, with the ids it has seen. -/
def validateCandidates (ids : List String) : List PlannedDestination → Except CoreError Unit
  | [] => .ok ()
  | candidate :: candidates =>
    if isBlank candidate.id || isBlank candidate.providerId || isBlank candidate.modelId ||
        isBlank candidate.routeTier then
      .error (.invalidContract "destination identity and route_tier must be non-empty")
    else if candidate.id ∈ ids then
      .error (.invalidContract ("duplicate destination id " ++ candidate.id.quote))
    else validateCandidates (candidate.id :: ids) candidates

/-- `validate_runtime_contract`. -/
def validateRuntimeContract (request : PlanRequest) (candidates : List PlannedDestination) :
    Except CoreError Unit :=
  if request.schemaVersion ≠ runtimeContractVersion then
    .error (.invalidContract ("unsupported schema version " ++ toString request.schemaVersion))
  else if isBlank request.requestId then
    .error (.invalidContract "request_id must be non-empty")
  else validateCandidates [] candidates

/-! ## Plans -/

/-- The candidates that may receive the request and are of the tier, by their ids. -/
def eligibleIds (candidates : List PlannedDestination) (assessments : List CandidateAssessment)
    (recommendation : String) : List String :=
  ((candidates.zip assessments).filter fun entry =>
    entry.2.isEligible && entry.1.routeTier = recommendation).map fun entry => entry.1.id

/-- `plan_automatic_route`. -/
def planAutomaticRoute (extractFeatures : String → Lexicon → Except CoreError Features)
    (request : PlanRequest) (candidates : List PlannedDestination) (config : RoutingConfig) :
    Except CoreError RoutePlan := do
  validateRuntimeContract request candidates
  let scored ← scoreComplexity extractFeatures request.prompt config
  let assessments := candidates.map fun candidate =>
    assessDestination request.toRoutingRequest candidate.toDestinationSnapshot
  let ids := eligibleIds candidates assessments scored.recommendation
  .ok
    { schemaVersion := runtimeContractVersion
      requestId := request.requestId
      score := scored.score
      recommendation := scored.recommendation
      selectedDestinationId := ids.head?
      fallbackDestinationIds := ids.drop 1
      candidates := assessments }

/-! ## Destinations that qualify -/

/-- The destination has the capability of the surface. -/
def Supports (capabilities : DestinationCapabilities) : InferenceSurface → Prop
  | .text => capabilities.text = true
  | .embeddings => capabilities.modalities.embeddings = true
  | .imageGeneration => capabilities.modalities.imageGeneration = true
  | .audio => capabilities.modalities.audioInput = true ∨ capabilities.modalities.audioOutput = true
  | .batch => capabilities.modalities.batch = true

/-- The destination may receive the request. -/
structure Qualifies (request : RoutingRequest) (destination : DestinationSnapshot) : Prop where
  ready : destination.readiness = .ready
  permitted : request.privacyPosture.permits destination.executionBoundary = true
  surface : Supports destination.capabilities request.requirements.surface
  context : ∀ required ∈ request.requirements.contextTokens,
    ∃ available ∈ destination.contextWindow, required ≤ available
  imageInput : request.requirements.imageInput = true → destination.capabilities.imageInput = true
  tools : request.requirements.tools = true → destination.capabilities.tools = true
  streaming : request.requirements.streaming = true → destination.capabilities.streaming = true
  automatic : destination.automaticEligible = true

theorem exclude_eq_nil {condition : Bool} {reason : ExclusionReason} :
    exclude condition reason = [] ↔ condition = false := by
  cases condition with
  | false => exact iff_of_true rfl rfl
  | true => exact iff_of_false (List.cons_ne_nil _ _) Bool.true_eq_false.mp

theorem assessSurface_eq_nil {capabilities : DestinationCapabilities} {surface : InferenceSurface} :
    assessSurface capabilities surface = [] ↔ Supports capabilities surface := by
  cases surface with
  | audio =>
    rw [assessSurface, exclude_eq_nil, Supports, Bool.and_eq_false_iff, Bool.not_eq_false',
      Bool.not_eq_false']
  | _ => rw [assessSurface, exclude_eq_nil, Supports, Bool.not_eq_false']

theorem assessContext_eq_nil {required available : Option ℕ} :
    assessContext required available = [] ↔
      ∀ n ∈ required, ∃ m ∈ available, n ≤ m := by
  cases required with
  | none => simp [assessContext]
  | some n =>
    cases available with
    | none => simp [assessContext]
    | some m => simp [assessContext, exclude_eq_nil]

/-- A destination without exclusions is one that qualifies. -/
theorem isEligible_iff {request : RoutingRequest} {destination : DestinationSnapshot} :
    (assessDestination request destination).isEligible = true ↔ Qualifies request destination := by
  rw [CandidateAssessment.isEligible, decide_eq_true_iff]
  simp only [assessDestination, List.append_eq_nil_iff, exclude_eq_nil, assessSurface_eq_nil,
    assessContext_eq_nil, Bool.not_eq_false', Bool.and_eq_false_iff, decide_eq_false_iff_not,
    not_not]
  constructor
  · rintro ⟨⟨⟨⟨⟨⟨⟨hready, hpermitted⟩, hsurface⟩, hcontext⟩, himage⟩, htools⟩, hstreaming⟩,
      hautomatic⟩
    exact ⟨hready, hpermitted, hsurface, hcontext, fun h => by simpa [h] using himage,
      fun h => by simpa [h] using htools, fun h => by simpa [h] using hstreaming, hautomatic⟩
  · intro h
    refine ⟨⟨⟨⟨⟨⟨⟨h.ready, h.permitted⟩, h.surface⟩, h.context⟩, ?_⟩, ?_⟩, ?_⟩, h.automatic⟩
    · exact (Bool.eq_false_or_eq_true _).symm.imp_right h.imageInput
    · exact (Bool.eq_false_or_eq_true _).symm.imp_right h.tools
    · exact (Bool.eq_false_or_eq_true _).symm.imp_right h.streaming

/-! ## What a plan lists -/

/-- Contracts that hold have candidates with different ids. -/
theorem nodup_of_validateCandidates {ids : List String} {candidates : List PlannedDestination}
    (h : validateCandidates ids candidates = .ok ()) :
    (candidates.map fun candidate => candidate.id).Nodup ∧
      ∀ candidate ∈ candidates, candidate.id ∉ ids := by
  induction candidates generalizing ids with
  | nil => exact ⟨List.nodup_nil, fun _ h => absurd h List.not_mem_nil⟩
  | cons candidate candidates ih =>
    rw [validateCandidates] at h
    split_ifs at h with hblank hnew
    obtain ⟨hnodup, hfresh⟩ := ih h
    refine ⟨List.nodup_cons.mpr ⟨?_, hnodup⟩, List.forall_mem_cons.mpr ⟨hnew, ?_⟩⟩
    · intro hmem
      obtain ⟨other, hother, heq⟩ := List.mem_map.mp hmem
      exact hfresh other hother (heq ▸ List.mem_cons_self)
    · exact fun other hother hmem => hfresh other hother (List.mem_cons_of_mem _ hmem)

theorem nodup_of_validateRuntimeContract {request : PlanRequest}
    {candidates : List PlannedDestination}
    (h : validateRuntimeContract request candidates = .ok ()) :
    (candidates.map fun candidate => candidate.id).Nodup := by
  unfold validateRuntimeContract at h
  split_ifs at h
  exact (nodup_of_validateCandidates h).1

/-- Filtering along with the assessments is filtering by the assessment. -/
theorem eligibleIds_map (request : RoutingRequest) (candidates : List PlannedDestination)
    (recommendation : String) :
    eligibleIds candidates (candidates.map fun candidate =>
        assessDestination request candidate.toDestinationSnapshot) recommendation =
      (candidates.filter fun candidate =>
        (assessDestination request candidate.toDestinationSnapshot).isEligible &&
          candidate.routeTier = recommendation).map fun candidate => candidate.id := by
  induction candidates with
  | nil => rfl
  | cons candidate candidates ih =>
    unfold eligibleIds at ih ⊢
    rw [List.map_cons, List.zip_cons_cons, List.filter_cons, List.filter_cons]
    split_ifs
    · rw [List.map_cons, List.map_cons, ih]
    · exact ih

/-- The ids that a plan lists, the selected one first. -/
def RoutePlan.listed (plan : RoutePlan) : List String :=
  plan.selectedDestinationId.toList ++ plan.fallbackDestinationIds

/-- A plan lists, in order and without repetition, the candidates of the recommended tier that
are eligible: those that qualify, and no others. It has the assessment of each candidate, and the
candidates have different ids. -/
theorem plan_exact (extractFeatures : String → Lexicon → Except CoreError Features)
    (request : PlanRequest) (candidates : List PlannedDestination) (config : RoutingConfig)
    (plan : RoutePlan)
    (h : planAutomaticRoute extractFeatures request candidates config = .ok plan) :
    ∃ scored, scoreComplexity extractFeatures request.prompt config = .ok scored ∧
      plan.recommendation = scored.recommendation ∧
      plan.listed =
        (candidates.filter fun candidate =>
          (assessDestination request.toRoutingRequest
            candidate.toDestinationSnapshot).isEligible &&
          candidate.routeTier = scored.recommendation).map (fun candidate => candidate.id) ∧
      plan.selectedDestinationId = plan.listed.head? ∧
      plan.listed.Nodup ∧
      plan.listed.Sublist (candidates.map fun candidate => candidate.id) ∧
      (∀ id, id ∈ plan.listed ↔ ∃ candidate ∈ candidates, candidate.id = id ∧
        Qualifies request.toRoutingRequest candidate.toDestinationSnapshot ∧
        candidate.routeTier = scored.recommendation) ∧
      plan.candidates = candidates.map (fun candidate =>
        assessDestination request.toRoutingRequest candidate.toDestinationSnapshot) ∧
      (candidates.map fun candidate => candidate.id).Nodup := by
  obtain ⟨⟨⟩, hcontract, h⟩ := bind_eq_ok.mp h
  obtain ⟨scored, hscored, h⟩ := bind_eq_ok.mp h
  cases h
  have hnodup := nodup_of_validateRuntimeContract hcontract
  set listed := (candidates.filter fun candidate =>
    (assessDestination request.toRoutingRequest candidate.toDestinationSnapshot).isEligible &&
      candidate.routeTier = scored.recommendation).map fun candidate => candidate.id with hlisted
  have hsublist : listed.Sublist (candidates.map fun candidate => candidate.id) :=
    List.filter_sublist.map _
  have hids := eligibleIds_map request.toRoutingRequest candidates scored.recommendation
  have hcons : ∀ l : List String, l.head?.toList ++ l.drop 1 = l := by
    intro l
    cases l <;> rfl
  refine ⟨scored, hscored, rfl, ?_⟩
  simp only [RoutePlan.listed, hids, ← hlisted, hcons]
  refine ⟨trivial, trivial, hnodup.sublist hsublist, hsublist, fun id => ?_, trivial, hnodup⟩
  simp only [hlisted, List.mem_map, List.mem_filter, Bool.and_eq_true, decide_eq_true_eq,
    isEligible_iff]
  constructor
  · rintro ⟨candidate, ⟨hmem, hqualifies, htier⟩, rfl⟩
    exact ⟨candidate, hmem, rfl, hqualifies, htier⟩
  · rintro ⟨candidate, hmem, rfl, hqualifies, htier⟩
    exact ⟨candidate, ⟨hmem, hqualifies, htier⟩, rfl⟩

/-- A request for a text on the device. -/
def sampleRequest : PlanRequest where
  requestId := "request-1"
  prompt := "hello"
  privacyPosture := .onDeviceOnly
  requirements := ⟨none, false, false, false, .text⟩
  schemaVersion := 1

/-- A local destination, or one of a provider. -/
def sampleDestination (id : String) (boundary : ExecutionBoundary) : PlannedDestination where
  id := id
  executionBoundary := boundary
  readiness := .ready
  contextWindow := none
  capabilities := ⟨true, true, false, false, {}⟩
  automaticEligible := true
  providerId := "provider"
  modelId := "model"
  routeTier := "local"

/-- A text without features. -/
def noFeatures (_ : String) (_ : Lexicon) : Except CoreError Features := .ok ⟨fun _ => 0⟩

def sampleConfig : RoutingConfig :=
  ⟨Weights.default, binaryTiers (1 / 2), none, Lexicon.new [] []⟩

theorem plan_exact_sample :
    ∃ plan, planAutomaticRoute noFeatures sampleRequest
        [sampleDestination "hosted" .hosted, sampleDestination "device" .onDevice] sampleConfig =
          .ok plan ∧
      plan.listed = ["device"] ∧ plan.listed.Nodup := by
  have hplan : planAutomaticRoute noFeatures sampleRequest
      [sampleDestination "hosted" .hosted, sampleDestination "device" .onDevice] sampleConfig =
        .ok ⟨1, "request-1", 0, "local", some "device", [],
          [⟨"hosted", [.privacyBoundaryDenied]⟩, ⟨"device", []⟩]⟩ := by decide +kernel
  obtain ⟨_, -, -, -, -, hnodup, -⟩ := plan_exact _ _ _ _ _ hplan
  exact ⟨_, hplan, rfl, hnodup⟩

end WayfinderRouter.Routing
