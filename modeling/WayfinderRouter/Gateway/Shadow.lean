import WayfinderRouter.Config.Gateway
import WayfinderRouter.Double
import WayfinderRouter.Evidence.Report
import WayfinderRouter.Gateway.Attempts
import WayfinderRouter.Gateway.Request
import WayfinderRouter.Interaction

/-!
# Shadow evaluation

A sampled request is evaluated once more, beside its delivery, for every candidate route of the
configuration. An evaluation may ask a provider for an answer, to compare. It shares the
application state with the requests, so it is the script of what it does there, and the answers
depend on whatever the others do in between.

The score of a prompt, the cost of a response and the fingerprint of the configuration are values
of the context. The runtime can always start a task, and no lock is poisoned.

## Main definitions

- `ShadowOp`, `handle` — what an evaluation does, and its effect
- `evaluate` — the script of an evaluation
- `Confined` — a target to which the caller's restrictions allow to send

## Main results

- `comparison_confined` — what holds of every target of a comparison
-/

namespace WayfinderRouter.Gateway

open Config (ShadowConfig RoutePreset)
open Interaction

/-! ## Records and the store -/

/-- The metadata of one candidate evaluation. -/
structure ShadowRecord extends Evidence.ShadowRecord where
  productionModel : String
  productionScore : ℚ
  shadowScore : Option ℚ
  reasonCodes : List String
deriving DecidableEq

structure ShadowState where
  records : List ShadowRecord
  sampled : ℕ
  droppedInFlight : ℕ
  droppedProviderBudget : ℕ
  completed : ℕ
  divergent : ℕ
  errors : ℕ
  providerComparisons : ℕ
  providerErrors : ℕ
  providerWindowStart : ℚ
  providerWindowUsed : ℕ
deriving DecidableEq

def ShadowState.default : ShadowState := ⟨[], 0, 0, 0, 0, 0, 0, 0, 0, 0, 0⟩

structure ShadowStore where
  state : ShadowState
  maxRecords : ℕ
  active : Bool
deriving DecidableEq

namespace ShadowStore

/-- `ShadowStore::new`. -/
def new (maxRecords : ℕ) : ShadowStore := ⟨.default, max maxRecords 1, true⟩

/-- A change of the locked state. -/
def modify (change : ShadowState → ShadowState) (store : ShadowStore) : ShadowStore :=
  { store with state := change store.state }

/-- `ShadowStore::sampled`. -/
def sampled : ShadowStore → ShadowStore :=
  modify fun s => { s with sampled := U64.saturatingAdd s.sampled 1 }

/-- `ShadowStore::dropped_in_flight`. -/
def droppedInFlight : ShadowStore → ShadowStore :=
  modify fun s => { s with droppedInFlight := U64.saturatingAdd s.droppedInFlight 1 }

/-- `ShadowStore::error`. -/
def error : ShadowStore → ShadowStore :=
  modify fun s => { s with errors := U64.saturatingAdd s.errors 1 }

/-- `ShadowStore::provider_error`. -/
def providerError : ShadowStore → ShadowStore :=
  modify fun s => { s with providerErrors := U64.saturatingAdd s.providerErrors 1 }

/-- A new window of provider comparisons, when the old one is over. -/
def openWindow (config : ShadowConfig) (now : Double) (s : ShadowState) : ShadowState :=
  match now with
  | .notFinite => s
  | .finite now =>
    if s.providerWindowStart ≤ 0 ∨
        config.providerWindow ≤ nearest (now - s.providerWindowStart) then
      { s with providerWindowStart := max now 0, providerWindowUsed := 0 }
    else s

/-- `ShadowStore::provider_slot`. -/
def providerSlot (config : ShadowConfig) (now : Double) (store : ShadowStore) :
    Bool × ShadowStore :=
  let s := openWindow config now store.state
  if config.providerMaxRequests ≤ s.providerWindowUsed then
    (false, { store with state := { s with
      droppedProviderBudget := U64.saturatingAdd s.droppedProviderBudget 1 } })
  else
    (true, { store with state := { s with
      providerWindowUsed := U64.saturatingAdd s.providerWindowUsed 1
      providerComparisons := U64.saturatingAdd s.providerComparisons 1 } })

/-- `ShadowStore::record`. -/
def record (record : ShadowRecord) (store : ShadowStore) : ShadowStore :=
  store.modify fun s => { s with
    completed := U64.saturatingAdd s.completed 1
    divergent := if record.divergent then U64.saturatingAdd s.divergent 1 else s.divergent
    records := (record :: s.records).take store.maxRecords }

end ShadowStore

/-! ## Operations -/

/-- `BufferedDeliveryResponse`. -/
structure BufferedDeliveryResponse where
  status : ℕ
  contentType : String
  body : List UInt8
deriving DecidableEq

/-- What an evaluation does on the application state and in the world. -/
inductive ShadowOp where
  | isActive
  | error
  | providerSlot
  | providerError
  | record (record : ShadowRecord)
  | observeShadowEvent (event label : String)
  | observeShadowCost (cost : ℚ)
  | deploymentCandidates (name : String)
  | selectDeployments (name : String) (candidates : List ConfiguredModel)
  | send (target : ConfiguredModel) (body : Json)
  | elapsed

/-- What an operation answers. -/
@[reducible] def ShadowOp.Answer : ShadowOp → Type
  | .isActive | .providerSlot => Bool
  | .deploymentCandidates _ => List ConfiguredModel
  | .selectDeployments _ _ => DeploymentSelection
  | .send _ _ => Except DeliveryError BufferedDeliveryResponse
  | .elapsed => ℕ
  | .error | .providerError | .record _ | .observeShadowEvent _ _ | .observeShadowCost _ => Unit

/-- What the world contributes to an operation. -/
structure Moment where
  clock : Double
  elapsedMs : ℕ
  signals : DeploymentSelectionPolicy → Signals
  upstream : ConfiguredModel → Json → Except DeliveryError BufferedDeliveryResponse

inductive Metric where
  | shadowEvent (event label : String)
  | shadowCost (cost : ℚ)
  | deploymentSelection (name deployment reason : String)
deriving DecidableEq

/-- The state that decides about requests: the cursors of the deployments, the breaker, and the
stores of limits, budgets, costs and cached responses. -/
structure ProductionState (Stores : Type) where
  cursors : String → ℕ
  breaker : CircuitBreaker
  stores : Stores

/-- The application state, as far as it changes. -/
structure AppState (Stores : Type) where
  production : ProductionState Stores
  shadowStore : ShadowStore
  metrics : List Metric

/-- What an evaluation reads of the application state and nobody changes. -/
structure ShadowContext where
  parsers : Parsers
  models : List ConfiguredModel
  routePreset : String → Option RoutePreset
  config : ShadowConfig
  configFingerprint : String
  sha256 : List UInt8 → List UInt8
  scoreComplexity : String → Option ℚ
  hasDelivery : Bool
  shadowCost : String → Json → BufferedDeliveryResponse → Option (ℚ × String)

section Handle

variable {Stores : Type} (ctx : ShadowContext)

namespace AppState

def withStore (s : AppState Stores) (store : ShadowStore) : AppState Stores :=
  { s with shadowStore := store }

def observe (metric : Metric) (s : AppState Stores) : AppState Stores :=
  { s with metrics := metric :: s.metrics }

/-- `AppState::deployment_candidates`, which moves the cursor of the alias. -/
def deploymentCandidates (models : List ConfiguredModel) (name : String) (s : AppState Stores) :
    List ConfiguredModel × AppState Stores :=
  let rotated := rotateDeployments models name s.production.cursors
  (rotated.1, { s with production := { s.production with cursors := rotated.2 } })

/-- `AppState::select_deployments`. -/
def selectDeployments (models : List ConfiguredModel)
    (signals : DeploymentSelectionPolicy → Signals) (name : String)
    (candidates : List ConfiguredModel) (s : AppState Stores) :
    DeploymentSelection × AppState Stores :=
  let policy := ((findModel models name).map ConfiguredModel.deploymentSelection).getD .default
  let selection := select (signals policy) policy candidates
  (selection, match selection.targets with
    | [] => s
    | target :: _ => s.observe (.deploymentSelection name target.deliveryId selection.reason))

end AppState

/-- The effect of an operation. -/
def handle : (op : ShadowOp) → Moment → AppState Stores → op.Answer × AppState Stores
  | .isActive, _, s => (s.shadowStore.active, s)
  | .error, _, s => ((), s.withStore s.shadowStore.error)
  | .providerSlot, moment, s =>
    let slot := s.shadowStore.providerSlot ctx.config moment.clock
    (slot.1, s.withStore slot.2)
  | .providerError, _, s => ((), s.withStore s.shadowStore.providerError)
  | .record record, _, s => ((), s.withStore (s.shadowStore.record record))
  | .observeShadowEvent event label, _, s => ((), s.observe (.shadowEvent event label))
  | .observeShadowCost cost, _, s => ((), s.observe (.shadowCost cost))
  | .deploymentCandidates name, _, s => s.deploymentCandidates ctx.models name
  | .selectDeployments name candidates, moment, s =>
    s.selectDeployments ctx.models moment.signals name candidates
  | .send target body, moment, s => (moment.upstream target body, s)
  | .elapsed, moment, s => (min moment.elapsedMs U64.max, s)

end Handle

/-! ## The script of an evaluation -/

/-- One request that is evaluated. -/
structure ShadowJob where
  requestId : String
  prompt : String
  routingRequest : RoutingRequest
  productionModel : String
  productionScore : ℚ
  requestBody : Json
  providerConsent : Bool

/-- `exclusion_reason_name`. -/
def exclusionReasonName : ExclusionReason → String
  | .providerNotReady => "provider-not-ready"
  | .privacyBoundaryDenied => "privacy-boundary-denied"
  | .textUnsupported => "text-unsupported"
  | .contextWindowUnknown => "context-window-unknown"
  | .contextWindowTooSmall => "context-window-too-small"
  | .imageInputUnsupported => "image-input-unsupported"
  | .toolsUnsupported => "tools-unsupported"
  | .streamingUnsupported => "streaming-unsupported"
  | .embeddingsUnsupported => "embeddings-unsupported"
  | .imageGenerationUnsupported => "image-generation-unsupported"
  | .audioUnsupported => "audio-unsupported"
  | .batchUnsupported => "batch-unsupported"
  | .automaticNotAllowed => "automatic-not-allowed"

/-- `RUNTIME_CONTRACT_VERSION`. -/
def runtimeContractVersion : ℕ := 1

/-- The number that the first eight bytes of a digest spell. -/
def leadingNumber (digest : List UInt8) : ℕ :=
  (digest.take 8).foldl (fun n b => n * 256 + b.toNat) 0

/-- `deterministic_sample`. The largest 64-bit integer is `2 ^ 64` as a double. -/
def deterministicSample (sha256 : List UInt8 → List UInt8) (requestId salt : String) (rate : ℚ) :
    Bool :=
  if rate ≤ 0 then false
  else if 1 ≤ rate then true
  else
    let digest := sha256 (utf8 requestId.toList ++ 0 :: utf8 salt.toList)
    nearest (nearest (leadingNumber digest) / 2 ^ 64) < rate

/-- `short_fingerprint`. -/
def shortFingerprint (digest : List UInt8) : String :=
  String.ofList ((digest.take 8).flatMap fun b =>
    [Nat.digitChar (b.toNat / 16), Nat.digitChar (b.toNat % 16)])

/-- `candidate_fingerprint`. -/
def candidateFingerprint (sha256 : List UInt8 → List UInt8) (routes : List String) : String :=
  shortFingerprint (sha256 (utf8 "wf-shadow-v1".toList ++
    routes.flatMap fun route => 0 :: utf8 route.toList))

/-- What a provider comparison found. -/
structure ProviderComparison where
  compared : Bool := false
  status : Option ℕ := none
  latencyMs : Option ℕ := none
  cost : Option ℚ := none
  costClass : Option String := none
  reason : Option String := none

section Evaluate

variable (ctx : ShadowContext) (job : ShadowJob)

/-- `select_candidate`: the first eligible model of a route, and why those before it are not. -/
def selectCandidate (request : RoutingRequest) : List String → Option String × List String
  | [] => (none, ["no-eligible-model"])
  | name :: names =>
    match findModel ctx.models name with
    | none =>
      let rest := selectCandidate request names
      (rest.1, (name ++ ":unknown-model") :: rest.2)
    | some model =>
      let assessment := assessModel ctx.parsers request model
      if assessment.isEligible then (some name, [])
      else
        let rest := selectCandidate request names
        (rest.1, (name ++ ":" ++ ",".intercalate (assessment.exclusions.map exclusionReasonName)) ::
          rest.2)

/-- The comparison is not refused before a slot is asked for. -/
def comparisonWanted (route : String) (selected : Option String) : Bool :=
  ctx.config.providerComparisons && 0 < ctx.config.providerSampleRate && job.providerConsent &&
    job.routingRequest.privacyPosture = .hostedAllowed && selected.isSome &&
    deterministicSample ctx.sha256 (job.requestId ++ ":" ++ route ++ ":provider")
      ctx.configFingerprint ctx.config.providerSampleRate

/-- What a response tells the comparison. -/
def readResponse (route model : String) (response : BufferedDeliveryResponse) (elapsedMs : ℕ)
    (next : ProviderComparison → Script ShadowOp.Answer) : Script ShadowOp.Answer :=
  if isSuccess response.status then
    .call (.observeShadowEvent "provider-success" route) fun _ =>
      match ctx.shadowCost model job.requestBody response with
      | none => next ⟨true, some response.status, some elapsedMs, none, none, none⟩
      | some (cost, costClass) =>
        let found := ⟨true, some response.status, some elapsedMs, some cost, some costClass, none⟩
        if 0 < cost then .call (.observeShadowCost cost) fun _ => next found else next found
  else
    .call .providerError fun _ =>
      .call (.observeShadowEvent "provider-error" route) fun _ =>
        next ⟨true, some response.status, some elapsedMs, none, none, some "provider-status"⟩

/-- Ask a provider, on the first deployment of the model that is selected. -/
def compareProvider (route model : String) (next : ProviderComparison → Script ShadowOp.Answer) :
    Script ShadowOp.Answer :=
  .call (.deploymentCandidates model) fun candidates =>
    .call (.selectDeployments model (eligibleDeploymentTargets ctx.parsers candidates
        job.routingRequest false 0)) fun selection =>
      match if ctx.hasDelivery then selection.targets.head? else none with
      | none =>
        .call .providerError fun _ =>
          .call (.observeShadowEvent "provider-error" route) fun _ =>
            next { compared := true, reason := some "provider-unavailable" }
      | some target =>
        .call (.send target job.requestBody) fun outcome =>
          match outcome with
          | .ok response =>
            .call .elapsed fun elapsedMs => readResponse ctx job route model response elapsedMs next
          | .error _ =>
            .call .providerError fun _ =>
              .call (.observeShadowEvent "provider-error" route) fun _ =>
                next { compared := true, reason := some "provider-error" }

/-- Without a comparison. -/
def notCompared : ProviderComparison where
  reason := if ctx.config.providerComparisons && job.providerConsent then
      some "provider-comparison-not-admitted"
    else none

/-- Store the record of a route. -/
def finishRoute (score : ℚ) (route : String) (selected : Option String × List String)
    (next : Script ShadowOp.Answer) (comparison : ProviderComparison) : Script ShadowOp.Answer :=
  let divergent := selected.1.any fun model => model ≠ job.productionModel
  .call (.observeShadowEvent (if divergent then "divergence" else "match") route) fun _ =>
    .call (.record {
      requestId := job.requestId
      candidateRoute := route
      productionModel := job.productionModel
      shadowModel := selected.1
      productionScore := job.productionScore
      shadowScore := some score
      divergent := divergent
      status := "completed"
      reasonCodes := selected.2 ++ comparison.reason.toList
      providerCompared := comparison.compared
      providerStatus := comparison.status
      providerLatencyMs := comparison.latencyMs
      providerCost := comparison.cost
      providerCostClass := comparison.costClass
      scorerVersion := runtimeContractVersion
      configFingerprint := ctx.configFingerprint
      candidateFingerprint := candidateFingerprint ctx.sha256 ctx.config.candidateRoutes })
      fun _ => next

/-- The body of the loop over the candidate routes. -/
def evaluateRoute (score : ℚ) (route : String) (next : Script ShadowOp.Answer) :
    Script ShadowOp.Answer :=
  .call .isActive fun active =>
    if active = false then .done
    else
      match ctx.routePreset route with
      | none =>
        .call .error fun _ => .call (.observeShadowEvent "error" "route") fun _ => next
      | some preset =>
        let selected := selectCandidate ctx job.routingRequest preset.models
        let finish := finishRoute ctx job score route selected next
        if comparisonWanted ctx job route selected.1 then
          .call .providerSlot fun admitted =>
            if admitted then compareProvider ctx job route (selected.1.getD "") finish
            else finish (notCompared ctx job)
        else finish (notCompared ctx job)

def evaluateRoutes (score : ℚ) : List String → Script ShadowOp.Answer
  | [] => .done
  | route :: routes => evaluateRoute ctx job score route (evaluateRoutes score routes)

/-- `evaluate`. -/
def evaluate : Script ShadowOp.Answer :=
  .call .isActive fun active =>
    if active = false then .done
    else
      match ctx.scoreComplexity job.prompt with
      | none =>
        .call .error fun _ => .call (.observeShadowEvent "error" "score") fun _ => .done
      | some score => evaluateRoutes ctx job score ctx.config.candidateRoutes

end Evaluate

/-! ## Confinement -/

/-- The job of a chat request. -/
def shadowJob (headers : HeaderMap) (request : RoutingRequest) (chosen : String) (score : ℚ)
    (body : Json) : ShadowJob where
  requestId := request.requestId
  prompt := request.prompt
  routingRequest := request
  productionModel := chosen
  productionScore := score
  requestBody := body
  providerConsent := providerConsent headers

/-- The answers that some application state gives at some moment. -/
def Answers (ctx : ShadowContext) (op : ShadowOp) (answer : op.Answer) : Prop :=
  ∃ (Stores : Type) (moment : Moment) (s : AppState Stores), (handle ctx op moment s).1 = answer

/-- The request carries the consent header, with one of its words. -/
def Consents (headers : HeaderMap) : Prop :=
  ∃ value text, headers.get "x-wayfinder-shadow-provider-consent" = some value ∧
    headerText value = some text ∧ lowercase (trim text) ∈ ["1", "true", "yes"]

/-- The restrictions of the caller, and those of the key, allow to send to the target. -/
structure Confined (parsers : Parsers) (headers : HeaderMap) (request : RoutingRequest)
    (allowed : List String) (target : ConfiguredModel) : Prop where
  consents : Consents headers
  hosted : request.privacyPosture = .hostedAllowed
  passes : (assessDestination request (destinationSnapshot parsers target)).isEligible = true
  allowed : allowed ≠ [] → target.name ∈ allowed

section Sends

variable {ctx : ShadowContext} {job : ShadowJob} {target : ConfiguredModel} {sent : Json}
  {route : String}

/-- The target is one that the request may be compared on. -/
def Comparable (ctx : ShadowContext) (job : ShadowJob) (target : ConfiguredModel) : Prop :=
  job.providerConsent = true ∧ job.routingRequest.privacyPosture = .hostedAllowed ∧
    (assessModel ctx.parsers job.routingRequest target).isEligible = true

theorem mayCall_send_finishRoute {score : ℚ} {selected : Option String × List String}
    {next : Script ShadowOp.Answer} {comparison : ProviderComparison}
    (h : (finishRoute ctx job score route selected next comparison).MayCall (Answers ctx)
      (.send target sent)) : next.MayCall (Answers ctx) (.send target sent) := by
  unfold finishRoute at h
  simp only [Script.mayCall_call, reduceCtorEq, false_or] at h
  obtain ⟨-, -, -, -, h⟩ := h
  exact h

/-- After the response nothing more is sent for the route. -/
theorem mayCall_send_readResponse {model : String} {response : BufferedDeliveryResponse}
    {elapsedMs : ℕ} {next : ProviderComparison → Script ShadowOp.Answer}
    (h : (readResponse ctx job route model response elapsedMs next).MayCall (Answers ctx)
      (.send target sent)) : ∃ found, (next found).MayCall (Answers ctx) (.send target sent) := by
  unfold readResponse at h
  split at h
  · simp only [Script.mayCall_call, reduceCtorEq, false_or] at h
    obtain ⟨-, -, h⟩ := h
    split at h
    · exact ⟨_, h⟩
    · split at h
      · simp only [Script.mayCall_call, reduceCtorEq, false_or] at h
        obtain ⟨-, -, h⟩ := h
        exact ⟨_, h⟩
      · exact ⟨_, h⟩
  · simp only [Script.mayCall_call, reduceCtorEq, false_or] at h
    obtain ⟨-, -, -, -, h⟩ := h
    exact ⟨_, h⟩

/-- The target of a comparison is eligible. -/
theorem mayCall_send_compareProvider {model : String}
    {next : ProviderComparison → Script ShadowOp.Answer}
    (h : (compareProvider ctx job route model next).MayCall (Answers ctx) (.send target sent)) :
    (assessModel ctx.parsers job.routingRequest target).isEligible = true ∨
      ∃ found, (next found).MayCall (Answers ctx) (.send target sent) := by
  unfold compareProvider at h
  simp only [Script.mayCall_call, reduceCtorEq, false_or] at h
  obtain ⟨candidates, -, selection, ⟨_, moment, s, hselection⟩, h⟩ := h
  split at h
  · simp only [Script.mayCall_call, reduceCtorEq, false_or] at h
    obtain ⟨-, -, -, -, h⟩ := h
    exact .inr ⟨_, h⟩
  · rename_i first hfirst
    rw [Script.mayCall_call] at h
    obtain hsend | ⟨outcome, -, h⟩ := h
    · left
      injection hsend with htarget
      have hmem : target ∈ selection.targets := by
        rw [htarget]
        split at hfirst
        · exact List.mem_of_mem_head? hfirst
        · cases hfirst
      subst hselection
      have heligible := List.mem_filter.mp (mem_of_mem_select hmem)
      simp only [targetEligible, Bool.and_eq_true] at heligible
      exact heligible.2.1.1
    · right
      split at h
      · simp only [Script.mayCall_call, reduceCtorEq, false_or] at h
        obtain ⟨elapsedMs, -, h⟩ := h
        exact mayCall_send_readResponse h
      · simp only [Script.mayCall_call, reduceCtorEq, false_or] at h
        obtain ⟨-, -, -, -, h⟩ := h
        exact ⟨_, h⟩

theorem mayCall_send_evaluateRoute {score : ℚ} {next : Script ShadowOp.Answer}
    (h : (evaluateRoute ctx job score route next).MayCall (Answers ctx) (.send target sent)) :
    Comparable ctx job target ∨ next.MayCall (Answers ctx) (.send target sent) := by
  unfold evaluateRoute at h
  simp only [Script.mayCall_call, reduceCtorEq, false_or] at h
  obtain ⟨active, -, h⟩ := h
  split at h
  · exact absurd h Script.mayCall_done
  split at h
  · simp only [Script.mayCall_call, reduceCtorEq, false_or] at h
    obtain ⟨-, -, -, -, h⟩ := h
    exact .inr h
  · split at h
    · rename_i hwanted
      simp only [Script.mayCall_call, reduceCtorEq, false_or] at h
      obtain ⟨admitted, -, h⟩ := h
      split at h
      · rcases mayCall_send_compareProvider h with heligible | ⟨found, h⟩
        · simp only [comparisonWanted, Bool.and_eq_true, decide_eq_true_eq] at hwanted
          exact .inl ⟨hwanted.1.1.1.2, hwanted.1.1.2, heligible⟩
        · exact .inr (mayCall_send_finishRoute h)
      · exact .inr (mayCall_send_finishRoute h)
    · exact .inr (mayCall_send_finishRoute h)

theorem mayCall_send_evaluateRoutes {score : ℚ} {routes : List String}
    (h : (evaluateRoutes ctx job score routes).MayCall (Answers ctx) (.send target sent)) :
    Comparable ctx job target := by
  induction routes with
  | nil => exact absurd h Script.mayCall_done
  | cons route routes ih =>
    rcases mayCall_send_evaluateRoute h with hcomparable | h
    · exact hcomparable
    · exact ih h

theorem mayCall_send_evaluate
    (h : (evaluate ctx job).MayCall (Answers ctx) (.send target sent)) :
    Comparable ctx job target := by
  unfold evaluate at h
  simp only [Script.mayCall_call, reduceCtorEq, false_or] at h
  obtain ⟨active, -, h⟩ := h
  split at h
  · exact absurd h Script.mayCall_done
  split at h
  · simp only [Script.mayCall_call, Script.mayCall_done, reduceCtorEq, false_or, and_false,
      exists_false] at h
  · exact mayCall_send_evaluateRoutes h

/-- A comparison that is admitted belongs to the evaluation of its route. -/
theorem mayCall_evaluateRoute {op : ShadowOp} {score : ℚ} {next : Script ShadowOp.Answer}
    {preset : RoutePreset} {selected : Option String × List String}
    (hactive : Answers ctx .isActive true) (hslot : Answers ctx .providerSlot true)
    (hpreset : ctx.routePreset route = some preset)
    (hselected : selectCandidate ctx job.routingRequest preset.models = selected)
    (hwanted : comparisonWanted ctx job route selected.1 = true)
    (h : (compareProvider ctx job route (selected.1.getD "")
      (finishRoute ctx job score route selected next)).MayCall (Answers ctx) op) :
    (evaluateRoute ctx job score route next).MayCall (Answers ctx) op := by
  refine .later hactive ?_
  rw [if_neg (by decide), hpreset]
  subst hselected
  dsimp only
  rw [if_pos hwanted]
  exact .later hslot h

end Sends

/-- A request is compared only with consent and when hosted providers are allowed, and only on
targets that it could be routed to, up to an unknown context window. -/
theorem comparison_confined (ctx : ShadowContext) (headers : HeaderMap) (request : RoutingRequest)
    (chosen : String) (score : ℚ) (body : Json) (target : ConfiguredModel) (sent : Json)
    (h : (evaluate ctx (shadowJob headers request chosen score body)).MayCall (Answers ctx)
      (.send target sent)) :
    Consents headers ∧ request.privacyPosture = .hostedAllowed ∧
      ∀ reason ∈ (assessDestination request (destinationSnapshot ctx.parsers target)).exclusions,
        reason = .contextWindowUnknown := by
  obtain ⟨hconsent, hposture, heligible⟩ := mayCall_send_evaluate h
  exact ⟨providerConsent_iff.mp hconsent, hposture, isEligible_assessModel_iff.mp heligible⟩

/-! ## A comparison -/

/-- A hosted model without a context window. -/
def hostedModel : ConfiguredModel where
  name := "cloud"
  endpoint := "https://cloud.example/v1"
  providerModel := "gpt-cloud"
  provider := .openAiCompatible
  tier := none
  apiKeyEnv := none
  keyReady := true
  baseKeyReady := true
  costPer1k := none
  fallbacks := []
  contextWindow := none
  deployments := []
  deploymentSelection := .default
  deploymentId := none

/-- Every request is sampled, and compared on the model of one candidate route. -/
def comparingConfig : ShadowConfig where
  enabled := true
  sampleRate := 1
  candidateRoutes := ["hosted"]
  maxInFlight := 1
  maxRecords := 1
  providerComparisons := true
  providerSampleRate := 1
  providerMaxRequests := 10
  providerWindow := 60

def comparingContext (models : List ConfiguredModel) : ShadowContext where
  parsers := ⟨fun _ => none, fun _ => none⟩
  models := models
  routePreset := fun route => if route = "hosted" then some ⟨["cloud"]⟩ else none
  config := comparingConfig
  configFingerprint := "0123456789abcdef"
  sha256 := id
  scoreComplexity := fun _ => some 0
  hasDelivery := true
  shadowCost := fun _ _ _ => none

def consentingHeaders : HeaderMap :=
  ⟨[("x-wayfinder-shadow-provider-consent", utf8 "true".toList)]⟩

/-- A request that asks for a bounded answer. -/
def boundedBody : Json := .object [("messages", .array []), ("max_tokens", .nat 100)]

def boundedRequest : RoutingRequest :=
  ⟨"0123456789ab", "hello", .hostedAllowed, requestRequirements boundedBody 2⟩

example : routingRequest false consentingHeaders "0123456789ab" "hello" boundedBody 2 =
    .ok boundedRequest := rfl

def comparedJob : ShadowJob := shadowJob consentingHeaders boundedRequest "local" 0 boundedBody

/-- The request is compared on the model. -/
theorem mayCall_send_comparedJob :
    (evaluate (comparingContext [hostedModel]) comparedJob).MayCall
      (Answers (comparingContext [hostedModel])) (.send hostedModel boundedBody) := by
  let state : AppState Unit := ⟨⟨fun _ => 0, .new 5 (.finite 30), ()⟩, .new 1, []⟩
  let moment : Moment := ⟨.finite 0, 0, fun _ => ⟨fun _ => false, fun _ _ => false⟩,
    fun _ _ => .error .credentialUnavailable⟩
  have hactive : Answers (comparingContext [hostedModel]) .isActive true :=
    ⟨Unit, moment, state, rfl⟩
  have hslot : Answers (comparingContext [hostedModel]) .providerSlot true :=
    ⟨Unit, moment, state, rfl⟩
  have hcandidates : Answers (comparingContext [hostedModel]) (.deploymentCandidates "cloud")
      [hostedModel] := ⟨Unit, moment, state, rfl⟩
  refine .later hactive ?_
  refine @mayCall_evaluateRoute (comparingContext [hostedModel]) comparedJob "hosted" _ 0 .done
    ⟨["cloud"]⟩ (some "cloud", []) hactive hslot rfl (by decide) (by decide) ?_
  refine .later hcandidates ?_
  exact .later ⟨Unit, moment, state, rfl⟩ .now

theorem comparison_confined_bounded :
    Consents consentingHeaders ∧ boundedRequest.privacyPosture = .hostedAllowed ∧
      ∀ reason ∈ (assessDestination boundedRequest (destinationSnapshot
        (comparingContext [hostedModel]).parsers hostedModel)).exclusions,
        reason = .contextWindowUnknown :=
  comparison_confined (comparingContext [hostedModel]) consentingHeaders boundedRequest "local" 0
    boundedBody hostedModel boundedBody mayCall_send_comparedJob

/-- The context window of the target is unknown. -/
theorem comparison_unconfined :
    ¬ ∀ (ctx : ShadowContext) (headers : HeaderMap) (request : RoutingRequest)
      (allowed : List String) (chosen : String) (score : ℚ) (body : Json)
      (target : ConfiguredModel) (sent : Json),
      (evaluate ctx (shadowJob headers request chosen score body)).MayCall (Answers ctx)
        (.send target sent) → Confined ctx.parsers headers request allowed target := by
  intro h
  have hconfined := h (comparingContext [hostedModel]) consentingHeaders boundedRequest [] "local" 0
    boundedBody hostedModel boundedBody mayCall_send_comparedJob
  exact absurd hconfined.passes (by decide)

end WayfinderRouter.Gateway
