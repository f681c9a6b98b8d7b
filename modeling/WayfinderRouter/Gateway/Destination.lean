import Mathlib.Data.Rat.Defs
import Mathlib.Data.String.Basic

/-!
# Destinations

A configured model is a public alias with one or more concrete deployments. Before a request is
sent, the gateway assesses each concrete target against the request's privacy posture and
requirements.

The hosts of endpoints are found by the URL parser and by the address parser, which are
parameters.

## Main definitions

- `ConfiguredModel` — an alias, or one of its deployments
- `assessDestination`, `assessModel` — why a target may not receive a request
- `eligibleDeploymentTargets` — the targets that may
-/

namespace WayfinderRouter.Gateway

inductive ProviderKind where
  | openAiCompatible
  | anthropic
  | appleFoundationModels
  | codexAppServer
deriving DecidableEq

inductive ProviderTier where
  | local
deriving DecidableEq

inductive DeploymentSelectionStrategy where
  | weighted
  | latency
  | throughput
  | availability
  | cost
  | capacity
deriving DecidableEq

/-- `DeploymentSelectionStrategy::as_str`. -/
def DeploymentSelectionStrategy.text : DeploymentSelectionStrategy → String
  | .weighted => "weighted"
  | .latency => "latency"
  | .throughput => "throughput"
  | .availability => "availability"
  | .cost => "cost"
  | .capacity => "capacity"

structure DeploymentSelectionPolicy where
  strategy : DeploymentSelectionStrategy
  maxCostPer1k : Option ℚ
  observationTtl : ℚ
deriving DecidableEq

/-- One concrete delivery target behind a public model alias. -/
structure ConfiguredDeployment where
  id : String
  endpoint : String
  providerModel : String
  apiKeyEnv : Option String
  keyReady : Bool
  weight : ℕ
  costPer1k : Option ℚ
deriving DecidableEq

structure ConfiguredModel where
  name : String
  endpoint : String
  providerModel : String
  provider : ProviderKind
  tier : Option ProviderTier
  apiKeyEnv : Option String
  keyReady : Bool
  baseKeyReady : Bool
  costPer1k : Option ℚ
  fallbacks : List String
  contextWindow : Option ℕ
  deployments : List ConfiguredDeployment
  deploymentSelection : DeploymentSelectionPolicy
  deploymentId : Option String
deriving DecidableEq

/-- `ConfiguredDeployment::new`. -/
def ConfiguredDeployment.new (id endpoint providerModel : String) (apiKeyEnv : Option String)
    (keyReady : Bool) (weight : ℕ) : ConfiguredDeployment :=
  { id, endpoint, providerModel, apiKeyEnv, keyReady := apiKeyEnv.isNone || keyReady,
    weight := max weight 1, costPer1k := none }

namespace ConfiguredModel

/-- `ConfiguredModel::for_deployment`. -/
def forDeployment (model : ConfiguredModel) (deployment : ConfiguredDeployment) :
    ConfiguredModel :=
  { model with
    endpoint := deployment.endpoint
    providerModel := deployment.providerModel
    apiKeyEnv := deployment.apiKeyEnv
    keyReady := deployment.keyReady
    costPer1k := deployment.costPer1k <|> model.costPer1k
    deployments := []
    deploymentId := some deployment.id }

/-- `ConfiguredModel::deployment_targets`. -/
def deploymentTargets (model : ConfiguredModel) : List ConfiguredDeployment :=
  .new "default" model.endpoint model.providerModel model.apiKeyEnv model.baseKeyReady 1 ::
    model.deployments

/-- `ConfiguredModel::delivery_id`. -/
def deliveryId (model : ConfiguredModel) : String :=
  match model.deploymentId with
  | none => model.name
  | some deployment => model.name ++ "#" ++ deployment

end ConfiguredModel

/-- The first configured model of a name. -/
def findModel (models : List ConfiguredModel) (name : String) : Option ConfiguredModel :=
  models.find? fun model => model.name = name

/-! ## Execution boundaries -/

inductive IpAddr where
  | v4 (address : BitVec 32)
  | v6 (address : BitVec 128)
deriving DecidableEq

namespace IpAddr

def isLoopback : IpAddr → Bool
  | .v4 a => a >>> 24 = 127#32
  | .v6 a => a = 1#128

/-- A private or link-local address. -/
def isLocal : IpAddr → Bool
  | .v4 a => a >>> 24 = 10#32 || a >>> 20 = 0xac1#32 || a >>> 16 = 0xc0a8#32 ||
      a >>> 16 = 0xa9fe#32
  | .v6 a => a >>> 121 = 0x7e#128 || a >>> 118 = 0x3fa#128

end IpAddr

/-- The parsers of endpoints: the host of a valid endpoint, and the address that a host spells. -/
structure Parsers where
  host : String → Option String
  address : String → Option IpAddr

inductive ExecutionBoundary where
  | onDevice
  | localNetwork
  | hosted
deriving DecidableEq

section Boundary

variable (parsers : Parsers)

/-- The host without the brackets of an IPv6 address. -/
def addressHost (host : String) : String :=
  match host.toList with
  | '[' :: rest => if rest.getLast? = some ']' then String.ofList rest.dropLast else host
  | _ => host

def isLocalhost (host : String) : Bool := host.toList.map Char.toLower = "localhost".toList

/-- `endpoint_is_literal_loopback`. -/
def endpointIsLiteralLoopback (endpoint : String) : Bool :=
  match parsers.host endpoint with
  | none => false
  | some host =>
    isLocalhost host || (parsers.address (addressHost host)).any IpAddr.isLoopback

/-- `endpoint_is_literal_local_network`. -/
def endpointIsLiteralLocalNetwork (endpoint : String) : Bool :=
  match parsers.host endpoint with
  | none => false
  | some host =>
    !isLocalhost host && (".local".toList.isSuffixOf (addressHost host).toList ||
      (parsers.address (addressHost host)).any fun a => !a.isLoopback && a.isLocal)

/-- `model_is_proven_local`. -/
def modelIsProvenLocal (model : ConfiguredModel) : Bool :=
  (model.provider = .appleFoundationModels && model.tier = some .local) ||
    (model.provider = .openAiCompatible && endpointIsLiteralLoopback parsers model.endpoint)

/-- `model_execution_boundary`. -/
def modelExecutionBoundary (model : ConfiguredModel) : ExecutionBoundary :=
  if modelIsProvenLocal parsers model then .onDevice
  else if model.provider = .openAiCompatible ∧
      endpointIsLiteralLocalNetwork parsers model.endpoint then .localNetwork
  else .hosted

end Boundary

/-! ## Requests and assessments -/

inductive PrivacyPosture where
  | onDeviceOnly
  | localDevices
  | hostedAllowed
deriving DecidableEq

/-- `PrivacyPosture::permits`. -/
def PrivacyPosture.permits : PrivacyPosture → ExecutionBoundary → Bool
  | .onDeviceOnly, boundary => boundary = .onDevice
  | .localDevices, boundary => boundary = .onDevice || boundary = .localNetwork
  | .hostedAllowed, _ => true

inductive ProviderReadiness where
  | checking
  | signedOut
  | authorizing
  | ready
  | reauthenticationRequired
  | usageLimited
  | modelUnavailable
  | networkUnavailable
  | unsupportedPlatform
  | unavailable
  | failed
deriving DecidableEq

inductive InferenceSurface where
  | text
  | embeddings
  | imageGeneration
  | audio
  | batch
deriving DecidableEq

structure ModalityCapabilities where
  embeddings : Bool := false
  imageGeneration : Bool := false
  audioInput : Bool := false
  audioOutput : Bool := false
  batch : Bool := false
deriving DecidableEq

structure DestinationCapabilities where
  text : Bool
  streaming : Bool
  imageInput : Bool
  tools : Bool
  modalities : ModalityCapabilities
deriving DecidableEq

/-- What `assess_destination` reads of a destination. -/
structure DestinationSnapshot where
  id : String
  executionBoundary : ExecutionBoundary
  readiness : ProviderReadiness
  contextWindow : Option ℕ
  capabilities : DestinationCapabilities
  automaticEligible : Bool
deriving DecidableEq

structure RoutingRequirements where
  contextTokens : Option ℕ
  imageInput : Bool
  tools : Bool
  streaming : Bool
  surface : InferenceSurface
deriving DecidableEq

structure RoutingRequest where
  requestId : String
  prompt : String
  privacyPosture : PrivacyPosture
  requirements : RoutingRequirements
deriving DecidableEq

inductive ExclusionReason where
  | providerNotReady
  | privacyBoundaryDenied
  | textUnsupported
  | contextWindowUnknown
  | contextWindowTooSmall
  | imageInputUnsupported
  | toolsUnsupported
  | streamingUnsupported
  | embeddingsUnsupported
  | imageGenerationUnsupported
  | audioUnsupported
  | batchUnsupported
  | automaticNotAllowed
deriving DecidableEq

structure CandidateAssessment where
  destinationId : String
  exclusions : List ExclusionReason
deriving DecidableEq

/-- `CandidateAssessment::is_eligible`. -/
def CandidateAssessment.isEligible (assessment : CandidateAssessment) : Bool :=
  assessment.exclusions = []

/-- An exclusion under a condition. -/
def exclude (condition : Bool) (reason : ExclusionReason) : List ExclusionReason :=
  if condition then [reason] else []

/-- What the surface of the request excludes. -/
def assessSurface (capabilities : DestinationCapabilities) :
    InferenceSurface → List ExclusionReason
  | .text => exclude (!capabilities.text) .textUnsupported
  | .embeddings => exclude (!capabilities.modalities.embeddings) .embeddingsUnsupported
  | .imageGeneration =>
    exclude (!capabilities.modalities.imageGeneration) .imageGenerationUnsupported
  | .audio =>
    exclude (!capabilities.modalities.audioInput && !capabilities.modalities.audioOutput)
      .audioUnsupported
  | .batch => exclude (!capabilities.modalities.batch) .batchUnsupported

/-- What the context of the request excludes. -/
def assessContext (required available : Option ℕ) : List ExclusionReason :=
  match required, available with
  | none, _ => []
  | some _, none => [.contextWindowUnknown]
  | some required, some available => exclude (available < required) .contextWindowTooSmall

/-- `assess_destination`. -/
def assessDestination (request : RoutingRequest) (destination : DestinationSnapshot) :
    CandidateAssessment where
  destinationId := destination.id
  exclusions :=
    exclude (destination.readiness ≠ .ready) .providerNotReady ++
    exclude (!request.privacyPosture.permits destination.executionBoundary)
      .privacyBoundaryDenied ++
    assessSurface destination.capabilities request.requirements.surface ++
    assessContext request.requirements.contextTokens destination.contextWindow ++
    exclude (request.requirements.imageInput && !destination.capabilities.imageInput)
      .imageInputUnsupported ++
    exclude (request.requirements.tools && !destination.capabilities.tools)
      .toolsUnsupported ++
    exclude (request.requirements.streaming && !destination.capabilities.streaming)
      .streamingUnsupported ++
    exclude (!destination.automaticEligible) .automaticNotAllowed

/-- `model_capabilities`. -/
def modelCapabilities (model : ConfiguredModel) : DestinationCapabilities :=
  match model.provider with
  | .openAiCompatible | .anthropic => ⟨true, true, false, true, {}⟩
  | .appleFoundationModels | .codexAppServer => ⟨true, true, false, false, {}⟩

section Eligible

variable (parsers : Parsers)

/-- `destination_snapshot`. -/
def destinationSnapshot (model : ConfiguredModel) : DestinationSnapshot where
  id := model.name
  executionBoundary := modelExecutionBoundary parsers model
  readiness := if model.keyReady then .ready else .unavailable
  contextWindow := model.contextWindow
  capabilities := modelCapabilities model
  automaticEligible := true

/-- `assess_model`. -/
def assessModel (request : RoutingRequest) (model : ConfiguredModel) : CandidateAssessment :=
  let assessment := assessDestination request (destinationSnapshot parsers model)
  { assessment with
    exclusions := assessment.exclusions.filter fun reason => reason ≠ .contextWindowUnknown }

/-- What `assess_model` accepts has no exclusion but an unknown context window. -/
theorem isEligible_assessModel_iff {parsers : Parsers} {request : RoutingRequest}
    {model : ConfiguredModel} :
    (assessModel parsers request model).isEligible = true ↔
      ∀ reason ∈ (assessDestination request (destinationSnapshot parsers model)).exclusions,
        reason = .contextWindowUnknown := by
  rw [CandidateAssessment.isEligible, decide_eq_true_eq]
  show List.filter _ _ = [] ↔ _
  simp only [List.filter_eq_nil_iff, decide_eq_true_eq, Decidable.not_not]

/-- `precheck_ok`. -/
def precheckOk (estimatedTokens : ℕ) (contextWindow : Option ℕ) : Bool :=
  contextWindow.all fun window => estimatedTokens ≤ window

/-- The target may receive the request. -/
def targetEligible (request : RoutingRequest) (offline : Bool) (promptEstimate : ℕ)
    (target : ConfiguredModel) : Bool :=
  (assessModel parsers request target).isEligible &&
    (!offline || modelIsProvenLocal parsers target) &&
    precheckOk promptEstimate target.contextWindow

/-- `eligible_deployment_targets`. -/
def eligibleDeploymentTargets (targets : List ConfiguredModel) (request : RoutingRequest)
    (offline : Bool) (promptEstimate : ℕ) : List ConfiguredModel :=
  targets.filter (targetEligible parsers request offline promptEstimate)

/-- `AppState::configured_deployment_targets`. -/
def configuredDeploymentTargets (models : List ConfiguredModel) (name : String) :
    List ConfiguredModel :=
  match findModel models name with
  | none => []
  | some model => model.deploymentTargets.map model.forDeployment

/-- `has_eligible_deployment_target`. -/
def hasEligibleDeploymentTarget (models : List ConfiguredModel) (name : String)
    (request : RoutingRequest) (offline : Bool) (promptEstimate : ℕ) : Bool :=
  (configuredDeploymentTargets models name).any
    (targetEligible parsers request offline promptEstimate)

end Eligible

end WayfinderRouter.Gateway
