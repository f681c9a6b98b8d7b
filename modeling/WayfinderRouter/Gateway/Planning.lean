import WayfinderRouter.Access.Policies
import WayfinderRouter.Gateway.Chat
import WayfinderRouter.Gateway.HighWater
import WayfinderRouter.Pricing.Budget

/-!
# The plan of a chat request

A request names a model, a preset or a directive, or it is routed by its score. A conversation that
is sticky, an exhausted budget, the key of the caller and a canary rollout may then change the
model. The delivery plan has the model, its fallbacks and the tiers of the failover policy, as far
as they may receive the request.

The configuration that scores the request, with the profile of the caller and the tuning of the
body, is part of the request, and so are the slash directive that was found, the verdict of the
budgets and whether the rollout takes the request. The features of a prompt are counted by a
parameter.

## Main definitions

- `RouteMode`, `Route` — a model, and how it was chosen
- `selectRoute` — the route of a request
- `mayReceive` — an alias that may receive the request
- `candidatePlan` — the delivery plan
- `serve` — the answer to a request, with its plan
-/

namespace WayfinderRouter.Gateway.Planning

open Access (KeyPolicy AccessGrant)
open Chat (stateError misconfigured)
open Config (CanaryConfig RoutePreset RoutingConfig Tier)
open Pricing (BudgetDecision)
open Routing (ComplexityScore CoreError Features recommendTier scoreComplexity)

/-! ## Failover -/

inductive FailoverPolicy where
  | sameTier
  | degrade
  | escalate
deriving DecidableEq

/-- `parse_failover`. -/
def parseFailover (value : String) : Option FailoverPolicy :=
  if value = "same-tier" then some .sameTier
  else if value = "degrade" then some .degrade
  else if value = "escalate" then some .escalate
  else none

/-- `failover_candidates`. -/
def failoverCandidates (chosen : String) (ladder : List String) (policy : FailoverPolicy) :
    List String :=
  match ladder.findIdx? fun model => model = chosen with
  | none => []
  | some index =>
    match policy with
    | .sameTier => []
    | .degrade => (ladder.take index).reverse
    | .escalate => ladder.drop (index + 1)

/-- The models of the tiers, from the lowest boundary on. -/
def ladderOf (tiers : Option (List Tier)) : List String :=
  ((tiers.getD []).mergeSort fun left right => left.minScore ≤ right.minScore).map Tier.model

/-- The model of the lowest boundary, the first of those with it. -/
def cheapest (tiers : Option (List Tier)) : Option String := (ladderOf tiers).head?

/-- `clamp_to_allowed`. -/
def clampToAllowed (chosen : String) (ladder allowed : List String) : String :=
  if allowed = [] ∨ chosen ∈ allowed then chosen
  else
    match ladder.filter fun model => model ∈ allowed with
    | [] => ((allowed.mergeSort fun left right => left ≤ right).head?).getD chosen
    | first :: rest =>
      match ladder.findIdx? fun model => model = chosen with
      | none => first
      | some chosenIndex =>
        ((first :: rest).reverse.find? fun model =>
          (ladder.findIdx? fun candidate => candidate = model).any (· ≤ chosenIndex)).getD first

/-! ## Headers -/

/-- `PolicyError::BadHeader` and other overrides that are refused. -/
def badOverride : FailureStatus := ⟨400, "wayfinder_router_bad_override"⟩

/-- A recognized value of a header, or the default when it is blank. -/
def headerOr {α : Type} (headers : HeaderMap) (name : String) (default : α)
    (parse : String → Option α) : Except FailureStatus α :=
  match requestHeader headers name with
  | .error _ => .error badOverride
  | .ok none => .ok default
  | .ok (some text) =>
    if trim text = "" then .ok default
    else
      match parse (trim text) with
      | none => .error badOverride
      | some value => .ok value

/-- `RouteOn::parse`, in any case. -/
def parseRouteOn (text : String) : Option RouteOn :=
  let value := lowercase text
  if value = "turn" then some .turn
  else if value = "last_user" then some .lastUser
  else if value = "user" then some .user
  else if value = "all" then some .all
  else none

/-- The words of a sticky header. -/
def parseSticky (text : String) : Option Bool :=
  let value := lowercase text
  if value ∈ ["1", "true", "yes", "on"] then some true
  else if value ∈ ["0", "false", "no", "off"] then some false
  else none

/-- `u64::from_str`. -/
def parseU64 (text : String) : Option UInt64 :=
  let digits := match text.toList with
    | '+' :: digits => digits
    | digits => digits
  if digits ≠ [] ∧ digits.all Char.isDigit ∧ ofDigits digits < 2 ^ 64 then
    some (UInt64.ofNat (ofDigits digits))
  else none

/-- `parse_threshold_header`. -/
def thresholdHeader (headers : HeaderMap) : Except FailureStatus (Option ℚ) :=
  match requestHeader headers "x-wayfinder-threshold" with
  | .error _ => .error badOverride
  | .ok none => .ok none
  | .ok (some text) =>
    match parseDouble (trim text) with
    | some (.finite value) => if 0 ≤ value ∧ value ≤ 1 then .ok (some value) else .error badOverride
    | _ => .error badOverride

/-! ## Routes -/

inductive RouteMode where
  | pinned
  | preset
  | slashPinned
  | thresholdOverride
  | scored
  | sticky
  | budgetDegraded
  | keyScoped
  | canary
deriving DecidableEq

def RouteMode.text : RouteMode → String
  | .pinned => "pinned"
  | .preset => "preset"
  | .slashPinned => "slash-pinned"
  | .thresholdOverride => "threshold-override"
  | .scored => "scored"
  | .sticky => "sticky"
  | .budgetDegraded => "budget-degraded"
  | .keyScoped => "key-scoped"
  | .canary => "canary"

/-- The caller has named the model. -/
def RouteMode.isPinned (mode : RouteMode) : Bool := mode = .pinned || mode = .slashPinned

/-- The models that a preset has left for a request. -/
structure PresetRoute where
  name : String
  models : List String
deriving DecidableEq

/-- The chosen model, the mode of the choice, and the preset while it is active. -/
structure Route where
  chosen : String
  mode : RouteMode
  preset : Option PresetRoute
deriving DecidableEq

inductive RequestSelection where
  | model (name : String)
  | preset (name : String) (models : List String)
deriving DecidableEq

/-- A recognized slash directive and the messages without it. -/
structure SlashResolution where
  pin : Option String
  messages : Json
  messages_wellFormed : CacheKey.WellFormed messages

/-- The part of `AppState` that plans. -/
structure Planner where
  routing : RoutingConfig
  routePresets : IndexMap RoutePreset
  accessPolicy : Option KeyPolicy
  failover : FailoverPolicy
  canary : CanaryConfig
  routeOn : RouteOn
  sticky : Bool
  stickyCooldown : UInt64
  offline : Bool
  dryRun : Bool
  extractFeatures : String → Config.Lexicon → Except CoreError Features

/-- A request that has a chat body. It may be refused for a body that is not text, by a rate limit
of its caller, or for its tuning. -/
structure Incoming where
  requestId : String
  headers : HeaderMap
  body : IndexMap Json
  body_wellFormed : CacheKey.WellFormed (.object body.entries)
  refusal : Option FailureStatus
  limited : Option FailureStatus
  mistuned : Option FailureStatus
  routing : RoutingConfig
  slash : Option SlashResolution
  budget : Except FailureStatus BudgetDecision
  canaryAdmits : Bool
  world : Chat.World

section Requests

variable (app : Chat.App) (planner : Planner)

/-- `AppState::supports_tier_directives`. -/
def supportsTierDirectives : Bool :=
  planner.routing.classifier.isNone && !planner.routing.tiers.isEmpty

/-- `resolve_request_selection`. -/
def resolveRequestSelection (modelField : Option Json) :
    Except FailureStatus (Option RequestSelection) :=
  match (modelField.bind Json.asStr).map trim with
  | none => .ok none
  | some name =>
    if name = "" ∨ name = "auto" then .ok none
    else
      match name.toList.dropPrefix? "@route/".toList with
      | some routeName =>
        match planner.routePresets.get (String.ofList routeName) with
        | none => .error ⟨400, "wayfinder_router_unknown_route"⟩
        | some route => .ok (some (.preset (String.ofList routeName) route.models))
      | none =>
        if supportsTierDirectives planner ∧ name = "prefer-local" then
          .ok (planner.routing.tiers.head?.map fun tier => .model tier.model)
        else if supportsTierDirectives planner ∧
            (name = "prefer-hosted" ∨ name = "prefer-cloud") then
          .ok (planner.routing.tiers.getLast?.map fun tier => .model tier.model)
        else .ok (if (findModel app.models name).isSome then some (.model name) else none)

/-! ### What is known before a route is chosen -/

namespace Incoming

variable (incoming : Incoming)

/-- `offline`. -/
def offline : Bool := planner.offline || offlineOverride incoming.headers

/-- The body as it is delivered. -/
def requestBody : IndexMap Json :=
  Chat.requestBody incoming.body (incoming.slash.map SlashResolution.messages)

/-- `messages`. -/
def messages : Json := ((Json.object incoming.requestBody.entries).get "messages").getD .null

/-- `estimate_tokens`. -/
def estimateTokens (text : String) : ℕ := if text = "" then 0 else max (text.length / 4) 1

/-- `prompt_estimate`. -/
def promptEstimate : ℕ := estimateTokens (extractPrompt incoming.messages .all)

/-- The routing request, with the text that is scored. -/
def routingRequest (routeOn : RouteOn) : Except FailureStatus RoutingRequest :=
  match Gateway.routingRequest planner.offline incoming.headers incoming.requestId
    (extractPrompt incoming.messages routeOn) (.object incoming.requestBody.entries)
    incoming.promptEstimate with
  | .error _ => .error badOverride
  | .ok request => .ok request

/-- The authorization header, as far as it is text. -/
def authorization : Option String := (incoming.headers.get "authorization").bind headerText

/-- The grant of the caller, when there is an access policy. -/
def authenticate : Except FailureStatus (Option AccessGrant) :=
  match planner.accessPolicy with
  | none => .ok none
  | some policy =>
    match policy.authenticate app.sha256 incoming.authorization with
    | none => .error ⟨401, "wayfinder_router_unauthorized"⟩
    | some grant => .ok (some grant)

end Incoming

/-- `AccessPolicy::allowed_models` of a grant. -/
def allowedModels (grant : Option AccessGrant) : List String :=
  match planner.accessPolicy, grant with
  | some policy, some grant => policy.allowedModels grant
  | _, _ => []

end Requests

/-! ### Who may receive a request -/

/-- What a delivery of the request has to respect. -/
structure Restrictions where
  request : RoutingRequest
  offline : Bool
  promptEstimate : ℕ
  allowed : List String

/-- The alias may receive the request: it is eligible, one of its deployments is, and the key may
use it. -/
def mayReceive (app : Chat.App) (restrictions : Restrictions) (name : String) : Bool :=
  (findModel app.models name).any fun model =>
    (assessModel app.parsers restrictions.request model).isEligible &&
      (!restrictions.offline || modelIsProvenLocal app.parsers model) &&
      precheckOk restrictions.promptEstimate model.contextWindow &&
      hasEligibleDeploymentTarget app.parsers app.models name restrictions.request
        restrictions.offline restrictions.promptEstimate &&
      (restrictions.allowed.isEmpty || name ∈ restrictions.allowed)

/-- `wayfinder_router_destination_ineligible`. -/
def destinationIneligible : FailureStatus := ⟨422, "wayfinder_router_destination_ineligible"⟩

/-- The failure of `destination_ineligible_response`. -/
def ineligibleFailure (offline : Bool) (assessment : CandidateAssessment) : FailureStatus :=
  if offline ∧ assessment.exclusions = [.privacyBoundaryDenied] then
    ⟨503, "wayfinder_router_offline_unavailable"⟩
  else destinationIneligible

/-! ### The route of a request -/

/-- `threshold_tiers`. -/
def thresholdTiers (routing : RoutingConfig) (threshold : ℚ) : Option (List Tier) :=
  match routing.classifier, routing.tiers with
  | none, [low, high] => some [⟨0, low.model, none⟩, ⟨threshold, high.model, none⟩]
  | _, _ => none

section Routes

variable (app : Chat.App) (planner : Planner) (incoming : Incoming) (decision : ComplexityScore)

/-- The scored route, with the tiers that count. -/
def scoredRoute : Except FailureStatus (Route × List Tier) := do
  let threshold ← thresholdHeader incoming.headers
  match threshold with
  | none => .ok (⟨decision.recommendation, .scored, none⟩, incoming.routing.tiers)
  | some threshold =>
    match thresholdTiers incoming.routing threshold with
    | none => .error badOverride
    | some tiers =>
      match recommendTier decision.score tiers with
      | none => .error misconfigured
      | some model => .ok (⟨model, .thresholdOverride, none⟩, tiers)

/-- The route of a conversation that has reached a higher tier. -/
def latchedRoute (cooldown : UInt64) (route : Route) (tiers : List Tier) :
    Except FailureStatus Route :=
  match conversationHighWater planner.extractFeatures incoming.messages incoming.routing tiers
    cooldown with
  | .error _ => .error badOverride
  | .ok none => .ok route
  | .ok (some latched) =>
    .ok (if (tierRank route.chosen tiers).getD 0 < (tierRank latched tiers).getD 0 then
      { route with chosen := latched, mode := .sticky } else route)

/-- The route before it is assessed. -/
def initialRoute (sticky : Bool) (cooldown : UInt64) : Except FailureStatus Route := do
  let selection ← resolveRequestSelection app planner (incoming.body.get "model")
  match selection, incoming.slash.bind SlashResolution.pin with
  | some (.model pin), _ => .ok ⟨pin, .pinned, none⟩
  | some (.preset name models), _ => .ok ⟨models.headD "", .preset, some ⟨name, models⟩⟩
  | none, some pin => .ok ⟨pin, .slashPinned, none⟩
  | none, none => do
    let (route, tiers) ← scoredRoute incoming decision
    if sticky ∧ incoming.routing.classifier = none ∧ 2 ≤ tiers.length then
      latchedRoute planner incoming cooldown route tiers
    else .ok route

/-- A model of a preset stays when the key may use it and it is eligible. -/
def keepsInPreset (restrictions : Restrictions) (name : String) : Bool :=
  (restrictions.allowed.isEmpty || name ∈ restrictions.allowed) &&
    (planner.dryRun || (findModel app.models name).any fun model =>
      (assessModel app.parsers restrictions.request model).isEligible)

/-- A preset keeps what may be used of it, and a pinned model has to be eligible. -/
def assessRoute (restrictions : Restrictions) (route : Route) : Except FailureStatus Route :=
  match route.preset with
  | some preset =>
    match preset.models.filter (keepsInPreset app planner restrictions) with
    | [] => .error destinationIneligible
    | first :: rest =>
      .ok { route with chosen := first, preset := some ⟨preset.name, first :: rest⟩ }
  | none =>
    if !planner.dryRun && route.mode.isPinned then
      match findModel app.models route.chosen with
      | none => .ok route
      | some model =>
        let assessment := assessModel app.parsers restrictions.request model
        if assessment.isEligible then .ok route
        else .error (ineligibleFailure restrictions.offline assessment)
    else .ok route

/-- An exhausted budget blocks the request or lowers its route. -/
def budgetRoute (route : Route) : Except FailureStatus Route := do
  match ← incoming.budget with
  | .allow => .ok route
  | .block _ _ => .error ⟨402, "wayfinder_router_budget_exhausted"⟩
  | .degrade =>
    match cheapest decision.tiers with
    | none => .ok route
    | some model =>
      .ok (if !incoming.offline planner ∧ model ≠ route.chosen then
        ⟨model, .budgetDegraded, none⟩ else route)

/-- The route within the list of the key. -/
def scopedRoute (restrictions : Restrictions) (route : Route) : Route :=
  let clamped := clampToAllowed route.chosen (ladderOf decision.tiers) restrictions.allowed
  if restrictions.allowed ≠ [] ∧ clamped ≠ route.chosen then
    { route with chosen := clamped, mode := .keyScoped }
  else route

/-- The candidate of `maybe_assign_canary`. -/
def canaryCandidate (restrictions : Restrictions) : Option String :=
  if planner.canary.enabled ∧ 0 < planner.canary.fraction ∧ incoming.canaryAdmits then
    (planner.routePresets.get planner.canary.candidateRoute).bind fun route =>
      route.models.find? (mayReceive app restrictions)
  else none

/-- A scored route may be that of the canary rollout. -/
def canaryRoute (restrictions : Restrictions) (route : Route) : Route :=
  if !planner.dryRun ∧ route.preset = none ∧ route.mode = .scored then
    match canaryCandidate app planner incoming restrictions with
    | none => route
    | some candidate => { route with chosen := candidate, mode := .canary }
  else route

/-- The route of a request. -/
def selectRoute (sticky : Bool) (cooldown : UInt64) (restrictions : Restrictions) :
    Except FailureStatus Route := do
  let route ← initialRoute app planner incoming decision sticky cooldown
  let route ← assessRoute app planner restrictions route
  let route ← budgetRoute planner incoming decision route
  .ok (canaryRoute app planner incoming restrictions (scopedRoute decision restrictions route))

/-! ### The delivery plan -/

/-- `delivery_name`: an automatic offline request goes to the lowest tier. -/
def deliveryName (route : Route) : String :=
  if incoming.offline planner ∧ !route.mode.isPinned ∧ route.preset = none then
    (cheapest decision.tiers).getD route.chosen
  else route.chosen

/-- The candidates after the first. -/
def candidates (route : Route) (target : ConfiguredModel) : List String :=
  let sameTier :=
    if route.mode.isPinned then []
    else
      match route.preset with
      | some preset =>
        preset.models.filter fun model => model ≠ deliveryName planner incoming decision route
      | none => target.fallbacks
  let header := ((requestHeader incoming.headers "x-wayfinder-failover").toOption).join
  let policy := (header.bind parseFailover).getD planner.failover
  let ladder := ladderOf decision.tiers
  if !route.mode.isPinned ∧ route.preset = none ∧ (!incoming.offline planner ∨ ladder = []) then
    sameTier ++ failoverCandidates route.chosen ladder policy
  else sameTier

/-- `delivery_plan` of the request. -/
def candidatePlan (restrictions : Restrictions) (route : Route) (breaker : CircuitBreaker)
    (time : ℚ) : List String :=
  match findModel app.models (deliveryName planner incoming decision route) with
  | none => []
  | some target =>
    deliveryPlan (deliveryName planner incoming decision route)
      (candidates planner incoming decision route target) (some (breaker, time))
      (mayReceive app restrictions)

/-- The failure of a request whose plan is empty. -/
def emptyPlanFailure (restrictions : Restrictions) (route : Route) : FailureStatus :=
  match findModel app.models route.chosen with
  | none => ⟨503, "wayfinder_router_circuit_open"⟩
  | some model =>
    let assessment := assessModel app.parsers restrictions.request model
    if assessment.isEligible = false then ineligibleFailure restrictions.offline assessment
    else if hasEligibleDeploymentTarget app.parsers app.models route.chosen restrictions.request
        restrictions.offline restrictions.promptEstimate then
      ⟨503, "wayfinder_router_circuit_open"⟩
    else destinationIneligible

end Routes

/-! ### The request -/

section Serving

variable (app : Chat.App) (planner : Planner)

/-- What is known of a request when its route has been chosen. -/
structure Routed where
  grant : Option AccessGrant
  restrictions : Restrictions
  decision : ComplexityScore
  route : Route

/-- `chat_completions`, as far as the choice of the route. -/
def routeRequest (incoming : Incoming) : Except FailureStatus Routed := do
  incoming.refusal.elim (.ok ()) Except.error
  let grant ← incoming.authenticate app planner
  incoming.limited.elim (.ok ()) Except.error
  incoming.mistuned.elim (.ok ()) Except.error
  let routeOn ← headerOr incoming.headers "x-wayfinder-route-on" planner.routeOn parseRouteOn
  let sticky ← headerOr incoming.headers "x-wayfinder-sticky" planner.sticky parseSticky
  let cooldown ← headerOr incoming.headers "x-wayfinder-sticky-cooldown" planner.stickyCooldown
    parseU64
  let request ← incoming.routingRequest planner routeOn
  let decision ← (scoreComplexity planner.extractFeatures request.prompt incoming.routing).mapError
    fun _ => misconfigured
  let restrictions : Restrictions :=
    ⟨request, incoming.offline planner, incoming.promptEstimate, allowedModels planner grant⟩
  let route ← selectRoute app planner incoming decision sticky cooldown restrictions
  .ok ⟨grant, restrictions, decision, route⟩

/-- The routed request, as the lookup and the delivery see it. -/
def selectedOf (incoming : Incoming) (routed : Routed) : Chat.Selected where
  keyId := routed.grant.bind fun grant => planner.accessPolicy.bind fun policy => policy.keyId grant
  request := routed.restrictions.request
  offline := routed.restrictions.offline
  promptEstimate := routed.restrictions.promptEstimate
  mode := routed.route.mode.text
  presetName := routed.route.preset.map PresetRoute.name
  deliveryName := deliveryName planner incoming routed.decision routed.route
  messages := incoming.slash.map SlashResolution.messages
  debug := switchedOn incoming.headers "x-wayfinder-debug"
  messages_wellFormed := by
    intro value hvalue
    obtain ⟨resolution, -, rfl⟩ := Option.map_eq_some_iff.mp hvalue
    exact resolution.messages_wellFormed

/-- The request with what was decided about it, and its plan at a time. -/
def plannedRequest (incoming : Incoming) (breaker : CircuitBreaker) (time : ℚ) :
    Chat.ChatRequest :=
  let answered (status : ℕ) : Chat.ChatRequest :=
    ⟨incoming.body, incoming.body_wellFormed, .answered status, incoming.world⟩
  match routeRequest app planner incoming with
  | .error failure => answered failure.status
  | .ok routed =>
    if planner.dryRun || app.models.isEmpty then answered 200
    else
      let plan := candidatePlan app planner incoming routed.decision routed.restrictions
        routed.route breaker time
      { received := incoming.body
        received_wellFormed := incoming.body_wellFormed
        decision := .selected (selectedOf planner incoming routed)
        world :=
          { incoming.world with
            plan
            refusal :=
              if plan = [] then some (emptyPlanFailure app routed.restrictions routed.route)
              else incoming.world.refusal } }

/-- `chat_completions`, from the body to the response. -/
def serve : Timed.Service ℚ Chat.AppState Incoming Chat.ChatResponse := fun now incoming s =>
  Chat.chatCompletions app now
    (plannedRequest app planner incoming s.reliability.breaker
      (incoming.world.clock s.reliability.log)) s

end Serving

end WayfinderRouter.Gateway.Planning
