import Mathlib.Data.List.Rotate
import WayfinderRouter.Gateway.Destination
import WayfinderRouter.Reliability.CircuitBreaker
import WayfinderRouter.Unsigned

/-!
# Delivery attempts

The operations from which both delivery loops are made: the candidates of an alias in their
rotation, the order of selection, the leases of the circuit breaker, and a send. The gateway
writes down what it does. What it cannot know (the outcomes of sends, the clock, the shared
breaker, the runtime signals) may depend on all that was done before, so it is a function of the
log.

Locks are not poisoned and the clock is valid, so a lease can always be begun and completed.

## Main definitions

- `Environment`, `GatewayState` — the world of a request, and the state of the gateway
- `deploymentCandidates`, `selectDeployments` — the targets of an alias, in order
- `beginReliabilityAttempt`, `complete`, `release`, `abandon` — the life of a lease
- `search` — the first target whose attempts end in a decisive outcome
-/

namespace WayfinderRouter.Gateway

/-! ## Outcomes -/

inductive ProviderError where
  | invalidEndpoint
  | invalidClientConfig
  | invalidCredential
  | clientBuild
  | transport
  | responseTooLarge (limit : ℕ)
deriving DecidableEq

inductive AppleDeliveryError where
  | unsupported
  | notReady
  | unavailable
  | invalidRequest
  | invalidResponse
deriving DecidableEq

inductive AnthropicDeliveryError where
  | invalidRequest
  | invalidResponse
deriving DecidableEq

inductive CodexDeliveryError where
  | unavailable
  | authenticationRequired
  | modelUnavailable
  | busy
  | usageLimitReached
  | invalidRequest
  | invalidResponse
  | turnFailed
  | interrupted
deriving DecidableEq

inductive DeliveryError where
  | invalidEndpoint
  | credentialUnavailable
  | provider (error : ProviderError)
  | apple (error : AppleDeliveryError)
  | anthropic (error : AnthropicDeliveryError)
  | codex (error : CodexDeliveryError)
deriving DecidableEq

/-- The text of an error. -/
def DeliveryError.text : DeliveryError → String
  | .invalidEndpoint => "configured provider endpoint is invalid or unsafe"
  | .credentialUnavailable => "configured provider credential is unavailable"
  | .provider .invalidEndpoint =>
    "provider endpoint must be an absolute HTTP(S) URL without userinfo, query, or fragment"
  | .provider .invalidClientConfig => "provider timeouts and response bound must be positive"
  | .provider .invalidCredential =>
    "provider credential cannot be represented as an HTTP header"
  | .provider .clientBuild => "provider HTTP client could not be constructed"
  | .provider .transport => "provider transport failed"
  | .provider (.responseTooLarge limit) =>
    "provider response exceeds " ++ toString limit ++ " bytes"
  | .apple .unsupported => "Apple Foundation Models are unsupported on this platform"
  | .apple .notReady => "Apple Foundation Models are not ready"
  | .apple .unavailable => "Apple Foundation Models are unavailable"
  | .apple .invalidRequest => "request is unsupported by Apple Foundation Models"
  | .apple .invalidResponse => "Apple Foundation Models returned an invalid response"
  | .anthropic .invalidRequest => "request is unsupported by the Anthropic provider"
  | .anthropic .invalidResponse => "Anthropic returned an invalid response"
  | .codex .unavailable => "ChatGPT account delivery is unavailable"
  | .codex .authenticationRequired => "ChatGPT sign-in is required"
  | .codex .modelUnavailable => "the selected ChatGPT model is unavailable"
  | .codex .busy => "the ChatGPT account provider is already serving another turn"
  | .codex .usageLimitReached => "the ChatGPT account usage limit has been reached"
  | .codex .invalidRequest => "request is unsupported by the ChatGPT account provider"
  | .codex .invalidResponse => "the ChatGPT account provider returned an invalid response"
  | .codex .turnFailed => "the ChatGPT account provider failed the generation turn"
  | .codex .interrupted => "the ChatGPT account provider interrupted the generation turn"

/-- The status and the type of an error response. -/
structure FailureStatus where
  status : ℕ
  kind : String
deriving DecidableEq

/-- `fatal_delivery_status`. -/
def fatalDeliveryStatus : DeliveryError → FailureStatus
  | .invalidEndpoint | .provider .invalidEndpoint => ⟨500, "wayfinder_router_misconfigured"⟩
  | .credentialUnavailable | .provider .invalidCredential => ⟨503, "wayfinder_router_not_ready"⟩
  | .apple .unsupported | .apple .notReady | .apple .unavailable =>
    ⟨503, "wayfinder_router_not_ready"⟩
  | .apple .invalidRequest => ⟨400, "wayfinder_router_unsupported_request"⟩
  | .apple .invalidResponse => ⟨502, "wayfinder_router_upstream_error"⟩
  | .anthropic .invalidRequest => ⟨400, "wayfinder_router_unsupported_request"⟩
  | .anthropic .invalidResponse => ⟨502, "wayfinder_router_upstream_error"⟩
  | .codex .unavailable | .codex .authenticationRequired | .codex .modelUnavailable =>
    ⟨503, "wayfinder_router_not_ready"⟩
  | .codex .usageLimitReached => ⟨429, "wayfinder_router_usage_limited"⟩
  | .codex .busy => ⟨409, "wayfinder_router_busy"⟩
  | .codex .invalidRequest => ⟨400, "wayfinder_router_unsupported_request"⟩
  | .codex .invalidResponse => ⟨502, "wayfinder_router_upstream_error"⟩
  | .codex .turnFailed => ⟨502, "wayfinder_router_upstream_error"⟩
  | .codex .interrupted => ⟨409, "wayfinder_router_interrupted"⟩
  | .provider _ => ⟨502, "wayfinder_router_upstream_error"⟩

/-- `stream_failure_affects_reliability`. -/
def streamFailureAffectsReliability : DeliveryError → Bool
  | .codex .authenticationRequired | .codex .modelUnavailable | .codex .busy
  | .codex .usageLimitReached | .codex .invalidRequest | .codex .interrupted => false
  | _ => true

/-- The status of the response, or the error before there was one. -/
abbrev Outcome := Except DeliveryError ℕ

/-- `StatusCode::is_success`. -/
def isSuccess (status : ℕ) : Bool := 200 ≤ status && status < 300

/-- `is_retryable` of a status. -/
def isRetryable (status : ℕ) : Bool := status ∈ [429, 500, 502, 503, 504]

/-- `is_auth_failure` of a status. -/
def isAuthFailure (status : ℕ) : Bool := status ∈ [401, 403, 407]

namespace Outcome

/-- The outcome is a success status. -/
def Success : Outcome → Prop
  | .ok status => isSuccess status = true
  | .error _ => False

instance : DecidablePred Success
  | .ok status => inferInstanceAs (Decidable (isSuccess status = true))
  | .error _ => inferInstanceAs (Decidable False)

/-- The attempt is repeated after the outcome. -/
def Retryable : Outcome → Prop
  | .ok status => isRetryable status = true
  | .error e => e = .provider .transport

instance : DecidablePred Retryable
  | .ok status => inferInstanceAs (Decidable (isRetryable status = true))
  | .error e => inferInstanceAs (Decidable (e = .provider .transport))

theorem Success.not_retryable {o : Outcome} (h : o.Success) : ¬ o.Retryable := by
  cases o with
  | error e => exact fun _ => h
  | ok status =>
    simp only [Success, isSuccess, Bool.and_eq_true, decide_eq_true_eq] at h
    simp only [Retryable, isRetryable, decide_eq_true_eq, List.mem_cons, List.not_mem_nil,
      or_false]
    omega

end Outcome

/-! ## The state of the gateway -/

/-- What the gateway does. -/
inductive Event where
  | began (target : String) (granted : Bool)
  | sent (target : ConfiguredModel) (outcome : Outcome)
  | completed (target : String) (succeeded : Bool)
  | released (target : String)
  | abandoned (target : String)

/-- The runtime signals of the deployments. -/
structure Signals where
  ready : List ConfiguredModel → Bool
  before : ConfiguredModel → ConfiguredModel → Bool

/-- The world of a request. The logs are newest first. -/
structure Environment where
  parsers : Parsers
  models : List ConfiguredModel
  retries : ℕ
  request : RoutingRequest
  offline : Bool
  promptEstimate : ℕ
  clock : List Event → ℚ
  sharedGrants : List Event → String → Bool
  upstream : List Event → ConfiguredModel → Outcome
  signals : List Event → DeploymentSelectionPolicy → Signals

structure GatewayState where
  breaker : CircuitBreaker
  cursors : String → ℕ
  log : List Event

/-- The sends of a log. -/
def contacts (log : List Event) : List (ConfiguredModel × Outcome) :=
  log.filterMap fun
    | .sent target outcome => some (target, outcome)
    | _ => none

/-- The index of the target that owns the slot. -/
def startIndex (slot : ℕ) : List ConfiguredDeployment → ℕ
  | [] => 0
  | target :: targets =>
    if slot < target.weight then 0 else startIndex (slot - target.weight) targets + 1

/-- `AppState::deployment_candidates` on the shared cursors: the deployments of the alias, rotated
by weight, and the cursors afterwards. -/
def rotateDeployments (models : List ConfiguredModel) (name : String) (cursors : String → ℕ) :
    List ConfiguredModel × (String → ℕ) :=
  match findModel models name with
  | none => ([], cursors)
  | some model =>
    let targets := model.deploymentTargets
    if targets.length ≤ 1 then ([model], cursors)
    else
      -- the weights are added as 64-bit integers
      let slot := cursors name % ((targets.map ConfiguredDeployment.weight).sum % 2 ^ 64)
      ((targets.rotate (startIndex slot targets)).map model.forDeployment,
        Function.update cursors name (U64.saturatingAdd (cursors name) 1))

section Operations

variable (env : Environment)

namespace GatewayState

def push (event : Event) (s : GatewayState) : GatewayState := { s with log := event :: s.log }

/-- `AppState::deployment_candidates`. -/
def deploymentCandidates (name : String) (s : GatewayState) :
    List ConfiguredModel × GatewayState :=
  let rotated := rotateDeployments env.models name s.cursors
  (rotated.1, { s with cursors := rotated.2 })

/-- `begin_reliability_attempt`. -/
def beginReliabilityAttempt (target : String) (s : GatewayState) :
    Option CircuitAttempt × GatewayState :=
  if env.sharedGrants s.log target then
    let begun := s.breaker.beginAt target (env.clock s.log)
    (begun.1, { s with breaker := begun.2 }.push (.began target begun.1.isSome))
  else (none, s.push (.began target false))

/-- `CombinedReliabilityAttempt::complete`. -/
def complete (target : String) (succeeded : Bool) (s : GatewayState) : GatewayState :=
  { s with breaker := s.breaker.recordAt target succeeded (env.clock s.log) }.push
    (.completed target succeeded)

/-- `CombinedReliabilityAttempt::release_in_background`: the local lease is dropped. -/
def release (target : String) (attempt : CircuitAttempt) (s : GatewayState) : GatewayState :=
  { s with breaker := s.breaker.abandonAt target attempt (env.clock s.log) }.push
    (.released target)

/-- A lease that is dropped unfinished. -/
def abandon (target : String) (attempt : CircuitAttempt) (s : GatewayState) : GatewayState :=
  { s with breaker := s.breaker.abandonAt target attempt (env.clock s.log) }.push
    (.abandoned target)

end GatewayState

/-! ## Selection -/

structure DeploymentSelection where
  targets : List ConfiguredModel
  reason : String

/-- `apply_price_ceiling`. -/
def applyPriceCeiling (policy : DeploymentSelectionPolicy) (candidates : List ConfiguredModel) :
    List ConfiguredModel :=
  match policy.maxCostPer1k with
  | none => candidates
  | some ceiling => candidates.filter fun candidate => candidate.costPer1k.any (· ≤ ceiling)

/-- `compare_cost`, as an order of the sort. -/
def costLe (left right : ConfiguredModel) : Bool :=
  match left.costPer1k, right.costPer1k with
  | some l, some r => l < r || (l = r && left.deliveryId ≤ right.deliveryId)
  | some _, none => true
  | none, some _ => false
  | none, none => left.deliveryId ≤ right.deliveryId

/-- `DeploymentObservationStore::select`. -/
def select (signals : Signals) (policy : DeploymentSelectionPolicy)
    (candidates : List ConfiguredModel) : DeploymentSelection :=
  let candidates := applyPriceCeiling policy candidates
  if candidates = [] then ⟨[], "price-ceiling-blocked"⟩
  else if candidates.length ≤ 1 ∨ policy.strategy = .weighted then
    ⟨candidates, if policy.maxCostPer1k.isSome then "weighted-price-ceiling" else "weighted"⟩
  else if policy.strategy = .cost then
    if candidates.all fun candidate => candidate.costPer1k.isSome then
      ⟨candidates.mergeSort costLe, "cost"⟩
    else ⟨candidates, "weighted-cost-unknown"⟩
  else if signals.ready candidates then
    ⟨candidates.mergeSort signals.before, policy.strategy.text⟩
  else ⟨candidates, "weighted-stale"⟩

/-- A selection takes no target that it is not given. -/
theorem mem_of_mem_select {signals : Signals} {policy : DeploymentSelectionPolicy}
    {candidates : List ConfiguredModel} {target : ConfiguredModel}
    (h : target ∈ (select signals policy candidates).targets) : target ∈ candidates := by
  have hceiling : ∀ t ∈ applyPriceCeiling policy candidates, t ∈ candidates := by
    intro t ht
    unfold applyPriceCeiling at ht
    split at ht
    · exact ht
    · exact List.mem_of_mem_filter ht
  apply hceiling
  dsimp only [select] at h
  split at h
  · exact absurd h List.not_mem_nil
  split at h
  · exact h
  split at h
  · split at h
    · exact List.mem_mergeSort.mp h
    · exact h
  split at h
  · exact List.mem_mergeSort.mp h
  · exact h

/-- `DeploymentSelectionPolicy::default`. -/
def DeploymentSelectionPolicy.default : DeploymentSelectionPolicy := ⟨.weighted, none, 60⟩

/-- `AppState::select_deployments`. -/
def selectDeployments (name : String) (candidates : List ConfiguredModel) (s : GatewayState) :
    DeploymentSelection :=
  let policy := ((findModel env.models name).map ConfiguredModel.deploymentSelection).getD .default
  select (env.signals s.log policy) policy candidates

/-! ## The first decisive outcome -/

/-- The targets of an alias that are tried, in order. -/
def targetsOf (name : String) (s : GatewayState) : DeploymentSelection × GatewayState :=
  let candidates := s.deploymentCandidates env name
  (selectDeployments env name
    (eligibleDeploymentTargets env.parsers candidates.1 env.request env.offline
      env.promptEstimate) candidates.2, candidates.2)

/-- A target is tried when its credential is available and the breaker grants a lease. -/
def admitTarget (target : ConfiguredModel) (s : GatewayState) :
    Option CircuitAttempt × GatewayState :=
  if target.deploymentId.isSome ∧ target.keyReady = false then (none, s)
  else s.beginReliabilityAttempt env target.deliveryId

/-- Send until an outcome is not retryable, with the given number of retries. -/
def decisive (target : ConfiguredModel) : ℕ → GatewayState → Option Outcome × GatewayState
  | retries, s =>
    let outcome := env.upstream s.log target
    let s' := s.push (.sent target outcome)
    if outcome.Retryable then
      match retries with
      | 0 => (none, s')
      | retries + 1 => decisive target retries s'
    else (some outcome, s')

/-- A target whose attempts ended in a decisive outcome, and the targets after it. -/
structure Found where
  target : ConfiguredModel
  attempt : CircuitAttempt
  outcome : Outcome
  rest : List ConfiguredModel

/-- Try the targets of an alias until one has a decisive outcome. -/
def search : List ConfiguredModel → GatewayState → Option Found × GatewayState
  | [], s => (none, s)
  | target :: targets, s =>
    match admitTarget env target s with
    | (none, s) => search targets s
    | (some attempt, s) =>
      match decisive env target env.retries s with
      | (none, s) => search targets (s.complete env target.deliveryId false)
      | (some outcome, s) => (some ⟨target, attempt, outcome, targets⟩, s)

/-- Try the aliases of a plan. -/
def searchPlan : List String → GatewayState → Option (String × String × Found) × GatewayState
  | [], s => (none, s)
  | name :: plan, s =>
    let selection := targetsOf env name s
    match search env selection.1.targets selection.2 with
    | (none, s) => searchPlan plan s
    | (some found, s) => (some (name, selection.1.reason, found), s)

/-- No target of the list is tried. -/
def Unusable : List ConfiguredModel → GatewayState → Prop
  | [], _ => True
  | target :: targets, s =>
    (admitTarget env target s).1 = none ∧ Unusable targets (admitTarget env target s).2

end Operations

/-! ## What a search contacts -/

/-- The later state has some more contacts, newest first, and no more abandoned leases. -/
structure Grows (s s' : GatewayState) (more : List (ConfiguredModel × Outcome)) : Prop where
  contacts : contacts s'.log = more ++ contacts s.log
  abandoned : ∀ target, .abandoned target ∈ s'.log → .abandoned target ∈ s.log

variable {s s' s'' : GatewayState} {more more' : List (ConfiguredModel × Outcome)}

theorem Grows.refl (s : GatewayState) : Grows s s [] := ⟨rfl, fun _ h => h⟩

theorem Grows.trans (h : Grows s s' more) (h' : Grows s' s'' more') :
    Grows s s'' (more' ++ more) := by
  refine ⟨?_, fun target ht => h.abandoned target (h'.abandoned target ht)⟩
  rw [h'.contacts, h.contacts, List.append_assoc]

theorem grows_sent (target : ConfiguredModel) (outcome : Outcome) (s : GatewayState) :
    Grows s (s.push (.sent target outcome)) [(target, outcome)] := by
  refine ⟨rfl, ?_⟩
  intro target ht
  simpa [GatewayState.push] using ht

theorem grows_begin (env : Environment) (target : String) (s : GatewayState) :
    Grows s (s.beginReliabilityAttempt env target).2 [] := by
  unfold GatewayState.beginReliabilityAttempt
  split
  · refine ⟨rfl, ?_⟩
    intro target ht
    simpa [GatewayState.push] using ht
  · refine ⟨rfl, ?_⟩
    intro target ht
    simpa [GatewayState.push] using ht

theorem grows_complete (env : Environment) (target : String) (succeeded : Bool)
    (s : GatewayState) : Grows s (s.complete env target succeeded) [] := by
  refine ⟨rfl, ?_⟩
  intro target ht
  simpa [GatewayState.complete, GatewayState.push] using ht

theorem grows_release (env : Environment) (target : String) (attempt : CircuitAttempt)
    (s : GatewayState) : Grows s (s.release env target attempt) [] := by
  refine ⟨rfl, ?_⟩
  intro target ht
  simpa [GatewayState.release, GatewayState.push] using ht

theorem grows_candidates (env : Environment) (name : String) (s : GatewayState) :
    Grows s (s.deploymentCandidates env name).2 [] :=
  ⟨rfl, fun _ h => h⟩

theorem grows_admitTarget (env : Environment) (target : ConfiguredModel) (s : GatewayState) :
    Grows s (admitTarget env target s).2 [] := by
  unfold admitTarget
  split
  · exact Grows.refl s
  · exact grows_begin env _ s

/-- The contacts of a search: retryable ones, and then perhaps a decisive one. -/
def Tried (s s' : GatewayState) (last : Option (ConfiguredModel × Outcome)) : Prop :=
  ∃ older : List (ConfiguredModel × Outcome), (∀ c ∈ older, c.2.Retryable) ∧
    (∀ c ∈ last, ¬ c.2.Retryable) ∧ Grows s s' (last.toList ++ older)

theorem Grows.tried (h : Grows s s' []) : Tried s s' none :=
  ⟨[], by simp, by simp, h⟩

theorem Tried.trans {last : Option (ConfiguredModel × Outcome)} (h : Tried s s' none)
    (h' : Tried s' s'' last) : Tried s s'' last := by
  obtain ⟨older, holder, -, hgrows⟩ := h
  obtain ⟨older', holder', hlast, hgrows'⟩ := h'
  refine ⟨older' ++ older, ?_, hlast, ?_⟩
  · intro c hc
    rcases List.mem_append.mp hc with hc | hc
    · exact holder' c hc
    · exact holder c hc
  · rw [← List.append_assoc]
    exact hgrows.trans hgrows'

theorem tried_decisive (env : Environment) (target : ConfiguredModel) (retries : ℕ)
    (s : GatewayState) :
    Tried s (decisive env target retries s).2
      ((decisive env target retries s).1.map fun outcome => (target, outcome)) := by
  induction retries generalizing s with
  | zero =>
    rw [decisive]
    split
    · rename_i hretry
      exact ⟨[_], by simpa using hretry, by simp, grows_sent target _ s⟩
    · rename_i hdecisive
      exact ⟨[], by simp, by simpa using hdecisive, grows_sent target _ s⟩
  | succ retries ih =>
    rw [decisive]
    split
    · rename_i hretry
      have hsent : Tried s (s.push (.sent target (env.upstream s.log target))) none :=
        ⟨[_], by simpa using hretry, by simp, grows_sent target _ s⟩
      exact hsent.trans (ih _)
    · rename_i hdecisive
      exact ⟨[], by simp, by simpa using hdecisive, grows_sent target _ s⟩

/-- There is at least one send. -/
theorem contacts_decisive (env : Environment) (target : ConfiguredModel) (retries : ℕ)
    (s : GatewayState) :
    ∃ more c, contacts (decisive env target retries s).2.log = more ++ c :: contacts s.log := by
  cases retries with
  | zero =>
    rw [decisive]
    split
    · exact ⟨[], _, rfl⟩
    · exact ⟨[], _, rfl⟩
  | succ retries =>
    rw [decisive]
    split
    · obtain ⟨older, -, -, hgrows⟩ := tried_decisive env target retries
        (s.push (.sent target (env.upstream s.log target)))
      exact ⟨_, _, hgrows.contacts⟩
    · exact ⟨[], _, rfl⟩

/-- The target of a search and its outcome. -/
def Found.contact (found : Found) : ConfiguredModel × Outcome := (found.target, found.outcome)

theorem tried_search (env : Environment) (targets : List ConfiguredModel) (s : GatewayState) :
    Tried s (search env targets s).2 ((search env targets s).1.map Found.contact) := by
  induction targets generalizing s with
  | nil => exact (Grows.refl s).tried
  | cons target targets ih =>
    have hadmit := (grows_admitTarget env target s).tried
    rw [search]
    rcases ha : admitTarget env target s with ⟨_ | attempt, s₁⟩
    · rw [ha] at hadmit
      exact hadmit.trans (ih s₁)
    · rw [ha] at hadmit
      have hd := tried_decisive env target env.retries s₁
      dsimp only
      rcases hdec : decisive env target env.retries s₁ with ⟨_ | outcome, s₂⟩
      · rw [hdec] at hd
        have hcomplete := (grows_complete env target.deliveryId false s₂).tried
        exact hadmit.trans (hd.trans (hcomplete.trans (ih _)))
      · rw [hdec] at hd
        exact hadmit.trans hd

theorem tried_searchPlan (env : Environment) (plan : List String) (s : GatewayState) :
    Tried s (searchPlan env plan s).2
      ((searchPlan env plan s).1.map fun found => found.2.2.contact) := by
  induction plan generalizing s with
  | nil => exact (Grows.refl s).tried
  | cons name plan ih =>
    have hcandidates := (grows_candidates env name s).tried
    have hs := tried_search env (targetsOf env name s).1.targets (targetsOf env name s).2
    rw [searchPlan]
    rcases hsearch : search env (targetsOf env name s).1.targets (targetsOf env name s).2 with
      ⟨_ | found, s₁⟩
    · rw [hsearch] at hs
      exact hcandidates.trans (hs.trans (ih s₁))
    · rw [hsearch] at hs
      exact hcandidates.trans hs

end WayfinderRouter.Gateway
