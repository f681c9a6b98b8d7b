import WayfinderRouter.Config.Fields

/-!
# Accepted gateway configurations

What every configuration that was read meets: the bounds of its numbers, the names that it may
use, what each provider demands of a model, and that every name refers to something.

## Main definitions

- `GatewayConfig.Accepted` — what every configuration that was read meets

## Main results

- `ensures_gatewayConfigFromToml` — a configuration that was read is accepted
-/

namespace WayfinderRouter.Config

open Toml
open Gateway (ProviderKind ProviderTier DeploymentSelectionStrategy DeploymentSelectionPolicy)

variable {where_ : String}

/-! ## Settings -/

structure Budget.Acceptable (budget : Budget) : Prop where
  limit : 0 < budget.limit
  window : budget.window ∈ ["day", "month", "all"]
  onBreach : budget.onBreach ∈ ["degrade", "block"]

structure CacheConfig.Acceptable (cache : CacheConfig) : Prop where
  backend : cache.backend ∈ ["memory", "redis"]
  ttl : 0 ≤ cache.ttl
  maxEntries : 0 < cache.maxEntries
  maxBytes : 0 < cache.maxBytes

structure RateLimit.Acceptable (limit : RateLimit) : Prop where
  rpm : ∀ n ∈ limit.rpm, 0 < n
  tpm : ∀ n ∈ limit.tpm, 0 < n
  limited : limit.rpm.isSome || limit.tpm.isSome
  window : 0 < limit.window

structure ConcurrencyConfig.Acceptable (concurrency : ConcurrencyConfig) : Prop where
  maxInFlight : 0 < concurrency.maxInFlight
  queueTimeout : 0 < concurrency.queueTimeout

/-- The shared state has a location exactly when it is kept outside the process. -/
structure StateConfig.Acceptable (state : StateConfig) : Prop where
  backend : state.backend ∈ ["memory", "redis"]
  named : ∀ url ∈ state.url, url ≠ ""
  namespace_ : validPolicyId state.namespace_
  url : state.backend = "redis" ↔ state.url.isSome

structure GatewayAuthConfig.Acceptable (auth : GatewayAuthConfig) : Prop where
  mode : auth.mode ∈ ["vkeys", "oidc", "both"]
  issuer : ∀ s ∈ auth.issuer, s ≠ ""
  audience : ∀ s ∈ auth.audience, s ≠ ""
  jwksUrl : ∀ s ∈ auth.jwksUrl, s ≠ ""
  adminClaim : validPolicyId auth.adminClaim
  discovery : auth.mode ≠ "vkeys" →
    auth.issuer.isSome ∧ auth.audience.isSome ∧ auth.jwksUrl.isSome

/-- The candidates are among the given routes. -/
structure ShadowConfig.Acceptable (routes : List String) (shadow : ShadowConfig) : Prop where
  sampleRate : 0 ≤ shadow.sampleRate ∧ shadow.sampleRate ≤ 1
  named : ∀ route ∈ shadow.candidateRoutes, route ≠ ""
  count : shadow.candidateRoutes.length ≤ maxShadowCandidateRoutes
  unique : shadow.candidateRoutes.Nodup
  known : ∀ route ∈ shadow.candidateRoutes, route ∈ routes
  maxInFlight : 0 < shadow.maxInFlight
  maxRecords : 0 < shadow.maxRecords
  providerSampleRate : 0 ≤ shadow.providerSampleRate ∧ shadow.providerSampleRate ≤ 1
  providerWindow : 0 < shadow.providerWindow ∧ shadow.providerWindow ≤ 86400
  candidates : shadow.enabled → shadow.candidateRoutes ≠ []
  comparisons : shadow.providerComparisons →
    0 < shadow.providerSampleRate ∧ shadow.providerMaxRequests ≠ 0

/-- The candidate is among the given routes. -/
structure CanaryConfig.Acceptable (routes : List String) (canary : CanaryConfig) : Prop where
  rolloutId : validPolicyId canary.rolloutId
  known : canary.candidateRoute = "" ∨ canary.candidateRoute ∈ routes
  candidate : canary.enabled → canary.candidateRoute ≠ ""
  fraction : 0 ≤ canary.fraction ∧ canary.fraction ≤ 1
  scope : canary.scope ∈ ["request", "workspace", "key", "cohort"]
  named : ∀ cohort ∈ canary.cohort, validPolicyId cohort
  cohort : canary.scope = "cohort" → canary.cohort.isSome
  maxRequests : 0 < canary.maxRequests
  window : 0 < canary.window ∧ canary.window ≤ 86400
  minSamples : 0 < canary.minSamples
  maxErrorRate : 0 ≤ canary.maxErrorRate ∧ canary.maxErrorRate ≤ 1
  maxLatencyMs : 0 < canary.maxLatencyMs
  maxCostMultiplier : 0 < canary.maxCostMultiplier
  maxQualityLoss : 0 ≤ canary.maxQualityLoss ∧ canary.maxQualityLoss ≤ 1
  rollbackHold : 0 < canary.rollbackHold

theorem validPolicyId_ne {id : String} (h : validPolicyId id) : id ≠ "" := by
  rintro rfl
  exact absurd h (by decide)

theorem ensures_parseBudget {value : Option Value} :
    Ensures (parseBudget value where_) fun o => ∀ budget ∈ o, budget.Acceptable := by
  refine ensures_optionalTable nofun fun table => ?_
  refine .bind ensures_numberWhere fun limit hlimit => ?_
  refine .bind (ensures_optionalAllowedString (by decide)) fun window hwindow => ?_
  refine .bind (ensures_optionalAllowedString (by decide)) fun onBreach honBreach => ?_
  refine .ok fun budget hbudget => ?_
  cases hbudget
  exact ⟨of_decide_eq_true hlimit, hwindow, honBreach⟩

theorem ensures_parseCache {value : Option Value} :
    Ensures (parseCache value where_) fun o => ∀ cache ∈ o, cache.Acceptable := by
  refine ensures_optionalTable nofun fun table => ?_
  refine .bind (ensures_optionalAllowedString (by decide)) fun backend hbackend => ?_
  refine .bind .trivial fun enabled _ => ?_
  refine .bind (ensures_optionalNonNegativeNumber (by decide)) fun ttl httl => ?_
  refine .bind (ensures_optionalPositiveInteger (by decide)) fun entries hentries => ?_
  refine .bind (ensures_optionalPositiveInteger (by decide)) fun bytes hbytes => ?_
  refine .ok fun cache hcache => ?_
  cases hcache
  exact ⟨hbackend, httl, hentries, hbytes⟩

theorem ensures_parseRateLimit {value : Option Value} :
    Ensures (parseRateLimit value where_) fun o => ∀ limit ∈ o, limit.Acceptable := by
  refine ensures_optionalTable nofun fun table => ?_
  refine .bind ensures_positiveInteger fun rpm hrpm => ?_
  refine .bind ensures_positiveInteger fun tpm htpm => ?_
  refine .bind ensures_require fun _ hlimited => ?_
  refine .bind (ensures_optionalPositiveNumber (by decide)) fun window hwindow => ?_
  refine .ok fun limit hlimit => ?_
  cases hlimit
  exact ⟨hrpm, htpm, hlimited, hwindow⟩

theorem ConcurrencyConfig.acceptable_default : ConcurrencyConfig.default.Acceptable :=
  ⟨by decide, by decide⟩

theorem ensures_parseConcurrency {value : Option Value} :
    Ensures (parseConcurrency value where_) ConcurrencyConfig.Acceptable := by
  refine ensures_optionalTable ConcurrencyConfig.acceptable_default fun table => ?_
  refine .bind (ensures_optionalPositiveInteger (by decide)) fun maxInFlight hmaxInFlight => ?_
  refine .bind .trivial fun maxQueued _ => ?_
  refine .bind (ensures_optionalPositiveNumber (by decide)) fun timeout htimeout => ?_
  exact .ok ⟨hmaxInFlight, htimeout⟩

/-- The two checks of the location. -/
theorem url_iff {backend : String} {url : Option String}
    (hbackend : backend ∈ ["memory", "redis"]) :
    (!(backend = "redis" && url.isNone)) = true ∧ (!(backend = "memory" && url.isSome)) = true ↔
      (backend = "redis" ↔ url.isSome) := by
  rw [List.mem_cons, List.mem_singleton] at hbackend
  obtain rfl | rfl := hbackend
  · cases url <;> simp
  · cases url <;> simp

theorem StateConfig.acceptable_default : StateConfig.default.Acceptable :=
  ⟨by decide, nofun, by decide, by decide⟩

theorem ensures_parseState {value : Option Value} :
    Ensures (parseState value where_) StateConfig.Acceptable := by
  refine ensures_optionalTable StateConfig.acceptable_default fun table => ?_
  refine .bind (ensures_optionalAllowedString (by decide)) fun backend hbackend => ?_
  refine .bind ensures_optionalNonEmptyString fun url hurl => ?_
  refine .bind .trivial fun name _ => ?_
  refine .bind ensures_require fun _ hname => ?_
  refine .bind ensures_require fun _ hredis => ?_
  refine .bind ensures_require fun _ hmemory => ?_
  exact .ok ⟨hbackend, hurl, hname, (url_iff hbackend).mp ⟨hredis, hmemory⟩⟩

/-- The check of the endpoints. -/
theorem discovery_iff {mode : String} {issuer audience jwksUrl : Option String}
    (hmode : mode ∈ ["vkeys", "oidc", "both"]) :
    (!((mode = "oidc" || mode = "both") &&
        (issuer.isNone || audience.isNone || jwksUrl.isNone))) = true ↔
      (mode ≠ "vkeys" → issuer.isSome ∧ audience.isSome ∧ jwksUrl.isSome) := by
  simp only [List.mem_cons, List.not_mem_nil, or_false] at hmode
  obtain rfl | rfl | rfl := hmode
  · simp
  · cases issuer <;> cases audience <;> cases jwksUrl <;> simp
  · cases issuer <;> cases audience <;> cases jwksUrl <;> simp

theorem GatewayAuthConfig.acceptable_default : GatewayAuthConfig.default.Acceptable :=
  ⟨by decide, nofun, nofun, nofun, by decide, fun h => absurd rfl h⟩

theorem ensures_parseAuth {value : Option Value} :
    Ensures (parseAuth value where_) GatewayAuthConfig.Acceptable := by
  refine ensures_optionalTable GatewayAuthConfig.acceptable_default fun table => ?_
  refine .bind (ensures_optionalAllowedString (by decide)) fun mode hmode => ?_
  refine .bind ensures_optionalNonEmptyString fun issuer hissuer => ?_
  refine .bind ensures_optionalNonEmptyString fun audience haudience => ?_
  refine .bind ensures_optionalNonEmptyString fun jwksUrl hjwksUrl => ?_
  refine .bind .trivial fun claim _ => ?_
  refine .bind ensures_require fun _ hclaim => ?_
  refine .bind ensures_require fun _ hdiscovery => ?_
  exact .ok ⟨hmode, hissuer, haudience, hjwksUrl, hclaim, (discovery_iff hmode).mp hdiscovery⟩

/-! ## Evidence and rollouts -/

theorem yields_checkCandidateRoutes (routes : IndexMap RoutePreset) (l seen : List String) :
    Yields (checkCandidateRoutes where_ routes seen l) ()
      ((∀ route ∈ l, route ∉ seen) ∧ l.Nodup ∧ ∀ route ∈ l, route ∈ routes.keys) := by
  induction l generalizing seen with
  | nil => exact (Yields.ok ()).iff (by simp)
  | cons route l ih =>
    rw [checkCandidateRoutes]
    refine (Yields.bind (yields_require _) (.bind (yields_require _) (ih (route :: seen)))).iff ?_
    simp only [decide_eq_true_eq, List.mem_cons, not_or, forall_eq_or_imp, List.nodup_cons]
    -- the routes below differ from this one exactly when it is not among them
    have hne : (∀ r ∈ l, ¬ r = route ∧ r ∉ seen) ↔ route ∉ l ∧ ∀ r ∈ l, r ∉ seen := by
      rw [forall₂_and]
      exact and_congr_left' ⟨fun h hmem => h route hmem rfl, fun h r hr heq => h (heq ▸ hr)⟩
    rw [hne]
    tauto

theorem ShadowConfig.acceptable_default (routes : List String) :
    ShadowConfig.default.Acceptable routes where
  sampleRate := by decide
  named := nofun
  count := by decide
  unique := List.nodup_nil
  known := nofun
  maxInFlight := by decide
  maxRecords := by decide
  providerSampleRate := by decide
  providerWindow := by decide
  candidates := nofun
  comparisons := nofun

theorem enabled_iff {α : Type} [DecidableEq α] {enabled : Bool} {a b : α} :
    (!(enabled && decide (a = b))) = true ↔ (enabled = true → a ≠ b) := by
  cases enabled <;> simp

theorem comparisons_iff {comparisons : Bool} {rate : ℚ} {requests : ℕ} :
    (!(comparisons && (decide (rate ≤ 0) || decide (requests = 0)))) = true ↔
      (comparisons = true → 0 < rate ∧ requests ≠ 0) := by
  cases comparisons <;> simp

theorem ensures_parseShadow {value : Option Value} (routes : IndexMap RoutePreset) :
    Ensures (parseShadow value where_ routes) (ShadowConfig.Acceptable routes.keys) := by
  refine ensures_optionalTable (ShadowConfig.acceptable_default _) fun table => ?_
  refine .bind .trivial fun enabled _ => ?_
  refine .bind (ensures_optionalNonNegativeNumber le_rfl) fun rate hrate => ?_
  refine .bind ensures_require fun _ hrate' => ?_
  refine .bind ensures_optionalNonEmptyStringList fun candidates hnamed => ?_
  refine .bind ensures_require fun _ hcount => ?_
  refine .bind (yields_checkCandidateRoutes routes candidates []).ensures fun _ hknown => ?_
  refine .bind (ensures_optionalPositiveInteger (by decide)) fun inFlight hinFlight => ?_
  refine .bind (ensures_optionalPositiveInteger (by decide)) fun records hrecords => ?_
  refine .bind .trivial fun comparisons _ => ?_
  refine .bind (ensures_optionalNonNegativeNumber le_rfl) fun provider hprovider => ?_
  refine .bind ensures_require fun _ hprovider' => ?_
  refine .bind .trivial fun requests _ => ?_
  refine .bind (ensures_optionalPositiveNumber (by decide)) fun window hwindow => ?_
  refine .bind ensures_require fun _ hwindow' => ?_
  refine .bind ensures_require fun _ hcandidates => ?_
  refine .bind ensures_require fun _ hcomparisons => ?_
  exact .ok
    { sampleRate := ⟨hrate, of_decide_eq_true hrate'⟩
      named := hnamed
      count := of_decide_eq_true hcount
      unique := hknown.2.2.1
      known := hknown.2.2.2
      maxInFlight := hinFlight
      maxRecords := hrecords
      providerSampleRate := ⟨hprovider, of_decide_eq_true hprovider'⟩
      providerWindow := ⟨hwindow, of_decide_eq_true hwindow'⟩
      candidates := enabled_iff.mp hcandidates
      comparisons := comparisons_iff.mp hcomparisons }

theorem CanaryConfig.acceptable_default (routes : List String) :
    CanaryConfig.default.Acceptable routes where
  rolloutId := by decide
  known := .inl rfl
  candidate := nofun
  fraction := by decide
  scope := by decide
  named := nofun
  cohort := by decide
  maxRequests := by decide
  window := by decide
  minSamples := by decide
  maxErrorRate := by decide +kernel
  maxLatencyMs := by decide
  maxCostMultiplier := by decide
  maxQualityLoss := by decide +kernel
  rollbackHold := by decide

theorem scope_iff {scope : String} {cohort : Option String} :
    (!(decide (scope = "cohort") && cohort.isNone)) = true ↔
      (scope = "cohort" → cohort.isSome) := by
  by_cases h : scope = "cohort" <;> cases cohort <;> simp [h]

theorem rates_iff {x y : ℚ} :
    (!(decide (1 < x) || decide (1 < y))) = true ↔ x ≤ 1 ∧ y ≤ 1 := by
  simp

theorem policyId_iff {id : String} :
    (decide (id ≠ "") && validPolicyId id) = true ↔ validPolicyId id = true := by
  rw [Bool.and_eq_true, decide_eq_true_iff]
  exact ⟨And.right, fun h => ⟨validPolicyId_ne h, h⟩⟩

theorem known_iff {route : String} {routes : List String} :
    (decide (route = "") || decide (route ∈ routes)) = true ↔ route = "" ∨ route ∈ routes := by
  rw [Bool.or_eq_true, decide_eq_true_iff, decide_eq_true_iff]

theorem ensures_parseCanary {value : Option Value} (routes : IndexMap RoutePreset) :
    Ensures (parseCanary value where_ routes) (CanaryConfig.Acceptable routes.keys) := by
  refine ensures_optionalTable (CanaryConfig.acceptable_default _) fun table => ?_
  refine .bind .trivial fun enabled _ => ?_
  refine .bind (ensures_optionalNonNegativeNumber le_rfl) fun fraction hfraction => ?_
  refine .bind ensures_require fun _ hfraction' => ?_
  refine .bind (ensures_optionalAllowedString (by decide)) fun scope hscope => ?_
  refine .bind ensures_optionalString fun cohort hcohort => ?_
  refine .bind ensures_require fun _ hrollout => ?_
  refine .bind ensures_require fun _ hknown => ?_
  refine .bind ensures_require fun _ hcandidate => ?_
  refine .bind ensures_require fun _ hscope' => ?_
  refine .bind (ensures_optionalPositiveInteger (by decide)) fun requests hrequests => ?_
  refine .bind (ensures_optionalPositiveNumber (by decide)) fun window hwindow => ?_
  refine .bind ensures_require fun _ hwindow' => ?_
  refine .bind (ensures_optionalPositiveInteger (by decide)) fun samples hsamples => ?_
  refine .bind (ensures_optionalNonNegativeNumber (by decide +kernel)) fun errors herrors => ?_
  refine .bind (ensures_optionalPositiveNumber (by decide)) fun latency hlatency => ?_
  refine .bind (ensures_optionalPositiveNumber (by decide)) fun cost hcost => ?_
  refine .bind (ensures_optionalNonNegativeNumber (by decide +kernel)) fun quality hquality => ?_
  refine .bind (ensures_optionalPositiveNumber (by decide)) fun hold hhold => ?_
  refine .bind ensures_require fun _ hrates => ?_
  exact .ok
    { rolloutId := policyId_iff.mp hrollout
      known := known_iff.mp hknown
      candidate := enabled_iff.mp hcandidate
      fraction := ⟨hfraction, of_decide_eq_true hfraction'⟩
      scope := hscope
      named := fun c hc => policyId_iff.mp (hcohort c hc)
      cohort := scope_iff.mp hscope'
      maxRequests := hrequests
      window := ⟨hwindow, of_decide_eq_true hwindow'⟩
      minSamples := hsamples
      maxErrorRate := ⟨herrors, (rates_iff.mp hrates).1⟩
      maxLatencyMs := hlatency
      maxCostMultiplier := hcost
      maxQualityLoss := ⟨hquality, (rates_iff.mp hrates).2⟩
      rollbackHold := hhold }

/-! ## Models -/

structure GatewayDeployment.Acceptable (deployment : GatewayDeployment) : Prop where
  id : deployment.id ≠ "default" ∧ validPolicyId deployment.id
  baseUrl : deployment.baseUrl ≠ ""
  model : deployment.model ≠ ""
  apiKeyEnv : ∀ s ∈ deployment.apiKeyEnv, s ≠ ""
  weight : 0 < deployment.weight ∧ deployment.weight ≤ maxModelDeploymentWeight
  costPer1k : ∀ x ∈ deployment.costPer1k, 0 ≤ x

structure SelectionAcceptable (policy : DeploymentSelectionPolicy) : Prop where
  maxCostPer1k : ∀ x ∈ policy.maxCostPer1k, 0 ≤ x
  observationTtl : 0 < policy.observationTtl ∧ policy.observationTtl ≤ 3600

/-- What a provider demands of the location, the tier and the credentials of a model. -/
def Demands (provider : ProviderKind) (baseUrl : Option String) (model : String)
    (tier : Option ProviderTier) (apiKeyEnv apiKeyCmd : Option String) : Prop :=
  match provider with
  | .openAiCompatible => baseUrl.isSome ∧ tier.isNone
  | .anthropic => baseUrl.isSome ∧ apiKeyEnv.isSome ∧ tier.isNone
  | .appleFoundationModels =>
    baseUrl.isNone ∧ (apiKeyEnv.isNone && apiKeyCmd.isNone) ∧ model = "system-default" ∧
      tier = some .local
  | .codexAppServer => baseUrl.isNone ∧ (apiKeyEnv.isNone && apiKeyCmd.isNone) ∧ tier.isNone

/-- A list of deployments, with different ids. -/
structure DeploymentsAcceptable (deployments : List GatewayDeployment) : Prop where
  count : deployments.length ≤ maxModelDeployments
  each : ∀ deployment ∈ deployments, deployment.Acceptable
  unique : (deployments.map GatewayDeployment.id).Nodup

structure GatewayModel.Acceptable (model : GatewayModel) : Prop where
  baseUrl : ∀ s ∈ model.baseUrl, s ≠ ""
  named : model.model ≠ ""
  apiKeyEnv : ∀ s ∈ model.apiKeyEnv, s ≠ ""
  apiKeyCmd : ∀ s ∈ model.apiKeyCmd, s ≠ ""
  variable_ : model.apiKeyCmd.isSome → model.apiKeyEnv.isSome
  demands : Demands model.provider model.baseUrl model.model model.tier model.apiKeyEnv
    model.apiKeyCmd
  costPer1k : ∀ x ∈ model.costPer1k, 0 ≤ x
  fallbacks : ∀ s ∈ model.fallbacks, s ≠ ""
  contextWindow : ∀ n ∈ model.contextWindow, 0 < n
  deployments : DeploymentsAcceptable model.deployments
  deployed : model.deployments ≠ [] → model.provider = .openAiCompatible
  selection : SelectionAcceptable model.deploymentSelection
  selected : model.deploymentSelection ≠ defaultSelection → model.provider = .openAiCompatible

theorem ensures_parseDeployment {label : String} {ids : List String} {value : Value} :
    Ensures (parseDeployment where_ label ids value) fun deployment =>
      deployment.Acceptable ∧ deployment.id ∉ ids := by
  refine .bind .trivial fun entry _ => ?_
  refine .bind .trivial fun id _ => ?_
  refine .bind ensures_require fun _ hid => ?_
  refine .bind ensures_require fun _ hnew => ?_
  refine .bind ensures_requiredNonEmptyString fun baseUrl hbaseUrl => ?_
  refine .bind ensures_requiredNonEmptyString fun model hmodel => ?_
  refine .bind ensures_optionalNonEmptyString fun env henv => ?_
  refine .bind (ensures_optionalPositiveInteger (by decide)) fun weight hweight => ?_
  refine .bind ensures_require fun _ hweight' => ?_
  refine .bind ensures_optionalNonNegativeFiniteNumber fun cost hcost => ?_
  have hid := Bool.and_eq_true_iff.mp hid
  exact .ok ⟨⟨⟨of_decide_eq_true hid.1, hid.2⟩, hbaseUrl, hmodel, henv,
    ⟨hweight, of_decide_eq_true hweight'⟩, hcost⟩, of_decide_eq_true hnew⟩

theorem ensures_parseDeploymentsFrom {name : String} (index : ℕ) (ids : List String)
    (values : List Value) :
    Ensures (parseDeploymentsFrom where_ name index ids values) fun deployments =>
      deployments.length = values.length ∧ (∀ d ∈ deployments, d.Acceptable) ∧
        (deployments.map GatewayDeployment.id).Nodup ∧ ∀ d ∈ deployments, d.id ∉ ids := by
  induction values generalizing index ids with
  | nil => exact .ok ⟨rfl, nofun, List.nodup_nil, nofun⟩
  | cons value values ih =>
    rw [parseDeploymentsFrom]
    refine .bind ensures_parseDeployment fun first hfirst => ?_
    refine .bind (ih (index + 1) (first.id :: ids)) fun rest hrest => ?_
    obtain ⟨hlength, hall, hunique, hnew⟩ := hrest
    refine .ok ⟨congrArg (· + 1) hlength, List.forall_mem_cons.mpr ⟨hfirst.1, hall⟩, ?_,
      List.forall_mem_cons.mpr ⟨hfirst.2, fun d hd hmem => hnew d hd (List.mem_cons_of_mem _ hmem)⟩⟩
    rw [List.map_cons, List.nodup_cons]
    refine ⟨fun hmem => ?_, hunique⟩
    -- a later deployment is checked against the id of this one
    obtain ⟨d, hd, heq⟩ := List.mem_map.mp hmem
    exact hnew d hd (heq ▸ List.mem_cons_self)

theorem ensures_onlyOpenAiCompatible {α : Type} {value : Option Value} {default : α}
    {label : String} {provider : ProviderKind} {read : Value → Except ConfigError α}
    {p : α → Prop} (hdefault : p default) (hread : ∀ value, Ensures (read value) p) :
    Ensures (onlyOpenAiCompatible value default where_ label provider read) fun a =>
      p a ∧ (a ≠ default → provider = .openAiCompatible) := by
  cases value with
  | none => exact .ok ⟨hdefault, fun h => absurd rfl h⟩
  | some value =>
    refine .bind ensures_require fun _ hprovider => (hread value).mono fun a ha => ⟨ha, fun _ => ?_⟩
    exact of_decide_eq_true hprovider

theorem ensures_parseDeployments {value : Option Value} {name : String} {provider : ProviderKind} :
    Ensures (parseDeployments value where_ name provider) fun deployments =>
      DeploymentsAcceptable deployments ∧ (deployments ≠ [] → provider = .openAiCompatible) := by
  refine ensures_onlyOpenAiCompatible ⟨by decide, nofun, List.nodup_nil⟩ fun value => ?_
  refine .bind .trivial fun entries _ => ?_
  refine .bind ensures_require fun _ hcount => ?_
  refine (ensures_parseDeploymentsFrom 0 [] entries).mono fun deployments h => ?_
  exact ⟨h.1 ▸ of_decide_eq_true hcount, h.2.1, h.2.2.1⟩

theorem acceptable_defaultSelection : SelectionAcceptable defaultSelection :=
  ⟨nofun, by decide⟩

theorem ensures_parseDeploymentSelection {value : Option Value} {name : String}
    {provider : ProviderKind} :
    Ensures (parseDeploymentSelection value where_ name provider) fun policy =>
      SelectionAcceptable policy ∧ (policy ≠ defaultSelection → provider = .openAiCompatible) := by
  refine ensures_onlyOpenAiCompatible acceptable_defaultSelection fun value => ?_
  refine .bind .trivial fun table _ => ?_
  refine .bind .trivial fun strategy _ => ?_
  refine .bind ensures_optionalNonNegativeFiniteNumber fun cost hcost => ?_
  refine .bind .trivial fun ttl _ => ?_
  refine .bind ensures_require fun _ httl => ?_
  have httl := Bool.and_eq_true_iff.mp httl
  exact .ok ⟨hcost, of_decide_eq_true httl.1, of_decide_eq_true httl.2⟩

theorem yields_checkProvider {label : String} {provider : ProviderKind}
    {baseUrl : Option String} {model : String} {tier : Option ProviderTier}
    {apiKeyEnv apiKeyCmd : Option String} :
    Yields (checkProvider where_ label provider baseUrl model tier apiKeyEnv apiKeyCmd) ()
      (Demands provider baseUrl model tier apiKeyEnv apiKeyCmd) := by
  cases provider with
  | openAiCompatible => exact .bind (yields_require _) (yields_require _)
  | anthropic => exact .bind (yields_require _) (.bind (yields_require _) (yields_require _))
  | appleFoundationModels =>
    refine (Yields.bind (yields_require _) (.bind (yields_require _)
      (.bind (yields_require _) (yields_require _)))).iff ?_
    simp only [Demands, decide_eq_true_eq]
  | codexAppServer =>
    exact .bind (yields_require _) (.bind (yields_require _) (yields_require _))

theorem variable_iff {apiKeyEnv apiKeyCmd : Option String} :
    (!(apiKeyCmd.isSome && apiKeyEnv.isNone)) = true ↔ (apiKeyCmd.isSome → apiKeyEnv.isSome) := by
  cases apiKeyEnv <;> cases apiKeyCmd <;> simp

theorem ensures_parseModel {name : String} {value : Value} :
    Ensures (parseModel where_ name value) GatewayModel.Acceptable := by
  refine .bind .trivial fun entry _ => ?_
  refine .bind .trivial fun provider _ => ?_
  refine .bind .trivial fun tier _ => ?_
  refine .bind ensures_optionalNonEmptyString fun baseUrl hbaseUrl => ?_
  refine .bind ensures_requiredNonEmptyString fun model hmodel => ?_
  refine .bind ensures_optionalNonEmptyString fun env henv => ?_
  refine .bind ensures_optionalNonEmptyString fun cmd hcmd => ?_
  refine .bind ensures_require fun _ hvariable => ?_
  refine .bind yields_checkProvider.ensures fun _ hdemands => ?_
  refine .bind ensures_optionalNonNegativeFiniteNumber fun cost hcost => ?_
  refine .bind ensures_optionalNonEmptyStringList fun fallbacks hfallbacks => ?_
  refine .bind ensures_positiveInteger fun contextWindow hwindow => ?_
  refine .bind ensures_parseDeployments fun deployments hdeployments => ?_
  refine .bind ensures_parseDeploymentSelection fun selection hselection => ?_
  exact .ok
    { baseUrl := hbaseUrl
      named := hmodel
      apiKeyEnv := henv
      apiKeyCmd := hcmd
      variable_ := variable_iff.mp hvariable
      demands := hdemands.2
      costPer1k := hcost
      fallbacks := hfallbacks
      contextWindow := hwindow
      deployments := hdeployments.1
      deployed := hdeployments.2
      selection := hselection.1
      selected := hselection.2 }

/-! ## Workspaces, keys, profiles and routes -/

structure Workspace.Acceptable (workspaceId : String) (workspace : Workspace) : Prop where
  id : validPolicyId workspaceId
  models : ∀ s ∈ workspace.models, s ≠ ""
  profile : ∀ s ∈ workspace.profile, s ≠ ""
  budget : ∀ budget ∈ workspace.budget, budget.Acceptable
  rateLimit : ∀ limit ∈ workspace.rateLimit, limit.Acceptable

structure VirtualKey.Acceptable (key : VirtualKey) : Prop where
  hash : isSha256Hex key.hash
  tags : ∀ s ∈ key.tags, s ≠ ""
  workspace : ∀ s ∈ key.workspace, s ≠ ""
  models : ∀ s ∈ key.models, s ≠ ""
  budget : ∀ budget ∈ key.budget, budget.Acceptable
  rateLimit : ∀ limit ∈ key.rateLimit, limit.Acceptable

structure RoutePreset.Acceptable (routeId : String) (route : RoutePreset) : Prop where
  id : validPolicyId routeId
  named : ∀ s ∈ route.models, s ≠ ""
  some : route.models ≠ []
  count : route.models.length ≤ maxRoutePresetModels
  unique : route.models.Nodup

/-- A profile under its name. -/
structure ProfileAcceptable (profileId : String) (profile : RoutingConfig) : Prop where
  id : validPolicyId profileId ∧ profileId ≠ "default"
  routing : profile.Accepted

theorem toAsciiLowercase_toAsciiLowercase (text : String) :
    toAsciiLowercase (toAsciiLowercase text) = toAsciiLowercase text := by
  rw [toAsciiLowercase, toAsciiLowercase, String.toList_ofList, List.map_map]
  exact congrArg String.ofList (List.map_congr_left fun c _ => toLower_toLower c)

theorem utf8Size_toLower (c : Char) : c.toLower.utf8Size = c.utf8Size := by
  by_cases h : 65 ≤ c.toNat ∧ c.toNat ≤ 90
  · have hle : c.toLower.toNat ≤ 127 := by
      rw [toNat_toLower, if_pos h]
      omega
    have hle' : c.toNat ≤ 127 := by omega
    rw [Char.utf8Size_eq_one_iff.mpr hle, Char.utf8Size_eq_one_iff.mpr hle']
  · have hsame : c.toLower = c := by
      apply Char.toNat_inj.mp
      rw [toNat_toLower, if_neg h]
    rw [hsame]

theorem length_utf8_toLower (l : List Char) :
    (utf8 (l.map Char.toLower)).length = (utf8 l).length := by
  induction l with
  | nil => rfl
  | cons c l ih =>
    simp only [utf8, List.map_cons, List.flatMap_cons, List.length_append,
      String.length_utf8EncodeChar, utf8Size_toLower] at ih ⊢
    rw [ih]

/-- The digits of a digest, by their numbers. -/
theorem isHex_iff (c : Char) :
    (c.isDigit || ('a' ≤ c && c ≤ 'f') || ('A' ≤ c && c ≤ 'F')) = true ↔
      (48 ≤ c.toNat ∧ c.toNat ≤ 57) ∨ (97 ≤ c.toNat ∧ c.toNat ≤ 102) ∨
        (65 ≤ c.toNat ∧ c.toNat ≤ 70) := by
  simp only [Char.isDigit, Bool.or_eq_true, Bool.and_eq_true, decide_eq_true_eq, Char.le_def,
    UInt32.le_iff_toNat_le, ge_iff_le, or_assoc]
  rfl

theorem isSha256Hex_toAsciiLowercase {hash : String} :
    isSha256Hex (toAsciiLowercase hash) = isSha256Hex hash := by
  have hsize : (toAsciiLowercase hash).utf8ByteSize = hash.utf8ByteSize := by
    rw [toAsciiLowercase, utf8ByteSize_ofList, length_utf8_toLower, ← utf8ByteSize_ofList,
      String.ofList_toList]
  have hdigit : ∀ c : Char, (c.toLower.isDigit || ('a' ≤ c.toLower && c.toLower ≤ 'f') ||
      ('A' ≤ c.toLower && c.toLower ≤ 'F')) =
        (c.isDigit || ('a' ≤ c && c ≤ 'f') || ('A' ≤ c && c ≤ 'F')) := by
    intro c
    rw [Bool.eq_iff_iff, isHex_iff, isHex_iff, toNat_toLower]
    split <;> omega
  rw [isSha256Hex, isSha256Hex, hsize, toAsciiLowercase, String.toList_ofList, List.all_map]
  exact congrArg _ (List.all_congr rfl hdigit)

theorem ensures_parseKey {keyId : String} {value : Value} :
    Ensures (parseKey where_ keyId value) fun key =>
      key.Acceptable ∧ toAsciiLowercase key.hash = key.hash := by
  refine .bind .trivial fun entry _ => ?_
  refine .bind ensures_okOr fun hash hhash => ?_
  refine .bind ensures_optionalNonEmptyStringList fun tags htags => ?_
  refine .bind ensures_optionalNonEmptyString fun workspace hworkspace => ?_
  refine .bind ensures_optionalNonEmptyStringList fun models hmodels => ?_
  refine .bind ensures_parseBudget fun budget hbudget => ?_
  refine .bind ensures_parseRateLimit fun limit hlimit => ?_
  have hhex := (Option.filter_eq_some_iff.mp hhash).2
  exact .ok ⟨⟨isSha256Hex_toAsciiLowercase.trans hhex, htags, hworkspace, hmodels, hbudget, hlimit⟩,
    toAsciiLowercase_toAsciiLowercase hash⟩

theorem ensures_parseWorkspace {workspaceId : String} {value : Value} :
    Ensures (parseWorkspace where_ workspaceId value) (Workspace.Acceptable workspaceId) := by
  refine .bind ensures_require fun _ hid => ?_
  refine .bind .trivial fun entry _ => ?_
  refine .bind ensures_optionalNonEmptyStringList fun models hmodels => ?_
  refine .bind ensures_optionalNonEmptyString fun profile hprofile => ?_
  refine .bind ensures_parseBudget fun budget hbudget => ?_
  refine .bind ensures_parseRateLimit fun limit hlimit => ?_
  exact .ok ⟨hid, hmodels, hprofile, hbudget, hlimit⟩

theorem ensures_parseProfile {lib : Library} {profileId : String} {value : Value} :
    Ensures (parseProfile lib where_ profileId value) (ProfileAcceptable profileId) := by
  refine .bind ensures_require fun _ hid => ?_
  refine .bind .trivial fun entry _ => ?_
  refine .bind .trivial fun _ _ => ?_
  refine .bind .trivial fun routingToml _ => ?_
  refine .bind .trivial fun _ _ profile hprofile => ?_
  have hid := Bool.and_eq_true_iff.mp hid
  exact ⟨⟨hid.1, of_decide_eq_true hid.2⟩, of_routingConfigFromToml hprofile⟩

theorem ensures_parseRoute {routeId : String} {value : Value} :
    Ensures (parseRoute where_ routeId value) (RoutePreset.Acceptable routeId) := by
  refine .bind ensures_require fun _ hid => ?_
  refine .bind .trivial fun entry _ => ?_
  refine .bind ensures_optionalNonEmptyStringList fun models hmodels => ?_
  refine .bind ensures_require fun _ hsome => ?_
  refine .bind ensures_require fun _ hcount => ?_
  refine .bind ensures_require fun _ hunique => ?_
  exact .ok ⟨hid, hmodels, of_decide_eq_true hsome, of_decide_eq_true hcount,
    of_decide_eq_true hunique⟩

/-! ## References -/

/-- Every name in the configuration refers to something. A key uses no model that its workspace
does not allow. -/
structure GatewayConfig.References (config : GatewayConfig) : Prop where
  fallbacks : ∀ e ∈ config.models.entries, ∀ fallback ∈ e.2.fallbacks,
    fallback ∈ config.models.keys ∧ fallback ≠ e.1
  workspaceModels : ∀ e ∈ config.workspaces.entries, ∀ model ∈ e.2.models,
    model ∈ config.models.keys
  workspaceProfiles : ∀ e ∈ config.workspaces.entries, ∀ profile ∈ e.2.profile,
    profile ∈ config.profiles.keys
  routeModels : ∀ e ∈ config.routes.entries, ∀ model ∈ e.2.models, model ∈ config.models.keys
  keyWorkspaces : ∀ e ∈ config.keys.entries, ∀ workspace ∈ e.2.workspace,
    workspace ∈ config.workspaces.keys
  keyModels : ∀ e ∈ config.keys.entries, ∀ model ∈ e.2.models, model ∈ config.models.keys ∧
    workspacePermits (e.2.workspace.bind config.workspaces.get) model

section References

variable (models : IndexMap GatewayModel)

theorem yields_checkModels (label : String) (names : List String) :
    Yields (checkModels models where_ label names) () (∀ name ∈ names, name ∈ models.keys) :=
  .forM names fun _ _ => (yields_require _).iff decide_eq_true_iff

theorem yields_validateModelFallbacks :
    Yields (validateModelFallbacks models where_) () (∀ e ∈ models.entries,
      ∀ fallback ∈ e.2.fallbacks, fallback ∈ models.keys ∧ fallback ≠ e.1) := by
  refine .forM _ fun e _ => .forM _ fun fallback _ => ?_
  refine (Yields.bind (yields_require _) (yields_require _)).iff ?_
  rw [decide_eq_true_iff, decide_eq_true_iff]

theorem yields_validateWorkspaceModels (workspaces : IndexMap Workspace) :
    Yields (validateWorkspaceModels models where_ workspaces) ()
      (∀ e ∈ workspaces.entries, ∀ model ∈ e.2.models, model ∈ models.keys) :=
  .forM _ fun e _ => yields_checkModels models _ e.2.models

theorem yields_validateRoutePresets (routes : IndexMap RoutePreset) :
    Yields (validateRoutePresets models where_ routes) ()
      (∀ e ∈ routes.entries, ∀ model ∈ e.2.models, model ∈ models.keys) :=
  .forM _ fun e _ => yields_checkModels models _ e.2.models

theorem yields_validateWorkspaceProfiles (workspaces : IndexMap Workspace)
    (profiles : IndexMap RoutingConfig) :
    Yields (validateWorkspaceProfiles where_ workspaces profiles) ()
      (∀ e ∈ workspaces.entries, ∀ profile ∈ e.2.profile, profile ∈ profiles.keys) := by
  refine .forM _ fun e _ => ?_
  refine (Yields.forM (c := (· ∈ profiles.keys)) e.2.profile.toList fun profile _ => ?_).iff
    (by simp)
  exact (yields_require _).iff decide_eq_true_iff

theorem yields_keyWorkspace (workspaces : IndexMap Workspace) (keyId : String) (key : VirtualKey) :
    Yields (keyWorkspace where_ workspaces keyId key) (key.workspace.bind workspaces.get)
      (∀ workspace ∈ key.workspace, workspace ∈ workspaces.keys) := by
  unfold keyWorkspace
  cases key.workspace with
  | none => exact (Yields.ok none).iff (by simp)
  | some workspaceId =>
    simp only [Option.bind_some, Option.mem_def, Option.some.injEq, forall_eq',
      IndexMap.mem_keys_iff]
    intro workspace
    rw [map_eq_ok]
    constructor
    · rintro ⟨found, hfound, rfl⟩
      rw [okOr_eq_ok] at hfound
      exact ⟨hfound.symm, by rw [hfound]; rfl⟩
    · rintro ⟨rfl, hsome⟩
      obtain ⟨found, hfound⟩ := Option.isSome_iff_exists.mp hsome
      exact ⟨found, okOr_eq_ok.mpr hfound, hfound.symm⟩

theorem yields_validateKeys (keys : IndexMap VirtualKey) (workspaces : IndexMap Workspace) :
    Yields (validateKeys models where_ keys workspaces) () (∀ e ∈ keys.entries,
      (∀ workspace ∈ e.2.workspace, workspace ∈ workspaces.keys) ∧ ∀ model ∈ e.2.models,
        model ∈ models.keys ∧ workspacePermits (e.2.workspace.bind workspaces.get) model) := by
  refine .forM _ fun e _ => .bind (yields_keyWorkspace workspaces e.1 e.2) ?_
  refine .forM _ fun model _ => ?_
  exact (Yields.bind (yields_require _) (yields_require _)).iff
    (and_congr_left' decide_eq_true_iff)

end References

theorem yields_validateReferences (config : GatewayConfig) :
    Yields (validateReferences where_ config) () config.References := by
  refine (Yields.bind (yields_validateModelFallbacks _) (.bind (yields_validateWorkspaceModels _ _)
    (.bind (yields_validateWorkspaceProfiles _ _) (.bind (yields_validateRoutePresets _ _)
      (yields_validateKeys _ _ _))))).iff ?_
  constructor
  · rintro ⟨hfallbacks, hmodels, hprofiles, hroutes, hkeys⟩
    exact ⟨hfallbacks, hmodels, hprofiles, hroutes, fun e he => (hkeys e he).1,
      fun e he => (hkeys e he).2⟩
  · intro h
    exact ⟨h.fallbacks, h.workspaceModels, h.workspaceProfiles, h.routeModels,
      fun e he => ⟨h.keyWorkspaces e he, h.keyModels e he⟩⟩

/-! ## Configurations -/

/-- What every setting of a configuration meets by itself. -/
structure GatewayConfig.Settings (config : GatewayConfig) : Prop where
  authenticated : config.allowUnauthenticatedDefault = false
  routeOn : config.routeOn ∈ ["turn", "last_user", "user", "all"]
  breakerThreshold : 0 < config.breakerThreshold
  breakerCooldown : 0 ≤ config.breakerCooldown
  failover : config.failover ∈ ["same-tier", "degrade", "escalate"]
  budget : ∀ budget ∈ config.budget, budget.Acceptable
  cache : ∀ cache ∈ config.cache, cache.Acceptable
  rateLimit : ∀ limit ∈ config.rateLimit, limit.Acceptable
  concurrency : config.concurrency.Acceptable
  state : config.state.Acceptable
  shared : config.cache.any (fun cache => cache.backend = "redis") → config.state.backend = "redis"
  auth : config.auth.Acceptable
  workspaces : ∀ e ∈ config.workspaces.entries, e.2.Acceptable e.1
  profileCount : config.profiles.entries.length ≤ maxRoutingProfiles
  profiles : ∀ e ∈ config.profiles.entries, ProfileAcceptable e.1 e.2
  keys : ∀ e ∈ config.keys.entries, e.2.Acceptable
  models : ∀ e ∈ config.models.entries, e.2.Acceptable
  routeCount : config.routes.entries.length ≤ maxRoutePresets
  routes : ∀ e ∈ config.routes.entries, e.2.Acceptable e.1
  shadow : config.shadow.Acceptable config.routes.keys
  canary : config.canary.Acceptable config.routes.keys

/-- What every configuration that was read meets. -/
structure GatewayConfig.Accepted (config : GatewayConfig) : Prop extends
  config.Settings, config.References

theorem shared_iff {redis : Bool} {backend : String} :
    (!redis || decide (backend = "redis")) = true ↔ (redis = true → backend = "redis") := by
  cases redis <;> simp

theorem ensures_readGateway {lib : Library} {gateway : Table} :
    Ensures (readGateway lib gateway where_) fun config =>
      config.Settings ∧ ∀ e ∈ config.keys.entries, toAsciiLowercase e.2.hash = e.2.hash := by
  refine .bind (ensures_optionalAllowedString (by decide)) fun routeOn hrouteOn => ?_
  refine .bind .trivial fun sticky _ => ?_
  refine .bind .trivial fun stickyCooldown _ => ?_
  refine .bind .trivial fun slashDirectives _ => ?_
  refine .bind .trivial fun offline _ => ?_
  refine .bind .trivial fun retries _ => ?_
  refine .bind (ensures_optionalPositiveInteger (by decide)) fun threshold hthreshold => ?_
  refine .bind (ensures_optionalNonNegativeNumber (by decide)) fun cooldown hcooldown => ?_
  refine .bind (ensures_optionalAllowedString (by decide)) fun failover hfailover => ?_
  refine .bind ensures_parseBudget fun budget hbudget => ?_
  refine .bind ensures_parseCache fun cache hcache => ?_
  refine .bind ensures_parseRateLimit fun rateLimit hrateLimit => ?_
  refine .bind ensures_parseConcurrency fun concurrency hconcurrency => ?_
  refine .bind ensures_parseState fun state hstate => ?_
  refine .bind ensures_require fun _ hshared => ?_
  refine .bind ensures_parseAuth fun auth hauth => ?_
  refine .bind (ensures_tableMap (b := fun _ => True) True.intro (fun _ _ _ => id)
    (fun _ => .trivial) fun _ _ => ensures_parseWorkspace) fun workspaces hworkspaces => ?_
  refine .bind (ensures_tableMap (b := (· ≤ maxRoutingProfiles)) (Nat.zero_le _)
    (fun _ _ => le_trans) (fun _ => ensures_require.mono fun _ => of_decide_eq_true)
    fun _ _ => ensures_parseProfile) fun profiles hprofiles => ?_
  refine .bind (ensures_tableMap (b := fun _ => True) True.intro (fun _ _ _ => id)
    (fun _ => .trivial) fun _ _ => ensures_parseKey) fun keys hkeys => ?_
  refine .bind (ensures_tableMap (b := fun _ => True) True.intro (fun _ _ _ => id)
    (fun _ => .trivial) fun _ _ => ensures_parseModel) fun models hmodels => ?_
  refine .bind (ensures_tableMap (b := (· ≤ maxRoutePresets)) (Nat.zero_le _)
    (fun _ _ => le_trans) (fun _ => ensures_require.mono fun _ => of_decide_eq_true)
    fun _ _ => ensures_parseRoute) fun routes hroutes => ?_
  refine .bind (ensures_parseShadow routes) fun shadow hshadow => ?_
  refine .bind (ensures_parseCanary routes) fun canary hcanary => ?_
  refine .ok ⟨?_, fun e he => (hkeys.2 e he).2⟩
  exact
    { authenticated := rfl
      routeOn := hrouteOn
      breakerThreshold := hthreshold
      breakerCooldown := hcooldown
      failover := hfailover
      budget := hbudget
      cache := hcache
      rateLimit := hrateLimit
      concurrency := hconcurrency
      state := hstate
      shared := shared_iff.mp hshared
      auth := hauth
      workspaces := hworkspaces.2
      profileCount := hprofiles.1
      profiles := hprofiles.2
      keys := fun e he => (hkeys.2 e he).1
      models := hmodels.2
      routeCount := hroutes.1
      routes := hroutes.2
      shadow := hshadow
      canary := hcanary }

/-- A configuration that was read is accepted. -/
theorem ensures_gatewayConfigFromToml {lib : Library} {text : String} :
    Ensures (gatewayConfigFromToml lib text where_) fun config =>
      config.Accepted ∧ ∀ e ∈ config.keys.entries, toAsciiLowercase e.2.hash = e.2.hash := by
  have htable : ∀ gateway, Ensures (gatewayConfigFromTable lib gateway where_) fun config =>
      config.Accepted ∧ ∀ e ∈ config.keys.entries, toAsciiLowercase e.2.hash = e.2.hash := by
    intro gateway
    refine .bind ensures_readGateway fun config hconfig => ?_
    refine .bind (yields_validateReferences config).ensures fun _ hreferences => ?_
    exact .ok ⟨⟨hconfig.1, hreferences.2⟩, hconfig.2⟩
  unfold gatewayConfigFromToml
  split
  · exact .error _
  · refine .bind .trivial fun root _ => ?_
    split
    · -- a document without the table is read as an empty one
      exact fun config h => htable [] config h
    · exact .bind .trivial fun gateway _ => htable gateway

end WayfinderRouter.Config
