import WayfinderRouter.Config.Accepted
import WayfinderRouter.Config.Dump

/-!
# Reading back a gateway configuration

Writing a configuration succeeds exactly when the configuration with its numbers rounded is
acceptable, and reading the text gives that configuration.

## Main definitions

- `GatewayConfig.rounded` — the configuration with rounded numbers
- `GatewayConfig.Writable` — what can be read back

## Main results

- `gateway_dump_exact` — when a configuration is written, and what is read back
- `gateway_survives_iff` — which accepted configurations are read back as they were
- `gateway_accepted` — what a configuration that was read meets
-/

namespace WayfinderRouter.Config

open Toml
open Gateway (ProviderKind ProviderTier DeploymentSelectionStrategy DeploymentSelectionPolicy)

variable {value : Option Value} {where_ : String}

/-! ## Settings -/

def Budget.rounded (budget : Budget) : Budget := { budget with limit := written budget.limit }

def CacheConfig.rounded (cache : CacheConfig) : CacheConfig :=
  { cache with ttl := written cache.ttl }

def RateLimit.rounded (limit : RateLimit) : RateLimit :=
  { limit with window := written limit.window }

def ConcurrencyConfig.rounded (concurrency : ConcurrencyConfig) : ConcurrencyConfig :=
  { concurrency with queueTimeout := written concurrency.queueTimeout }

def ShadowConfig.rounded (shadow : ShadowConfig) : ShadowConfig :=
  { shadow with
    sampleRate := written shadow.sampleRate
    providerSampleRate := written shadow.providerSampleRate
    providerWindow := written shadow.providerWindow }

def CanaryConfig.rounded (canary : CanaryConfig) : CanaryConfig :=
  { canary with
    fraction := written canary.fraction
    window := written canary.window
    maxErrorRate := written canary.maxErrorRate
    maxLatencyMs := written canary.maxLatencyMs
    maxCostMultiplier := written canary.maxCostMultiplier
    maxQualityLoss := written canary.maxQualityLoss
    rollbackHold := written canary.rollbackHold }

theorem yields_parseBudget {o : Option Budget}
    (h : value = o.map fun budget => .table (budgetFields budget).entries) :
    Yields (parseBudget value where_) (o.map Budget.rounded)
      (∀ budget ∈ o.map Budget.rounded, budget.Acceptable) := by
  refine yields_optionTable h fun budget _ => ?_
  have hlookup := lookup_entries (distinct_budgetFields budget).keys
  refine .step (yields_numberWhere (hlookup "limit")) (fun h => decide_eq_true h.limit)
    fun hlimit => ?_
  refine .step (yields_optionalAllowedString (by decide) (hlookup "window")) (fun h => h.window)
    fun hwindow => ?_
  refine .step (yields_optionalAllowedString (by decide) (hlookup "on_breach"))
    (fun h => h.onBreach) fun honBreach => ?_
  exact .done ⟨of_decide_eq_true hlimit, hwindow, honBreach⟩

theorem yields_parseCache {o : Option CacheConfig}
    (h : value = o.map fun cache => .table (cacheFields cache).entries) :
    Yields (parseCache value where_) (o.map CacheConfig.rounded)
      (∀ cache ∈ o.map CacheConfig.rounded, cache.Acceptable) := by
  refine yields_optionTable h fun cache _ => ?_
  have hlookup := lookup_entries (distinct_cacheFields cache).keys
  refine .step (yields_optionalAllowedString (by decide) (hlookup "backend")) (fun h => h.backend)
    fun hbackend => ?_
  refine .step (yields_writtenBool (hlookup "enabled")) (fun _ => trivial) fun _ => ?_
  refine .step (yields_optionalNonNegativeNumber (by decide) (by decide +kernel) (hlookup "ttl"))
    (fun h => h.ttl) fun httl => ?_
  refine .step (yields_optionalPositiveInteger (by decide) (hlookup "max_entries"))
    (fun h => h.maxEntries) fun hentries => ?_
  refine .step (yields_optionalPositiveInteger (by decide) (hlookup "max_bytes"))
    (fun h => h.maxBytes) fun hbytes => ?_
  exact .done ⟨hbackend, httl, hentries, hbytes⟩

theorem yields_parseRateLimit {o : Option RateLimit}
    (h : value = o.map fun limit => .table (rateLimitFields limit).entries) :
    Yields (parseRateLimit value where_) (o.map RateLimit.rounded)
      (∀ limit ∈ o.map RateLimit.rounded, limit.Acceptable) := by
  refine yields_optionTable h fun limit _ => ?_
  have hlookup := lookup_entries (distinct_rateLimitFields limit).keys
  refine .step (yields_positiveInteger (hlookup "rpm")) (fun h => h.rpm) fun hrpm => ?_
  refine .step (yields_positiveInteger (hlookup "tpm")) (fun h => h.tpm) fun htpm => ?_
  refine .step (yields_require _) (fun h => h.limited) fun hlimited => ?_
  refine .step (yields_optionalPositiveNumber (by decide) (by decide +kernel) (hlookup "window"))
    (fun h => h.window) fun hwindow => ?_
  exact .done ⟨hrpm, htpm, hlimited, hwindow⟩

theorem yields_parseConcurrency {concurrency : ConcurrencyConfig}
    (h : value = omitIf (concurrency = .default) (.table (concurrencyFields concurrency).entries)) :
    Yields (parseConcurrency value where_) concurrency.rounded concurrency.rounded.Acceptable := by
  refine yields_omittedTable h (fun hdefault => ?_) ?_
  · rw [of_decide_eq_true hdefault]
    have hkept : ConcurrencyConfig.default.rounded = .default := by decide +kernel
    exact ⟨hkept, hkept.symm ▸ ConcurrencyConfig.acceptable_default⟩
  have hlookup := lookup_entries (distinct_concurrencyFields concurrency).keys
  refine .step (yields_optionalPositiveInteger (by decide) (hlookup "max_in_flight"))
    (fun h => h.maxInFlight) fun hmaxInFlight => ?_
  refine .step (yields_optionalNonNegativeInteger (hlookup "max_queued")) (fun _ => trivial)
    fun _ => ?_
  refine .step (yields_optionalPositiveNumber (by decide) (by decide +kernel)
    (hlookup "queue_timeout")) (fun h => h.queueTimeout) fun htimeout => ?_
  exact .done ⟨hmaxInFlight, htimeout⟩

/-- The text that is written, unless it is the default. -/
def keptText (text default : String) : Option String := if text = default then none else some text

theorem omitIf_eq_keptText (text default : String) :
    omitIf (text = default) (.string text) = (keptText text default).map .string := by
  unfold omitIf keptText
  by_cases h : text = default <;> simp [h]

theorem getD_keptText (text default : String) : (keptText text default).getD default = text := by
  unfold keptText
  by_cases h : text = default <;> simp [h]

theorem keptText_ne {text default : String} (h : text ≠ "") :
    ∀ s ∈ keptText text default, s ≠ "" := by
  intro s hs
  unfold keptText at hs
  split at hs
  · cases hs
  · cases hs
    exact h

theorem yields_parseState {state : StateConfig}
    (h : value = omitIf (state = .default) (.table (stateFields state).entries)) :
    Yields (parseState value where_) state state.Acceptable := by
  refine yields_omittedTable h (fun hdefault => ?_) ?_
  · rw [of_decide_eq_true hdefault]
    exact ⟨rfl, StateConfig.acceptable_default⟩
  have hlookup := lookup_entries (distinct_stateFields state).keys
  have hname : (stateFields state).entries.lookup "namespace" =
      (keptText state.namespace_ "wayfinder").map .string :=
    (hlookup "namespace").trans (omitIf_eq_keptText _ _)
  refine .step (yields_optionalAllowedString (by decide) (hlookup "backend")) (fun h => h.backend)
    fun hbackend => ?_
  refine .step (yields_optionalNonEmptyString (hlookup "url")) (fun h => h.named) fun hurl => ?_
  refine .step (yields_optionalNonEmptyString hname)
    (fun h => keptText_ne (validPolicyId_ne h.namespace_)) fun _ => ?_
  rw [getD_keptText]
  refine .step (yields_require _) (fun h => h.namespace_) fun hnamespace => ?_
  refine .step (yields_require _) (fun h => ((url_iff hbackend).mpr h.url).1) fun hredis => ?_
  refine .step (yields_require _) (fun h => ((url_iff hbackend).mpr h.url).2) fun hmemory => ?_
  exact .done ⟨hbackend, hurl, hnamespace, (url_iff hbackend).mp ⟨hredis, hmemory⟩⟩

theorem yields_parseAuth {auth : GatewayAuthConfig}
    (h : value = omitIf (auth = .default) (.table (authFields auth).entries)) :
    Yields (parseAuth value where_) auth auth.Acceptable := by
  refine yields_omittedTable h (fun hdefault => ?_) ?_
  · rw [of_decide_eq_true hdefault]
    exact ⟨rfl, GatewayAuthConfig.acceptable_default⟩
  have hlookup := lookup_entries (distinct_authFields auth).keys
  have hclaim : (authFields auth).entries.lookup "admin_claim" =
      (keptText auth.adminClaim "admin").map .string :=
    (hlookup "admin_claim").trans (omitIf_eq_keptText _ _)
  refine .step (yields_optionalAllowedString (by decide) (hlookup "mode")) (fun h => h.mode)
    fun hmode => ?_
  refine .step (yields_optionalNonEmptyString (hlookup "issuer")) (fun h => h.issuer)
    fun hissuer => ?_
  refine .step (yields_optionalNonEmptyString (hlookup "audience")) (fun h => h.audience)
    fun haudience => ?_
  refine .step (yields_optionalNonEmptyString (hlookup "jwks_url")) (fun h => h.jwksUrl)
    fun hjwksUrl => ?_
  refine .step (yields_optionalNonEmptyString hclaim)
    (fun h => keptText_ne (validPolicyId_ne h.adminClaim)) fun _ => ?_
  rw [getD_keptText]
  refine .step (yields_require _) (fun h => h.adminClaim) fun hadminClaim => ?_
  refine .step (yields_require _) (fun h => (discovery_iff hmode).mpr h.discovery)
    fun hdiscovery => ?_
  exact .done ⟨hmode, hissuer, haudience, hjwksUrl, hadminClaim,
    (discovery_iff hmode).mp hdiscovery⟩

theorem yields_parseShadow {shadow : ShadowConfig} (routes : IndexMap RoutePreset)
    (h : value = omitIf (shadow = .default) (.table (shadowFields shadow).entries)) :
    Yields (parseShadow value where_ routes) shadow.rounded
      (shadow.rounded.Acceptable routes.keys) := by
  refine yields_omittedTable h (fun hdefault => ?_) ?_
  · rw [of_decide_eq_true hdefault]
    have hkept : ShadowConfig.default.rounded = .default := by decide +kernel
    exact ⟨hkept, hkept.symm ▸ ShadowConfig.acceptable_default _⟩
  have hlookup := lookup_entries (distinct_shadowFields shadow).keys
  refine .step (yields_optionalBool (hlookup "enabled")) (fun _ => trivial) fun _ => ?_
  refine .step (yields_optionalNonNegativeNumber le_rfl (by decide +kernel)
    (hlookup "sample_rate")) (fun h => h.sampleRate.1) fun hrate => ?_
  refine .step (yields_require _) (fun h => decide_eq_true h.sampleRate.2) fun hrate' => ?_
  refine .step (yields_optionalNonEmptyStringList (hlookup "candidate_routes"))
    (fun h => h.named) fun hnamed => ?_
  refine .step (yields_require _) (fun h => decide_eq_true h.count) fun hcount => ?_
  refine .step (yields_checkCandidateRoutes routes _ [])
    (fun h => ⟨fun _ _ => List.not_mem_nil, h.unique, h.known⟩) fun hknown => ?_
  refine .step (yields_optionalPositiveInteger (by decide) (hlookup "max_in_flight"))
    (fun h => h.maxInFlight) fun hinFlight => ?_
  refine .step (yields_optionalPositiveInteger (by decide) (hlookup "max_records"))
    (fun h => h.maxRecords) fun hrecords => ?_
  refine .step (yields_optionalBool (hlookup "provider_comparisons")) (fun _ => trivial)
    fun _ => ?_
  refine .step (yields_optionalNonNegativeNumber le_rfl (by decide +kernel)
    (hlookup "provider_sample_rate")) (fun h => h.providerSampleRate.1) fun hprovider => ?_
  refine .step (yields_require _) (fun h => decide_eq_true h.providerSampleRate.2)
    fun hprovider' => ?_
  refine .step (yields_optionalNonNegativeInteger (hlookup "provider_max_requests"))
    (fun _ => trivial) fun _ => ?_
  refine .step (yields_optionalPositiveNumber (by decide) (by decide +kernel)
    (hlookup "provider_window")) (fun h => h.providerWindow.1) fun hwindow => ?_
  refine .step (yields_require _) (fun h => decide_eq_true h.providerWindow.2) fun hwindow' => ?_
  refine .step (yields_require _) (fun h => enabled_iff.mpr h.candidates) fun hcandidates => ?_
  refine .step (yields_require _) (fun h => comparisons_iff.mpr h.comparisons)
    fun hcomparisons => ?_
  exact .done
    { sampleRate := ⟨hrate, of_decide_eq_true hrate'⟩
      named := hnamed
      count := of_decide_eq_true hcount
      unique := hknown.2.1
      known := hknown.2.2
      maxInFlight := hinFlight
      maxRecords := hrecords
      providerSampleRate := ⟨hprovider, of_decide_eq_true hprovider'⟩
      providerWindow := ⟨hwindow, of_decide_eq_true hwindow'⟩
      candidates := enabled_iff.mp hcandidates
      comparisons := comparisons_iff.mp hcomparisons }

theorem yields_parseCanary {canary : CanaryConfig} (routes : IndexMap RoutePreset)
    (h : value = omitIf (canary = .default) (.table (canaryFields canary).entries)) :
    Yields (parseCanary value where_ routes) canary.rounded
      (canary.rounded.Acceptable routes.keys) := by
  refine yields_omittedTable h (fun hdefault => ?_) ?_
  · rw [of_decide_eq_true hdefault]
    have hkept : CanaryConfig.default.rounded = .default := by decide +kernel
    exact ⟨hkept, hkept.symm ▸ CanaryConfig.acceptable_default _⟩
  have hlookup := lookup_entries (distinct_canaryFields canary).keys
  have htext : ∀ o : Option String, (o.map Value.string).bind Value.asStr = o := by
    intro o
    cases o <;> rfl
  have hrollout : (((canaryFields canary).entries.lookup "rollout_id").bind
      Value.asStr).getD "default" = canary.rolloutId := by
    rw [(hlookup "rollout_id").trans (omitIf_eq_keptText _ _), htext, getD_keptText]
  have hcandidate : (((canaryFields canary).entries.lookup "candidate_route").bind
      Value.asStr).getD "" = canary.candidateRoute := by
    rw [(hlookup "candidate_route").trans (omitIf_eq_keptText _ _), htext, getD_keptText]
  unfold readCanary
  rw [hrollout, hcandidate]
  refine .step (yields_optionalBool (hlookup "enabled")) (fun _ => trivial) fun _ => ?_
  refine .step (yields_optionalNonNegativeNumber le_rfl (by decide +kernel) (hlookup "fraction"))
    (fun h => h.fraction.1) fun hfraction => ?_
  refine .step (yields_require _) (fun h => decide_eq_true h.fraction.2) fun hfraction' => ?_
  refine .step (yields_optionalAllowedString (by decide) (hlookup "scope")) (fun h => h.scope)
    fun hscope => ?_
  refine .step (yields_optionalString (hlookup "cohort"))
    (fun h c hc => policyId_iff.mpr (h.named c hc)) fun hcohort => ?_
  refine .step (yields_require _) (fun h => policyId_iff.mpr h.rolloutId) fun hrolloutId => ?_
  refine .step (yields_require _) (fun h => known_iff.mpr h.known) fun hknown => ?_
  refine .step (yields_require _) (fun h => enabled_iff.mpr h.candidate) fun hcandidate' => ?_
  refine .step (yields_require _) (fun h => scope_iff.mpr h.cohort) fun hscope' => ?_
  refine .step (yields_optionalPositiveInteger (by decide) (hlookup "max_requests"))
    (fun h => h.maxRequests) fun hrequests => ?_
  refine .step (yields_optionalPositiveNumber (by decide) (by decide +kernel) (hlookup "window"))
    (fun h => h.window.1) fun hwindow => ?_
  refine .step (yields_require _) (fun h => decide_eq_true h.window.2) fun hwindow' => ?_
  refine .step (yields_optionalPositiveInteger (by decide) (hlookup "min_samples"))
    (fun h => h.minSamples) fun hsamples => ?_
  refine .step (yields_optionalNonNegativeNumber (by decide +kernel) (by decide +kernel)
    (hlookup "max_error_rate")) (fun h => h.maxErrorRate.1) fun herrors => ?_
  refine .step (yields_optionalPositiveNumber (by decide) (by decide +kernel)
    (hlookup "max_latency_ms")) (fun h => h.maxLatencyMs) fun hlatency => ?_
  refine .step (yields_optionalPositiveNumber (by decide) (by decide +kernel)
    (hlookup "max_cost_multiplier")) (fun h => h.maxCostMultiplier) fun hcost => ?_
  refine .step (yields_optionalNonNegativeNumber (by decide +kernel) (by decide +kernel)
    (hlookup "max_quality_loss")) (fun h => h.maxQualityLoss.1) fun hquality => ?_
  refine .step (yields_optionalPositiveNumber (by decide) (by decide +kernel)
    (hlookup "rollback_hold")) (fun h => h.rollbackHold) fun hhold => ?_
  refine .step (yields_require _) (fun h => rates_iff.mpr ⟨h.maxErrorRate.2, h.maxQualityLoss.2⟩)
    fun hrates => ?_
  exact .done
    { rolloutId := policyId_iff.mp hrolloutId
      known := known_iff.mp hknown
      candidate := enabled_iff.mp hcandidate'
      fraction := ⟨hfraction, of_decide_eq_true hfraction'⟩
      scope := hscope
      named := fun c hc => policyId_iff.mp (hcohort c hc)
      cohort := scope_iff.mp hscope'
      maxRequests := hrequests
      window := ⟨hwindow, of_decide_eq_true hwindow'⟩
      minSamples := hsamples
      maxErrorRate := ⟨herrors, (rates_iff.mp hrates).1⟩
      maxLatencyMs := hlatency
      maxCostMultiplier := hcost
      maxQualityLoss := ⟨hquality, (rates_iff.mp hrates).2⟩
      rollbackHold := hhold }

/-! ## Models -/

def GatewayDeployment.rounded (deployment : GatewayDeployment) : GatewayDeployment :=
  { deployment with costPer1k := deployment.costPer1k.map written }

def roundedSelection (policy : DeploymentSelectionPolicy) : DeploymentSelectionPolicy :=
  { policy with
    maxCostPer1k := policy.maxCostPer1k.map written
    observationTtl := written policy.observationTtl }

def GatewayModel.rounded (model : GatewayModel) : GatewayModel :=
  { model with
    costPer1k := model.costPer1k.map written
    deployments := model.deployments.map GatewayDeployment.rounded
    deploymentSelection := roundedSelection model.deploymentSelection }

theorem yields_parseDeployment {label : String} {ids : List String}
    (deployment : GatewayDeployment) :
    Yields (parseDeployment where_ label ids (.table (deploymentFields deployment).entries))
      deployment.rounded (deployment.rounded.Acceptable ∧ deployment.id ∉ ids) := by
  have hlookup := lookup_entries (distinct_deploymentFields deployment).keys
  refine .step (yields_okOr rfl) (fun _ => trivial) fun _ => ?_
  refine .step (yields_requiredNonEmptyString (hlookup "id"))
    (fun h => validPolicyId_ne h.1.id.2) fun _ => ?_
  refine .step (yields_require _) (fun h => Bool.and_eq_true_iff.mpr
    ⟨decide_eq_true h.1.id.1, h.1.id.2⟩) fun hid => ?_
  refine .step (yields_require _) (fun h => decide_eq_true h.2) fun hnew => ?_
  refine .step (yields_requiredNonEmptyString (hlookup "base_url")) (fun h => h.1.baseUrl)
    fun hbaseUrl => ?_
  refine .step (yields_requiredNonEmptyString (hlookup "model")) (fun h => h.1.model)
    fun hmodel => ?_
  refine .step (yields_optionalNonEmptyString (hlookup "api_key_env")) (fun h => h.1.apiKeyEnv)
    fun henv => ?_
  refine .step (yields_optionalPositiveInteger (by decide) (hlookup "weight"))
    (fun h => h.1.weight.1) fun hweight => ?_
  refine .step (yields_require _) (fun h => decide_eq_true h.1.weight.2) fun hweight' => ?_
  refine .step (yields_optionalNonNegativeFiniteNumber (hlookup "cost_per_1k"))
    (fun h => h.1.costPer1k) fun hcost => ?_
  have hid := Bool.and_eq_true_iff.mp hid
  exact .done ⟨⟨⟨of_decide_eq_true hid.1, hid.2⟩, hbaseUrl, hmodel, henv,
    ⟨hweight, of_decide_eq_true hweight'⟩, hcost⟩, of_decide_eq_true hnew⟩

theorem yields_parseDeploymentsFrom {name : String} (index : ℕ) (ids : List String)
    (deployments : List GatewayDeployment) :
    Yields (parseDeploymentsFrom where_ name index ids
        (deployments.map fun deployment => .table (deploymentFields deployment).entries))
      (deployments.map GatewayDeployment.rounded)
      ((∀ d ∈ deployments, d.rounded.Acceptable) ∧
        (deployments.map GatewayDeployment.id).Nodup ∧ ∀ d ∈ deployments, d.id ∉ ids) := by
  induction deployments generalizing index ids with
  | nil => exact .done ⟨nofun, List.nodup_nil, nofun⟩
  | cons first rest ih =>
    rw [List.map_cons, parseDeploymentsFrom]
    refine .step (yields_parseDeployment first) (fun h => ?_) fun hfirst => ?_
    · exact ⟨h.1 first List.mem_cons_self, h.2.2 first List.mem_cons_self⟩
    refine .step (ih (index + 1) (first.id :: ids)) (fun h => ?_) fun hrest => ?_
    · obtain ⟨hall, hunique, hnew⟩ := h
      rw [List.map_cons, List.nodup_cons] at hunique
      refine ⟨fun d hd => hall d (List.mem_cons_of_mem _ hd), hunique.2, fun d hd hmem => ?_⟩
      -- a later deployment has neither the id of this one nor an earlier one
      obtain heq | hmem := List.mem_cons.mp hmem
      · exact hunique.1 (heq ▸ List.mem_map_of_mem hd)
      · exact hnew d (List.mem_cons_of_mem _ hd) hmem
    · obtain ⟨hall, hunique, hnew⟩ := hrest
      refine .done ⟨List.forall_mem_cons.mpr ⟨hfirst.1, hall⟩, ?_, List.forall_mem_cons.mpr
        ⟨hfirst.2, fun d hd hmem => hnew d hd (List.mem_cons_of_mem _ hmem)⟩⟩
      rw [List.map_cons, List.nodup_cons]
      refine ⟨fun hmem => ?_, hunique⟩
      obtain ⟨d, hd, heq⟩ := List.mem_map.mp hmem
      exact hnew d hd (heq ▸ List.mem_cons_self)

theorem deploymentsAcceptable_rounded {deployments : List GatewayDeployment} :
    DeploymentsAcceptable (deployments.map GatewayDeployment.rounded) ↔
      deployments.length ≤ maxModelDeployments ∧ (∀ d ∈ deployments, d.rounded.Acceptable) ∧
        (deployments.map GatewayDeployment.id).Nodup := by
  have hids : (deployments.map GatewayDeployment.rounded).map GatewayDeployment.id =
      deployments.map GatewayDeployment.id := List.map_map
  constructor
  · rintro ⟨hcount, heach, hunique⟩
    rw [List.length_map] at hcount
    rw [hids] at hunique
    exact ⟨hcount, List.forall_mem_map.mp heach, hunique⟩
  · rintro ⟨hcount, heach, hunique⟩
    exact ⟨by rwa [List.length_map], List.forall_mem_map.mpr heach, by rwa [hids]⟩

theorem yields_parseDeployments {name : String} {provider : ProviderKind}
    {deployments : List GatewayDeployment}
    (h : value = omitIf (deployments = []) (deploymentsValue deployments)) :
    Yields (parseDeployments value where_ name provider)
      (deployments.map GatewayDeployment.rounded)
      (DeploymentsAcceptable (deployments.map GatewayDeployment.rounded) ∧
        (deployments ≠ [] → provider = .openAiCompatible)) := by
  unfold omitIf at h
  split at h
  · next hnil =>
    rw [h, of_decide_eq_true hnil]
    exact .done ⟨⟨by decide, nofun, List.nodup_nil⟩, fun h => absurd rfl h⟩
  · next hne =>
    rw [h]
    rw [decide_eq_true_eq] at hne
    refine .step (yields_require _) (fun h => decide_eq_true (h.2 hne)) fun hprovider => ?_
    refine .step (yields_okOr rfl) (fun _ => trivial) fun _ => ?_
    refine .step (yields_require _) (fun h => ?_) fun hcount => ?_
    · rw [List.length_map]
      exact decide_eq_true (deploymentsAcceptable_rounded.mp h.1).1
    rw [List.length_map] at hcount
    refine (yields_parseDeploymentsFrom 0 [] deployments).iff ?_
    rw [deploymentsAcceptable_rounded]
    constructor
    · rintro ⟨hall, hunique, -⟩
      exact ⟨⟨of_decide_eq_true hcount, hall, hunique⟩, fun _ => of_decide_eq_true hprovider⟩
    · rintro ⟨⟨-, hall, hunique⟩, -⟩
      exact ⟨hall, hunique, fun _ _ => List.not_mem_nil⟩

theorem roundedSelection_default : roundedSelection defaultSelection = defaultSelection := by
  decide +kernel

theorem strategyOf_text (strategy : DeploymentSelectionStrategy) :
    strategyOf strategy.text = some strategy := by
  cases strategy <;> decide

theorem yields_parseDeploymentSelection {name : String} {provider : ProviderKind}
    {policy : DeploymentSelectionPolicy}
    (h : value = omitIf (policy = defaultSelection) (.table (selectionFields policy).entries)) :
    Yields (parseDeploymentSelection value where_ name provider) (roundedSelection policy)
      (SelectionAcceptable (roundedSelection policy) ∧
        (policy ≠ defaultSelection → provider = .openAiCompatible)) := by
  unfold omitIf at h
  split at h
  · next hdefault =>
    rw [h, of_decide_eq_true hdefault, roundedSelection_default]
    exact .done ⟨acceptable_defaultSelection, fun h => absurd rfl h⟩
  · next hne =>
    rw [h]
    rw [decide_eq_true_eq] at hne
    have hlookup := lookup_entries (distinct_selectionFields policy).keys
    refine .step (yields_require _) (fun h => decide_eq_true (h.2 hne)) fun hprovider => ?_
    refine .step (yields_okOr rfl) (fun _ => trivial) fun _ => ?_
    have hstrategy : Yields (parseStrategy ((selectionFields policy).entries.lookup "strategy")
        where_ ("gateway.models." ++ name ++ ".deployment_selection")) policy.strategy True := by
      rw [hlookup]
      exact yields_okOr (strategyOf_text policy.strategy)
    refine .step hstrategy (fun _ => trivial) fun _ => ?_
    refine .step (yields_optionalNonNegativeFiniteNumber (hlookup "max_cost_per_1k"))
      (fun h => h.1.maxCostPer1k) fun hcost => ?_
    refine .step (yields_optionalPositiveNumber (by decide) (by decide +kernel)
      (hlookup "observation_ttl")) (fun h => h.1.observationTtl.1) fun httl => ?_
    refine .step (yields_require _) (fun h => Bool.and_eq_true_iff.mpr
      ⟨decide_eq_true h.1.observationTtl.1, decide_eq_true h.1.observationTtl.2⟩) fun httl' => ?_
    exact .done ⟨⟨hcost, httl, of_decide_eq_true (Bool.and_eq_true_iff.mp httl').2⟩,
      fun _ => of_decide_eq_true hprovider⟩

theorem providerOf_providerName (provider : ProviderKind) :
    providerOf (providerName provider) = some provider := by
  cases provider <;> decide

theorem yields_parseProvider {label : String} {provider : ProviderKind}
    (h : value = omitIf (provider = .openAiCompatible) (.string (providerName provider))) :
    Yields (parseProvider value where_ label) provider True := by
  unfold omitIf at h
  split at h
  · next hdefault =>
    rw [h, of_decide_eq_true hdefault]
    exact .ok _
  · rw [h]
    exact yields_okOr (providerOf_providerName provider)

theorem yields_parseProviderTier {label : String} {tier : Option ProviderTier}
    (h : value = tier.map fun tier => .string (tierName tier)) :
    Yields (parseProviderTier value where_ label) tier True := by
  rw [h]
  cases tier with
  | none => exact .ok none
  | some tier =>
    cases tier
    exact (yields_okOr rfl).map some

/-- A selection policy is only written for the first provider. -/
def GatewayModel.Selected (model : GatewayModel) : Prop :=
  model.deploymentSelection ≠ defaultSelection → model.provider = .openAiCompatible

theorem yields_parseModel {name : String} (model : GatewayModel) :
    Yields (parseModel where_ name (.table (modelTable model).entries)) model.rounded
      (model.rounded.Acceptable ∧ model.Selected) := by
  have hlookup := lookup_entries (l := modelTable model) (by simp [modelTable, modelFields])
  have hdeployed : model.deployments.map GatewayDeployment.rounded ≠ [] ↔
      model.deployments ≠ [] := List.map_eq_nil_iff.not
  refine .step (yields_okOr rfl) (fun _ => trivial) fun _ => ?_
  refine .step (yields_parseProvider (hlookup "provider")) (fun _ => trivial) fun _ => ?_
  refine .step (yields_parseProviderTier (hlookup "tier")) (fun _ => trivial) fun _ => ?_
  refine .step (yields_optionalNonEmptyString (hlookup "base_url")) (fun h => h.1.baseUrl)
    fun hbaseUrl => ?_
  refine .step (yields_requiredNonEmptyString (hlookup "model")) (fun h => h.1.named)
    fun hmodel => ?_
  refine .step (yields_optionalNonEmptyString (hlookup "api_key_env")) (fun h => h.1.apiKeyEnv)
    fun henv => ?_
  refine .step (yields_optionalNonEmptyString (hlookup "api_key_cmd")) (fun h => h.1.apiKeyCmd)
    fun hcmd => ?_
  refine .step (yields_require _) (fun h => variable_iff.mpr h.1.variable_) fun hvariable => ?_
  refine .step yields_checkProvider (fun h => h.1.demands) fun hdemands => ?_
  refine .step (yields_optionalNonNegativeFiniteNumber (hlookup "cost_per_1k"))
    (fun h => h.1.costPer1k) fun hcost => ?_
  refine .step (yields_optionalNonEmptyStringList (hlookup "fallbacks")) (fun h => h.1.fallbacks)
    fun hfallbacks => ?_
  refine .step (yields_positiveInteger (hlookup "context_window")) (fun h => h.1.contextWindow)
    fun hwindow => ?_
  refine .step (yields_parseDeployments (hlookup "deployments"))
    (fun h => ⟨h.1.deployments, fun hne => h.1.deployed (hdeployed.mpr hne)⟩)
    fun hdeployments => ?_
  refine .step (yields_parseDeploymentSelection (hlookup "deployment_selection"))
    (fun h => ⟨h.1.selection, h.2⟩) fun hselection => ?_
  refine .done ⟨?_, hselection.2⟩
  exact
    { baseUrl := hbaseUrl
      named := hmodel
      apiKeyEnv := henv
      apiKeyCmd := hcmd
      variable_ := variable_iff.mp hvariable
      demands := hdemands
      costPer1k := hcost
      fallbacks := hfallbacks
      contextWindow := hwindow
      deployments := hdeployments.1
      deployed := fun hne => hdeployments.2 (hdeployed.mp hne)
      selection := hselection.1
      selected := fun hne => hselection.2 fun hdefault => hne
        ((congrArg roundedSelection hdefault).trans roundedSelection_default) }

/-! ## Workspaces, keys, profiles and routes -/

def Workspace.rounded (workspace : Workspace) : Workspace :=
  { workspace with
    budget := workspace.budget.map Budget.rounded
    rateLimit := workspace.rateLimit.map RateLimit.rounded }

def VirtualKey.rounded (key : VirtualKey) : VirtualKey :=
  { key with
    hash := toAsciiLowercase key.hash
    budget := key.budget.map Budget.rounded
    rateLimit := key.rateLimit.map RateLimit.rounded }

/-- The document of a profile fits, and can be read back. -/
structure ProfileWritable (lib : Library) (profile : RoutingConfig) : Prop where
  size : (dumpRoutingToml lib profile).utf8ByteSize ≤ maxRoutingProfileBytes
  accepted : profile.rounded.Accepted
  threshold : ¬ profile.rounded.ThresholdZero

theorem yields_parseWorkspace {workspaceId : String} (workspace : Workspace) :
    Yields (parseWorkspace where_ workspaceId (.table (workspaceTable workspace).entries))
      workspace.rounded (workspace.rounded.Acceptable workspaceId) := by
  have hlookup := lookup_entries (l := workspaceTable workspace)
    (by simp [workspaceTable, workspaceFields, limitFields])
  refine .step (yields_require _) (fun h => h.id) fun hid => ?_
  refine .step (yields_okOr rfl) (fun _ => trivial) fun _ => ?_
  refine .step (yields_optionalNonEmptyStringList (hlookup "models")) (fun h => h.models)
    fun hmodels => ?_
  refine .step (yields_optionalNonEmptyString (hlookup "profile")) (fun h => h.profile)
    fun hprofile => ?_
  refine .step (yields_parseBudget (hlookup "budget")) (fun h => h.budget) fun hbudget => ?_
  refine .step (yields_parseRateLimit (hlookup "rate_limit")) (fun h => h.rateLimit)
    fun hlimit => ?_
  exact .done ⟨hid, hmodels, hprofile, hbudget, hlimit⟩

theorem yields_parseKey {keyId : String} (key : VirtualKey) :
    Yields (parseKey where_ keyId (.table (keyTable key).entries)) key.rounded
      key.rounded.Acceptable := by
  have hlookup := lookup_entries (l := keyTable key) (by simp [keyTable, keyFields, limitFields])
  have hhash : ∀ message, Yields (okOr ((((keyTable key).entries.lookup "hash").bind
      Value.asStr).filter isSha256Hex) where_ message) key.hash (isSha256Hex key.hash = true) := by
    intro message
    rw [hlookup]
    exact yields_filter
  refine .step (yields_okOr rfl) (fun _ => trivial) fun _ => ?_
  refine .step (hhash _) (fun h => isSha256Hex_toAsciiLowercase.symm.trans h.hash) fun hhex => ?_
  refine .step (yields_optionalNonEmptyStringList (hlookup "tags")) (fun h => h.tags)
    fun htags => ?_
  refine .step (yields_optionalNonEmptyString (hlookup "workspace")) (fun h => h.workspace)
    fun hworkspace => ?_
  refine .step (yields_optionalNonEmptyStringList (hlookup "models")) (fun h => h.models)
    fun hmodels => ?_
  refine .step (yields_parseBudget (hlookup "budget")) (fun h => h.budget) fun hbudget => ?_
  refine .step (yields_parseRateLimit (hlookup "rate_limit")) (fun h => h.rateLimit)
    fun hlimit => ?_
  exact .done ⟨isSha256Hex_toAsciiLowercase.trans hhex, htags, hworkspace, hmodels, hbudget, hlimit⟩

/-- A profile is read back unless it stands for the threshold zero. -/
theorem yields_routingConfig {lib : Library} {profile : RoutingConfig}
    (hprofile : profile.Accepted) (hreads : lib.Reads (routingDocument profile) "\n") :
    Yields (routingConfigFromToml lib (dumpRoutingToml lib profile) where_ none .strictInput)
      profile.rounded (profile.rounded.Accepted ∧ ¬ profile.rounded.ThresholdZero) := by
  intro read
  rw [routingConfigFromToml_dump hprofile.mode hreads, routingConfigFromTable_eq_ok hprofile]
  refine and_congr_right' ?_
  have hclassifier : profile.rounded.classifier = none ↔ profile.classifier = none :=
    Option.map_eq_none_iff
  constructor
  · rintro ⟨hweights, hladder⟩
    refine ⟨⟨hweights, hprofile.lexicon, ?_⟩, ?_⟩
    · cases hnone : profile.rounded.classifier with
      | none => exact .tiers (hladder (hclassifier.mp hnone))
      | some classifier =>
        -- next to a classifier stand the default tiers, whose numbers are kept
        obtain ⟨original, horiginal, -⟩ := Option.map_eq_some_iff.mp hnone
        have hmode := hprofile.mode
        have htiers : profile.rounded.tiers = binaryTiers defaultThreshold := by
          rw [horiginal] at hmode
          show profile.tiers.map Tier.rounded = _
          generalize profile.tiers = tiers at hmode
          cases hmode
          rw [binaryTiers_rounded, written_defaultThreshold]
        rw [htiers]
        exact .classifier classifier
    · rintro ⟨hnone, hzero⟩
      have hascending := (hladder (hclassifier.mp hnone)).ascending
      rw [hzero] at hascending
      exact absurd hascending (by decide +kernel)
  · rintro ⟨haccepted, hzero⟩
    refine ⟨haccepted.weights, fun hnone => ?_⟩
    have hmode := haccepted.mode
    rw [hclassifier.mpr hnone] at hmode
    exact hmode.ladder fun htiers => hzero ⟨hclassifier.mpr hnone, htiers⟩

theorem yields_parseProfile {lib : Library} {profileId : String} {profile : RoutingConfig}
    (hprofile : profile.Accepted) (hreads : lib.Reads (routingDocument profile) "\n") :
    Yields (parseProfile lib where_ profileId (.table (profileFields lib profile).entries))
      profile.rounded ((validPolicyId profileId && profileId ≠ "default") ∧
        ProfileWritable lib profile) := by
  refine .step (yields_require _) (fun h => h.1) fun hid => ?_
  refine .step (yields_okOr rfl) (fun _ => trivial) fun _ => ?_
  refine .step (yields_require _) (fun _ => decide_eq_true rfl) fun _ => ?_
  refine .step (yields_okOr rfl) (fun _ => trivial) fun _ => ?_
  refine .step (yields_require _) (fun h => decide_eq_true h.2.size) fun hsize => ?_
  refine (yields_routingConfig hprofile hreads).iff ?_
  constructor
  · rintro ⟨haccepted, hzero⟩
    exact ⟨hid, of_decide_eq_true hsize, haccepted, hzero⟩
  · rintro ⟨-, -, haccepted, hzero⟩
    exact ⟨haccepted, hzero⟩

theorem yields_parseRoute {routeId : String} (route : RoutePreset) :
    Yields (parseRoute where_ routeId (.table (routeFields route).entries)) route
      (route.Acceptable routeId) := by
  have hlookup := lookup_entries (distinct_routeFields route).keys
  refine .step (yields_require _) (fun h => h.id) fun hid => ?_
  refine .step (yields_okOr rfl) (fun _ => trivial) fun _ => ?_
  refine .step (yields_stringList (hlookup "models")) (fun h => h.named) fun hnamed => ?_
  refine .step (yields_require _) (fun h => decide_eq_true h.some) fun hsome => ?_
  refine .step (yields_require _) (fun h => decide_eq_true h.count) fun hcount => ?_
  refine .step (yields_require _) (fun h => decide_eq_true h.unique) fun hunique => ?_
  exact .done ⟨hid, hnamed, of_decide_eq_true hsome, of_decide_eq_true hcount,
    of_decide_eq_true hunique⟩

/-! ## Configurations -/

namespace GatewayConfig

/-- The configuration as it is written. -/
def rounded (config : GatewayConfig) : GatewayConfig :=
  { config with
    allowUnauthenticatedDefault := false
    breakerCooldown := written config.breakerCooldown
    budget := config.budget.map Budget.rounded
    cache := config.cache.map CacheConfig.rounded
    rateLimit := config.rateLimit.map RateLimit.rounded
    concurrency := config.concurrency.rounded
    shadow := config.shadow.rounded
    canary := config.canary.rounded
    workspaces := config.workspaces.map Workspace.rounded
    profiles := config.profiles.map RoutingConfig.rounded
    keys := config.keys.map VirtualKey.rounded
    models := config.models.map GatewayModel.rounded }

/-- What is written can be read back. -/
structure Writable (lib : Library) (config : GatewayConfig) : Prop where
  accepted : config.rounded.Accepted
  profiles : ∀ e ∈ config.profiles.entries, ProfileWritable lib e.2
  selected : ∀ e ∈ config.models.entries, e.2.Selected

/-- The parser reads the documents of the profiles, and the document that holds them. -/
structure Readable (lib : Library) (config : GatewayConfig) : Prop where
  document : lib.Reads (gatewayDocument lib config) ""
  profiles : ∀ e ∈ config.profiles.entries, lib.Reads (routingDocument e.2) "\n"

end GatewayConfig

section Maps

variable {α β : Type}

/-- A map whose values have changed, entry by entry. -/
theorem forall_mem_map {m : IndexMap α} {f : α → β} {p : String → β → Prop} :
    (∀ e ∈ (m.map f).entries, p e.1 e.2) ↔ ∀ e ∈ m.entries, p e.1 (f e.2) :=
  List.forall_mem_map

theorem forall_value_map {m : IndexMap α} {f : α → β} {p : β → Prop} :
    (∀ e ∈ (m.map f).entries, p e.2) ↔ ∀ e ∈ m.entries, p (f e.2) :=
  List.forall_mem_map

theorem yields_mapValue {name : String} {limit : Table → Except ConfigError Unit}
    {read : String → Value → Except ConfigError β} {b : ℕ → Prop} {m : IndexMap α}
    {table : α → Fields} (h : value = mapValue m table) (r : α → β) (c : String × α → Prop)
    (hzero : b 0) (hlimit : ∀ table, Yields (limit table) () (b table.length))
    (hread : ∀ e ∈ m.entries, Yields (read e.1 (.table (table e.2).entries)) (r e.2) (c e)) :
    Yields (tableMap value where_ name limit read) (m.map r)
      (b m.entries.length ∧ ∀ e ∈ m.entries, c e) :=
  yields_tableMap (w := fun a => .table (table a).entries) m hzero h hlimit hread

end Maps

/-- A table of models that is written is not empty. -/
theorem filter_mapValue {α : Type} (m : IndexMap α) (table : α → Fields) :
    (mapValue m table).filter (fun value => !isPythonFalsey value) = mapValue m table := by
  unfold mapValue omitIf
  cases hempty : m.entries.isEmpty with
  | true => rfl
  | false =>
    rw [if_neg (by simp), Option.filter_some, if_pos]
    simp [isPythonFalsey, hempty]

theorem yields_parseModels {models : IndexMap GatewayModel}
    (h : value = mapValue models modelTable) :
    Yields (parseModels value where_) (models.map GatewayModel.rounded)
      (∀ e ∈ models.entries, e.2.rounded.Acceptable ∧ e.2.Selected) := by
  have hfilter : value.filter (fun value => !isPythonFalsey value) =
      mapValue models modelTable := by
    rw [h, filter_mapValue]
  exact (yields_mapValue (b := fun _ => True) hfilter GatewayModel.rounded
    (fun e => e.2.rounded.Acceptable ∧ e.2.Selected) trivial (fun _ => .ok ())
    fun e _ => yields_parseModel e.2).iff (iff_of_eq (true_and _))

theorem yields_readGateway {lib : Library} {config : GatewayConfig}
    (hprofiles : ∀ e ∈ config.profiles.entries, e.2.Accepted)
    (hreads : ∀ e ∈ config.profiles.entries, lib.Reads (routingDocument e.2) "\n") :
    Yields (readGateway lib (gatewayFields lib config).entries where_) config.rounded
      (config.rounded.Settings ∧ (∀ e ∈ config.profiles.entries, ProfileWritable lib e.2) ∧
        ∀ e ∈ config.models.entries, e.2.Selected) := by
  have hlookup := lookup_entries (gatewayFields_nodup lib config)
  refine .step (yields_optionalAllowedString (by decide) (hlookup "route_on"))
    (fun h => h.1.routeOn) fun hrouteOn => ?_
  refine .step (yields_optionalBool (hlookup "sticky")) (fun _ => trivial) fun _ => ?_
  refine .step (yields_optionalNonNegativeInteger (hlookup "sticky_cooldown")) (fun _ => trivial)
    fun _ => ?_
  refine .step (yields_optionalBool (hlookup "slash_directives")) (fun _ => trivial) fun _ => ?_
  refine .step (yields_optionalBool (hlookup "offline")) (fun _ => trivial) fun _ => ?_
  refine .step (yields_optionalNonNegativeInteger (hlookup "retries")) (fun _ => trivial)
    fun _ => ?_
  refine .step (yields_optionalPositiveInteger (by decide) (hlookup "breaker_threshold"))
    (fun h => h.1.breakerThreshold) fun hthreshold => ?_
  refine .step (yields_optionalNonNegativeNumber (by decide) (by decide +kernel)
    (hlookup "breaker_cooldown")) (fun h => h.1.breakerCooldown) fun hcooldown => ?_
  refine .step (yields_optionalAllowedString (by decide) (hlookup "failover"))
    (fun h => h.1.failover) fun hfailover => ?_
  refine .step (yields_parseBudget (hlookup "budget")) (fun h => h.1.budget) fun hbudget => ?_
  refine .step (yields_parseCache (hlookup "cache")) (fun h => h.1.cache) fun hcache => ?_
  refine .step (yields_parseRateLimit (hlookup "rate_limit")) (fun h => h.1.rateLimit)
    fun hrateLimit => ?_
  refine .step (yields_parseConcurrency (hlookup "concurrency")) (fun h => h.1.concurrency)
    fun hconcurrency => ?_
  refine .step (yields_parseState (hlookup "state")) (fun h => h.1.state) fun hstate => ?_
  refine .step (yields_require _) (fun h => shared_iff.mpr h.1.shared) fun hshared => ?_
  refine .step (yields_parseAuth (hlookup "auth")) (fun h => h.1.auth) fun hauth => ?_
  refine .step (yields_mapValue (b := fun _ => True) (hlookup "workspaces") Workspace.rounded
    (fun e => e.2.rounded.Acceptable e.1) trivial (fun _ => .ok ())
    fun e _ => yields_parseWorkspace e.2)
    (fun h => ⟨trivial, forall_mem_map.mp h.1.workspaces⟩) fun hworkspaces => ?_
  refine .step (yields_mapValue (b := (· ≤ maxRoutingProfiles)) (hlookup "profiles")
    RoutingConfig.rounded (fun e => (validPolicyId e.1 && e.1 ≠ "default") ∧
      ProfileWritable lib e.2) (Nat.zero_le _)
    (fun _ => (yields_require _).iff decide_eq_true_iff)
    fun e he => yields_parseProfile (hprofiles e he) (hreads e he))
    (fun h => ?_) fun hprofiles' => ?_
  · refine ⟨(List.length_map _).symm.trans_le h.1.profileCount, fun e he => ⟨?_, h.2.1 e he⟩⟩
    have hid := (forall_mem_map.mp h.1.profiles e he).id
    exact Bool.and_eq_true_iff.mpr ⟨hid.1, decide_eq_true hid.2⟩
  refine .step (yields_mapValue (b := fun _ => True) (hlookup "keys") VirtualKey.rounded
    (fun e => e.2.rounded.Acceptable) trivial (fun _ => .ok ()) fun e _ => yields_parseKey e.2)
    (fun h => ⟨trivial, forall_value_map.mp h.1.keys⟩)
    fun hkeys => ?_
  refine .step (yields_parseModels (hlookup "models"))
    (fun h e he => ⟨forall_value_map.mp h.1.models e he, h.2.2 e he⟩) fun hmodels => ?_
  refine .step (yields_mapValue (b := (· ≤ maxRoutePresets)) (hlookup "routes") id
    (fun e => e.2.Acceptable e.1) (Nat.zero_le _)
    (fun _ => (yields_require _).iff decide_eq_true_iff) fun e _ => yields_parseRoute e.2)
    (fun h => ⟨h.1.routeCount, h.1.routes⟩) fun hroutes => ?_
  have hmap : config.routes.map id = config.routes := IndexMap.ext (List.map_id _)
  rw [hmap]
  refine .step (yields_parseShadow _ (hlookup "shadow")) (fun h => h.1.shadow) fun hshadow => ?_
  refine .step (yields_parseCanary _ (hlookup "canary")) (fun h => h.1.canary) fun hcanary => ?_
  refine .done ⟨?_, fun e he => (hprofiles'.2 e he).2, fun e he => (hmodels e he).2⟩
  exact
    { authenticated := rfl
      routeOn := hrouteOn
      breakerThreshold := hthreshold
      breakerCooldown := hcooldown
      failover := hfailover
      budget := hbudget
      cache := hcache
      rateLimit := hrateLimit
      concurrency := hconcurrency
      state := hstate
      shared := shared_iff.mp hshared
      auth := hauth
      workspaces := forall_mem_map.mpr hworkspaces.2
      profileCount := (List.length_map _).trans_le hprofiles'.1
      profiles := forall_mem_map.mpr fun e he =>
        have hid := Bool.and_eq_true_iff.mp (hprofiles'.2 e he).1
        ⟨⟨hid.1, of_decide_eq_true hid.2⟩, (hprofiles'.2 e he).2.accepted⟩
      keys := forall_value_map.mpr hkeys.2
      models := forall_value_map.mpr fun e he => (hmodels e he).1
      routeCount := hroutes.1
      routes := hroutes.2
      shadow := hshadow
      canary := hcanary }

theorem yields_render {lib : Library} {config : GatewayConfig}
    (hprofiles : ∀ e ∈ config.profiles.entries, e.2.Accepted) (hreadable : config.Readable lib) :
    Yields (gatewayConfigFromToml lib (renderGatewayToml lib config) where_) config.rounded
      (config.Writable lib) := by
  rw [gatewayConfigFromToml_render hreadable.document]
  refine .step (yields_readGateway hprofiles hreadable.profiles)
    (fun h => ⟨h.accepted.toSettings, h.profiles, h.selected⟩) fun hsettings => ?_
  refine .step (yields_validateReferences _) (fun h => h.accepted.toReferences)
    fun hreferences => ?_
  exact .done ⟨⟨hsettings.1, hreferences⟩, hsettings.2.1, hsettings.2.2⟩

theorem dumpGatewayToml_eq_ok {lib : Library} {config : GatewayConfig} {text : String}
    (hprofiles : ∀ e ∈ config.profiles.entries, e.2.Accepted) (hreadable : config.Readable lib) :
    dumpGatewayToml lib config = .ok text ↔
      text = renderGatewayToml lib config ∧ config.Writable lib := by
  have hyields : Yields (dumpGatewayToml lib config) (renderGatewayToml lib config)
      (config.Writable lib) :=
    .step (yields_render hprofiles hreadable) id .done
  exact hyields text

/-! ### A gateway in front of one model -/

def localModel : GatewayModel where
  provider := .openAiCompatible
  baseUrl := some "http://localhost"
  model := "small"
  tier := none
  apiKeyEnv := none
  apiKeyCmd := none
  costPer1k := none
  fallbacks := []
  contextWindow := none
  deployments := []
  deploymentSelection := defaultSelection

/-- A gateway in front of one model. -/
def localGateway : GatewayConfig :=
  { GatewayConfig.default with retries := 3, models := ⟨[("local", localModel)], by decide⟩ }

/-- What is written for it. -/
def localText : String :=
  "[gateway]\nretries = 3\n\n[gateway.models.local]\nbase_url = \"http://localhost\"\n" ++
    "model = \"small\""

/-- The table of the text. -/
def localTable : Table :=
  [("gateway", .table [("retries", .integer 3), ("models", .table [("local",
    .table [("base_url", .string "http://localhost"), ("model", .string "small")])])])]

/-- A parser that knows one document. -/
def localLibrary : Library where
  parse text := if text = localText then .ok (.table localTable) else .error "expected a value"
  quote text := "\"" ++ text ++ "\""

theorem render_localGateway : renderGatewayToml localLibrary localGateway = localText := by
  decide +kernel

theorem parse_localText : localLibrary.parse localText = .ok (.table localTable) := by
  simp [localLibrary]

theorem readable_localGateway : localGateway.Readable localLibrary := by
  refine ⟨fun t ht => ?_, fun e he => absurd he List.not_mem_nil⟩
  rw [String.append_empty]
  show localLibrary.parse (renderGatewayToml localLibrary localGateway) = _
  rw [render_localGateway]
  have htable : (gatewayDocument localLibrary localGateway).table = some localTable := by
    rw [table_gatewayDocument]
    have hentries : (gatewayFields localLibrary localGateway).entries =
        [("retries", .integer 3), ("models", .table [("local",
          .table [("base_url", .string "http://localhost"), ("model", .string "small")])])] := by
      simp [gatewayFields, scalarFields, sectionFields, localGateway, GatewayConfig.default, omitIf,
        Fields.entries, mapValue, modelTable, modelFields, localModel, IndexMap.empty]
    rw [hentries]
    rfl
  rw [htable] at ht
  cases ht
  exact parse_localText

theorem accepts_localText (where_ : String) :
    gatewayConfigFromToml localLibrary localText where_ = .ok localGateway := by
  unfold gatewayConfigFromToml
  rw [parse_localText]
  rfl

/-! ### Exactness -/

theorem selected_of_accepted {config : GatewayConfig} (hconfig : config.Accepted) :
    ∀ e ∈ config.models.entries, e.2.Selected :=
  fun e he => (hconfig.models e he).selected

theorem profile_rounded {config : GatewayConfig} (hsame : config.rounded = config) :
    ∀ e ∈ config.profiles.entries, e.2.rounded = e.2 := by
  intro e he
  have hmap : config.profiles.map RoutingConfig.rounded = config.profiles :=
    congrArg GatewayConfig.profiles hsame
  have hmem : (e.1, e.2.rounded) ∈ (config.profiles.map RoutingConfig.rounded).entries :=
    List.mem_map_of_mem he
  rw [hmap] at hmem
  have hget := IndexMap.get_eq_some_iff.mpr hmem
  rw [IndexMap.get_eq_some_iff.mpr he] at hget
  exact (Option.some.inj hget).symm

/-- An accepted configuration survives exactly when its numbers are kept and each of its profiles
fits and does not stand for the threshold zero. -/
theorem gateway_survives_iff (lib : Library) (source where_ : String) (config : GatewayConfig)
    (haccepted : gatewayConfigFromToml lib source where_ = .ok config)
    (hreadable : config.Readable lib) :
    (∃ text, dumpGatewayToml lib config = .ok text ∧
      ∀ where_, gatewayConfigFromToml lib text where_ = .ok config) ↔
    config.rounded = config ∧ ∀ e ∈ config.profiles.entries,
      (dumpRoutingToml lib e.2).utf8ByteSize ≤ maxRoutingProfileBytes ∧ ¬ e.2.ThresholdZero := by
  have hconfig := (ensures_gatewayConfigFromToml config haccepted).1
  have hprofiles := fun e he => (hconfig.profiles e he).routing
  constructor
  · rintro ⟨text, hdump, hread⟩
    obtain ⟨rfl, hwritable⟩ := (dumpGatewayToml_eq_ok hprofiles hreadable).mp hdump
    have hrounded : gatewayConfigFromToml lib (renderGatewayToml lib config) "" =
        .ok config.rounded := (yields_render hprofiles hreadable).eq_ok hwritable
    have hsame : config.rounded = config :=
      Except.ok.inj (hrounded.symm.trans (hread ""))
    refine ⟨hsame, fun e he => ⟨(hwritable.profiles e he).size, ?_⟩⟩
    have hthreshold := (hwritable.profiles e he).threshold
    rwa [profile_rounded hsame e he] at hthreshold
  · rintro ⟨hsame, hfit⟩
    have hwritable : config.Writable lib := by
      refine ⟨hsame.symm ▸ hconfig, fun e he => ?_, selected_of_accepted hconfig⟩
      have hprofile := profile_rounded hsame e he
      exact ⟨(hfit e he).1, hprofile.symm ▸ hprofiles e he, hprofile.symm ▸ (hfit e he).2⟩
    refine ⟨renderGatewayToml lib config,
      (dumpGatewayToml_eq_ok hprofiles hreadable).mpr ⟨rfl, hwritable⟩, fun where_ => ?_⟩
    have hread : gatewayConfigFromToml lib (renderGatewayToml lib config) where_ =
        .ok config.rounded := (yields_render hprofiles hreadable).eq_ok hwritable
    rwa [hsame] at hread

/-- The gateway in front of one model survives. -/
theorem survives_localGateway : ∃ text, dumpGatewayToml localLibrary localGateway = .ok text ∧
    ∀ where_, gatewayConfigFromToml localLibrary text where_ = .ok localGateway := by
  refine (gateway_survives_iff localLibrary localText "router" localGateway
    (accepts_localText "router") readable_localGateway).mpr
      ⟨?_, fun e he => absurd he List.not_mem_nil⟩
  decide +kernel

/-- A configuration that was read is well formed. -/
theorem gateway_accepted (lib : Library) (text where_ : String) (config : GatewayConfig)
    (h : gatewayConfigFromToml lib text where_ = .ok config) : config.Accepted :=
  (ensures_gatewayConfigFromToml config h).1

/-- The gateway in front of one model is well formed. -/
theorem accepted_localGateway : localGateway.Accepted :=
  gateway_accepted localLibrary localText "router" localGateway (accepts_localText "router")

end WayfinderRouter.Config
