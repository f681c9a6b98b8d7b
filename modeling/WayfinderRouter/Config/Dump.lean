import WayfinderRouter.Config.Fields

/-!
# Written gateway configurations

A gateway configuration is written as sections below `gateway`. Defaults are left out. The text is
read again before it is returned.

## Main definitions

- `gatewayDocument` — the sections of a configuration
- `dumpGatewayToml` — writing

## Main results

- `table_gatewayDocument` — what the document denotes
-/

namespace WayfinderRouter.Config

open Toml
open Gateway (DeploymentSelectionPolicy)

/-! ## Fields -/

/-- The entries of `render_budget`. -/
def budgetFields (budget : Budget) : Fields :=
  [("limit", some (formatNumber budget.limit)),
    ("window", omitIf (budget.window = "day") (.string budget.window)),
    ("on_breach", omitIf (budget.onBreach = "degrade") (.string budget.onBreach))]

def cacheFields (cache : CacheConfig) : Fields :=
  [("backend", omitIf (cache.backend = "memory") (.string cache.backend)),
    ("enabled", some (.boolean cache.enabled)),
    ("ttl", omitIf (cache.ttl = 300) (formatNumber cache.ttl)),
    ("max_entries", omitIf (cache.maxEntries = 1024) (.integer cache.maxEntries)),
    ("max_bytes", omitIf (cache.maxBytes = 64 * 1024 * 1024) (.integer cache.maxBytes))]

/-- The entries of `render_rate_limit`. -/
def rateLimitFields (limit : RateLimit) : Fields :=
  [("rpm", limit.rpm.map fun n : ℕ => .integer n), ("tpm", limit.tpm.map fun n : ℕ => .integer n),
    ("window", omitIf (limit.window = 60) (formatNumber limit.window))]

def concurrencyFields (concurrency : ConcurrencyConfig) : Fields :=
  [("max_in_flight", omitIf (concurrency.maxInFlight = 32) (.integer concurrency.maxInFlight)),
    ("max_queued", omitIf (concurrency.maxQueued = 64) (.integer concurrency.maxQueued)),
    ("queue_timeout", omitIf (concurrency.queueTimeout = 2)
      (formatNumber concurrency.queueTimeout))]

def stateFields (state : StateConfig) : Fields :=
  [("backend", omitIf (state.backend = "memory") (.string state.backend)),
    ("url", state.url.map .string),
    ("namespace", omitIf (state.namespace_ = "wayfinder") (.string state.namespace_))]

def authFields (auth : GatewayAuthConfig) : Fields :=
  [("mode", omitIf (auth.mode = "vkeys") (.string auth.mode)), ("issuer", auth.issuer.map .string),
    ("audience", auth.audience.map .string), ("jwks_url", auth.jwksUrl.map .string),
    ("admin_claim", omitIf (auth.adminClaim = "admin") (.string auth.adminClaim))]

def shadowFields (shadow : ShadowConfig) : Fields :=
  [("enabled", omitIf (shadow.enabled = false) (.boolean shadow.enabled)),
    ("sample_rate", omitIf (shadow.sampleRate = 0) (formatNumber shadow.sampleRate)),
    ("candidate_routes", omitIf (shadow.candidateRoutes = []) (stringList shadow.candidateRoutes)),
    ("max_in_flight", omitIf (shadow.maxInFlight = 2) (.integer shadow.maxInFlight)),
    ("max_records", omitIf (shadow.maxRecords = 2048) (.integer shadow.maxRecords)),
    ("provider_comparisons", omitIf (shadow.providerComparisons = false)
      (.boolean shadow.providerComparisons)),
    ("provider_sample_rate", omitIf (shadow.providerSampleRate = 0)
      (formatNumber shadow.providerSampleRate)),
    ("provider_max_requests", omitIf (shadow.providerMaxRequests = 0)
      (.integer shadow.providerMaxRequests)),
    ("provider_window", omitIf (shadow.providerWindow = 60) (formatNumber shadow.providerWindow))]

def canaryFields (canary : CanaryConfig) : Fields :=
  [("enabled", omitIf (canary.enabled = false) (.boolean canary.enabled)),
    ("rollout_id", omitIf (canary.rolloutId = "default") (.string canary.rolloutId)),
    ("candidate_route", omitIf (canary.candidateRoute = "") (.string canary.candidateRoute)),
    ("fraction", omitIf (canary.fraction = 0) (formatNumber canary.fraction)),
    ("scope", omitIf (canary.scope = "request") (.string canary.scope)),
    ("cohort", canary.cohort.map .string),
    ("max_requests", omitIf (canary.maxRequests = 1000) (.integer canary.maxRequests)),
    ("window", omitIf (canary.window = 300) (formatNumber canary.window)),
    ("min_samples", omitIf (canary.minSamples = 30) (.integer canary.minSamples)),
    ("max_error_rate", omitIf (canary.maxErrorRate = CanaryConfig.default.maxErrorRate)
      (formatNumber canary.maxErrorRate)),
    ("max_latency_ms", omitIf (canary.maxLatencyMs = 30000) (formatNumber canary.maxLatencyMs)),
    ("max_cost_multiplier", omitIf (canary.maxCostMultiplier = 2)
      (formatNumber canary.maxCostMultiplier)),
    ("max_quality_loss", omitIf (canary.maxQualityLoss = CanaryConfig.default.maxQualityLoss)
      (formatNumber canary.maxQualityLoss)),
    ("rollback_hold", omitIf (canary.rollbackHold = 900) (formatNumber canary.rollbackHold))]

def workspaceFields (workspace : Workspace) : Fields :=
  [("profile", workspace.profile.map .string),
    ("models", omitIf (workspace.models = []) (stringList workspace.models))]

/-- A profile is written as its own document, in a string. -/
def profileFields (lib : Library) (profile : RoutingConfig) : Fields :=
  [("routing_toml", some (.string (dumpRoutingToml lib profile)))]

def keyFields (key : VirtualKey) : Fields :=
  [("hash", some (.string key.hash)), ("tags", omitIf (key.tags = []) (stringList key.tags)),
    ("workspace", key.workspace.map .string),
    ("models", omitIf (key.models = []) (stringList key.models))]

/-- The entries of `render_deployments`. -/
def deploymentFields (deployment : GatewayDeployment) : Fields :=
  [("id", some (.string deployment.id)), ("base_url", some (.string deployment.baseUrl)),
    ("model", some (.string deployment.model)),
    ("api_key_env", deployment.apiKeyEnv.map .string),
    ("weight", omitIf (deployment.weight = 1) (.integer deployment.weight)),
    ("cost_per_1k", deployment.costPer1k.map formatNumber)]

/-- `render_deployments`. -/
def deploymentsValue (deployments : List GatewayDeployment) : Value :=
  .array (deployments.map fun deployment => .table (deploymentFields deployment).entries)

/-- The entries of `render_deployment_selection`. -/
def selectionFields (policy : DeploymentSelectionPolicy) : Fields :=
  [("strategy", some (.string policy.strategy.text)),
    ("max_cost_per_1k", policy.maxCostPer1k.map formatNumber),
    ("observation_ttl", omitIf (policy.observationTtl = 60) (formatNumber policy.observationTtl))]

def modelFields (model : GatewayModel) : Fields :=
  [("provider", omitIf (model.provider = .openAiCompatible)
      (.string (providerName model.provider))),
    ("base_url", model.baseUrl.map .string), ("model", some (.string model.model)),
    ("tier", model.tier.map fun tier => .string (tierName tier)),
    ("api_key_env", model.apiKeyEnv.map .string), ("api_key_cmd", model.apiKeyCmd.map .string),
    ("cost_per_1k", model.costPer1k.map formatNumber),
    ("fallbacks", omitIf (model.fallbacks = []) (stringList model.fallbacks)),
    ("deployments", omitIf (model.deployments = []) (deploymentsValue model.deployments)),
    ("context_window", model.contextWindow.map fun n : ℕ => .integer n)]

def routeFields (route : RoutePreset) : Fields := [("models", some (stringList route.models))]

/-- The entries of the `gateway` table itself. -/
def scalarFields (config : GatewayConfig) : Fields :=
  [("route_on", omitIf (config.routeOn = "turn") (.string config.routeOn)),
    ("sticky", omitIf (config.sticky = false) (.boolean config.sticky)),
    ("sticky_cooldown", omitIf (config.stickyCooldown = 0) (.integer config.stickyCooldown)),
    ("slash_directives", omitIf (config.slashDirectives = false)
      (.boolean config.slashDirectives)),
    ("offline", omitIf (config.offline = false) (.boolean config.offline)),
    ("retries", omitIf (config.retries = 2) (.integer config.retries)),
    ("breaker_threshold", omitIf (config.breakerThreshold = 5) (.integer config.breakerThreshold)),
    ("breaker_cooldown", omitIf (config.breakerCooldown = 30)
      (formatNumber config.breakerCooldown)),
    ("failover", omitIf (config.failover = "same-tier") (.string config.failover))]

/-! ## Sections -/

/-- A section of a setting that may be missing. -/
def optionSection {α : Type} (key : String) (fields : α → Fields) (o : Option α) : Document :=
  o.elim [] fun a => .group key (fields a).entries []

/-- A section that is left out at its default. -/
def defaultSection (key : String) (isDefault : Bool) (fields : Fields) : Document :=
  if isDefault then [] else .group key fields.entries []

/-- The sections of the limits of a workspace or of a key. -/
def limitSections (budget : Option Budget) (limit : Option RateLimit) : Document :=
  optionSection "budget" budgetFields budget ++ optionSection "rate_limit" rateLimitFields limit

/-- The sections of named entries. -/
def mapSections {α : Type} (key : String) (m : IndexMap α) (fields : α → Fields)
    (below : α → Document) : Document :=
  Document.under
    (m.entries.flatMap fun e => Document.group e.1 (fields e.2).entries (below e.2)) key

/-- The sections of the selection policy of a model. -/
def selectionSections (model : GatewayModel) : Document :=
  defaultSection "deployment_selection" (model.deploymentSelection = defaultSelection)
    (selectionFields model.deploymentSelection)

/-- The sections below `gateway`. -/
def gatewaySections (lib : Library) (config : GatewayConfig) : Document :=
  optionSection "budget" budgetFields config.budget ++
  (optionSection "cache" cacheFields config.cache ++
  (optionSection "rate_limit" rateLimitFields config.rateLimit ++
  (defaultSection "concurrency" (config.concurrency = .default)
    (concurrencyFields config.concurrency) ++
  (defaultSection "state" (config.state = .default) (stateFields config.state) ++
  (defaultSection "auth" (config.auth = .default) (authFields config.auth) ++
  (defaultSection "shadow" (config.shadow = .default) (shadowFields config.shadow) ++
  (defaultSection "canary" (config.canary = .default) (canaryFields config.canary) ++
  (mapSections "workspaces" config.workspaces workspaceFields
    (fun workspace => limitSections workspace.budget workspace.rateLimit) ++
  (mapSections "profiles" config.profiles (profileFields lib) (fun _ => []) ++
  (mapSections "keys" config.keys keyFields
    (fun key => limitSections key.budget key.rateLimit) ++
  (mapSections "models" config.models modelFields selectionSections ++
  mapSections "routes" config.routes routeFields fun _ => [])))))))))))

/-- The sections of `render_gateway_toml`. -/
def gatewayDocument (lib : Library) (config : GatewayConfig) : Document :=
  if (scalarFields config).entries.isEmpty then (gatewaySections lib config).under "gateway"
  else .group "gateway" (scalarFields config).entries (gatewaySections lib config)

/-- `render_gateway_toml`. -/
def renderGatewayToml (lib : Library) (config : GatewayConfig) : String :=
  (gatewayDocument lib config).text lib.quote

/-- `dump_gateway_toml`. -/
def dumpGatewayToml (lib : Library) (config : GatewayConfig) : Except ConfigError String := do
  let _ ← gatewayConfigFromToml lib (renderGatewayToml lib config) "generated gateway TOML"
  .ok (renderGatewayToml lib config)

/-! ## What the document denotes -/

/-- The table of the limits of a workspace or of a key. -/
def limitFields (budget : Option Budget) (limit : Option RateLimit) : Fields :=
  [("budget", budget.map fun budget => .table (budgetFields budget).entries),
    ("rate_limit", limit.map fun limit => .table (rateLimitFields limit).entries)]

/-- The whole table of a workspace. -/
def workspaceTable (workspace : Workspace) : Fields :=
  workspaceFields workspace ++ limitFields workspace.budget workspace.rateLimit

/-- The whole table of a key. -/
def keyTable (key : VirtualKey) : Fields := keyFields key ++ limitFields key.budget key.rateLimit

/-- The whole table of a model. -/
def modelTable (model : GatewayModel) : Fields :=
  modelFields model ++ [("deployment_selection",
    omitIf (model.deploymentSelection = defaultSelection)
      (.table (selectionFields model.deploymentSelection).entries))]

/-- The table of a map. -/
def mapValue {α : Type} (m : IndexMap α) (table : α → Fields) : Option Value :=
  omitIf m.entries.isEmpty (.table (m.entries.map fun e => (e.1, .table (table e.2).entries)))

/-- The tables below `gateway`. -/
def sectionFields (lib : Library) (config : GatewayConfig) : Fields :=
  [("budget", config.budget.map fun budget => .table (budgetFields budget).entries),
    ("cache", config.cache.map fun cache => .table (cacheFields cache).entries),
    ("rate_limit", config.rateLimit.map fun limit => .table (rateLimitFields limit).entries),
    ("concurrency", omitIf (config.concurrency = .default)
      (.table (concurrencyFields config.concurrency).entries)),
    ("state", omitIf (config.state = .default) (.table (stateFields config.state).entries)),
    ("auth", omitIf (config.auth = .default) (.table (authFields config.auth).entries)),
    ("shadow", omitIf (config.shadow = .default) (.table (shadowFields config.shadow).entries)),
    ("canary", omitIf (config.canary = .default) (.table (canaryFields config.canary).entries)),
    ("workspaces", mapValue config.workspaces workspaceTable),
    ("profiles", mapValue config.profiles (profileFields lib)),
    ("keys", mapValue config.keys keyTable), ("models", mapValue config.models modelTable),
    ("routes", mapValue config.routes routeFields)]

/-- The `gateway` table. -/
def gatewayFields (lib : Library) (config : GatewayConfig) : Fields :=
  scalarFields config ++ sectionFields lib config

/-- The fields have different keys, and no key twice in a value. -/
structure Distinct (l : Fields) : Prop where
  keys : (l.map Prod.fst).Nodup
  values : l.all fun field => field.2.all Value.distinct

theorem distinctEntries_entries {l : Fields}
    (h : l.all fun field => field.2.all Value.distinct) :
    Value.distinctEntries l.entries = true := by
  induction l with
  | nil => rfl
  | cons field l ih =>
    obtain ⟨hfield, hl⟩ := Bool.and_eq_true_iff.mp h
    rcases field with ⟨key, _ | value⟩
    · exact ih hl
    · show (value.distinct && Value.distinctEntries (Fields.entries l)) = true
      rw [ih hl, Bool.and_true]
      exact hfield

theorem Distinct.table {l : Fields} (h : Distinct l) : (Value.table l.entries).distinct = true := by
  rw [Value.distinct, distinctEntries_entries h.values, Bool.and_true, decide_eq_true_eq]
  exact h.keys.sublist (keys_entries_sublist l)

@[simp] theorem all_omitIf (isDefault : Bool) (value : Value) :
    (omitIf isDefault value).all Value.distinct = (isDefault || value.distinct) := by
  cases isDefault <;> rfl

@[simp] theorem all_map {α : Type} (o : Option α) (f : α → Value) :
    (o.map f).all Value.distinct = o.all fun a => (f a).distinct := by
  cases o <;> rfl

@[simp] theorem all_true {α : Type} (o : Option α) : (o.all fun _ => true) = true := by
  cases o <;> rfl

@[simp] theorem distinct_string (s : String) : (Value.string s).distinct = true := rfl

@[simp] theorem distinct_integer (n : ℤ) : (Value.integer n).distinct = true := rfl

@[simp] theorem distinct_boolean (b : Bool) : (Value.boolean b).distinct = true := rfl

@[simp] theorem distinct_formatNumber (x : ℚ) : (formatNumber x).distinct = true := rfl

section Sections

variable {α : Type} {key : String} {fields : α → Fields}

theorem adds_section {l : Fields} (h : Distinct l) :
    Adds (.group key l.entries []) [(key, some (.table l.entries))] := by
  have hgroup := adds_group key (l := l) adds_nil (by rw [List.append_nil]; exact h.keys)
    (distinctEntries_entries h.values)
  rwa [List.append_nil] at hgroup

theorem adds_optionSection {o : Option α} (h : ∀ a ∈ o, Distinct (fields a)) :
    Adds (optionSection key fields o) [(key, o.map fun a => .table (fields a).entries)] :=
  adds_option fun a ha => adds_section (h a ha)

theorem adds_defaultSection {isDefault : Bool} {l : Fields} (h : Distinct l) :
    Adds (defaultSection key isDefault l) [(key, omitIf isDefault (.table l.entries))] := by
  cases isDefault with
  | true => exact adds_none key
  | false => exact adds_section h

theorem adds_mapSections {m : IndexMap α} {below : α → Document} {extra : α → Fields}
    (hfields : ∀ a, Distinct (fields a))
    (hkeys : ∀ a, ((fields a ++ extra a).map Prod.fst).Nodup)
    (hbelow : ∀ a, Adds (below a) (extra a)) :
    Adds (mapSections key m fields below) [(key, mapValue m fun a => fields a ++ extra a)] := by
  have hentries := adds_flatMap (f := fun e => Document.group e.1 (fields e.2).entries (below e.2))
    (g := fun e => Value.table (Fields.entries (fields e.2 ++ extra e.2))) m.nodup fun e _ =>
      adds_group e.1 (hbelow e.2) (hkeys e.2) (distinctEntries_entries (hfields e.2).values)
  have hunder := adds_under key hentries
  rw [entries_map_some] at hunder
  have hempty : (m.entries.flatMap fun e =>
      Document.group e.1 (fields e.2).entries (below e.2)).isEmpty = m.entries.isEmpty := by
    cases m.entries with
    | nil => rfl
    | cons e l => rfl
  rw [hempty] at hunder
  exact hunder

end Sections

/-! ### The fields are distinct -/

theorem distinct_budgetFields (budget : Budget) : Distinct (budgetFields budget) where
  keys := by simp [budgetFields]
  values := by simp [budgetFields]

theorem distinct_cacheFields (cache : CacheConfig) : Distinct (cacheFields cache) where
  keys := by simp [cacheFields]
  values := by simp [cacheFields]

theorem distinct_rateLimitFields (limit : RateLimit) : Distinct (rateLimitFields limit) where
  keys := by simp [rateLimitFields]
  values := by simp [rateLimitFields]

theorem distinct_concurrencyFields (concurrency : ConcurrencyConfig) :
    Distinct (concurrencyFields concurrency) where
  keys := by simp [concurrencyFields]
  values := by simp [concurrencyFields]

theorem distinct_stateFields (state : StateConfig) : Distinct (stateFields state) where
  keys := by simp [stateFields]
  values := by simp [stateFields]

theorem distinct_authFields (auth : GatewayAuthConfig) : Distinct (authFields auth) where
  keys := by simp [authFields]
  values := by simp [authFields]

theorem distinct_shadowFields (shadow : ShadowConfig) : Distinct (shadowFields shadow) where
  keys := by simp [shadowFields]
  values := by simp [shadowFields, distinct_stringList]

theorem distinct_canaryFields (canary : CanaryConfig) : Distinct (canaryFields canary) where
  keys := by simp [canaryFields]
  values := by simp [canaryFields]

theorem distinct_deploymentFields (deployment : GatewayDeployment) :
    Distinct (deploymentFields deployment) where
  keys := by simp [deploymentFields]
  values := by simp [deploymentFields]

theorem distinct_selectionFields (policy : DeploymentSelectionPolicy) :
    Distinct (selectionFields policy) where
  keys := by simp [selectionFields]
  values := by simp [selectionFields]

theorem distinct_routeFields (route : RoutePreset) : Distinct (routeFields route) where
  keys := by simp [routeFields]
  values := by simp [routeFields, distinct_stringList]

theorem distinct_scalarFields (config : GatewayConfig) : Distinct (scalarFields config) where
  keys := by simp [scalarFields]
  values := by simp [scalarFields]

theorem distinct_workspaceFields (workspace : Workspace) :
    Distinct (workspaceFields workspace) where
  keys := by simp [workspaceFields]
  values := by simp [workspaceFields, distinct_stringList]

theorem distinct_profileFields (lib : Library) (profile : RoutingConfig) :
    Distinct (profileFields lib profile) where
  keys := by simp [profileFields]
  values := by simp [profileFields]

theorem distinct_keyFields (key : VirtualKey) : Distinct (keyFields key) where
  keys := by simp [keyFields]
  values := by simp [keyFields, distinct_stringList]

theorem distinct_deploymentsValue (deployments : List GatewayDeployment) :
    (deploymentsValue deployments).distinct = true := by
  show Value.distinctAll (deployments.map _) = true
  induction deployments with
  | nil => rfl
  | cons deployment deployments ih =>
    rw [List.map_cons, Value.distinctAll, (distinct_deploymentFields deployment).table, ih]
    rfl

theorem distinct_modelFields (model : GatewayModel) : Distinct (modelFields model) where
  keys := by simp [modelFields]
  values := by simp [modelFields, distinct_stringList, distinct_deploymentsValue]

/-! ### The sections add the fields -/

theorem adds_limitSections (budget : Option Budget) (limit : Option RateLimit) :
    Adds (limitSections budget limit) (limitFields budget limit) :=
  (adds_optionSection fun budget _ => distinct_budgetFields budget).append
    (adds_optionSection fun limit _ => distinct_rateLimitFields limit) (by simp)

theorem adds_workspaces (workspaces : IndexMap Workspace) :
    Adds (mapSections "workspaces" workspaces workspaceFields
        fun workspace => limitSections workspace.budget workspace.rateLimit)
      [("workspaces", mapValue workspaces workspaceTable)] :=
  adds_mapSections distinct_workspaceFields (fun _ => by simp [workspaceFields, limitFields])
    fun workspace => adds_limitSections workspace.budget workspace.rateLimit

theorem adds_keys (keys : IndexMap VirtualKey) :
    Adds (mapSections "keys" keys keyFields fun key => limitSections key.budget key.rateLimit)
      [("keys", mapValue keys keyTable)] :=
  adds_mapSections distinct_keyFields (fun _ => by simp [keyFields, limitFields])
    fun key => adds_limitSections key.budget key.rateLimit

theorem adds_models (models : IndexMap GatewayModel) :
    Adds (mapSections "models" models modelFields selectionSections)
      [("models", mapValue models modelTable)] :=
  adds_mapSections distinct_modelFields (fun _ => by simp [modelFields])
    fun model => adds_defaultSection (distinct_selectionFields model.deploymentSelection)

/-- A map of sections with nothing below them. -/
theorem adds_plainSections {α : Type} {key : String} (m : IndexMap α) {fields : α → Fields}
    (hfields : ∀ a, Distinct (fields a)) :
    Adds (mapSections key m fields fun _ => []) [(key, mapValue m fields)] := by
  have hadds : Adds (mapSections key m fields fun _ => [])
      [(key, mapValue m fun a => fields a ++ [])] :=
    adds_mapSections hfields (fun a => by rw [List.append_nil]; exact (hfields a).keys)
      fun _ => adds_nil
  simpa only [List.append_nil] using hadds

theorem adds_gatewaySections (lib : Library) (config : GatewayConfig) :
    Adds (gatewaySections lib config) (sectionFields lib config) := by
  refine (adds_optionSection fun budget _ => distinct_budgetFields budget).append ?_ (by simp)
  refine (adds_optionSection fun cache _ => distinct_cacheFields cache).append ?_ (by simp)
  refine (adds_optionSection fun limit _ => distinct_rateLimitFields limit).append ?_ (by simp)
  refine (adds_defaultSection (distinct_concurrencyFields _)).append ?_ (by simp)
  refine (adds_defaultSection (distinct_stateFields _)).append ?_ (by simp)
  refine (adds_defaultSection (distinct_authFields _)).append ?_ (by simp)
  refine (adds_defaultSection (distinct_shadowFields _)).append ?_ (by simp)
  refine (adds_defaultSection (distinct_canaryFields _)).append ?_ (by simp)
  refine (adds_workspaces _).append ?_ (by simp)
  refine (adds_plainSections _ (distinct_profileFields lib)).append ?_ (by simp)
  refine (adds_keys _).append ?_ (by simp)
  refine (adds_models _).append ?_ (by simp)
  exact adds_plainSections _ distinct_routeFields

/-- Reading without a table gives the default. -/
theorem gatewayConfigFromTable_nil (lib : Library) (where_ : String) :
    gatewayConfigFromTable lib [] where_ = .ok .default := rfl

theorem gatewayFields_nodup (lib : Library) (config : GatewayConfig) :
    ((gatewayFields lib config).map Prod.fst).Nodup := by
  simp [gatewayFields, scalarFields, sectionFields]

/-- The document denotes the `gateway` table, if there is anything in it. -/
theorem table_gatewayDocument (lib : Library) (config : GatewayConfig) :
    (gatewayDocument lib config).table =
      some (Fields.entries [("gateway", omitIf (gatewayDocument lib config).isEmpty
        (.table (gatewayFields lib config).entries))]) := by
  have hsections := adds_gatewaySections lib config
  unfold gatewayDocument
  cases hempty : (scalarFields config).entries.isEmpty with
  | true =>
    have hentries : (gatewayFields lib config).entries = (sectionFields lib config).entries := by
      rw [gatewayFields, entries_append, List.isEmpty_iff.mp hempty, List.nil_append]
    have hunder := adds_under "gateway" hsections [] fun _ _ => List.not_mem_nil
    rw [if_pos rfl, hentries, Document.table, hunder, List.nil_append]
    cases hnil : gatewaySections lib config with
    | nil => rfl
    | cons s d => rfl
  | false =>
    rw [if_neg (by simp)]
    exact adds_group "gateway" hsections (gatewayFields_nodup lib config)
      (distinctEntries_entries (distinct_scalarFields config).values) []
      fun _ _ => List.not_mem_nil

/-- Reading a written configuration is reading its `gateway` table. -/
theorem gatewayConfigFromToml_render {lib : Library} {config : GatewayConfig}
    (hreads : lib.Reads (gatewayDocument lib config) "") (where_ : String) :
    gatewayConfigFromToml lib (renderGatewayToml lib config) where_ =
      gatewayConfigFromTable lib (gatewayFields lib config).entries where_ := by
  have hparse := hreads _ (table_gatewayDocument lib config)
  rw [String.append_empty] at hparse
  unfold gatewayConfigFromToml
  rw [show lib.parse (renderGatewayToml lib config) = _ from hparse]
  cases hempty : (gatewayDocument lib config).isEmpty with
  | false => rfl
  | true =>
    -- an empty document has no table, and its fields are all left out
    have hentries : (gatewayFields lib config).entries = [] := by
      unfold gatewayDocument at hempty
      split at hempty
      · next hscalars =>
        have hadds := adds_gatewaySections lib config [] fun _ _ => List.not_mem_nil
        have hnil : gatewaySections lib config = [] := by
          rw [List.isEmpty_iff, Document.under, List.map_eq_nil_iff] at hempty
          exact hempty
        rw [hnil] at hadds
        rw [gatewayFields, entries_append, List.isEmpty_iff.mp hscalars, List.nil_append]
        exact (Option.some.inj hadds).symm
      · cases hempty
    rw [hentries, gatewayConfigFromTable_nil]
    rfl

end WayfinderRouter.Config
