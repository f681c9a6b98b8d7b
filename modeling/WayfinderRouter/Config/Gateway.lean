import WayfinderRouter.Config.Routing
import WayfinderRouter.Gateway.Destination
import WayfinderRouter.Ordered.IndexMap

/-!
# Gateway configurations

The gateway is configured by the `gateway` table of a document. Every field is read with its own
default and check; then the references between models, workspaces, profiles, routes and keys are
checked.

## Main definitions

- `GatewayConfig` — the configuration
- `gatewayConfigFromToml` — reading
-/

namespace WayfinderRouter.Config

open Toml
open Gateway (ProviderKind ProviderTier DeploymentSelectionStrategy DeploymentSelectionPolicy)

/-! ## Data -/

/-- A spend cap. -/
structure Budget where
  limit : ℚ
  window : String
  onBreach : String
deriving DecidableEq

structure CacheConfig where
  backend : String
  enabled : Bool
  ttl : ℚ
  maxEntries : ℕ
  maxBytes : ℕ
deriving DecidableEq

structure RateLimit where
  rpm : Option ℕ
  tpm : Option ℕ
  window : ℚ
deriving DecidableEq

structure ConcurrencyConfig where
  maxInFlight : ℕ
  maxQueued : ℕ
  queueTimeout : ℚ
deriving DecidableEq

structure StateConfig where
  backend : String
  url : Option String
  namespace_ : String
deriving DecidableEq

structure GatewayAuthConfig where
  mode : String
  issuer : Option String
  audience : Option String
  jwksUrl : Option String
  adminClaim : String
deriving DecidableEq

structure ShadowConfig where
  enabled : Bool
  sampleRate : ℚ
  candidateRoutes : List String
  maxInFlight : ℕ
  maxRecords : ℕ
  providerComparisons : Bool
  providerSampleRate : ℚ
  providerMaxRequests : ℕ
  providerWindow : ℚ
deriving DecidableEq

structure CanaryConfig where
  enabled : Bool
  rolloutId : String
  candidateRoute : String
  fraction : ℚ
  scope : String
  cohort : Option String
  maxRequests : ℕ
  window : ℚ
  minSamples : ℕ
  maxErrorRate : ℚ
  maxLatencyMs : ℚ
  maxCostMultiplier : ℚ
  maxQualityLoss : ℚ
  rollbackHold : ℚ
deriving DecidableEq

structure GatewayDeployment where
  id : String
  baseUrl : String
  model : String
  apiKeyEnv : Option String
  weight : ℕ
  costPer1k : Option ℚ
deriving DecidableEq

structure GatewayModel where
  provider : ProviderKind
  baseUrl : Option String
  model : String
  tier : Option ProviderTier
  apiKeyEnv : Option String
  apiKeyCmd : Option String
  costPer1k : Option ℚ
  fallbacks : List String
  contextWindow : Option ℕ
  deployments : List GatewayDeployment
  deploymentSelection : DeploymentSelectionPolicy
deriving DecidableEq

structure RoutePreset where
  models : List String
deriving DecidableEq

structure Workspace where
  models : List String
  profile : Option String
  budget : Option Budget
  rateLimit : Option RateLimit
deriving DecidableEq

structure VirtualKey where
  hash : String
  tags : List String
  workspace : Option String
  budget : Option Budget
  rateLimit : Option RateLimit
  models : List String
deriving DecidableEq

/-- The contents of the `gateway` table. -/
structure GatewayConfig where
  allowUnauthenticatedDefault : Bool
  models : IndexMap GatewayModel
  routeOn : String
  sticky : Bool
  stickyCooldown : ℕ
  slashDirectives : Bool
  offline : Bool
  retries : ℕ
  breakerThreshold : ℕ
  breakerCooldown : ℚ
  failover : String
  budget : Option Budget
  cache : Option CacheConfig
  rateLimit : Option RateLimit
  concurrency : ConcurrencyConfig
  state : StateConfig
  auth : GatewayAuthConfig
  shadow : ShadowConfig
  canary : CanaryConfig
  workspaces : IndexMap Workspace
  profiles : IndexMap RoutingConfig
  routes : IndexMap RoutePreset
  keys : IndexMap VirtualKey
deriving DecidableEq

/-- `ConcurrencyConfig::default`. -/
def ConcurrencyConfig.default : ConcurrencyConfig := ⟨32, 64, 2⟩

/-- `StateConfig::default`. -/
def StateConfig.default : StateConfig := ⟨"memory", none, "wayfinder"⟩

/-- `GatewayAuthConfig::default`. -/
def GatewayAuthConfig.default : GatewayAuthConfig := ⟨"vkeys", none, none, none, "admin"⟩

/-- `ShadowConfig::default`. -/
def ShadowConfig.default : ShadowConfig := ⟨false, 0, [], 2, 2048, false, 0, 0, 60⟩

/-- `CanaryConfig::default`. -/
def CanaryConfig.default : CanaryConfig :=
  ⟨false, "default", "", 0, "request", none, 1000, 300, 30, nearest (2 / 10), 30000, 2,
    nearest (1 / 10), 900⟩

/-- `DeploymentSelectionPolicy::default`. -/
def defaultSelection : DeploymentSelectionPolicy := ⟨.weighted, none, 60⟩

/-- `GatewayConfig::default`. -/
def GatewayConfig.default : GatewayConfig where
  allowUnauthenticatedDefault := false
  models := .empty
  routeOn := "turn"
  sticky := false
  stickyCooldown := 0
  slashDirectives := false
  offline := false
  retries := 2
  breakerThreshold := 5
  breakerCooldown := 30
  failover := "same-tier"
  budget := none
  cache := none
  rateLimit := none
  concurrency := .default
  state := .default
  auth := .default
  shadow := .default
  canary := .default
  workspaces := .empty
  profiles := .empty
  routes := .empty
  keys := .empty

/-! ## Fields -/

/-- `optional_bool`. -/
def optionalBool (value : Option Value) (default : Bool) (where_ label : String) :
    Except ConfigError Bool :=
  match value with
  | none => .ok default
  | some (.boolean value) => .ok value
  | some _ => invalid where_ ("'" ++ label ++ "' must be a boolean")

/-- `optional_allowed_string`. -/
def optionalAllowedString (value : Option Value) (default : String) (allowed : List String)
    (where_ label : String) : Except ConfigError String :=
  match value with
  | none => .ok default
  | some value =>
    okOr (value.asStr.filter fun s => s ∈ allowed) where_
      ("'" ++ label ++ "' must be one of " ++ ", ".intercalate allowed)

/-- The integer as an unsigned one. -/
def unsigned (value : Value) : Option ℕ :=
  value.asInteger.bind fun n => if 0 ≤ n then some n.toNat else none

/-- `optional_non_negative_integer`. -/
def optionalNonNegativeInteger (value : Option Value) (default : ℕ) (where_ label : String) :
    Except ConfigError ℕ :=
  match value with
  | none => .ok default
  | some value =>
    okOr (unsigned value) where_ ("'" ++ label ++ "' must be a non-negative integer")

/-- `positive_integer`. -/
def positiveInteger (value : Option Value) (where_ label : String) :
    Except ConfigError (Option ℕ) :=
  match value with
  | none => .ok none
  | some value =>
    some <$> okOr ((unsigned value).filter fun n => 0 < n) where_
      ("'" ++ label ++ "' must be a positive integer")

/-- `optional_positive_integer`. -/
def optionalPositiveInteger (value : Option Value) (default : ℕ) (where_ label : String) :
    Except ConfigError ℕ :=
  (fun n => n.getD default) <$> positiveInteger value where_ label

/-- A number that may be left out, with a check. -/
def optionalNumber (p : ℚ → Bool) (expected : String) (value : Option Value) (default : ℚ)
    (where_ label : String) : Except ConfigError ℚ :=
  match value with
  | none => .ok default
  | some value => numberWhere p (some value) where_ ("'" ++ label ++ "' must be " ++ expected)

/-- `optional_non_negative_number`. -/
def optionalNonNegativeNumber :=
  optionalNumber (fun x => 0 ≤ x) "a non-negative number"

/-- `optional_positive_number`. -/
def optionalPositiveNumber := optionalNumber (fun x => 0 < x) "a positive number"

/-- `optional_non_negative_finite_number`. -/
def optionalNonNegativeFiniteNumber (value : Option Value) (where_ label : String) :
    Except ConfigError (Option ℚ) :=
  match value with
  | none => .ok none
  | some value =>
    some <$> numberWhere (fun x => 0 ≤ x) (some value) where_
      ("'" ++ label ++ "' must be a non-negative number")

/-- `required_non_empty_string`. -/
def requiredNonEmptyString (value : Option Value) (where_ label expected : String) :
    Except ConfigError String :=
  okOr (value.bind nonEmptyStr) where_ ("'" ++ label ++ "' must be " ++ expected)

/-- A string that may be left out, with a check. -/
def optionalString (p : String → Bool) (value : Option Value) (where_ message : String) :
    Except ConfigError (Option String) :=
  match value with
  | none => .ok none
  | some value => some <$> okOr (value.asStr.filter p) where_ message

/-- `optional_non_empty_string`. -/
def optionalNonEmptyString (value : Option Value) (where_ label : String) :
    Except ConfigError (Option String) :=
  optionalString (fun s => s ≠ "") value where_ ("'" ++ label ++ "' must be a non-empty string")

/-- `optional_non_empty_string_list`. -/
def optionalNonEmptyStringList (value : Option Value) (where_ label expected : String) :
    Except ConfigError (List String) :=
  match value with
  | none => .ok []
  | some value => do
    let values ← okOr value.asArray where_ ("'" ++ label ++ "' must be " ++ expected)
    values.mapM fun value =>
      okOr (nonEmptyStr value) where_ ("'" ++ label ++ "' must be " ++ expected)

/-- `valid_policy_id`: one to 128 visible ASCII characters. -/
def validPolicyId (value : String) : Bool :=
  value ≠ "" && value.utf8ByteSize ≤ 128 &&
    value.toList.all fun c => 0x20 ≤ c.toNat && c.toNat ≤ 0x7e

/-- `is_sha256_hex`. -/
def isSha256Hex (value : String) : Bool :=
  value.utf8ByteSize = 64 && value.toList.all fun c =>
    c.isDigit || ('a' ≤ c && c ≤ 'f') || ('A' ≤ c && c ≤ 'F')

/-- A table that may be left out. -/
def optionalTable {α : Type} (value : Option Value) (default : α) (where_ name : String)
    (read : Table → Except ConfigError α) : Except ConfigError α :=
  match value with
  | none => .ok default
  | some value => do
    let table ← okOr value.asTable where_ ("'[" ++ name ++ "]' must be a table")
    read table

/-- A table of named tables. -/
def tableMap {α : Type} (value : Option Value) (where_ name : String)
    (limit : Table → Except ConfigError Unit)
    (read : String → Value → Except ConfigError α) : Except ConfigError (IndexMap α) :=
  optionalTable value .empty where_ name fun table => do
    limit table
    IndexMap.collect read table

/-! ## Tables -/

/-- The fields of a budget. -/
def readBudget (where_ : String) (table : Table) : Except ConfigError (Option Budget) := do
  let limit ← numberWhere (fun x => 0 < x) (table.lookup "limit") where_
    "'gateway.budget.limit' must be a positive number"
  let window ← optionalAllowedString (table.lookup "window") "day" ["day", "month", "all"] where_
    "gateway.budget.window"
  let onBreach ← optionalAllowedString (table.lookup "on_breach") "degrade" ["degrade", "block"]
    where_ "gateway.budget.on_breach"
  .ok (some ⟨limit, window, onBreach⟩)

/-- `parse_budget`. -/
def parseBudget (value : Option Value) (where_ : String) : Except ConfigError (Option Budget) :=
  optionalTable value none where_ "gateway.budget" (readBudget where_)

/-- The fields of the cache. -/
def readCache (where_ : String) (table : Table) : Except ConfigError (Option CacheConfig) := do
  let backend ← optionalAllowedString (table.lookup "backend") "memory" ["memory", "redis"] where_
    "gateway.cache.backend"
  let enabled ← optionalBool (table.lookup "enabled") false where_ "gateway.cache.enabled"
  let ttl ← optionalNonNegativeNumber (table.lookup "ttl") 300 where_ "gateway.cache.ttl"
  let maxEntries ← optionalPositiveInteger (table.lookup "max_entries") 1024 where_
    "gateway.cache.max_entries"
  let maxBytes ← optionalPositiveInteger (table.lookup "max_bytes") (64 * 1024 * 1024) where_
    "gateway.cache.max_bytes"
  .ok (some ⟨backend, enabled, ttl, maxEntries, maxBytes⟩)

/-- `parse_cache`. -/
def parseCache (value : Option Value) (where_ : String) :
    Except ConfigError (Option CacheConfig) :=
  optionalTable value none where_ "gateway.cache" (readCache where_)

/-- The fields of a rate limit. -/
def readRateLimit (where_ : String) (table : Table) :
    Except ConfigError (Option RateLimit) := do
  let rpm ← positiveInteger (table.lookup "rpm") where_ "gateway.rate_limit.rpm"
  let tpm ← positiveInteger (table.lookup "tpm") where_ "gateway.rate_limit.tpm"
  require (rpm.isSome || tpm.isSome) where_ "'[gateway.rate_limit]' must set 'rpm' and/or 'tpm'"
  let window ← optionalPositiveNumber (table.lookup "window") 60 where_
    "gateway.rate_limit.window"
  .ok (some ⟨rpm, tpm, window⟩)

/-- `parse_rate_limit`. -/
def parseRateLimit (value : Option Value) (where_ : String) :
    Except ConfigError (Option RateLimit) :=
  optionalTable value none where_ "gateway.rate_limit" (readRateLimit where_)

/-- The fields of the concurrency bounds. -/
def readConcurrency (where_ : String) (table : Table) : Except ConfigError ConcurrencyConfig := do
  let maxInFlight ← optionalPositiveInteger (table.lookup "max_in_flight") 32 where_
    "gateway.concurrency.max_in_flight"
  let maxQueued ← optionalNonNegativeInteger (table.lookup "max_queued") 64 where_
    "gateway.concurrency.max_queued"
  let queueTimeout ← optionalPositiveNumber (table.lookup "queue_timeout") 2 where_
    "gateway.concurrency.queue_timeout"
  .ok ⟨maxInFlight, maxQueued, queueTimeout⟩

/-- `parse_concurrency`. -/
def parseConcurrency (value : Option Value) (where_ : String) :
    Except ConfigError ConcurrencyConfig :=
  optionalTable value .default where_ "gateway.concurrency" (readConcurrency where_)

/-- The fields of the shared state. -/
def readState (where_ : String) (table : Table) : Except ConfigError StateConfig := do
  let backend ← optionalAllowedString (table.lookup "backend") "memory" ["memory", "redis"] where_
    "gateway.state.backend"
  let url ← optionalNonEmptyString (table.lookup "url") where_ "gateway.state.url"
  let name ← optionalNonEmptyString (table.lookup "namespace") where_ "gateway.state.namespace"
  require (validPolicyId (name.getD "wayfinder")) where_
    "'gateway.state.namespace' must be 1-128 visible ASCII characters"
  require (!(backend = "redis" && url.isNone)) where_
    "'gateway.state.url' is required when gateway.state.backend is 'redis'"
  require (!(backend = "memory" && url.isSome)) where_
    "'gateway.state.url' is only valid when gateway.state.backend is 'redis'"
  .ok ⟨backend, url, name.getD "wayfinder"⟩

/-- `parse_state`. -/
def parseState (value : Option Value) (where_ : String) : Except ConfigError StateConfig :=
  optionalTable value .default where_ "gateway.state" (readState where_)

/-- The fields of the operator authentication. -/
def readAuth (where_ : String) (table : Table) : Except ConfigError GatewayAuthConfig := do
  let mode ← optionalAllowedString (table.lookup "mode") "vkeys" ["vkeys", "oidc", "both"] where_
    "gateway.auth.mode"
  let issuer ← optionalNonEmptyString (table.lookup "issuer") where_ "gateway.auth.issuer"
  let audience ← optionalNonEmptyString (table.lookup "audience") where_ "gateway.auth.audience"
  let jwksUrl ← optionalNonEmptyString (table.lookup "jwks_url") where_ "gateway.auth.jwks_url"
  let adminClaim ← optionalNonEmptyString (table.lookup "admin_claim") where_
    "gateway.auth.admin_claim"
  require (validPolicyId (adminClaim.getD "admin")) where_
    "'gateway.auth.admin_claim' must be 1-128 visible ASCII characters"
  require (!((mode = "oidc" || mode = "both") &&
      (issuer.isNone || audience.isNone || jwksUrl.isNone))) where_
    ("'gateway.auth.issuer', 'gateway.auth.audience', and 'gateway.auth.jwks_url' are " ++
      "required when gateway.auth.mode is 'oidc' or 'both'")
  .ok ⟨mode, issuer, audience, jwksUrl, adminClaim.getD "admin"⟩

/-- `parse_auth`. -/
def parseAuth (value : Option Value) (where_ : String) : Except ConfigError GatewayAuthConfig :=
  optionalTable value .default where_ "gateway.auth" (readAuth where_)

/-- One virtual key. -/
def parseKey (where_ keyId : String) (value : Value) : Except ConfigError VirtualKey := do
  let entry ← okOr value.asTable where_ ("'[gateway.keys." ++ keyId ++ "]' must be a table")
  let hash ← okOr (((entry.lookup "hash").bind Value.asStr).filter isSha256Hex) where_
    ("'gateway.keys." ++ keyId ++ ".hash' must be a 64-char SHA-256 hex digest " ++
      "(mint a key with `wayfinder-router keys new`)")
  let tags ← optionalNonEmptyStringList (entry.lookup "tags") where_
    ("gateway.keys." ++ keyId ++ ".tags") "a list of strings"
  let workspace ← optionalNonEmptyString (entry.lookup "workspace") where_
    ("gateway.keys." ++ keyId ++ ".workspace")
  let models ← optionalNonEmptyStringList (entry.lookup "models") where_
    ("gateway.keys." ++ keyId ++ ".models") "a list of model names"
  let budget ← parseBudget (entry.lookup "budget") (where_ ++ " [gateway.keys." ++ keyId ++ "]")
  let rateLimit ← parseRateLimit (entry.lookup "rate_limit")
    (where_ ++ " [gateway.keys." ++ keyId ++ "]")
  .ok ⟨toAsciiLowercase hash, tags, workspace, budget, rateLimit, models⟩

/-- `parse_keys`. -/
def parseKeys (value : Option Value) (where_ : String) :
    Except ConfigError (IndexMap VirtualKey) :=
  tableMap value where_ "gateway.keys" (fun _ => .ok ()) (parseKey where_)

/-- One workspace. -/
def parseWorkspace (where_ workspaceId : String) (value : Value) :
    Except ConfigError Workspace := do
  require (validPolicyId workspaceId) where_
    "gateway workspace id must be 1-128 visible ASCII characters"
  let entry ← okOr value.asTable where_
    ("'[gateway.workspaces." ++ workspaceId ++ "]' must be a table")
  let models ← optionalNonEmptyStringList (entry.lookup "models") where_
    ("gateway.workspaces." ++ workspaceId ++ ".models") "a list of model names"
  let profile ← optionalNonEmptyString (entry.lookup "profile") where_
    ("gateway.workspaces." ++ workspaceId ++ ".profile")
  let budget ← parseBudget (entry.lookup "budget")
    (where_ ++ " [gateway.workspaces." ++ workspaceId ++ "]")
  let rateLimit ← parseRateLimit (entry.lookup "rate_limit")
    (where_ ++ " [gateway.workspaces." ++ workspaceId ++ "]")
  .ok ⟨models, profile, budget, rateLimit⟩

/-- `parse_workspaces`. -/
def parseWorkspaces (value : Option Value) (where_ : String) :
    Except ConfigError (IndexMap Workspace) :=
  tableMap value where_ "gateway.workspaces" (fun _ => .ok ()) (parseWorkspace where_)

/-- `MAX_ROUTING_PROFILES`. -/
def maxRoutingProfiles : ℕ := 64

/-- `MAX_ROUTING_PROFILE_BYTES`. -/
def maxRoutingProfileBytes : ℕ := 64 * 1024

/-- The keys of a profile that are not known. -/
def unknownProfileKeys (entry : Table) : List String :=
  (Table.keys entry).filter fun key => key ≠ "routing_toml"

/-- One routing profile. -/
def parseProfile (lib : Library) (where_ profileId : String) (value : Value) :
    Except ConfigError RoutingConfig := do
  require (validPolicyId profileId && profileId ≠ "default") where_
    ("'gateway.profiles." ++ profileId ++
      "' must use a non-default 1-128 character visible ASCII id")
  let entry ← okOr value.asTable where_
    ("'[gateway.profiles." ++ profileId ++ "]' must be a table")
  require (unknownProfileKeys entry = []) where_
    ("'gateway.profiles." ++ profileId ++ "' is routing-only and does not accept " ++
      ", ".intercalate (unknownProfileKeys entry))
  let routingToml ← okOr ((entry.lookup "routing_toml").bind Value.asStr) where_
    ("'gateway.profiles." ++ profileId ++ ".routing_toml' must be a string")
  require (routingToml.utf8ByteSize ≤ maxRoutingProfileBytes) where_
    ("'gateway.profiles." ++ profileId ++ ".routing_toml' exceeds " ++
      toString maxRoutingProfileBytes ++ " bytes")
  routingConfigFromToml lib routingToml (where_ ++ " [gateway.profiles." ++ profileId ++ "]") none
    .strictInput

/-- `parse_profiles`. -/
def parseProfiles (lib : Library) (value : Option Value) (where_ : String) :
    Except ConfigError (IndexMap RoutingConfig) :=
  tableMap value where_ "gateway.profiles"
    (fun table => require (table.length ≤ maxRoutingProfiles) where_
      ("'[gateway.profiles]' may contain at most " ++ toString maxRoutingProfiles ++ " profiles"))
    (parseProfile lib where_)

/-- `MAX_ROUTE_PRESETS`. -/
def maxRoutePresets : ℕ := 64

/-- `MAX_ROUTE_PRESET_MODELS`. -/
def maxRoutePresetModels : ℕ := 32

/-- The first element that is there twice. -/
def firstDuplicate : List String → Option String
  | [] => none
  | x :: l => if x ∈ l then some x else firstDuplicate l

/-- One routing preset. -/
def parseRoute (where_ routeId : String) (value : Value) : Except ConfigError RoutePreset := do
  require (validPolicyId routeId) where_
    ("'gateway.routes." ++ routeId ++ "' must use a 1-128 character visible ASCII id")
  let entry ← okOr value.asTable where_
    ("'[gateway.routes." ++ routeId ++ "]' must be a table")
  let models ← optionalNonEmptyStringList (entry.lookup "models") where_
    ("gateway.routes." ++ routeId ++ ".models") "a non-empty list of model names"
  require (models ≠ []) where_ ("'gateway.routes." ++ routeId ++ ".models' must not be empty")
  require (models.length ≤ maxRoutePresetModels) where_
    ("'gateway.routes." ++ routeId ++ ".models' may contain at most " ++
      toString maxRoutePresetModels ++ " model names")
  require models.Nodup where_
    ("'gateway.routes." ++ routeId ++ ".models' contains duplicate model '" ++
      (firstDuplicate models).getD "" ++ "'")
  .ok ⟨models⟩

/-- `parse_routes`. -/
def parseRoutes (value : Option Value) (where_ : String) :
    Except ConfigError (IndexMap RoutePreset) :=
  tableMap value where_ "gateway.routes"
    (fun table => require (table.length ≤ maxRoutePresets) where_
      ("'[gateway.routes]' may contain at most " ++ toString maxRoutePresets ++
        " named routes"))
    (parseRoute where_)

/-! ## Evidence and rollouts -/

/-- `MAX_SHADOW_CANDIDATE_ROUTES`. -/
def maxShadowCandidateRoutes : ℕ := 32

/-- The candidate routes are different and known, past those that were seen. -/
def checkCandidateRoutes (where_ : String) (routes : IndexMap RoutePreset) :
    List String → List String → Except ConfigError Unit
  | _, [] => .ok ()
  | seen, route :: rest => do
    require (route ∉ seen) where_
      ("'gateway.shadow.candidate_routes' contains duplicate route '" ++ route ++ "'")
    require (route ∈ routes.keys) where_
      ("'gateway.shadow.candidate_routes' references unknown route '" ++ route ++ "'")
    checkCandidateRoutes where_ routes (route :: seen) rest

/-- The fields of the shadow evaluation. -/
def readShadow (where_ : String) (routes : IndexMap RoutePreset) (table : Table) :
    Except ConfigError ShadowConfig := do
  let enabled ← optionalBool (table.lookup "enabled") false where_ "gateway.shadow.enabled"
  let sampleRate ← optionalNonNegativeNumber (table.lookup "sample_rate") 0 where_
    "gateway.shadow.sample_rate"
  require (sampleRate ≤ 1) where_ "'gateway.shadow.sample_rate' must be at most 1"
  let candidateRoutes ← optionalNonEmptyStringList (table.lookup "candidate_routes") where_
    "gateway.shadow.candidate_routes" "a list of route names"
  require (candidateRoutes.length ≤ maxShadowCandidateRoutes) where_
    ("'gateway.shadow.candidate_routes' may contain at most " ++
      toString maxShadowCandidateRoutes ++ " routes")
  checkCandidateRoutes where_ routes [] candidateRoutes
  let maxInFlight ← optionalPositiveInteger (table.lookup "max_in_flight") 2 where_
    "gateway.shadow.max_in_flight"
  let maxRecords ← optionalPositiveInteger (table.lookup "max_records") 2048 where_
    "gateway.shadow.max_records"
  let providerComparisons ← optionalBool (table.lookup "provider_comparisons") false where_
    "gateway.shadow.provider_comparisons"
  let providerSampleRate ← optionalNonNegativeNumber (table.lookup "provider_sample_rate") 0 where_
    "gateway.shadow.provider_sample_rate"
  require (providerSampleRate ≤ 1) where_ "'gateway.shadow.provider_sample_rate' must be at most 1"
  let providerMaxRequests ← optionalNonNegativeInteger (table.lookup "provider_max_requests") 0
    where_ "gateway.shadow.provider_max_requests"
  let providerWindow ← optionalPositiveNumber (table.lookup "provider_window") 60 where_
    "gateway.shadow.provider_window"
  require (providerWindow ≤ 86400) where_ "'gateway.shadow.provider_window' must be at most 86400"
  require (!(enabled && candidateRoutes = [])) where_
    "'gateway.shadow.candidate_routes' must not be empty when shadow routing is enabled"
  require (!(providerComparisons && (providerSampleRate ≤ 0 || providerMaxRequests = 0))) where_
    ("gateway.shadow.provider_comparisons requires a positive provider_sample_rate and " ++
      "provider_max_requests")
  .ok ⟨enabled, sampleRate, candidateRoutes, maxInFlight, maxRecords, providerComparisons,
    providerSampleRate, providerMaxRequests, providerWindow⟩

/-- `parse_shadow`. -/
def parseShadow (value : Option Value) (where_ : String) (routes : IndexMap RoutePreset) :
    Except ConfigError ShadowConfig :=
  optionalTable value .default where_ "gateway.shadow" (readShadow where_ routes)

/-- The fields of the canary rollout. -/
def readCanary (where_ : String) (routes : IndexMap RoutePreset) (table : Table) :
    Except ConfigError CanaryConfig := do
  let enabled ← optionalBool (table.lookup "enabled") false where_ "gateway.canary.enabled"
  let rolloutId := ((table.lookup "rollout_id").bind Value.asStr).getD "default"
  let candidateRoute := ((table.lookup "candidate_route").bind Value.asStr).getD ""
  let fraction ← optionalNonNegativeNumber (table.lookup "fraction") 0 where_
    "gateway.canary.fraction"
  require (fraction ≤ 1) where_ "'gateway.canary.fraction' must be at most 1"
  let scope ← optionalAllowedString (table.lookup "scope") "request"
    ["request", "workspace", "key", "cohort"] where_ "gateway.canary.scope"
  let cohort ← optionalString (fun s => s ≠ "" && validPolicyId s) (table.lookup "cohort") where_
    "'gateway.canary.cohort' must be a bounded non-empty string"
  require (rolloutId ≠ "" && validPolicyId rolloutId) where_
    "'gateway.canary.rollout_id' must be a bounded non-empty string"
  require (candidateRoute = "" || candidateRoute ∈ routes.keys) where_
    ("'gateway.canary.candidate_route' references unknown route '" ++ candidateRoute ++ "'")
  require (!(enabled && candidateRoute = "")) where_
    "'gateway.canary.candidate_route' must be set when canary rollout is enabled"
  require (!(scope = "cohort" && cohort.isNone)) where_
    "'gateway.canary.cohort' is required when scope is 'cohort'"
  let maxRequests ← optionalPositiveInteger (table.lookup "max_requests") 1000 where_
    "gateway.canary.max_requests"
  let window ← optionalPositiveNumber (table.lookup "window") 300 where_ "gateway.canary.window"
  require (window ≤ 86400) where_ "'gateway.canary.window' must be at most 86400"
  let minSamples ← optionalPositiveInteger (table.lookup "min_samples") 30 where_
    "gateway.canary.min_samples"
  let maxErrorRate ← optionalNonNegativeNumber (table.lookup "max_error_rate")
    CanaryConfig.default.maxErrorRate where_ "gateway.canary.max_error_rate"
  let maxLatencyMs ← optionalPositiveNumber (table.lookup "max_latency_ms") 30000 where_
    "gateway.canary.max_latency_ms"
  let maxCostMultiplier ← optionalPositiveNumber (table.lookup "max_cost_multiplier") 2 where_
    "gateway.canary.max_cost_multiplier"
  let maxQualityLoss ← optionalNonNegativeNumber (table.lookup "max_quality_loss")
    CanaryConfig.default.maxQualityLoss where_ "gateway.canary.max_quality_loss"
  let rollbackHold ← optionalPositiveNumber (table.lookup "rollback_hold") 900 where_
    "gateway.canary.rollback_hold"
  require (!(1 < maxErrorRate || 1 < maxQualityLoss)) where_
    "canary error-rate and quality-loss tripwires must be at most 1"
  .ok ⟨enabled, rolloutId, candidateRoute, fraction, scope, cohort, maxRequests, window, minSamples,
    maxErrorRate, maxLatencyMs, maxCostMultiplier, maxQualityLoss, rollbackHold⟩

/-- `parse_canary`. -/
def parseCanary (value : Option Value) (where_ : String) (routes : IndexMap RoutePreset) :
    Except ConfigError CanaryConfig :=
  optionalTable value .default where_ "gateway.canary" (readCanary where_ routes)

/-! ## Models -/

/-- `is_python_falsey`. -/
def isPythonFalsey : Value → Bool
  | .string value => value = ""
  | .integer value => value = 0
  | .float value => value = .finite 0
  | .boolean value => !value
  | .array values => values.isEmpty
  | .table entries => entries.isEmpty
  | .datetime _ => false

/-- `ProviderKind::as_str`. -/
def providerName : ProviderKind → String
  | .openAiCompatible => "openai-compatible"
  | .anthropic => "anthropic"
  | .appleFoundationModels => "apple-foundation-models"
  | .codexAppServer => "codex-app-server"

/-- The provider of a name. -/
def providerOf (name : String) : Option ProviderKind :=
  [ProviderKind.openAiCompatible, .anthropic, .appleFoundationModels, .codexAppServer].find?
    fun provider => providerName provider = name

/-- `ProviderTier::as_str`. -/
def tierName : ProviderTier → String
  | .local => "local"

/-- The strategies, in the order of `DEPLOYMENT_SELECTION_STRATEGIES`. -/
def strategies : List DeploymentSelectionStrategy :=
  [.weighted, .latency, .throughput, .availability, .cost, .capacity]

/-- `DeploymentSelectionStrategy::parse`. -/
def strategyOf (name : String) : Option DeploymentSelectionStrategy :=
  strategies.find? fun strategy => strategy.text = name

/-- `MAX_MODEL_DEPLOYMENTS`. -/
def maxModelDeployments : ℕ := 32

/-- `MAX_MODEL_DEPLOYMENT_WEIGHT`. -/
def maxModelDeploymentWeight : ℕ := 100

/-- One deployment, after those with the given ids. -/
def parseDeployment (where_ label : String) (ids : List String) (value : Value) :
    Except ConfigError GatewayDeployment := do
  let entry ← okOr value.asTable where_ ("'" ++ label ++ "' must be an inline table")
  let id ← requiredNonEmptyString (entry.lookup "id") where_ (label ++ ".id") "a string"
  require (id ≠ "default" && validPolicyId id) where_
    ("'" ++ label ++ ".id' must be a non-default visible ASCII identifier")
  require (id ∉ ids) where_ ("'" ++ label ++ ".id' is duplicated")
  let baseUrl ← requiredNonEmptyString (entry.lookup "base_url") where_ (label ++ ".base_url")
    "a string"
  let model ← requiredNonEmptyString (entry.lookup "model") where_ (label ++ ".model") "a string"
  let apiKeyEnv ← optionalNonEmptyString (entry.lookup "api_key_env") where_
    (label ++ ".api_key_env")
  let weight ← optionalPositiveInteger (entry.lookup "weight") 1 where_ (label ++ ".weight")
  require (weight ≤ maxModelDeploymentWeight) where_
    ("'" ++ label ++ ".weight' must be at most " ++ toString maxModelDeploymentWeight)
  let costPer1k ← optionalNonNegativeFiniteNumber (entry.lookup "cost_per_1k") where_
    (label ++ ".cost_per_1k")
  .ok ⟨id, baseUrl, model, apiKeyEnv, weight, costPer1k⟩

/-- The deployments from an index on. -/
def parseDeploymentsFrom (where_ modelName : String) :
    ℕ → List String → List Value → Except ConfigError (List GatewayDeployment)
  | _, _, [] => .ok []
  | index, ids, value :: values => do
    let deployment ← parseDeployment where_
      ("gateway.models." ++ modelName ++ ".deployments[" ++ toString index ++ "]") ids value
    let deployments ← parseDeploymentsFrom where_ modelName (index + 1) (deployment.id :: ids)
      values
    .ok (deployment :: deployments)

/-- A field that only models of the first provider have. -/
def onlyOpenAiCompatible {α : Type} (value : Option Value) (default : α) (where_ label : String)
    (provider : ProviderKind) (read : Value → Except ConfigError α) : Except ConfigError α :=
  match value with
  | none => .ok default
  | some value => do
    require (provider = .openAiCompatible) where_
      ("'" ++ label ++ "' is only valid for openai-compatible providers")
    read value

/-- `parse_deployments`. -/
def parseDeployments (value : Option Value) (where_ modelName : String) (provider : ProviderKind) :
    Except ConfigError (List GatewayDeployment) :=
  let label := "gateway.models." ++ modelName ++ ".deployments"
  onlyOpenAiCompatible value [] where_ label provider fun value => do
    let entries ← okOr value.asArray where_ ("'" ++ label ++ "' must be an array")
    require (entries.length ≤ maxModelDeployments) where_
      ("'" ++ label ++ "' may contain at most " ++ toString maxModelDeployments ++ " entries")
    parseDeploymentsFrom where_ modelName 0 [] entries

/-- The strategy of a selection policy. -/
def parseStrategy (value : Option Value) (where_ label : String) :
    Except ConfigError DeploymentSelectionStrategy :=
  match value with
  | none => .ok .weighted
  | some (.string name) => okOr (strategyOf name) where_
      ("'" ++ label ++ ".strategy' must be one of " ++
        ", ".intercalate (strategies.map DeploymentSelectionStrategy.text))
  | some _ => invalid where_ ("'" ++ label ++ ".strategy' must be a string")

/-- `parse_deployment_selection`. -/
def parseDeploymentSelection (value : Option Value) (where_ modelName : String)
    (provider : ProviderKind) : Except ConfigError DeploymentSelectionPolicy :=
  let label := "gateway.models." ++ modelName ++ ".deployment_selection"
  onlyOpenAiCompatible value defaultSelection where_ label provider fun value => do
    let table ← okOr value.asTable where_ ("'" ++ label ++ "' must be a table")
    let strategy ← parseStrategy (table.lookup "strategy") where_ label
    let maxCostPer1k ← optionalNonNegativeFiniteNumber (table.lookup "max_cost_per_1k") where_
      (label ++ ".max_cost_per_1k")
    let observationTtl ← optionalPositiveNumber (table.lookup "observation_ttl") 60 where_
      (label ++ ".observation_ttl")
    require (0 < observationTtl && observationTtl ≤ 3600) where_
      ("'" ++ label ++ ".observation_ttl' must be greater than 0 and at most 3600")
    .ok ⟨strategy, maxCostPer1k, observationTtl⟩

/-- The provider of a model. -/
def parseProvider (value : Option Value) (where_ label : String) :
    Except ConfigError ProviderKind :=
  match value with
  | none => .ok .openAiCompatible
  | some value => okOr (value.asStr.bind providerOf) where_
      ("'" ++ label ++ ".provider' must be one of openai-compatible, anthropic, " ++
        "apple-foundation-models, codex-app-server")

/-- The tier of a model. -/
def parseProviderTier (value : Option Value) (where_ label : String) :
    Except ConfigError (Option ProviderTier) :=
  match value with
  | none => .ok none
  | some value => some <$> okOr
      (value.asStr.bind fun name => if name = "local" then some .local else none) where_
      ("'" ++ label ++ ".tier' must be local")

/-- What each provider demands of a model. -/
def checkProvider (where_ label : String) (provider : ProviderKind) (baseUrl : Option String)
    (model : String) (tier : Option ProviderTier) (apiKeyEnv apiKeyCmd : Option String) :
    Except ConfigError Unit :=
  match provider with
  | .openAiCompatible => do
    require baseUrl.isSome where_ ("'" ++ label ++ ".base_url' must be a string")
    require tier.isNone where_ ("'" ++ label ++ ".tier' is only valid for native providers")
  | .anthropic => do
    require baseUrl.isSome where_ ("'" ++ label ++ ".base_url' must be a string")
    require apiKeyEnv.isSome where_ ("'" ++ label ++ ".api_key_env' is required for anthropic")
    require tier.isNone where_ ("'" ++ label ++ ".tier' is only valid for native providers")
  | .appleFoundationModels => do
    require baseUrl.isNone where_
      ("'" ++ label ++ ".base_url' is not valid for apple-foundation-models")
    require (apiKeyEnv.isNone && apiKeyCmd.isNone) where_
      ("'" ++ label ++ "' cannot configure credentials for apple-foundation-models")
    require (model = "system-default") where_
      ("'" ++ label ++ ".model' must be system-default for apple-foundation-models")
    require (tier = some .local) where_
      ("'" ++ label ++ ".tier' must be local for apple-foundation-models")
  | .codexAppServer => do
    require baseUrl.isNone where_ ("'" ++ label ++ ".base_url' is not valid for codex-app-server")
    require (apiKeyEnv.isNone && apiKeyCmd.isNone) where_
      ("'" ++ label ++ "' cannot configure credentials for codex-app-server")
    require tier.isNone where_ ("'" ++ label ++ ".tier' is not valid for codex-app-server")

/-- One model. -/
def parseModel (where_ name : String) (value : Value) : Except ConfigError GatewayModel := do
  let label := "gateway.models." ++ name
  let entry ← okOr value.asTable where_ ("'[" ++ label ++ "]' must be a table")
  let provider ← parseProvider (entry.lookup "provider") where_ label
  let tier ← parseProviderTier (entry.lookup "tier") where_ label
  let baseUrl ← optionalNonEmptyString (entry.lookup "base_url") where_ (label ++ ".base_url")
  let model ← requiredNonEmptyString (entry.lookup "model") where_ (label ++ ".model") "a string"
  let apiKeyEnv ← optionalNonEmptyString (entry.lookup "api_key_env") where_
    (label ++ ".api_key_env")
  let apiKeyCmd ← optionalNonEmptyString (entry.lookup "api_key_cmd") where_
    (label ++ ".api_key_cmd")
  require (!(apiKeyCmd.isSome && apiKeyEnv.isNone)) where_
    ("'" ++ label ++ ".api_key_cmd' needs 'api_key_env' to name the variable it fills")
  checkProvider where_ label provider baseUrl model tier apiKeyEnv apiKeyCmd
  let costPer1k ← optionalNonNegativeFiniteNumber (entry.lookup "cost_per_1k") where_
    (label ++ ".cost_per_1k")
  let fallbacks ← optionalNonEmptyStringList (entry.lookup "fallbacks") where_
    (label ++ ".fallbacks") "a list of model names"
  let contextWindow ← positiveInteger (entry.lookup "context_window") where_
    (label ++ ".context_window")
  let deployments ← parseDeployments (entry.lookup "deployments") where_ name provider
  let deploymentSelection ← parseDeploymentSelection (entry.lookup "deployment_selection") where_
    name provider
  .ok
    { provider, baseUrl, model, tier, apiKeyEnv, apiKeyCmd, costPer1k, fallbacks, contextWindow
      deployments, deploymentSelection }

/-- `parse_models`. -/
def parseModels (value : Option Value) (where_ : String) :
    Except ConfigError (IndexMap GatewayModel) :=
  tableMap (value.filter fun value => !isPythonFalsey value) where_ "gateway.models"
    (fun _ => .ok ()) (parseModel where_)

/-! ## References -/

section References

variable (models : IndexMap GatewayModel) (where_ : String)

/-- Each name is that of a model. -/
def checkModels (label : String) (names : List String) : Except ConfigError Unit :=
  names.forM fun name => require (name ∈ models.keys) where_
    ("'" ++ label ++ "' names unknown model '" ++ name ++ "'")

/-- `validate_model_fallbacks`. -/
def validateModelFallbacks : Except ConfigError Unit :=
  models.entries.forM fun entry => entry.2.fallbacks.forM fun fallback => do
    require (fallback ∈ models.keys) where_
      ("'gateway.models." ++ entry.1 ++ ".fallbacks' names unknown model '" ++ fallback ++ "'")
    require (fallback ≠ entry.1) where_
      ("'gateway.models." ++ entry.1 ++ ".fallbacks' cannot include itself")

/-- `validate_workspace_models`. -/
def validateWorkspaceModels (workspaces : IndexMap Workspace) : Except ConfigError Unit :=
  workspaces.entries.forM fun entry =>
    checkModels models where_ ("gateway.workspaces." ++ entry.1 ++ ".models") entry.2.models

/-- `validate_workspace_profiles`. -/
def validateWorkspaceProfiles (workspaces : IndexMap Workspace)
    (profiles : IndexMap RoutingConfig) : Except ConfigError Unit :=
  workspaces.entries.forM fun entry => entry.2.profile.toList.forM fun profile =>
    require (profile ∈ profiles.keys) where_
      ("'gateway.workspaces." ++ entry.1 ++ ".profile' names unknown profile '" ++ profile ++ "'")

/-- `validate_route_presets`. -/
def validateRoutePresets (routes : IndexMap RoutePreset) : Except ConfigError Unit :=
  routes.entries.forM fun entry =>
    checkModels models where_ ("gateway.routes." ++ entry.1 ++ ".models") entry.2.models

/-- The workspace of a key, if it names one. -/
def keyWorkspace (workspaces : IndexMap Workspace) (keyId : String) (key : VirtualKey) :
    Except ConfigError (Option Workspace) :=
  match key.workspace with
  | none => .ok none
  | some workspaceId => some <$> okOr (workspaces.get workspaceId) where_
      ("'gateway.keys." ++ keyId ++ ".workspace' names unknown workspace '" ++ workspaceId ++ "'")

/-- A workspace lets its keys use the model. -/
def workspacePermits (workspace : Option Workspace) (model : String) : Bool :=
  workspace.all fun workspace => workspace.models = [] || model ∈ workspace.models

/-- One key of `validate_keys`. -/
def validateKey (workspaces : IndexMap Workspace) (keyId : String) (key : VirtualKey) :
    Except ConfigError Unit := do
  let workspace ← keyWorkspace where_ workspaces keyId key
  key.models.forM fun model => do
    require (model ∈ models.keys) where_
      ("'gateway.keys." ++ keyId ++ ".models' names unknown model '" ++ model ++ "'")
    require (workspacePermits workspace model) where_
      ("'gateway.keys." ++ keyId ++ ".models' cannot broaden its workspace model policy with '" ++
        model ++ "'")

/-- `validate_keys`. -/
def validateKeys (keys : IndexMap VirtualKey) (workspaces : IndexMap Workspace) :
    Except ConfigError Unit :=
  keys.entries.forM fun entry => validateKey models where_ workspaces entry.1 entry.2

end References

/-! ## The gateway -/

/-- The settings of the `gateway` table, before the names in them are looked up. -/
def readGateway (lib : Library) (gateway : Table) (where_ : String) :
    Except ConfigError GatewayConfig := do
  let routeOn ← optionalAllowedString (gateway.lookup "route_on") "turn"
    ["turn", "last_user", "user", "all"] where_ "gateway.route_on"
  let sticky ← optionalBool (gateway.lookup "sticky") false where_ "gateway.sticky"
  let stickyCooldown ← optionalNonNegativeInteger (gateway.lookup "sticky_cooldown") 0 where_
    "gateway.sticky_cooldown"
  let slashDirectives ← optionalBool (gateway.lookup "slash_directives") false where_
    "gateway.slash_directives"
  let offline ← optionalBool (gateway.lookup "offline") false where_ "gateway.offline"
  let retries ← optionalNonNegativeInteger (gateway.lookup "retries") 2 where_ "gateway.retries"
  let breakerThreshold ← optionalPositiveInteger (gateway.lookup "breaker_threshold") 5 where_
    "gateway.breaker_threshold"
  let breakerCooldown ← optionalNonNegativeNumber (gateway.lookup "breaker_cooldown") 30 where_
    "gateway.breaker_cooldown"
  let failover ← optionalAllowedString (gateway.lookup "failover") "same-tier"
    ["same-tier", "degrade", "escalate"] where_ "gateway.failover"
  let budget ← parseBudget (gateway.lookup "budget") where_
  let cache ← parseCache (gateway.lookup "cache") where_
  let rateLimit ← parseRateLimit (gateway.lookup "rate_limit") where_
  let concurrency ← parseConcurrency (gateway.lookup "concurrency") where_
  let state ← parseState (gateway.lookup "state") where_
  require (!(cache.any fun cache => cache.backend = "redis") || state.backend = "redis") where_
    "'gateway.cache.backend' = 'redis' requires 'gateway.state.backend' = 'redis'"
  let auth ← parseAuth (gateway.lookup "auth") where_
  let workspaces ← parseWorkspaces (gateway.lookup "workspaces") where_
  let profiles ← parseProfiles lib (gateway.lookup "profiles") where_
  let keys ← parseKeys (gateway.lookup "keys") where_
  let models ← parseModels (gateway.lookup "models") where_
  let routes ← parseRoutes (gateway.lookup "routes") where_
  let shadow ← parseShadow (gateway.lookup "shadow") where_ routes
  let canary ← parseCanary (gateway.lookup "canary") where_ routes
  .ok
    { allowUnauthenticatedDefault := false
      models, routeOn, sticky, stickyCooldown, slashDirectives, offline, retries
      breakerThreshold, breakerCooldown, failover, budget, cache, rateLimit, concurrency
      state, auth, shadow, canary, workspaces, profiles, routes, keys }

/-- The checks of the names that a configuration uses. -/
def validateReferences (where_ : String) (config : GatewayConfig) : Except ConfigError Unit := do
  validateModelFallbacks config.models where_
  validateWorkspaceModels config.models where_ config.workspaces
  validateWorkspaceProfiles where_ config.workspaces config.profiles
  validateRoutePresets config.models where_ config.routes
  validateKeys config.models where_ config.keys config.workspaces

/-- `gateway_config_from_toml`, of the `gateway` table. -/
def gatewayConfigFromTable (lib : Library) (gateway : Table) (where_ : String) :
    Except ConfigError GatewayConfig := do
  let config ← readGateway lib gateway where_
  validateReferences where_ config
  .ok config

/-- `gateway_config_from_toml`, of the root of a document. -/
def gatewayConfigFromValue (lib : Library) (root : Value) (where_ : String) :
    Except ConfigError GatewayConfig := do
  let root ← okOr root.asTable where_ "document root must be a table"
  match root.lookup "gateway" with
  | none => .ok .default
  | some value =>
    let gateway ← okOr value.asTable where_ "'[gateway]' must be a table"
    gatewayConfigFromTable lib gateway where_

/-- `gateway_config_from_toml`. -/
def gatewayConfigFromToml (lib : Library) (text where_ : String) :
    Except ConfigError GatewayConfig :=
  match lib.parse text with
  | .error message => .error (.invalidToml where_ message)
  | .ok root => gatewayConfigFromValue lib root where_

end WayfinderRouter.Config
