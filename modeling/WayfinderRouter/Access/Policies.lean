import WayfinderRouter.Access.VirtualKeys
import WayfinderRouter.Config.Accepted

/-!
# The access policy of a configuration

A virtual key may use the models that it lists, or else those of its workspace. A configuration is
refused when a key lists a model that its workspace does not.

## Main definitions

- `allowedModels` — the models that a configured key may use
- `KeyPolicy.fromGatewayConfig` — the policy of a configuration
- `PresentsKey`, `KeyPermits` — a caller has presented a key, and the key may use an alias

## Main results

- `presentsKey_of_authenticate` — an authenticated caller has presented the key of its grant
- `keyPermits_of_mem` — what a key may use, its workspace allows
-/

namespace WayfinderRouter.Access

open Config

/-- `AccessPolicyError`, as far as the construction of a policy returns it. -/
inductive ConstructionError where
  | tooManyKeys
  | tooManyWorkspaces
  | invalidKeyId
  | rateLimit (error : RateLimit.RateLimitError)
deriving DecidableEq

/-- `MAX_VIRTUAL_KEYS`. -/
def maxVirtualKeys : ℕ := 256

/-- `MAX_WORKSPACES`. -/
def maxWorkspaces : ℕ := 256

/-- `MAX_KEY_ID_BYTES`. -/
def maxKeyIdBytes : ℕ := 128

/-- `char::is_control`. -/
def isControl (c : Char) : Bool := c.toNat < 0x20 || (0x7f ≤ c.toNat && c.toNat < 0xa0)

/-- `valid_key_id`. -/
def validKeyId (value : String) : Bool :=
  value ≠ "" && value.utf8ByteSize ≤ maxKeyIdBytes && value.toList.all fun c => !isControl c

/-- `new_limiter`, of a limit that may be left out. -/
def newLimiter (limit : Option Config.RateLimit) :
    Except ConstructionError (Option RateLimit.State) :=
  match limit with
  | none => .ok none
  | some limit =>
    (some <$> RateLimit.new limit.rpm limit.tpm (.finite limit.window)).mapError .rateLimit

/-- `allowed_models` of a configured key: its own, or else those of its workspace. -/
def allowedModels (config : GatewayConfig) (key : Config.VirtualKey) : List String :=
  if key.models = [] then
    ((key.workspace.bind config.workspaces.get).map Workspace.models).getD []
  else key.models

/-- What authentication reads of a configured key. -/
def configuredKey (config : GatewayConfig) (entry : String × Config.VirtualKey) :
    VirtualKeyPolicy :=
  ⟨entry.1, entry.2.hash, allowedModels config entry.2⟩

/-- The policy of one key. -/
def keyPolicy (config : GatewayConfig) (entry : String × Config.VirtualKey) :
    Except ConstructionError VirtualKeyPolicy :=
  if validKeyId entry.1 then
    (fun _ => configuredKey config entry) <$> newLimiter entry.2.rateLimit
  else .error .invalidKeyId

/-- `AccessPolicy::from_gateway_config_with_clock`, as far as authentication and the lists of
models need it. -/
def KeyPolicy.fromGatewayConfig (config : GatewayConfig) : Except ConstructionError KeyPolicy :=
  if maxVirtualKeys < config.keys.entries.length then .error .tooManyKeys
  else if maxWorkspaces < config.workspaces.entries.length then .error .tooManyWorkspaces
  else do
    let _ ← newLimiter config.rateLimit
    let _ ← config.workspaces.entries.mapM fun entry => newLimiter entry.2.rateLimit
    let keys ← config.keys.entries.mapM (keyPolicy config)
    .ok ⟨keys, config.allowUnauthenticatedDefault⟩

/-! ## The lists of models -/

variable {lib : Toml.Library} {text where_ : String} {config : GatewayConfig}

/-- A configured key may use no model outside the list of its workspace. -/
theorem allowedModels_within (h : gatewayConfigFromToml lib text where_ = .ok config)
    {keyId workspaceId : String} {key : Config.VirtualKey}
    (hkey : (keyId, key) ∈ config.keys.entries) (hworkspace : key.workspace = some workspaceId) :
    ∃ workspace, config.workspaces.get workspaceId = some workspace ∧
      (workspace.models ≠ [] → allowedModels config key ⊆ workspace.models) := by
  have haccepted := (ensures_gatewayConfigFromToml config h).1
  have hknown := haccepted.keyWorkspaces (keyId, key) hkey workspaceId hworkspace
  obtain ⟨workspace, hget⟩ := Option.isSome_iff_exists.mp (IndexMap.mem_keys_iff.mp hknown)
  refine ⟨workspace, hget, fun hlist model hmodel => ?_⟩
  unfold allowedModels at hmodel
  split at hmodel
  · -- a key without a list has that of its workspace
    rw [hworkspace, Option.bind_some, hget] at hmodel
    exact hmodel
  · obtain ⟨-, hpermits⟩ := haccepted.keyModels (keyId, key) hkey model hmodel
    rw [hworkspace, Option.bind_some, hget, workspacePermits, Option.all_some, Bool.or_eq_true,
      decide_eq_true_iff, decide_eq_true_iff] at hpermits
    exact hpermits.resolve_left hlist

/-- The keys of a policy are those of the configuration, in order. -/
theorem eq_of_fromGatewayConfig {policy : KeyPolicy}
    (h : KeyPolicy.fromGatewayConfig config = .ok policy) :
    policy =
      ⟨config.keys.entries.map (configuredKey config), config.allowUnauthenticatedDefault⟩ := by
  unfold KeyPolicy.fromGatewayConfig at h
  split_ifs at h
  simp only [bind_eq_ok] at h
  obtain ⟨-, -, -, -, keys, hkeys, h⟩ := h
  cases h
  have hsame : List.Forall₂ (fun entry key => configuredKey config entry = key)
      config.keys.entries keys := by
    refine (mapM_eq_ok.mp hkeys).imp fun entry key hkey => ?_
    unfold keyPolicy at hkey
    split_ifs at hkey
    obtain ⟨-, -, hkey⟩ := map_eq_ok.mp hkey
    exact hkey
  rw [← List.forall₂_map_left_iff (R := Eq), List.forall₂_eq_eq_eq] at hsame
  rw [hsame]

/-! ## Who may use an alias -/

/-- The caller has presented the token of a configured key. -/
structure PresentsKey (config : GatewayConfig) (sha256 : List UInt8 → List UInt8)
    (authorization : Option String) (key : Config.VirtualKey) : Prop where
  configured : ∃ keyId, config.keys.get keyId = some key
  token : ∃ token, extractBearer authorization = some token ∧
    parseDigest key.hash = some (sha256 (utf8 token.toList))

/-- The configuration asks this caller for no key. -/
def AsksForNoKey (config : GatewayConfig) (authorization : Option String) : Prop :=
  config.keys.entries = [] ∨ authorization = none ∧ config.allowUnauthenticatedDefault = true

/-- The key may use the alias: its own list and that of its workspace have the alias, as far as
they are not empty. -/
structure KeyPermits (config : GatewayConfig) (key : Config.VirtualKey) (name : String) : Prop where
  own : key.models ≠ [] → name ∈ key.models
  workspace : ∀ workspaceId ∈ key.workspace, ∃ workspace,
    config.workspaces.get workspaceId = some workspace ∧
      (workspace.models ≠ [] → name ∈ workspace.models)

/-- What the lists of models of a configured key allow, its workspace allows as well. -/
theorem keyPermits_of_mem (h : gatewayConfigFromToml lib text where_ = .ok config) {keyId : String}
    {key : Config.VirtualKey} (hkey : (keyId, key) ∈ config.keys.entries) {name : String}
    (hname : allowedModels config key ≠ [] → name ∈ allowedModels config key) :
    KeyPermits config key name where
  own hlist := by
    rw [allowedModels, if_neg hlist] at hname
    exact hname hlist
  workspace workspaceId hworkspace := by
    obtain ⟨workspace, hget, hsubset⟩ := allowedModels_within h hkey (Option.mem_def.mp hworkspace)
    refine ⟨workspace, hget, fun hlist => hsubset hlist (hname fun hempty => ?_)⟩
    -- a key without a list of its own has the list of its workspace, which is not empty
    unfold allowedModels at hempty
    split_ifs at hempty with hown
    · rw [Option.mem_def.mp hworkspace, Option.bind_some, hget] at hempty
      exact hlist hempty
    · exact hown hempty

/-- **Grants**: a caller that is authenticated has presented the token of a configured key, whose
models it may use, unless the configuration asks for no key. -/
theorem presentsKey_of_authenticate {policy : KeyPolicy}
    (hpolicy : KeyPolicy.fromGatewayConfig config = .ok policy)
    {sha256 : List UInt8 → List UInt8} {authorization : Option String} {grant : AccessGrant}
    (h : policy.authenticate sha256 authorization = some grant) :
    AsksForNoKey config authorization ∨
      ∃ keyId key, (keyId, key) ∈ config.keys.entries ∧
        PresentsKey config sha256 authorization key ∧
        policy.allowedModels grant = allowedModels config key := by
  obtain rfl := eq_of_fromGatewayConfig hpolicy
  cases hgrant : KeyPolicy.key ⟨config.keys.entries.map (configuredKey config),
      config.allowUnauthenticatedDefault⟩ grant with
  | none =>
    left
    unfold KeyPolicy.authenticate at h
    split_ifs at h with hempty hdefault
    · exact .inl (List.map_eq_nil_iff.mp (List.isEmpty_iff.mp hempty))
    · rw [Bool.and_eq_true, Option.isNone_iff_eq_none] at hdefault
      exact .inr hdefault
    · -- a key that was found by its id is one of the policy
      obtain ⟨keyId, -, hindex⟩ := Option.bind_eq_some_iff.mp h
      obtain ⟨index, hfind, rfl⟩ := Option.map_eq_some_iff.mp hindex
      obtain ⟨hlt, -⟩ := List.findIdx?_eq_some_iff_getElem.mp hfind
      rw [KeyPolicy.key, Option.bind_some, List.getElem?_eq_getElem hlt] at hgrant
      cases hgrant
  | some key =>
    right
    obtain ⟨token, htoken, matched, hmatched, hsame, hdigest⟩ :=
      KeyPolicy.presents_of_keyId h (congrArg (Option.map VirtualKeyPolicy.id) hgrant)
    obtain ⟨index, -, hget⟩ := Option.bind_eq_some_iff.mp hgrant
    obtain ⟨entry, hentry, rfl⟩ := List.mem_map.mp (List.mem_of_getElem? hget)
    obtain ⟨entry', hentry', rfl⟩ := List.mem_map.mp hmatched
    -- the key with the digest and the key of the grant have one id
    obtain rfl : entry' = entry :=
      List.inj_on_of_nodup_map config.keys.nodup hentry' hentry hsame
    refine ⟨entry'.1, entry'.2, hentry, ⟨⟨entry'.1, IndexMap.get_eq_some_iff.mpr hentry⟩, token,
      htoken, hdigest⟩, ?_⟩
    rw [KeyPolicy.allowedModels, hgrant]
    rfl

end WayfinderRouter.Access
