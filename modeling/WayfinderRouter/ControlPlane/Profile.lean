import WayfinderRouter.Config.RoutingRoundTrip

/-!
# Policy profiles

A policy profile carries a routing configuration as its canonical text. It is made from a
configuration by writing it, and it is validated by reading the text back.

## Main definitions

- `PolicyProfile.new`, `PolicyProfile.validate` — making and checking a profile
- `RoutingSurvives` — a configuration survives being written and can be made a profile
- `routingSurvives_iff` — which configurations do
-/

namespace WayfinderRouter.ControlPlane

open Config Toml

/-- The text of a configuration error. -/
def configErrorText : ConfigError → String
  | .invalidToml where_ message => where_ ++ ": invalid TOML: " ++ message
  | .invalidValue where_ message => where_ ++ ": " ++ message

/-- `PolicyError`. -/
inductive PolicyError where
  | invalidIdentifier (kind : String)
  | unsupportedSchema (version : String)
  | invalidProfileCount
  | tooManyBindings
  | duplicateProfile (id : String)
  | missingDefaultProfile
  | unknownDefaultProfile (id : String)
  | unknownProfile (id : String)
  | duplicateBinding (subject : String)
  | routingDocumentTooLarge
  | invalidRouting (profileId message : String)
  | nonCanonicalRouting (profileId : String)
  | audit
  | runtimePreparation (message : String)
  | reload
  | noRollbackTarget
  | missingRuntime
  | snapshotNotInstalled
deriving DecidableEq

/-- `MAX_ID_BYTES`. -/
def maxIdBytes : ℕ := 128

/-- `MAX_ROUTING_TOML_BYTES`. -/
def maxRoutingTomlBytes : ℕ := 64 * 1024

/-- `validate_id`. -/
def validateId (kind value : String) : Except PolicyError Unit :=
  if trim value = "" ∨ maxIdBytes < value.utf8ByteSize ∨
      value.toList.any (fun c => c.toNat < 32 || c.toNat = 127) then
    .error (.invalidIdentifier kind)
  else .ok ()

structure PolicyProfile where
  id : String
  routingToml : String
deriving DecidableEq

namespace PolicyProfile

variable (lib : Library)

/-- `PolicyProfile::validate`. -/
def validate (profile : PolicyProfile) : Except PolicyError RoutingConfig := do
  validateId "profile id" profile.id
  if maxRoutingTomlBytes < profile.routingToml.utf8ByteSize then
    .error .routingDocumentTooLarge
  else
    match routingConfigFromToml lib profile.routingToml
        ("policy profile '" ++ profile.id ++ "'") none .strictInput with
    | .error error => .error (.invalidRouting profile.id (configErrorText error))
    | .ok routing =>
      if dumpRoutingToml lib routing = profile.routingToml then .ok routing
      else .error (.nonCanonicalRouting profile.id)

/-- `PolicyProfile::new`. -/
def new (id : String) (routing : RoutingConfig) : Except PolicyError PolicyProfile := do
  let profile : PolicyProfile := ⟨id, dumpRoutingToml lib routing⟩
  let _ ← profile.validate lib
  .ok profile

end PolicyProfile

/-- The configuration survives being written, its text is canonical, and it can be made a profile
within the bounds of profiles. -/
structure RoutingSurvives (lib : Library) (config : RoutingConfig) : Prop where
  reads : ∀ where_, routingConfigFromToml lib (dumpRoutingToml lib config) where_ none
    .strictInput = .ok config
  canonical : ∀ where_ read, routingConfigFromToml lib (dumpRoutingToml lib config) where_ none
    .strictInput = .ok read → dumpRoutingToml lib read = dumpRoutingToml lib config
  profile : ∀ id, validateId "profile id" id = .ok () →
    (dumpRoutingToml lib config).utf8ByteSize ≤ maxRoutingTomlBytes →
      PolicyProfile.new lib id config = .ok ⟨id, dumpRoutingToml lib config⟩

/-- A text that is read back can be made a profile. -/
theorem PolicyProfile.new_eq {lib : Library} {config : RoutingConfig}
    (hreads : ∀ where_, routingConfigFromToml lib (dumpRoutingToml lib config) where_ none
      .strictInput = .ok config) {id : String} (hid : validateId "profile id" id = .ok ())
    (hsize : (dumpRoutingToml lib config).utf8ByteSize ≤ maxRoutingTomlBytes) :
    PolicyProfile.new lib id config = .ok ⟨id, dumpRoutingToml lib config⟩ := by
  have hvalidate : PolicyProfile.validate lib ⟨id, dumpRoutingToml lib config⟩ = .ok config := by
    unfold PolicyProfile.validate
    rw [bind_eq_ok]
    refine ⟨(), hid, ?_⟩
    rw [if_neg (Nat.not_lt.mpr hsize)]
    simp only [hreads, if_true]
  unfold PolicyProfile.new
  rw [bind_eq_ok]
  exact ⟨config, hvalidate, rfl⟩

/-- A configuration that was read survives exactly when rounding keeps each of its numbers and it
is not the ladder of the threshold zero. -/
theorem routingSurvives_iff (lib : Library) (text where_ : String) (env : Option String)
    (order : TierOrderPolicy) (config : RoutingConfig)
    (haccepted : routingConfigFromToml lib text where_ env order = .ok config)
    (hreads : lib.Reads (routingDocument config) "\n") :
    RoutingSurvives lib config ↔
      (∀ x ∈ config.numbers, pythonRound x 6 = x) ∧ ¬ config.ThresholdZero := by
  have hconfig := of_routingConfigFromToml haccepted
  have hback : ∀ where_, routingConfigFromToml lib (dumpRoutingToml lib config) where_ none
      .strictInput = .ok config ↔
        (∀ x ∈ config.numbers, pythonRound x 6 = x) ∧ ¬ config.ThresholdZero := by
    intro where_
    rw [routingConfigFromToml_dump hconfig.mode hreads, reads_back_iff hconfig,
      RoutingConfig.rounded_eq]
    rfl
  constructor
  · intro h
    exact (hback where_).mp (h.reads where_)
  · intro h
    have hall := fun where_ => (hback where_).mpr h
    refine ⟨hall, fun where_ read hread => ?_,
      fun id hid hsize => PolicyProfile.new_eq hall hid hsize⟩
    rw [hall where_] at hread
    cases hread
    rfl

/-- The binary configuration of a threshold. -/
def binaryConfig (threshold : ℚ) : RoutingConfig :=
  ⟨.default, binaryTiers threshold, none, .default⟩

/-- A parser that knows the document `threshold = ..` and what is written for it. -/
def binaryLibrary (text : String) (threshold : ℚ) : Library where
  parse read :=
    if read = text then
      .ok (.table [("routing", .table [("threshold", .float (.finite threshold))])])
    else .ok (.table [("routing", .table (routingFields (binaryConfig threshold)).entries)])
  quote text := "\"" ++ text ++ "\""

theorem binaryLibrary_reads {text : String} {threshold : ℚ}
    (hrange : 0 ≤ threshold ∧ threshold ≤ 1)
    (htext : dumpRoutingToml (binaryLibrary text threshold) (binaryConfig threshold) ≠ text) :
    (binaryLibrary text threshold).Reads (routingDocument (binaryConfig threshold)) "\n" := by
  intro t ht
  rw [table_routingDocument (Mode.threshold hrange)] at ht
  cases ht
  exact if_neg htext

theorem binaryLibrary_accepts {text : String} {threshold : ℚ}
    (hrange : 0 ≤ threshold ∧ threshold ≤ 1) (where_ : String) :
    routingConfigFromToml (binaryLibrary text threshold) text where_ none .strictInput =
      .ok (binaryConfig threshold) := by
  have hnumber : parseThreshold (some (.float (.finite threshold))) where_ defaultThreshold =
      .ok threshold := by
    show okOr ((some threshold).filter _) where_ _ = _
    rw [okOr_eq_ok, Option.filter_eq_some_iff]
    exact ⟨rfl, decide_eq_true hrange⟩
  have hparse : (binaryLibrary text threshold).parse text =
      .ok (.table [("routing", .table [("threshold", .float (.finite threshold))])]) :=
    if_pos rfl
  unfold routingConfigFromToml
  rw [hparse]
  show routingConfigFromTable [("threshold", .float (.finite threshold))] where_ none
    .strictInput = _
  simp only [routingConfigFromTable, bind_eq_ok]
  refine ⟨.default, rfl, .default, rfl, (binaryTiers threshold, none), ?_, rfl⟩
  show (parseThreshold (some (.float (.finite threshold))) where_ defaultThreshold >>= fun _ =>
    _) = _
  rw [hnumber]
  rfl

/-- The threshold one half survives. -/
theorem routingSurvives_half :
    RoutingSurvives (binaryLibrary "[routing]\nthreshold = 0.5\n" (1 / 2))
      (binaryConfig (1 / 2)) := by
  refine (routingSurvives_iff _ "[routing]\nthreshold = 0.5\n" "router" none .strictInput _
    (binaryLibrary_accepts (by decide +kernel) "router")
    (binaryLibrary_reads (by decide +kernel) ?_)).mpr ⟨?_, ?_⟩
  · decide +kernel
  · decide +kernel
  · rintro ⟨-, h⟩
    revert h
    decide +kernel

/-- The threshold zero is written as a ladder that is not read back. -/
theorem thresholdZero_lost :
    ¬ ∀ (lib : Library) (text where_ : String) (env : Option String) (order : TierOrderPolicy)
      (config : RoutingConfig),
      routingConfigFromToml lib text where_ env order = .ok config →
      lib.Reads (routingDocument config) "\n" →
      (∀ x ∈ config.numbers, ∃ n, IsMillionths n x) → RoutingSurvives lib config := by
  intro h
  have hsurvives := h (binaryLibrary "[routing]\nthreshold = 0.0\n" 0)
    "[routing]\nthreshold = 0.0\n" "router" none .strictInput (binaryConfig 0)
    (binaryLibrary_accepts (by decide +kernel) "router")
    (binaryLibrary_reads (by decide +kernel) (by decide +kernel)) ?_
  · exact ((routingSurvives_iff _ "[routing]\nthreshold = 0.0\n" "router" none .strictInput _
      (binaryLibrary_accepts (by decide +kernel) "router")
      (binaryLibrary_reads (by decide +kernel) (by decide +kernel))).mp hsurvives).2 ⟨rfl, rfl⟩
  · have hnumbers : ∀ x ∈ (binaryConfig 0).numbers,
        IsMillionths (x * 10 ^ 6).num.toNat x := by
      unfold IsMillionths
      decide +kernel
    exact fun x hx => ⟨_, hnumbers x hx⟩

end WayfinderRouter.ControlPlane
