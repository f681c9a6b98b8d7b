import Mathlib.Data.List.ReduceOption
import WayfinderRouter.Gateway.Signals
import WayfinderRouter.Ordered.Admitted

/-!
# Runs of the deployment observations

Every delivery attempt observes its deployment. What the store holds after any number of
observations is a function of their history: the first deployments that were observed have their
last samples, and the others have none.

## Main definitions

- `observed` — the store after a history of observations
- `kept` — the samples of a history, each under its key
- `Double.Proportion` — a number between zero and one

## Main results

- `observed_exact` — the samples of every deployment after every history
- `summary_sound` — the ranges of the signals of every summary
-/

namespace WayfinderRouter

namespace Double

/-- A finite number that is not negative and at most `bound`. -/
def UpTo (bound : ℚ) : Double → Prop
  | .finite value => 0 ≤ value ∧ value ≤ bound
  | .notFinite => False

/-- A number between zero and one. -/
abbrev Proportion : Double → Prop := UpTo 1

/-- A number that is not negative, or infinite. -/
def NonNegative : Double → Prop
  | .finite value => 0 ≤ value
  | .notFinite => True

theorem UpTo.isFinite {bound : ℚ} {d : Double} (h : d.UpTo bound) : d.isFinite := by
  cases d with
  | finite value => rfl
  | notFinite => exact h.elim

theorem nonNegative_round {q : ℚ} (hq : 0 ≤ q) : (round q).NonNegative := by
  rw [round]
  split_ifs
  · exact nearest_nonneg hq
  · trivial

/-- Rounding does not pass a whole number. -/
theorem upTo_round {q : ℚ} {n : ℕ} (hn : n < 2 ^ 53) (hq : 0 ≤ q) (hle : q ≤ n) :
    (round q).UpTo n := by
  have hlt : (n : ℚ) < 2 ^ 53 := by exact_mod_cast hn
  have hnearest : nearest n = n := by
    have habs : |((n : ℤ) : ℚ)| < 2 ^ 53 := by
      rw [Int.cast_natCast, abs_of_nonneg (Nat.cast_nonneg n)]
      exact hlt
    exact_mod_cast nearest_intCast habs
  have hbound : nearest q ≤ n := hnearest ▸ nearest_mono hq hle
  have hmax : (2 : ℚ) ^ 53 ≤ maxFinite := by
    calc (2 : ℚ) ^ 53 ≤ 2 ^ 971 := pow_le_pow_right₀ (by norm_num) (by norm_num)
      _ ≤ (2 ^ 53 - 1) * 2 ^ 971 := le_mul_of_one_le_left (by positivity) (by norm_num)
  rw [round, if_pos (hbound.trans (hlt.le.trans hmax))]
  exact ⟨nearest_nonneg hq, hbound⟩

theorem NonNegative.add {a b : Double} (ha : a.NonNegative) (hb : b.NonNegative) :
    (a.add b).NonNegative := by
  cases a with
  | notFinite => trivial
  | finite x =>
    cases b with
    | notFinite => trivial
    | finite y => exact nonNegative_round (add_nonneg ha hb)

theorem UpTo.add {a b : Double} {m : ℕ} (hm : m + 1 < 2 ^ 53) (ha : a.UpTo m)
    (hb : b.Proportion) : (a.add b).UpTo (m + 1 : ℕ) := by
  cases a with
  | notFinite => exact ha.elim
  | finite x =>
    cases b with
    | notFinite => exact hb.elim
    | finite y =>
      apply upTo_round hm (add_nonneg ha.1 hb.1)
      push_cast
      exact add_le_add ha.2 hb.2

theorem NonNegative.divNat {a : Double} (ha : a.NonNegative) (n : ℕ) :
    (a.divNat n).NonNegative := by
  cases a with
  | notFinite => trivial
  | finite x => exact nonNegative_round (div_nonneg ha (Nat.cast_nonneg n))

/-- A sum of proportions, divided by how many there are. -/
theorem UpTo.divNat {a : Double} {n : ℕ} (hn : 0 < n) (ha : a.UpTo n) :
    (a.divNat n).Proportion := by
  cases a with
  | notFinite => exact ha.elim
  | finite x =>
    have hle : x / n ≤ ((1 : ℕ) : ℚ) := by
      rw [Nat.cast_one]
      exact (div_le_one (by exact_mod_cast hn)).mpr ha.2
    have hround := upTo_round (by norm_num) (div_nonneg ha.1 (Nat.cast_nonneg n)) hle
    rwa [Nat.cast_one] at hround

theorem nonNegative_foldl {values : List Double} (hvalues : ∀ value ∈ values, value.NonNegative)
    {sum : Double} (hsum : sum.NonNegative) : (values.foldl Double.add sum).NonNegative := by
  induction values generalizing sum with
  | nil => exact hsum
  | cons value values ih =>
    rw [List.forall_mem_cons] at hvalues
    exact ih hvalues.2 (hsum.add hvalues.1)

theorem upTo_foldl {values : List Double} (hvalues : ∀ value ∈ values, value.Proportion)
    {sum : Double} {m : ℕ} (hsum : sum.UpTo m) (hm : m + values.length < 2 ^ 53) :
    (values.foldl Double.add sum).UpTo (m + values.length : ℕ) := by
  induction values generalizing sum m with
  | nil => exact hsum
  | cons value values ih =>
    rw [List.forall_mem_cons] at hvalues
    rw [List.length_cons] at hm ⊢
    have hnext := ih hvalues.2 (hsum.add (by omega) hvalues.1) (by omega)
    rwa [Nat.add_right_comm, Nat.add_assoc] at hnext

end Double

namespace Gateway

open Ordered (admitted updatesOf)

namespace DeploymentObservationStore

/-! ## Histories -/

/-- An observation of a deployment, at a reading of the clock. -/
structure Observed where
  deploymentId : String
  observation : DeploymentObservation
  clock : Double

/-- The store after a history of observations, which starts with the newest. -/
def observed : List Observed → DeploymentObservationStore
  | [] => []
  | o :: history => (observed history).observe o.deploymentId o.observation o.clock

/-- The sample of an observation under its key, unless a value of it is not acceptable. -/
def Observed.sample (o : Observed) : Option (String × TimedObservation) :=
  (sanitizeObservation o.observation).map fun observation =>
    (boundedSignalId o.deploymentId, ⟨boundedClock o.clock, observation⟩)

/-- The samples of a history, newest first. -/
def kept (history : List Observed) : List (String × TimedObservation) :=
  history.filterMap Observed.sample

/-- The samples of a key with one more. -/
def push (sample : TimedObservation) (samples : Option (List TimedObservation)) :
    List TimedObservation :=
  (samples.getD [] ++ [sample]).rtake 32

/-- An observation with an unacceptable value changes nothing, and the others are admitted or left
out. -/
theorem observe_eq (o : Observed) (store : DeploymentObservationStore) :
    store.observe o.deploymentId o.observation o.clock =
      match o.sample with
      | none => store
      | some (key, sample) => Ordered.takeIn 1024 key (push sample) store := by
  rw [observe, Observed.sample]
  cases sanitizeObservation o.observation with
  | none => rfl
  | some observation =>
    have hroom : ((Ordered.lookup (boundedSignalId o.deploymentId) store).isSome ∨
        store.length < 1024) ↔ ¬ ((Ordered.lookup (boundedSignalId o.deploymentId) store).isNone ∧
        1024 ≤ store.length) := by
      rw [not_and_or, not_le, Bool.not_eq_true, Option.isNone_eq_false_iff]
    simp only [Option.map_some, Ordered.takeIn, hroom, ite_not]
    rfl

theorem admits_observed (history : List Observed) :
    Ordered.Admits push 1024 (kept history) (observed history) := by
  induction history with
  | nil => exact Ordered.admits_nil push 1024
  | cons o history ih =>
    rw [observed, observe_eq, kept, List.filterMap_cons]
    cases o.sample with
    | none => exact ih
    | some sample => exact ih.takeIn sample.1 sample.2

/-- The samples of a key are the last ones. -/
theorem folded_push (key : String) (samples : List (String × TimedObservation)) :
    Ordered.folded push key samples =
      if updatesOf key samples = [] then none else some ((updatesOf key samples).rtake 32) := by
  apply Ordered.folded_eq (F := fun samples => samples.rtake 32)
  · intro sample
    rfl
  · intro sample samples
    exact Ordered.rtake_rtake_concat samples sample 32

/-- The first 1024 deployments that were observed with acceptable values have their last 32 samples,
and the others have none. -/
theorem lookup_observed (history : List Observed) (key : String) :
    Ordered.lookup key (observed history) =
      if key ∈ admitted 1024 ((kept history).map Prod.fst) then
        some ((updatesOf key (kept history)).rtake 32)
      else none := by
  rw [(admits_observed history).values]
  split_ifs with hkey
  · have hfolded := Ordered.isSome_folded_of_mem push
      (Ordered.admitted_subset 1024 _ hkey)
    rw [folded_push] at hfolded ⊢
    split_ifs at hfolded ⊢
    · cases hfolded
    · rfl
  · rfl

/-- **After every history** the store holds at most 1024 deployments, they are the first ones that
were observed with acceptable values, and each of them has its last 32 samples. -/
theorem observed_exact (history : List Observed) : (observed history).length ≤ 1024 ∧
    ∀ key, Ordered.lookup key (observed history) =
      if key ∈ admitted 1024 ((kept history).map Prod.fst) then
        some ((updatesOf key (kept history)).rtake 32)
      else none := by
  refine ⟨?_, lookup_observed history⟩
  rw [(admits_observed history).length_eq]
  exact Ordered.length_admitted_le 1024 _

/-! ## Summaries -/

/-- The values of an observation that has been kept. -/
structure Acceptable (o : DeploymentObservation) : Prop where
  latencySeconds : ∀ value ∈ o.latencySeconds, value.NonNegative
  ttftSeconds : ∀ value ∈ o.ttftSeconds, value.NonNegative
  throughputCharsPerSecond : ∀ value ∈ o.throughputCharsPerSecond, value.NonNegative
  capacityPressure : ∀ value ∈ o.capacityPressure, value.Proportion

theorem nonNegative_of_acceptable {value : Double} (h : acceptable value) :
    value.NonNegative := by
  cases value with
  | finite value =>
    have hvalue : 0 ≤ value := of_decide_eq_true h
    exact hvalue
  | notFinite => trivial

theorem proportion_capAtOne {value : Double} (h : acceptable value) :
    (capAtOne value).Proportion := by
  cases value with
  | finite value => exact ⟨le_min (of_decide_eq_true h) zero_le_one, min_le_right value 1⟩
  | notFinite => exact ⟨zero_le_one, le_refl 1⟩

theorem acceptable_of_sanitize {o o' : DeploymentObservation}
    (h : sanitizeObservation o = some o') : Acceptable o' := by
  rw [sanitizeObservation] at h
  split_ifs at h with hall
  cases h
  simp only [List.all_cons, List.all_nil, Bool.and_true, Bool.and_eq_true, Option.all_eq_true]
    at hall
  obtain ⟨hlatency, httft, hthroughput, hcapacity⟩ := hall
  constructor
  · exact fun value hvalue => nonNegative_of_acceptable (hlatency value hvalue)
  · exact fun value hvalue => nonNegative_of_acceptable (httft value hvalue)
  · exact fun value hvalue => nonNegative_of_acceptable (hthroughput value hvalue)
  · intro value hvalue
    obtain ⟨before, hbefore, rfl⟩ := Option.map_eq_some_iff.mp hvalue
    exact proportion_capAtOne (hcapacity before hbefore)

/-- What the store holds of a deployment is little, and has been checked. -/
theorem samples_of_lookup {history : List Observed} {key : String} {samples : List TimedObservation}
    (h : Ordered.lookup key (observed history) = some samples) :
    samples.length ≤ 32 ∧ ∀ sample ∈ samples, Acceptable sample.observation := by
  rw [lookup_observed] at h
  split_ifs at h with hkey
  cases h
  constructor
  · rw [List.rtake, List.length_drop]
    omega
  · intro sample hsample
    have hmem : sample ∈ updatesOf key (kept history) := List.mem_of_mem_drop hsample
    rw [updatesOf, List.mem_reverse, List.mem_map] at hmem
    obtain ⟨e, he, rfl⟩ := hmem
    obtain ⟨o, -, ho⟩ := List.mem_filterMap.mp (List.mem_of_mem_filter he)
    obtain ⟨observation, hobservation, rfl⟩ := Option.map_eq_some_iff.mp ho
    exact acceptable_of_sanitize hobservation

theorem nonNegative_average {values : List (Option Double)} {d : Double}
    (hvalues : ∀ value ∈ values, ∀ d ∈ value, d.NonNegative) (h : average values = some d) :
    d.NonNegative := by
  rw [average] at h
  split_ifs at h
  cases h
  apply Double.NonNegative.divNat
  apply Double.nonNegative_foldl
  · intro d hd
    exact hvalues (some d) (List.reduceOption_mem_iff.mp hd) d rfl
  · exact le_refl (0 : ℚ)

theorem proportion_average {values : List (Option Double)} {d : Double}
    (hvalues : ∀ value ∈ values, ∀ d ∈ value, d.Proportion) (hlength : values.length < 2 ^ 53)
    (h : average values = some d) : d.Proportion := by
  rw [average] at h
  split_ifs at h with hempty
  cases h
  have hreduced := List.reduceOption_length_le values
  have hzero : (Double.finite 0).UpTo (0 : ℕ) := by
    rw [Nat.cast_zero]
    exact ⟨le_refl 0, le_refl 0⟩
  have hproportions : ∀ d ∈ values.reduceOption, d.Proportion :=
    fun d hd => hvalues (some d) (List.reduceOption_mem_iff.mp hd) d rfl
  have hsum := Double.upTo_foldl hproportions hzero (by omega)
  rw [Nat.zero_add] at hsum
  exact hsum.divNat (List.length_pos_iff.mpr hempty)

theorem proportion_share (property : DeploymentObservation → Bool)
    {samples : List DeploymentObservation} (hsamples : samples ≠ []) :
    (share property samples).Proportion := by
  have hcount : (Double.finite (samples.countP property)).UpTo samples.length :=
    ⟨Nat.cast_nonneg _, Nat.cast_le.mpr List.countP_le_length⟩
  exact hcount.divNat (List.length_pos_iff.mpr hsamples)

/-- The ranges of the signals of a summary. -/
structure Sound (summary : DeploymentSignalSummary) : Prop where
  latencySeconds : summary.latencySeconds.NonNegative
  ttftSeconds : ∀ value ∈ summary.ttftSeconds, value.NonNegative
  throughputCharsPerSecond : ∀ value ∈ summary.throughputCharsPerSecond, value.NonNegative
  availability : summary.availability.Proportion
  rateLimitRate : summary.rateLimitRate.Proportion
  capacityPressure : summary.capacityPressure.Proportion

/-- **After every history** the signals of every summary are in their ranges: the shares and the
pressure are proportions, and the other averages are not negative. -/
theorem summary_sound (history : List Observed) {deploymentId : String} {observationTtl : ℚ}
    {clock : Double} {s : DeploymentSignalSummary}
    (h : (observed history).summary deploymentId observationTtl clock = some s) : Sound s := by
  rw [summary] at h
  split_ifs at h
  · cases h
  obtain ⟨samples, hsamples, h⟩ := Option.bind_eq_some_iff.mp h
  obtain ⟨hlength, hacceptable⟩ := samples_of_lookup hsamples
  generalize hfresh : List.map TimedObservation.observation (List.filter _ samples) = fresh at h
  obtain ⟨latency, hlatency, h⟩ := Option.bind_eq_some_iff.mp h
  obtain ⟨pressure, hpressure, h⟩ := Option.bind_eq_some_iff.mp h
  cases h
  -- the fresh samples are few as well, and there is one of them
  have hfew : fresh.length ≤ 32 := by
    rw [← hfresh, List.length_map]
    exact (List.length_filter_le _ _).trans hlength
  have hsome : fresh ≠ [] := by
    rintro rfl
    cases hlatency
  have hchecked : ∀ o ∈ fresh, Acceptable o := by
    rw [← hfresh]
    exact List.forall_mem_map.mpr fun sample hsample =>
      hacceptable sample (List.mem_of_mem_filter hsample)
  have hnonNegative : ∀ {signal : DeploymentObservation → Option Double} {d : Double},
      (∀ o, Acceptable o → ∀ value ∈ signal o, value.NonNegative) →
      average (fresh.map signal) = some d → d.NonNegative := fun hsignal haverage =>
    nonNegative_average (List.forall_mem_map.mpr fun o ho => hsignal o (hchecked o ho)) haverage
  constructor
  · exact hnonNegative (fun _ ho => ho.latencySeconds) hlatency
  · exact fun value hvalue => hnonNegative (fun _ ho => ho.ttftSeconds) hvalue
  · exact fun value hvalue => hnonNegative (fun _ ho => ho.throughputCharsPerSecond) hvalue
  · exact proportion_share _ hsome
  · exact proportion_share _ hsome
  · apply proportion_average _ _ hpressure
    · exact List.forall_mem_map.mpr fun o ho => (hchecked o ho).capacityPressure
    · rw [List.length_map]
      omega

/-- A deployment that became slower. -/
def slowerDeployment : List Observed :=
  [⟨"cloud#eu", latencyOf 3, .finite 1⟩, ⟨"cloud#eu", latencyOf 1, .finite 0⟩]

/-- The summary of a deployment that became slower. -/
theorem sound_slowerDeployment :
    ∃ s, (observed slowerDeployment).summary "cloud#eu" 60 (.finite 2) = some s ∧ Sound s := by
  have hsome : ((observed slowerDeployment).summary "cloud#eu" 60 (.finite 2)).isSome := by
    decide +kernel
  obtain ⟨s, hs⟩ := Option.isSome_iff_exists.mp hsome
  exact ⟨s, hs, summary_sound slowerDeployment hs⟩

end DeploymentObservationStore

end Gateway

end WayfinderRouter
