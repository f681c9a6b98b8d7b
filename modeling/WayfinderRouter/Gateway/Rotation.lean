import Mathlib.Algebra.Order.BigOperators.Group.List
import WayfinderRouter.Gateway.Attempts

/-!
# The weighted rotation of deployments

Every alias with several deployments has a cursor that counts the calls for it. The cursor modulo
the total weight is a slot; the slots are handed out to the deployments in order, each as many as
it weighs, and the owner of the slot comes first.

Over any total weight of successive calls the slots run through a whole period, wherever the cursor
stands, so every deployment comes first as often as it weighs.

## Main definitions

- `runCandidates` — a sequence of calls, for any aliases
- `firstsOf` — the targets that came first for an alias

## Main results

- `rotation_exact` — the results are rotations, and the firsts of a period are the weights
-/

namespace WayfinderRouter.Gateway

/-! ## The bounds of the parser -/

/-- What the parser ensures of the deployments of an alias. -/
structure ConfiguredModel.Parsed (model : ConfiguredModel) : Prop where
  length_le : model.deployments.length ≤ 32
  weight_pos : ∀ deployment ∈ model.deployments, 1 ≤ deployment.weight
  weight_le : ∀ deployment ∈ model.deployments, deployment.weight ≤ 100
  ids_nodup : (model.deployments.map ConfiguredDeployment.id).Nodup
  id_ne_default : ∀ deployment ∈ model.deployments, deployment.id ≠ "default"

namespace ConfiguredModel

variable {model : ConfiguredModel}

/-- The sum of the weights of the targets. -/
def totalWeight (model : ConfiguredModel) : ℕ :=
  (model.deploymentTargets.map ConfiguredDeployment.weight).sum

theorem totalWeight_eq (model : ConfiguredModel) :
    model.totalWeight = 1 + (model.deployments.map ConfiguredDeployment.weight).sum := rfl

/-- The weights are added without overflow. -/
theorem Parsed.totalWeight_le (h : model.Parsed) : model.totalWeight ≤ 3201 := by
  have hsum : (model.deployments.map ConfiguredDeployment.weight).sum ≤
      (model.deployments.map ConfiguredDeployment.weight).length • 100 := by
    apply List.sum_le_card_nsmul
    intro weight hweight
    obtain ⟨deployment, hmem, rfl⟩ := List.mem_map.mp hweight
    exact h.weight_le deployment hmem
  have hlength := h.length_le
  rw [totalWeight_eq]
  rw [List.length_map, Nat.nsmul_eq_mul] at hsum
  omega

theorem Parsed.ids_nodup_targets (h : model.Parsed) :
    (model.deploymentTargets.map ConfiguredDeployment.id).Nodup := by
  change ("default" :: model.deployments.map ConfiguredDeployment.id).Nodup
  rw [List.nodup_cons]
  refine ⟨?_, h.ids_nodup⟩
  intro hmem
  obtain ⟨deployment, hdeployment, hid⟩ := List.mem_map.mp hmem
  exact h.id_ne_default deployment hdeployment hid

/-- Targets with different ids are different deliveries. -/
theorem id_of_forDeployment_eq {left right : ConfiguredDeployment}
    (h : model.forDeployment left = model.forDeployment right) : left.id = right.id :=
  Option.some_injective _ (congrArg ConfiguredModel.deploymentId h)

end ConfiguredModel

/-! ## The owners of the slots -/

/-- The slots of a period belong to the targets in order, as many to each as it weighs. -/
theorem map_startIndex_range (targets : List ConfiguredDeployment) :
    (List.range (targets.map ConfiguredDeployment.weight).sum).map
        (fun slot => targets[startIndex slot targets]?) =
      targets.flatMap fun target => List.replicate target.weight (some target) := by
  induction targets with
  | nil => rfl
  | cons target targets ih =>
    rw [List.map_cons, List.sum_cons, List.range_add, List.map_append, List.flatMap_cons]
    congr 1
    · -- the first slots are below the weight of the first target
      rw [List.eq_replicate_iff]
      refine ⟨by simp, ?_⟩
      intro owner howner
      obtain ⟨slot, hslot, rfl⟩ := List.mem_map.mp howner
      rw [startIndex, if_pos (List.mem_range.mp hslot)]
      rfl
    · rw [← ih, List.map_map]
      apply List.map_congr_left
      intro slot _
      have hge : ¬ target.weight + slot < target.weight := by omega
      simp only [Function.comp_apply, startIndex, if_neg hge, Nat.add_sub_cancel_left,
        List.getElem?_cons_succ]

/-- The slots of successive cursors run through the period. -/
theorem map_add_mod_range (cursor period : ℕ) :
    (List.range period).map (fun k => (cursor + k) % period) =
      (List.range period).rotate cursor := by
  apply List.ext_getElem
  · simp
  · intro k _ hk
    simp only [List.getElem_map, List.getElem_range, List.getElem_rotate, List.length_range]
    rw [Nat.add_comm]

theorem startIndex_lt {targets : List ConfiguredDeployment} {slot : ℕ}
    (h : slot < (targets.map ConfiguredDeployment.weight).sum) :
    startIndex slot targets < targets.length := by
  induction targets generalizing slot with
  | nil => simp at h
  | cons target targets ih =>
    rw [List.map_cons, List.sum_cons] at h
    rw [startIndex]
    split
    · simp
    · have hrest := @ih (slot - target.weight) (by omega)
      simpa using hrest

/-! ## One call -/

/-- The rotation of the targets of an alias that a cursor selects. -/
def rotation (model : ConfiguredModel) (cursor : ℕ) : List ConfiguredModel :=
  (model.deploymentTargets.rotate
    (startIndex (cursor % model.totalWeight) model.deploymentTargets)).map model.forDeployment

section Calls

variable {models : List ConfiguredModel} {name : String} {model : ConfiguredModel}
  {cursors : String → ℕ}

theorem rotateDeployments_of_several (cursors : String → ℕ)
    (hfind : findModel models name = some model) (hparsed : model.Parsed)
    (hseveral : 1 < model.deploymentTargets.length) :
    rotateDeployments models name cursors = (rotation model (cursors name),
      Function.update cursors name (U64.saturatingAdd (cursors name) 1)) := by
  have htotal : model.totalWeight % 2 ^ 64 = model.totalWeight := by
    have hle := hparsed.totalWeight_le
    omega
  unfold rotateDeployments
  rw [hfind]
  change (if model.deploymentTargets.length ≤ 1 then _ else _) = _
  rw [if_neg (by omega)]
  change ((model.deploymentTargets.rotate (startIndex
      (cursors name % (model.totalWeight % 2 ^ 64)) model.deploymentTargets)).map _, _) = _
  rw [htotal]
  rfl

/-- A call for one alias leaves the cursors of the others alone. -/
theorem rotateDeployments_of_ne {other : String} (h : other ≠ name) :
    (rotateDeployments models name cursors).2 other = cursors other := by
  unfold rotateDeployments
  split
  · rfl
  · dsimp only
    split
    · rfl
    · exact Function.update_of_ne h _ _

theorem head?_rotation (model : ConfiguredModel) (cursor : ℕ) :
    (rotation model cursor).head? = (model.deploymentTargets[startIndex
      (cursor % model.totalWeight) model.deploymentTargets]?).map model.forDeployment := by
  have hpos : 0 < model.totalWeight := by
    rw [ConfiguredModel.totalWeight_eq]
    omega
  have hlt : startIndex (cursor % model.totalWeight) model.deploymentTargets <
      model.deploymentTargets.length :=
    startIndex_lt (Nat.mod_lt cursor hpos)
  rw [rotation, List.head?_map, List.head?_rotate hlt]

theorem rotation_eq_rotate (hfind : findModel models name = some model) (cursor : ℕ) :
    ∃ k, rotation model cursor = (configuredDeploymentTargets models name).rotate k := by
  refine ⟨startIndex (cursor % model.totalWeight) model.deploymentTargets, ?_⟩
  unfold rotation configuredDeploymentTargets
  rw [hfind, List.map_rotate]

/-! ## A period -/

/-- Over a period every target comes first as often as it weighs. -/
theorem map_head?_rotation (model : ConfiguredModel) (cursor : ℕ) :
    ((List.range model.totalWeight).map fun k => (rotation model (cursor + k)).head?).Perm
      (model.deploymentTargets.flatMap fun target =>
        List.replicate target.weight (some (model.forDeployment target))) := by
  let first (slot : ℕ) : Option ConfiguredModel :=
    (model.deploymentTargets[startIndex slot model.deploymentTargets]?).map model.forDeployment
  have hslots : (List.range model.totalWeight).map
      (fun k => (rotation model (cursor + k)).head?) =
      ((List.range model.totalWeight).rotate cursor).map first := by
    rw [← map_add_mod_range, List.map_map]
    apply List.map_congr_left
    intro k _
    exact head?_rotation model (cursor + k)
  have howners : (List.range model.totalWeight).map first =
      model.deploymentTargets.flatMap fun target =>
        List.replicate target.weight (some (model.forDeployment target)) := by
    have h := congrArg (List.map (Option.map model.forDeployment))
      (map_startIndex_range model.deploymentTargets)
    rw [List.map_map, List.map_flatMap] at h
    simp only [List.map_replicate, Option.map_some] at h
    exact h
  rw [hslots, ← howners]
  exact (List.rotate_perm _ _).map first

/-- Distinct targets fill a period with their own share. -/
theorem count_shares {targets : List ConfiguredDeployment}
    (hnodup : (targets.map ConfiguredDeployment.id).Nodup) {target : ConfiguredDeployment}
    (hmem : target ∈ targets) :
    (targets.flatMap fun t => List.replicate t.weight (some (model.forDeployment t))).count
      (some (model.forDeployment target)) = target.weight := by
  induction targets with
  | nil => cases hmem
  | cons head targets ih =>
    rw [List.map_cons, List.nodup_cons] at hnodup
    rw [List.flatMap_cons, List.count_append, List.count_replicate]
    rcases List.mem_cons.mp hmem with rfl | htail
    · have hnone : (targets.flatMap fun t =>
          List.replicate t.weight (some (model.forDeployment t))).count
            (some (model.forDeployment target)) = 0 := by
        rw [List.count_eq_zero]
        intro hother
        obtain ⟨other, hother, heq⟩ := List.mem_flatMap.mp hother
        have hid := ConfiguredModel.id_of_forDeployment_eq
          (Option.some_injective _ (List.eq_of_mem_replicate heq))
        exact hnodup.1 (hid ▸ List.mem_map_of_mem hother)
      simp [hnone]
    · have hne : some (model.forDeployment head) ≠ some (model.forDeployment target) := by
        intro heq
        have hid := ConfiguredModel.id_of_forDeployment_eq (Option.some_injective _ heq)
        exact hnodup.1 (hid ▸ List.mem_map_of_mem htail)
      rw [if_neg (by simpa using hne), ih hnodup.2 htail, Nat.zero_add]

/-! ## Calls for any aliases -/

/-- A sequence of calls: each alias with its result, and the cursors afterwards. -/
def runCandidates (models : List ConfiguredModel) :
    List String → (String → ℕ) → List (String × List ConfiguredModel) × (String → ℕ)
  | [], cursors => ([], cursors)
  | name :: names, cursors =>
    let rotated := rotateDeployments models name cursors
    let rest := runCandidates models names rotated.2
    ((name, rotated.1) :: rest.1, rest.2)

/-- The results for an alias. -/
def resultsFor (name : String) (results : List (String × List ConfiguredModel)) :
    List (List ConfiguredModel) :=
  (results.filter fun result => result.1 = name).map Prod.snd

/-- The cursor of an alias counts the calls for it, and each call gets the next rotation. -/
theorem runCandidates_spec (calls : List String) (cursors : String → ℕ)
    (hfind : findModel models name = some model) (hparsed : model.Parsed)
    (hseveral : 1 < model.deploymentTargets.length)
    (hmax : cursors name + calls.count name ≤ U64.max) :
    (runCandidates models calls cursors).2 name = cursors name + calls.count name ∧
    resultsFor name (runCandidates models calls cursors).1 =
      (List.range (calls.count name)).map fun k => rotation model (cursors name + k) := by
  induction calls generalizing cursors with
  | nil => exact ⟨rfl, rfl⟩
  | cons call calls ih =>
    by_cases hcall : call = name
    · subst hcall
      rw [List.count_cons_self] at hmax ⊢
      have hstep := rotateDeployments_of_several cursors hfind hparsed hseveral
      have hnext : (rotateDeployments models call cursors).2 call = cursors call + 1 := by
        rw [hstep]
        change Function.update cursors call _ call = _
        rw [Function.update_self, U64.saturatingAdd_eq (by omega)]
      obtain ⟨hcursor, hresults⟩ :=
        ih (rotateDeployments models call cursors).2 (by rw [hnext]; omega)
      constructor
      · rw [runCandidates, hcursor, hnext]
        omega
      · rw [List.range_succ_eq_map, List.map_cons, List.map_map]
        unfold resultsFor at hresults ⊢
        rw [runCandidates, List.filter_cons_of_pos (by simp), List.map_cons, hresults, hnext,
          hstep]
        congr 1
        apply List.map_congr_left
        intro k _
        exact congrArg (rotation model) (by omega)
    · have hkeep : (rotateDeployments models call cursors).2 name = cursors name :=
        rotateDeployments_of_ne (Ne.symm hcall)
      rw [List.count_cons_of_ne hcall] at hmax ⊢
      obtain ⟨hcursor, hresults⟩ :=
        ih (rotateDeployments models call cursors).2 (by rw [hkeep]; exact hmax)
      rw [hkeep] at hcursor hresults
      refine ⟨hcursor, ?_⟩
      unfold resultsFor at hresults ⊢
      rw [runCandidates, List.filter_cons_of_neg (by simpa using hcall), hresults]

theorem mem_resultsFor {results : List (String × List ConfiguredModel)}
    {result : List ConfiguredModel} (h : (name, result) ∈ results) :
    result ∈ resultsFor name results :=
  List.mem_map.mpr ⟨(name, result), List.mem_filter.mpr ⟨h, by simp⟩, rfl⟩

end Calls

/-- Every result is a rotation of the targets of its alias, and over as many successive calls for
an alias as its targets weigh together, each target comes first as often as it weighs. -/
theorem rotation_exact {models : List ConfiguredModel}
    (hparsed : ∀ model ∈ models, model.Parsed) {calls : List String}
    (hcalls : calls.length < 2 ^ 64) {name : String} {model : ConfiguredModel}
    (hfind : findModel models name = some model)
    (hseveral : 1 < model.deploymentTargets.length) :
    (∀ result, (name, result) ∈ (runCandidates models calls fun _ => 0).1 →
      ∃ k, result = (configuredDeploymentTargets models name).rotate k) ∧
    ∀ before window after, calls = before ++ window ++ after →
      window.count name = model.totalWeight →
      ∀ target ∈ model.deploymentTargets,
        ((resultsFor name (runCandidates models window
          (runCandidates models before fun _ => 0).2).1).map List.head?).count
            (some (model.forDeployment target)) = target.weight := by
  have hmodel : model.Parsed := hparsed model (List.mem_of_find?_eq_some hfind)
  have hfew : ∀ part : List String, part.length ≤ calls.length → part.count name ≤ U64.max := by
    intro part hpart
    have hcount := @List.count_le_length _ _ name part
    rw [U64.max]
    omega
  constructor
  · intro result hresult
    have hrun := runCandidates_spec calls (fun _ => 0) hfind hmodel hseveral
      (by rw [Nat.zero_add]; exact hfew calls le_rfl)
    have hmem := mem_resultsFor hresult
    rw [hrun.2] at hmem
    obtain ⟨k, -, rfl⟩ := List.mem_map.mp hmem
    exact rotation_eq_rotate hfind _
  · intro before window after hsplit hperiod target htarget
    have hlength : before.length + window.length ≤ calls.length := by
      rw [hsplit, List.length_append, List.length_append]
      omega
    have hbefore := runCandidates_spec before (fun _ => 0) hfind hmodel hseveral
      (by rw [Nat.zero_add]; exact hfew before (by omega))
    have hwindow := runCandidates_spec window (runCandidates models before fun _ => 0).2 hfind
      hmodel hseveral (by
        rw [hbefore.1, Nat.zero_add, ← List.count_append]
        exact hfew (before ++ window) (by rw [List.length_append]; exact hlength))
    rw [hwindow.2, hperiod, List.map_map]
    have hshares := (map_head?_rotation model
      ((runCandidates models before fun _ => 0).2 name)).count_eq
        (some (model.forDeployment target))
    exact hshares.trans (count_shares hmodel.ids_nodup_targets htarget)

/-- An alias whose second deployment has twice the weight of the others. -/
def cloudPool : ConfiguredModel where
  name := "cloud"
  endpoint := "https://primary.example/v1"
  providerModel := "gpt-primary"
  provider := .openAiCompatible
  tier := none
  apiKeyEnv := none
  keyReady := true
  baseKeyReady := true
  costPer1k := none
  fallbacks := []
  contextWindow := none
  deployments :=
    [.new "eu" "https://eu.example/v1" "gpt-eu" none true 2,
      .new "backup" "https://backup.example/v1" "gpt-backup" none true 1]
  deploymentSelection := .default
  deploymentId := none

theorem parsed_cloudPool : cloudPool.Parsed where
  length_le := by decide
  weight_pos := by decide
  weight_le := by decide
  ids_nodup := by decide
  id_ne_default := by decide

/-- The heavier deployment comes first in two of four calls. -/
theorem rotation_exact_cloudPool :
    ((resultsFor "cloud" (runCandidates [cloudPool] ["cloud", "local", "cloud", "cloud", "cloud"]
      (runCandidates [cloudPool] ["cloud"] fun _ => 0).2).1).map List.head?).count
        (some (cloudPool.forDeployment
          (.new "eu" "https://eu.example/v1" "gpt-eu" none true 2))) = 2 :=
  (@rotation_exact [cloudPool] (by simpa using parsed_cloudPool)
    ["cloud", "cloud", "local", "cloud", "cloud", "cloud"] (by decide) "cloud" cloudPool rfl
    (by decide)).2 ["cloud"] ["cloud", "local", "cloud", "cloud", "cloud"] [] rfl rfl _
      (by decide)

end WayfinderRouter.Gateway
