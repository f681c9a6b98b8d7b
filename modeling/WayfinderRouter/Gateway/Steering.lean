import WayfinderRouter.Gateway.Confinement

/-!
# Why a request has its route

A receipt names the mode in which the model of a request was chosen. The mode is true: what it says
is the reason for the model. The model is one that the key of the caller allows, whatever the
reason.

## Main definitions

- `Explained` — a route whose mode is the reason for its model

## Main results

- `route_explained` — every chosen route is explained, and allowed
-/

namespace WayfinderRouter.Gateway.Planning

open Config (Tier)
open Routing (ComplexityScore recommendTier)

/-! ## The list of a key -/

/-- A model that is put in its place is one of the list. -/
theorem clampToAllowed_mem {chosen : String} {ladder allowed : List String} (h : allowed ≠ []) :
    clampToAllowed chosen ladder allowed ∈ allowed := by
  have hfiltered : ∀ name ∈ ladder.filter fun model => model ∈ allowed, name ∈ allowed :=
    fun name hname => of_decide_eq_true (List.mem_filter.mp hname).2
  rw [clampToAllowed]
  split_ifs with hkept
  · exact hkept.resolve_left h
  cases hladder : ladder.filter fun model => model ∈ allowed with
  | nil =>
    -- no tier is allowed, and the least name of the list is taken
    cases hsorted : allowed.mergeSort fun left right => left ≤ right with
    | nil =>
      have hlength : ([] : List String).length = allowed.length :=
        hsorted ▸ List.length_mergeSort allowed
      exact absurd (List.length_eq_zero_iff.mp hlength.symm) h
    | cons name names =>
      have hmem : name ∈ allowed.mergeSort fun left right => left ≤ right := by
        rw [hsorted]
        exact List.mem_cons_self
      exact List.mem_mergeSort.mp hmem
  | cons first rest =>
    rw [hladder] at hfiltered
    dsimp only
    split
    · exact hfiltered first List.mem_cons_self
    · next chosenIndex _ =>
      cases hfind : (first :: rest).reverse.find? fun model =>
        (ladder.findIdx? fun candidate => candidate = model).any (· ≤ chosenIndex) with
      | none => exact hfiltered first List.mem_cons_self
      | some name =>
        exact hfiltered name (List.mem_reverse.mp (List.mem_of_find?_eq_some hfind))

/-! ## Reasons -/

section Reasons

variable (app : Chat.App) (planner : Planner) (incoming : Incoming) (decision : ComplexityScore)
  (restrictions : Restrictions)

/-- The request has asked for a model, for a preset, or for neither. -/
def Asks (selection : Option RequestSelection) : Prop :=
  resolveRequestSelection app planner (incoming.body.get "model") = .ok selection

/-- The mode of a route is the reason for its model. -/
inductive Explained : Route → Prop where
  | pinned (name : String) (hasks : Asks app planner incoming (some (.model name))) :
    Explained ⟨name, .pinned, none⟩
  | preset (name : String) (models : List String) (first : String) (rest : List String)
    (hasks : Asks app planner incoming (some (.preset name models)))
    (hkept : models.filter (keepsInPreset app planner restrictions) = first :: rest) :
    Explained ⟨first, .preset, some ⟨name, first :: rest⟩⟩
  | slashPinned (name : String) (hasks : Asks app planner incoming none)
    (hslash : incoming.slash.bind SlashResolution.pin = some name) :
    Explained ⟨name, .slashPinned, none⟩
  | scored (hasks : Asks app planner incoming none)
    (hheader : thresholdHeader incoming.headers = .ok none) :
    Explained ⟨decision.recommendation, .scored, none⟩
  | thresholdOverride (threshold : ℚ) (tiers : List Tier) (name : String)
    (hasks : Asks app planner incoming none)
    (hheader : thresholdHeader incoming.headers = .ok (some threshold))
    (htiers : thresholdTiers incoming.routing threshold = some tiers)
    (hname : recommendTier decision.score tiers = some name) :
    Explained ⟨name, .thresholdOverride, none⟩
  | sticky (cooldown : UInt64) (route : Route) (tiers : List Tier) (name : String)
    (hasks : Asks app planner incoming none)
    (hroute : scoredRoute incoming decision = .ok (route, tiers))
    (hlatched : conversationHighWater planner.extractFeatures incoming.messages incoming.routing
      tiers cooldown = .ok (some name))
    (hhigher : (tierRank route.chosen tiers).getD 0 < (tierRank name tiers).getD 0) :
    Explained ⟨name, .sticky, none⟩
  | budgetDegraded (name : String) (hbudget : incoming.budget = .ok .degrade)
    (hname : cheapest decision.tiers = some name) (honline : incoming.offline planner = false) :
    Explained ⟨name, .budgetDegraded, none⟩
  | keyScoped (route : Route) (hroute : Explained route)
    (hdenied : route.chosen ∉ restrictions.allowed) :
    Explained
      { route with
        chosen := clampToAllowed route.chosen (ladderOf decision.tiers) restrictions.allowed
        mode := .keyScoped }
  | canary (name : String) (hcanary : canaryCandidate app planner incoming restrictions = some name)
    (hreceives : mayReceive app restrictions name = true) :
    Explained ⟨name, .canary, none⟩

end Reasons

variable {app : Chat.App} {planner : Planner} {incoming : Incoming} {decision : ComplexityScore}
  {restrictions : Restrictions} {route : Route}

theorem explained_scoredRoute {tiers : List Tier} (hasks : Asks app planner incoming none)
    (h : scoredRoute incoming decision = .ok (route, tiers)) :
    Explained app planner incoming decision restrictions route ∧ route.preset = none := by
  obtain ⟨threshold, hheader, h⟩ := bind_eq_ok.mp h
  cases threshold with
  | none =>
    cases h
    exact ⟨.scored hasks hheader, rfl⟩
  | some threshold =>
    dsimp only at h
    cases htiers : thresholdTiers incoming.routing threshold with
    | none =>
      rw [htiers] at h
      cases h
    | some tiers' =>
      rw [htiers] at h
      dsimp only at h
      cases hname : recommendTier decision.score tiers' with
      | none =>
        rw [hname] at h
        cases h
      | some name =>
        rw [hname] at h
        cases h
        exact ⟨.thresholdOverride threshold _ name hasks hheader htiers hname, rfl⟩

theorem explained_latchedRoute {cooldown : UInt64} {scored : Route} {tiers : List Tier}
    (hasks : Asks app planner incoming none)
    (hscored : scoredRoute incoming decision = .ok (scored, tiers))
    (hexplained : Explained app planner incoming decision restrictions scored)
    (hpreset : scored.preset = none)
    (h : latchedRoute planner incoming cooldown scored tiers = .ok route) :
    Explained app planner incoming decision restrictions route ∧ route.preset = none := by
  rw [latchedRoute] at h
  cases hlatched : conversationHighWater planner.extractFeatures incoming.messages
      incoming.routing tiers cooldown with
  | error _ =>
    rw [hlatched] at h
    cases h
  | ok latched =>
    rw [hlatched] at h
    cases latched with
    | none =>
      cases h
      exact ⟨hexplained, hpreset⟩
    | some name =>
      dsimp only at h
      cases h
      split_ifs with hhigher
      · rw [hpreset]
        exact ⟨.sticky cooldown scored tiers name hasks hscored hlatched hhigher, rfl⟩
      · exact ⟨hexplained, hpreset⟩

/-- Before it is assessed a route is explained, or it is that of a preset. -/
theorem explained_initialRoute {sticky : Bool} {cooldown : UInt64}
    (h : initialRoute app planner incoming decision sticky cooldown = .ok route) :
    (Explained app planner incoming decision restrictions route ∧ route.preset = none) ∨
      ∃ name models, Asks app planner incoming (some (.preset name models)) ∧
        route = ⟨models.headD "", .preset, some ⟨name, models⟩⟩ := by
  obtain ⟨selection, hasks, h⟩ := bind_eq_ok.mp h
  cases selection with
  | some selection =>
    cases selection with
    | model name =>
      cases h
      exact .inl ⟨.pinned name hasks, rfl⟩
    | preset name models =>
      cases h
      exact .inr ⟨name, models, hasks, rfl⟩
  | none =>
    cases hslash : incoming.slash.bind SlashResolution.pin with
    | some pin =>
      rw [hslash] at h
      cases h
      exact .inl ⟨.slashPinned pin hasks hslash, rfl⟩
    | none =>
      rw [hslash] at h
      obtain ⟨⟨scored, tiers⟩, hscored, h⟩ := bind_eq_ok.mp h
      obtain ⟨hexplained, hpreset⟩ := explained_scoredRoute hasks hscored
      dsimp only at h
      split_ifs at h
      · exact .inl (explained_latchedRoute hasks hscored hexplained hpreset h)
      · cases h
        exact .inl ⟨hexplained, hpreset⟩

/-- An assessed route is explained. -/
theorem explained_assessRoute {initial : Route}
    (hinitial : (Explained app planner incoming decision restrictions initial ∧
        initial.preset = none) ∨
      ∃ name models, Asks app planner incoming (some (.preset name models)) ∧
        initial = ⟨models.headD "", .preset, some ⟨name, models⟩⟩)
    (h : assessRoute app planner restrictions initial = .ok route) :
    Explained app planner incoming decision restrictions route := by
  rw [assessRoute] at h
  rcases hinitial with ⟨hexplained, hpreset⟩ | ⟨name, models, hasks, rfl⟩
  · -- without a preset the route is kept or refused
    have hkept : route = initial := by
      rw [hpreset] at h
      dsimp only at h
      split_ifs at h
      · split at h
        · cases h
          rfl
        · split_ifs at h
          cases h
          rfl
      · cases h
        rfl
    rw [hkept]
    exact hexplained
  · dsimp only at h
    split at h
    · cases h
    · next first rest hkept =>
      cases h
      exact .preset name models first rest hasks hkept

theorem explained_budgetRoute {assessed : Route}
    (hassessed : Explained app planner incoming decision restrictions assessed)
    (h : budgetRoute planner incoming decision assessed = .ok route) :
    Explained app planner incoming decision restrictions route := by
  obtain ⟨verdict, hbudget, h⟩ := bind_eq_ok.mp h
  cases verdict with
  | allow =>
    cases h
    exact hassessed
  | block => cases h
  | degrade =>
    dsimp only at h
    cases hcheapest : cheapest decision.tiers with
    | none =>
      rw [hcheapest] at h
      cases h
      exact hassessed
    | some name =>
      rw [hcheapest] at h
      cases h
      split_ifs with honline
      · exact .budgetDegraded name hbudget hcheapest (by simpa using honline.1)
      · exact hassessed

/-- The key of the caller allows the model of a scoped route. -/
theorem explained_scopedRoute
    (hroute : Explained app planner incoming decision restrictions route) :
    Explained app planner incoming decision restrictions
        (scopedRoute decision restrictions route) ∧
      (restrictions.allowed ≠ [] →
        (scopedRoute decision restrictions route).chosen ∈ restrictions.allowed) := by
  rw [scopedRoute]
  split_ifs with hscoped
  · obtain ⟨hallowed, hchanged⟩ := hscoped
    refine ⟨.keyScoped route hroute fun hmem => hchanged ?_, clampToAllowed_mem⟩
    rw [clampToAllowed, if_pos (.inr hmem)]
  · rw [not_and, not_not] at hscoped
    refine ⟨hroute, fun hallowed => ?_⟩
    rw [← hscoped hallowed]
    exact clampToAllowed_mem hallowed

theorem allowed_of_mayReceive {name : String} (h : mayReceive app restrictions name = true)
    (hallowed : restrictions.allowed ≠ []) : name ∈ restrictions.allowed := by
  obtain ⟨model, -, hmodel⟩ := (Option.any_eq_true _ _).mp h
  rw [Bool.and_eq_true, Bool.or_eq_true, List.isEmpty_iff] at hmodel
  exact of_decide_eq_true (hmodel.2.resolve_left hallowed)

theorem explained_canaryRoute
    (hroute : Explained app planner incoming decision restrictions route)
    (hallowed : restrictions.allowed ≠ [] → route.chosen ∈ restrictions.allowed) :
    Explained app planner incoming decision restrictions
        (canaryRoute app planner incoming restrictions route) ∧
      (restrictions.allowed ≠ [] →
        (canaryRoute app planner incoming restrictions route).chosen ∈ restrictions.allowed) := by
  rw [canaryRoute]
  split_ifs with hscored
  · cases hcanary : canaryCandidate app planner incoming restrictions with
    | none => exact ⟨hroute, hallowed⟩
    | some name =>
      have hreceives : mayReceive app restrictions name = true := by
        have hfind := hcanary
        rw [canaryCandidate] at hfind
        split_ifs at hfind
        obtain ⟨preset, -, hpreset⟩ := Option.bind_eq_some_iff.mp hfind
        exact List.find?_some hpreset
      rw [hscored.2.1]
      exact ⟨.canary name hcanary hreceives, allowed_of_mayReceive hreceives⟩
  · exact ⟨hroute, hallowed⟩

/-- The route before the key of the caller and the rollout may change it is explained. -/
theorem explained_budgeted {sticky : Bool} {cooldown : UInt64}
    (h : selectRoute app planner incoming decision sticky cooldown restrictions = .ok route) :
    ∃ budgeted, Explained app planner incoming decision restrictions budgeted ∧
      route = canaryRoute app planner incoming restrictions
        (scopedRoute decision restrictions budgeted) := by
  obtain ⟨initial, hinitial, h⟩ := bind_eq_ok.mp h
  obtain ⟨assessed, hassessed, h⟩ := bind_eq_ok.mp h
  obtain ⟨budgeted, hbudgeted, h⟩ := bind_eq_ok.mp h
  cases h
  exact ⟨budgeted, explained_budgetRoute
    (explained_assessRoute (explained_initialRoute hinitial) hassessed) hbudgeted, rfl⟩

/-- **Every route** that is chosen has a mode that is the reason for its model, and a model that
the key of the caller allows. -/
theorem route_explained {sticky : Bool} {cooldown : UInt64}
    (h : selectRoute app planner incoming decision sticky cooldown restrictions = .ok route) :
    Explained app planner incoming decision restrictions route ∧
      (restrictions.allowed ≠ [] → route.chosen ∈ restrictions.allowed) := by
  obtain ⟨budgeted, hbudgeted, rfl⟩ := explained_budgeted h
  obtain ⟨hscoped, hallowed⟩ := explained_scopedRoute hbudgeted
  exact explained_canaryRoute hscoped hallowed

/-- A prompt that scores high, where `slow` is the model of the upper tier. -/
def highScore : ComplexityScore where
  schemaVersion := "3"
  score := 9 / 10
  recommendation := "slow"
  mode := .tiered
  features := ⟨fun _ => 0⟩
  tiers := some [⟨0, "fast", none⟩, ⟨1 / 2, "slow", none⟩]
  models := none

/-- A greeting, by a caller whose key allows `fast`. -/
def aliceRestrictions : Restrictions where
  request := ⟨"request", "hello", .hostedAllowed, ⟨none, false, false, false, .text⟩⟩
  offline := false
  promptEstimate := 1
  allowed := ["fast"]

/-- The tiers of the prompt are in order already. -/
theorem ladderOf_highScore : ladderOf highScore.tiers = ["fast", "slow"] := by
  have hsorted : highScore.tiers.getD [] = [⟨0, "fast", none⟩, ⟨1 / 2, "slow", none⟩] := rfl
  rw [ladderOf, hsorted, List.mergeSort_of_pairwise (by decide +kernel)]
  rfl

theorem scopedRoute_highScore :
    scopedRoute highScore aliceRestrictions ⟨"slow", .scored, none⟩ =
      ⟨"fast", .keyScoped, none⟩ := by
  rw [scopedRoute, ladderOf_highScore]
  decide

theorem explained_aliceRestrictions :
    Explained teamApp teamPlanner aliceRequest highScore aliceRestrictions
      ⟨"fast", .keyScoped, none⟩ := by
  have hchosen : selectRoute teamApp teamPlanner aliceRequest highScore false 0 aliceRestrictions =
      .ok ⟨"fast", .keyScoped, none⟩ := by
    calc selectRoute teamApp teamPlanner aliceRequest highScore false 0 aliceRestrictions
      _ = .ok (canaryRoute teamApp teamPlanner aliceRequest aliceRestrictions
            (scopedRoute highScore aliceRestrictions ⟨"slow", .scored, none⟩)) := by rfl
      _ = .ok ⟨"fast", .keyScoped, none⟩ := by
        rw [scopedRoute_highScore]
        rfl
  exact (route_explained hchosen).1

end WayfinderRouter.Gateway.Planning
