import WayfinderRouter.ControlPlane.Resolution
import WayfinderRouter.Fallible.Rules
import WayfinderRouter.Gateway.Intake
import WayfinderRouter.Gateway.Rollout
import WayfinderRouter.Gateway.Steering
import WayfinderRouter.Gateway.Tuning

/-!
# From a received request to its deliveries

A request is received with its headers and its body. The stages before the plan are put together
here: the check of the body, the profile of the caller, the tuning, the directive and the canary
assignment. What is sent for a request has then passed all of them.

The rate limits, the verdict of the budgets and the answers of the shared backend are part of the
request.

## Main definitions

- `Front` — what the stages before the plan are configured with
- `receive` — the answer to a received request
- `Prepared` — what the stages have made of a request

## Main results

- `reception_sound` — whatever is sent in a run was prepared by all stages
-/

namespace WayfinderRouter.Gateway.Reception

open CacheKey (DistinctElements DistinctMembers WellFormed)
open Config (RoutingConfig)
open ControlPlane (BindingContext BindingKind DraftPolicyVersion PolicyTables
  ValidatedPolicyVersion)
open Planning
open Toml (Library)

/-- What the shared backend answers about the rollout. -/
structure RolloutBackend where
  tripped : Bool
  exposureLimited : Bool

/-- The configuration of the stages. A policy has a profile for every request, and a key has at
most one workspace. -/
structure Front where
  planner : Planner
  policy : Option PolicyTables
  resolves : ∀ tables ∈ policy, ∀ context, (tables.resolve context).isSome
  workspaceOf : String → Option String
  slashDirectives : Bool
  asF64 : String → Option ℚ
  lower : String → String

/-- A request that has a chat body. -/
structure Received where
  requestId : String
  headers : HeaderMap
  body : IndexMap Json
  body_wellFormed : WellFormed (.object body.entries)
  limited : Option FailureStatus
  budget : Except FailureStatus Pricing.BudgetDecision
  rollout : Option RolloutBackend
  world : Chat.World

/-! ## Directives of well-formed messages -/

theorem wellFormed_elements {values : List Json} (h : WellFormed (.array values)) :
    ∀ value ∈ values, WellFormed value := fun value hvalue =>
  ⟨DistinctElements.of_mem h.distinct value hvalue,
    Json.NumbersAreAll.of_mem h.numbers value hvalue⟩

theorem wellFormed_array {values : List Json} (h : ∀ value ∈ values, WellFormed value) :
    WellFormed (.array values) where
  distinct := by
    induction values with
    | nil => trivial
    | cons value values ih =>
      rw [List.forall_mem_cons] at h
      exact ⟨h.1.distinct, ih h.2⟩
  numbers := Json.NumbersAreAll.of_forall fun value hvalue => (h value hvalue).numbers

theorem wellFormed_members {entries : List (String × Json)} (h : WellFormed (.object entries)) :
    ∀ e ∈ entries, WellFormed e.2 := fun e he =>
  ⟨DistinctMembers.of_mem h.distinct.2 e he, Json.NumbersAreEntries.of_mem h.numbers e he⟩

/-- A message stays well formed with another text. -/
theorem wellFormed_insertEntry {entries : List (String × Json)} (h : WellFormed (.object entries))
    (key text : String) :
    WellFormed (.object (IndexMap.insertEntry key (.string text) entries)) := by
  have hinsert : ∀ e ∈
      ((⟨entries, h.distinct.1⟩ : IndexMap Json).insert key (.string text)).entries,
      WellFormed e.2 := by
    intro e he
    rcases IndexMap.mem_insert.mp he with rfl | ⟨he, -⟩
    · exact ⟨trivial, trivial⟩
    · exact wellFormed_members h e he
  exact Chat.wellFormed_object hinsert

theorem wellFormed_resolveSlashDirective {routing : RoutingConfig} {names : List String}
    {messages cleaned : Json} {pin : Option String} (hmessages : WellFormed messages)
    (h : Intake.resolveSlashDirective routing names messages = some (pin, cleaned)) :
    WellFormed cleaned := by
  obtain ⟨before, entries, after, -, -, remainder, rfl, -, -, -, -, rfl⟩ :=
    Intake.resolveSlashDirective_eq_some.mp h
  have helements := wellFormed_elements hmessages
  rw [List.forall_mem_append, List.forall_mem_cons] at helements
  obtain ⟨hbefore, hmessage, hafter⟩ := helements
  refine wellFormed_array ?_
  rw [List.forall_mem_append, List.forall_mem_cons]
  exact ⟨hbefore, wellFormed_insertEntry hmessage "content" remainder, hafter⟩

/-! ## The stages -/

section Stages

variable (app : Chat.App) (front : Front) (received : Received)

/-- The key of the caller. -/
def keyId : Option String :=
  front.planner.accessPolicy.bind fun policy =>
    (policy.authenticate app.sha256 ((received.headers.get "authorization").bind headerText)).bind
      policy.keyId

/-- The workspace of the caller. -/
def workspaceId : Option String := (keyId app front received).bind front.workspaceOf

/-- The identities that a profile may be bound to. -/
def context : BindingContext :=
  ⟨none, workspaceId app front received, keyId app front received⟩

/-- `base_routing`: the configuration of the profile, or that of the gateway. -/
def baseRouting : RoutingConfig :=
  match h : front.policy with
  | none => front.planner.routing
  | some tables =>
    ((tables.resolve (context app front received)).get
      (front.resolves tables h (context app front received))).routing

/-- The tuning of the body. -/
def tuning : Option Json := received.body.get Chat.tuningField

/-- The configuration with the tuning. -/
def tuned : Except String RoutingConfig :=
  Tuning.applyScoringOverrides front.asF64 front.lower (baseRouting app front received)
    (tuning received)

def routing : RoutingConfig :=
  (tuned app front received).toOption.getD (baseRouting app front received)

/-- The messages, before a directive is taken out of them. -/
def messages : Json :=
  ((Json.object (received.body.shiftRemove Chat.tuningField).entries).get "messages").getD .null

theorem wellFormed_messages : WellFormed (messages received) := by
  rw [messages]
  cases hmessages : (Json.object (received.body.shiftRemove Chat.tuningField).entries).get
      "messages" with
  | none => exact ⟨trivial, trivial⟩
  | some value =>
    have hmem := Ordered.mem_of_lookup hmessages
    exact wellFormed_members received.body_wellFormed _ (List.mem_of_mem_filter hmem)

/-- The directive of the messages, and the messages without it. -/
def slash : Option SlashResolution :=
  if front.slashDirectives then
    (Intake.resolveSlashDirective (routing app front received)
      (app.models.map ConfiguredModel.name) (messages received)).attach.map fun resolution =>
        { pin := resolution.1.1
          messages := resolution.1.2
          messages_wellFormed :=
            wellFormed_resolveSlashDirective (wellFormed_messages received) resolution.2 }
  else none

/-- The caller as the rollout sees it. -/
def caller : Rollout.Caller where
  requestId := received.requestId
  workspace := workspaceId app front received
  key := keyId app front received
  identityHeader := ((requestHeader received.headers "x-wayfinder-canary-identity").toOption).join
  cohortHeader := ((requestHeader received.headers "x-wayfinder-canary-cohort").toOption).join

/-- The rollout is not tripped, it takes the caller, and it has room. -/
def canaryAdmits : Bool :=
  received.rollout.any fun backend =>
    !backend.tripped && !backend.exposureLimited &&
      match Rollout.assignmentIdentity app.sha256 front.planner.canary
        (caller app front received) with
      | .eligible _ => true
      | .suppressed _ => false

/-- The request as it is planned. -/
def incoming : Incoming where
  requestId := received.requestId
  headers := received.headers
  body := received.body
  body_wellFormed := received.body_wellFormed
  refusal := (Intake.unsupportedTextSurface received.body).map fun _ =>
    ⟨400, "wayfinder_router_unsupported_modality"⟩
  limited := received.limited
  mistuned := match tuned app front received with
    | .error _ => some badOverride
    | .ok _ => none
  routing := routing app front received
  slash := slash app front received
  budget := received.budget
  canaryAdmits := canaryAdmits app front received
  world := received.world

/-- `chat_completions`, from the parsed body to the response. -/
def receive : Timed.Service ℚ Chat.AppState Received Chat.ChatResponse := fun now received s =>
  serve app front.planner now (incoming app front received) s

/-- What the stages have made of a request: a text request with a configuration that is that of its
profile with its tuning, scored under it, and with a route whose mode is the reason for its model
and, if it is that of the rollout, with an identity that the rollout takes. -/
structure Prepared (base : RoutingConfig) (routed : Routed) : Prop where
  textOnly : Intake.TextOnly received.body
  tuned : Tuning.applyScoringOverrides front.asF64 front.lower base (tuning received) =
    .ok (routing app front received)
  scored : Routing.scoreComplexity front.planner.extractFeatures
    routed.restrictions.request.prompt (routing app front received) = .ok routed.decision
  restricts : Restricts app front.planner (incoming app front received) routed.restrictions
  explained : Explained app front.planner (incoming app front received) routed.decision
    routed.restrictions routed.route
  assigned : routed.route.mode = .canary → ∃ identity,
    Rollout.Identified front.planner.canary (caller app front received) identity ∧
      Rollout.assignmentBucket app.sha256 front.planner.canary.rolloutId identity <
        Rollout.takenBuckets front.planner.canary.fraction

end Stages

variable {app : Chat.App} {front : Front} {received : Received}

/-- The rollout only admits callers that it takes. -/
theorem assigned_of_canaryAdmits (h : canaryAdmits app front received = true) : ∃ identity,
    Rollout.Identified front.planner.canary (caller app front received) identity ∧
      Rollout.assignmentBucket app.sha256 front.planner.canary.rolloutId identity <
        Rollout.takenBuckets front.planner.canary.fraction := by
  obtain ⟨backend, -, hbackend⟩ := (Option.any_eq_true _ _).mp h
  rw [Bool.and_eq_true] at hbackend
  have hassigned := hbackend.2
  split at hassigned
  · next identity heligible =>
    exact ⟨identity, Rollout.assignmentIdentity_eq_eligible.mp heligible⟩
  · cases hassigned

/-- A route of the rollout is that of a request that the rollout admits. -/
theorem admits_of_canary {planner : Planner} {incoming : Incoming}
    {decision : Routing.ComplexityScore} {restrictions : Restrictions} {route : Route}
    (h : Explained app planner incoming decision restrictions route)
    (hmode : route.mode = .canary) : incoming.canaryAdmits = true := by
  cases h with
  | canary name hcanary hreceives =>
    rw [canaryCandidate] at hcanary
    split_ifs at hcanary with hadmits
    exact hadmits.2.2
  | _ => cases hmode

/-- A body that is not refused is one of texts. -/
theorem textOnly_of_refusal (h : (incoming app front received).refusal = none) :
    Intake.TextOnly received.body :=
  Intake.unsupportedTextSurface_eq_none.mp (Option.map_eq_none_iff.mp h)

/-- A request that is tuned well has the configuration with its tuning. -/
theorem tuned_of_mistuned (h : (incoming app front received).mistuned = none) :
    Tuning.applyScoringOverrides front.asF64 front.lower (baseRouting app front received)
      (tuning received) = .ok (routing app front received) := by
  cases htuned : tuned app front received with
  | error message =>
    simp only [incoming, htuned] at h
    cases h
  | ok tunedRouting =>
    rw [routing, htuned]
    exact htuned

/-- What is routed was prepared. -/
theorem prepared_of_routeRequest {routed : Routed}
    (h : routeRequest app front.planner (incoming app front received) = .ok routed) :
    Prepared app front received (baseRouting app front received) routed := by
  have hrestricts := restricts_of_routeRequest h
  simp only [routeRequest, bind_eq_ok, elim_error_eq_ok, mapError_eq_ok] at h
  obtain ⟨_, ⟨hrefusal, -⟩, grant, -, _, -, _, ⟨hmistuned, -⟩, routeOn, -, sticky, -, cooldown, -,
    request, -, decision, hdecision, route, hroute, h⟩ := h
  cases h
  -- the key of the caller and the rollout may still change the route
  obtain ⟨budgeted, hbudgeted, hroute⟩ := explained_budgeted hroute
  obtain ⟨hscoped, hallowed⟩ := explained_scopedRoute hbudgeted
  obtain ⟨hexplained, -⟩ := explained_canaryRoute hscoped hallowed
  rw [← hroute] at hexplained
  exact
    { textOnly := textOnly_of_refusal hrefusal
      tuned := tuned_of_mistuned hmistuned
      scored := hdecision
      restricts := hrestricts
      explained := hexplained
      assigned := fun hmode => assigned_of_canaryAdmits (admits_of_canary hexplained hmode) }

/-! ## Runs -/

abbrev ReceiveEvent := Timed.Event ℚ Received Chat.ChatResponse

section Runs

variable {init s : Chat.AppState} {h : List ReceiveEvent}

/-- **Run lemma**: every send of a run is one of a request that was prepared and that confines
it. -/
theorem sends_receive_run (run : (receive app front).Run Timed.Service.Any init h s) :
    Sends (fun target => ∃ event ∈ h, ∃ routed,
        Prepared app front event.call (baseRouting app front event.call) routed ∧
          Planning.Confined app routed.restrictions target)
      init.reliability s.reliability := by
  refine run.invariant (I := fun h s => Sends (fun target => ∃ event ∈ h, ∃ routed,
    Prepared app front event.call (baseRouting app front event.call) routed ∧
      Planning.Confined app routed.restrictions target) init.reliability s.reliability) (.refl _) ?_
  intro h s now received hsends _ _
  refine Sends.trans (hsends.mono ?_)
    ((sends_routed now (incoming app front received) s).mono ?_)
  · rintro target ⟨event, hevent, hconfined⟩
    exact ⟨event, .tail _ hevent, hconfined⟩
  · rintro target ⟨routed, hrouted, hconfined⟩
    exact ⟨(receive app front).event now received s, .head _, routed,
      prepared_of_routeRequest hrouted, hconfined⟩

variable {lib : Library} {draft : DraftPolicyVersion} {version : ValidatedPolicyVersion}
  {tables : PolicyTables}

/-- The configuration of a request is that of the profile that governs it. -/
theorem governed_baseRouting (hvalid : draft.validate lib = .ok (version, tables))
    (hpolicy : front.policy = some tables) (received : Received) : ∃ kind profileId,
    draft.document.Governs (context app front received) kind profileId ∧
      draft.document.Provides lib profileId (baseRouting app front received) := by
  obtain ⟨resolved, hresolved⟩ := Option.isSome_iff_exists.mp
    (front.resolves tables hpolicy (context app front received))
  have hbase : baseRouting app front received = resolved.routing := by
    unfold baseRouting
    split
    · next hnone =>
      rw [hnone] at hpolicy
      cases hpolicy
    · next tables' htables =>
      have hsame : tables' = tables := Option.some.inj (htables.symm.trans hpolicy)
      subst hsame
      simp only [hresolved, Option.get_some]
  obtain ⟨hgoverns, hprovides⟩ := (ControlPlane.resolve_iff_governs hvalid).mp hresolved
  exact ⟨resolved.bindingKind, resolved.profileId, hgoverns, hbase ▸ hprovides⟩

end Runs

/-! ## A request of the night shift -/

/-- The stages before the plan of the team, under its policy. -/
def teamFront : Front where
  planner := teamPlanner
  policy := some ControlPlane.shiftTables
  resolves := by
    rintro tables ⟨⟩ context
    exact ControlPlane.isSome_resolve ControlPlane.validate_shiftDraft context
  workspaceOf _ := some "team"
  slashDirectives := true
  asF64 _ := none
  lower text := text

/-- The greeting as it is received. -/
def aliceReceived : Received where
  requestId := aliceRequest.requestId
  headers := aliceRequest.headers
  body := aliceRequest.body
  body_wellFormed := aliceRequest.body_wellFormed
  limited := none
  budget := .ok .allow
  rollout := none
  world := aliceRequest.world

theorem run_aliceReceived : (receive teamApp teamFront).Run Timed.Service.Any Chat.firstState
    [(receive teamApp teamFront).event 0 aliceReceived Chat.firstState]
    (receive teamApp teamFront 0 aliceReceived Chat.firstState).2 :=
  .cons 0 aliceReceived .nil (fun _ he => absurd he List.not_mem_nil) trivial

theorem sent_aliceReceived : (contacts (receive teamApp teamFront 0 aliceReceived
    Chat.firstState).2.reliability.log).map (fun contact => contact.1.name) = ["fast"] := by
  decide +kernel

end WayfinderRouter.Gateway.Reception
