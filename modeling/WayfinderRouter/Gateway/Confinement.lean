import WayfinderRouter.Gateway.Planning
import WayfinderRouter.Gateway.Replay

/-!
# Where a request may be sent

However its route was chosen, a request is only sent to deployments of aliases of its plan that may
receive it.

## Main definitions

- `Sends` — a later state has more contacts, all of one kind
- `Confined` — a target to which the restrictions of a request allow to send
- `Entitled` — the caller has presented a key that may use the alias

## Main results

- `sends_streamPlan`, `sends_deliverPlan` — the two delivery loops send to eligible deployments
- `delivery_confined` — in every run every send is confined
- `workspace_confined` — in every run every send is to an alias that the configuration entitles the
  caller to
-/

namespace WayfinderRouter.Gateway

/-! ## The delivery loops -/

/-- The later state has more contacts, with targets of one kind. -/
def Sends (P : ConfiguredModel → Prop) (s s' : GatewayState) : Prop :=
  ∃ sends, contacts s'.log = sends ++ contacts s.log ∧ ∀ c ∈ sends, P c.1

section Sends

variable {env : Environment} {P Q : ConfiguredModel → Prop} {s s' s'' : GatewayState}
  {target : ConfiguredModel}

theorem Sends.of_contacts (h : contacts s'.log = contacts s.log) : Sends P s s' :=
  ⟨[], h, fun _ hc => absurd hc List.not_mem_nil⟩

theorem Sends.refl (s : GatewayState) : Sends P s s := .of_contacts rfl

theorem Sends.trans (h : Sends P s s') (h' : Sends P s' s'') : Sends P s s'' := by
  obtain ⟨sends, hcontacts, hsends⟩ := h
  obtain ⟨sends', hcontacts', hsends'⟩ := h'
  refine ⟨sends' ++ sends, ?_, List.forall_mem_append.mpr ⟨hsends', hsends⟩⟩
  rw [hcontacts', hcontacts, List.append_assoc]

theorem Sends.mono (h : Sends P s s') (hPQ : ∀ target, P target → Q target) : Sends Q s s' := by
  obtain ⟨sends, hcontacts, hsends⟩ := h
  exact ⟨sends, hcontacts, fun c hc => hPQ c.1 (hsends c hc)⟩

theorem sends_sent (hP : P target) (outcome : Outcome) (s : GatewayState) :
    Sends P s (s.push (.sent target outcome)) :=
  ⟨[(target, outcome)], rfl, fun c hc => by rwa [List.mem_singleton.mp hc]⟩

theorem sends_begin (name : String) (s : GatewayState) :
    Sends P s (s.beginReliabilityAttempt env name).2 :=
  .of_contacts (grows_begin env name s).contacts

theorem sends_dropEstablished (established : Option Established) (s : GatewayState) :
    Sends P s (dropEstablished env established s) :=
  .of_contacts (contacts_dropEstablished env established s)

theorem sends_streamSend (hP : P target) (attempt : CircuitAttempt) (acc : StreamAcc)
    (s : GatewayState) : Sends P s (streamSend env target attempt acc s).2.2 := by
  refine (sends_sent hP (env.upstream s.log target) s).trans (.of_contacts ?_)
  dsimp only [streamSend]
  split
  · split_ifs <;> rfl
  · split_ifs <;> rfl

theorem sends_streamAttempts (hP : P target) (attempt : CircuitAttempt) (retries : ℕ)
    (acc : StreamAcc) (s : GatewayState) :
    Sends P s (streamAttempts env target attempt retries acc s).2.2 := by
  induction retries generalizing acc s with
  | zero =>
    have hsend : Sends P s (streamSend env target attempt acc s).2.2 :=
      sends_streamSend hP attempt acc s
    rw [streamAttempts]
    rcases hs : streamSend env target attempt acc s with ⟨_ | ended, acc', s'⟩
    · rw [hs] at hsend
      exact hsend.trans (.of_contacts rfl)
    · rw [hs] at hsend
      exact hsend
  | succ retries ih =>
    have hsend : Sends P s (streamSend env target attempt acc s).2.2 :=
      sends_streamSend hP attempt acc s
    rw [streamAttempts]
    rcases hs : streamSend env target attempt acc s with ⟨_ | ended, acc', s'⟩
    · rw [hs] at hsend
      exact hsend.trans (ih acc' s')
    · rw [hs] at hsend
      exact hsend

/-- The deployments of an alias. -/
theorem sends_streamTargets (name reason : String) {targets : List ConfiguredModel}
    (hP : ∀ target ∈ targets, P target) (acc : StreamAcc) (s : GatewayState) :
    Sends P s (streamTargets env name reason targets acc s).2.2 := by
  induction targets generalizing acc s with
  | nil => exact .refl s
  | cons target targets ih =>
    obtain ⟨htarget, htargets⟩ := List.forall_mem_cons.mp hP
    rw [streamTargets]
    split
    · exact ih htargets _ s
    have hbegin : Sends P s (s.beginReliabilityAttempt env target.deliveryId).2 :=
      sends_begin target.deliveryId s
    rcases hb : s.beginReliabilityAttempt env target.deliveryId with ⟨_ | attempt, s₁⟩
    · rw [hb] at hbegin
      exact hbegin.trans (ih htargets acc s₁)
    rw [hb] at hbegin
    have hattempts : Sends P s₁ (streamAttempts env target attempt env.retries acc s₁).2.2 :=
      sends_streamAttempts htarget attempt env.retries acc s₁
    dsimp only
    rcases ha : streamAttempts env target attempt env.retries acc s₁ with ⟨ended, acc', s₂⟩
    rw [ha] at hattempts
    have hsent := hbegin.trans hattempts
    cases ended with
    | exhausted => exact hsent.trans (ih htargets acc' s₂)
    | established =>
      exact (hsent.trans (sends_dropEstablished acc'.established s₂)).trans (ih htargets _ _)
    | relayed status => exact hsent.trans (sends_dropEstablished acc'.established s₂)
    | failed => exact hsent.trans (sends_dropEstablished acc'.established s₂)

theorem sends_bufferedSend (hP : P target) (attempt : CircuitAttempt) (lastError : String)
    (s : GatewayState) : Sends P s (bufferedSend env target attempt lastError s).2.2 := by
  refine (sends_sent hP (env.upstream s.log target) s).trans (.of_contacts ?_)
  dsimp only [bufferedSend]
  split
  · split_ifs <;> rfl
  · split_ifs <;> rfl

theorem sends_bufferedAttempts (hP : P target) (attempt : CircuitAttempt) (retries : ℕ)
    (lastError : String) (s : GatewayState) :
    Sends P s (bufferedAttempts env target attempt retries lastError s).2.2 := by
  induction retries generalizing lastError s with
  | zero =>
    have hsend : Sends P s (bufferedSend env target attempt lastError s).2.2 :=
      sends_bufferedSend hP attempt lastError s
    rw [bufferedAttempts]
    rcases hs : bufferedSend env target attempt lastError s with ⟨_ | ended, message, s'⟩
    · rw [hs] at hsend
      exact hsend.trans (.of_contacts rfl)
    · rw [hs] at hsend
      exact hsend
  | succ retries ih =>
    have hsend : Sends P s (bufferedSend env target attempt lastError s).2.2 :=
      sends_bufferedSend hP attempt lastError s
    rw [bufferedAttempts]
    rcases hs : bufferedSend env target attempt lastError s with ⟨_ | ended, message, s'⟩
    · rw [hs] at hsend
      exact hsend.trans (ih message s')
    · rw [hs] at hsend
      exact hsend

/-- The deployments of an alias. -/
theorem sends_bufferedTargets (name reason : String) {targets : List ConfiguredModel}
    (hP : ∀ target ∈ targets, P target) (lastError : String) (s : GatewayState) :
    Sends P s (bufferedTargets env name reason targets lastError s).2.2 := by
  induction targets generalizing lastError s with
  | nil => exact .refl s
  | cons target targets ih =>
    obtain ⟨htarget, htargets⟩ := List.forall_mem_cons.mp hP
    rw [bufferedTargets]
    split
    · exact ih htargets _ s
    have hbegin : Sends P s (s.beginReliabilityAttempt env target.deliveryId).2 :=
      sends_begin target.deliveryId s
    rcases hb : s.beginReliabilityAttempt env target.deliveryId with ⟨_ | attempt, s₁⟩
    · rw [hb] at hbegin
      exact hbegin.trans (ih htargets lastError s₁)
    rw [hb] at hbegin
    have hattempts :
        Sends P s₁ (bufferedAttempts env target attempt env.retries lastError s₁).2.2 :=
      sends_bufferedAttempts htarget attempt env.retries lastError s₁
    dsimp only
    rcases ha : bufferedAttempts env target attempt env.retries lastError s₁ with
      ⟨ended, message, s₂⟩
    rw [ha] at hattempts
    have hsent := hbegin.trans hattempts
    cases ended with
    | exhausted => exact hsent.trans (ih htargets message s₂)
    | served status => exact hsent
    | fatal e => exact hsent

end Sends

/-! ## The targets of a plan -/

/-- The target is the alias of its name, or one of its deployments. -/
def Deployed (models : List ConfiguredModel) (target : ConfiguredModel) : Prop :=
  ∃ model, findModel models target.name = some model ∧
    target ∈ model :: model.deploymentTargets.map model.forDeployment

/-- A deployment of an alias of the plan that may receive the request. -/
structure Planned (env : Environment) (plan : List String) (target : ConfiguredModel) : Prop where
  mem : target.name ∈ plan
  deployed : Deployed env.models target
  eligible : targetEligible env.parsers env.request env.offline env.promptEstimate target = true

section Plans

variable {env : Environment} {plan : List String} {name : String} {s : GatewayState}
  {target : ConfiguredModel}

theorem Planned.cons (h : Planned env plan target) : Planned env (name :: plan) target :=
  { h with mem := List.mem_cons_of_mem name h.mem }

theorem name_of_findModel {models : List ConfiguredModel} {model : ConfiguredModel}
    (h : findModel models name = some model) : model.name = name := by
  unfold findModel at h
  have hname := List.find?_some h
  exact of_decide_eq_true hname

/-- The candidates of an alias are its deployments. -/
theorem deployed_of_mem_candidates (h : target ∈ (s.deploymentCandidates env name).1) :
    target.name = name ∧ Deployed env.models target := by
  dsimp only [GatewayState.deploymentCandidates, rotateDeployments] at h
  split at h
  · exact absurd h List.not_mem_nil
  rename_i model hmodel
  have hname := name_of_findModel hmodel
  have hmem : target ∈ model :: model.deploymentTargets.map model.forDeployment := by
    split at h
    · rw [List.mem_singleton.mp h]
      exact List.mem_cons_self
    · obtain ⟨deployment, hdeployment, rfl⟩ := List.mem_map.mp h
      exact List.mem_cons_of_mem _ (List.mem_map_of_mem (List.mem_rotate.mp hdeployment))
  have htarget : target.name = name := by
    rcases List.mem_cons.mp hmem with rfl | hdeployed
    · exact hname
    · obtain ⟨deployment, -, rfl⟩ := List.mem_map.mp hdeployed
      exact hname
  exact ⟨htarget, model, htarget ▸ hmodel, hmem⟩

/-- The selected targets of an alias are deployments that may receive the request. -/
theorem planned_of_mem_targetsOf (h : target ∈ (targetsOf env name s).1.targets) :
    Planned env (name :: plan) target := by
  obtain ⟨hmem, heligible⟩ := List.mem_filter.mp (mem_of_mem_select h)
  obtain ⟨hname, hdeployed⟩ := deployed_of_mem_candidates hmem
  exact ⟨hname ▸ List.mem_cons_self, hdeployed, heligible⟩

theorem sends_candidates (name : String) (s : GatewayState) {P : ConfiguredModel → Prop} :
    Sends P s (s.deploymentCandidates env name).2 :=
  .of_contacts (grows_candidates env name s).contacts

/-- **Run rule** of the streaming loop. -/
theorem sends_streamPlan (plan : List String) (acc : StreamAcc) (s : GatewayState) :
    Sends (Planned env plan) s (streamPlan env plan acc s).2 := by
  induction plan generalizing acc s with
  | nil => exact .refl s
  | cons name plan ih =>
    have hrest : ∀ acc s, Sends (Planned env (name :: plan)) s (streamPlan env plan acc s).2 :=
      fun acc s => (ih acc s).mono fun _ => Planned.cons
    have hcandidates : Sends (Planned env (name :: plan)) s (s.deploymentCandidates env name).2 :=
      sends_candidates name s
    have hplanned : ∀ target ∈ (targetsOf env name s).1.targets,
        Planned env (name :: plan) target := fun _ => planned_of_mem_targetsOf
    have htargets : Sends (Planned env (name :: plan)) _ (streamTargets env name _ _ _ _).2.2 :=
      sends_streamTargets name (targetsOf env name s).1.reason hplanned acc (targetsOf env name s).2
    rw [streamPlan]
    dsimp only [targetsOf] at htargets ⊢
    split_ifs
    · exact hcandidates.trans (hrest _ _)
    · exact hcandidates.trans (hrest _ _)
    · exact hcandidates.trans (hrest _ _)
    · split
      · rename_i hresponse
        rw [hresponse] at htargets
        exact hcandidates.trans htargets
      · rename_i hnone
        rw [hnone] at htargets
        split_ifs
        · exact hcandidates.trans htargets
        · exact hcandidates.trans (htargets.trans (hrest _ _))

/-- **Run rule** of the buffered loop. -/
theorem sends_deliverPlan (plan : List String) (lastError : String) (s : GatewayState) :
    Sends (Planned env plan) s (deliverPlan env plan lastError s).2 := by
  induction plan generalizing lastError s with
  | nil => exact .refl s
  | cons name plan ih =>
    have hrest : ∀ message s, Sends (Planned env (name :: plan)) s
        (deliverPlan env plan message s).2 :=
      fun message s => (ih message s).mono fun _ => Planned.cons
    have hcandidates : Sends (Planned env (name :: plan)) s (s.deploymentCandidates env name).2 :=
      sends_candidates name s
    have hplanned : ∀ target ∈ (targetsOf env name s).1.targets,
        Planned env (name :: plan) target := fun _ => planned_of_mem_targetsOf
    have htargets : Sends (Planned env (name :: plan)) _ (bufferedTargets env name _ _ _ _).2.2 :=
      sends_bufferedTargets name (targetsOf env name s).1.reason hplanned lastError
        (targetsOf env name s).2
    rw [deliverPlan]
    dsimp only [targetsOf] at htargets ⊢
    split_ifs
    · exact hcandidates
    · exact hcandidates.trans (hrest _ _)
    · exact hcandidates.trans (hrest _ _)
    · split
      · rename_i hresponse
        rw [hresponse] at htargets
        exact hcandidates.trans htargets
      · rename_i hnone
        rw [hnone] at htargets
        exact hcandidates.trans (htargets.trans (hrest _ _))

end Plans

/-! ## Answers -/

namespace Chat

variable {app : App} {s : AppState} {selected : Selected} {body : IndexMap Json} {world : World}

theorem reliability_getCachedResponse (key : String) (exchange : Exchange) (now : ℚ) :
    (getCachedResponse app key exchange now s).2.reliability = s.reliability := by
  unfold getCachedResponse
  split_ifs <;> rfl

theorem reliability_putCachedResponse (key : String) (response : ResponseCache.CachedResponse)
    (exchange : Exchange) (now : ℚ) :
    (putCachedResponse app key response exchange now s).reliability = s.reliability := by
  unfold putCachedResponse
  split_ifs <;> rfl

/-- The cache is asked without a delivery. -/
theorem reliability_lookupResponse (target : ConfiguredModel) (exchange : Exchange) (now : ℚ) :
    (lookupResponse app selected target body exchange now s).2.reliability = s.reliability := by
  unfold lookupResponse
  split
  · split
    · rfl
    · rename_i key hkey
      have hget : (getCachedResponse app key exchange now s).2.reliability = s.reliability :=
        reliability_getCachedResponse key exchange now
      rcases hresult : getCachedResponse app key exchange now s with ⟨_ | _ | cached, s'⟩ <;>
        rw [hresult] at hget <;> exact hget
  · rfl

/-- A response is stored without a delivery. -/
theorem reliability_finish (missed : Bool) (servedBy : String) (target : ConfiguredModel)
    (status : ℕ) :
    (finish app selected body missed world servedBy target status s).2.reliability =
      s.reliability := by
  dsimp only [finish, storeMissed]
  split
  · unfold storeResponse
    split
    · split
      · rfl
      · split_ifs
        · rfl
        · split
          · rfl
          · exact reliability_putCachedResponse _ _ _ _
    · rfl
  · rfl

/-- A delivery sends to targets of its plan. -/
theorem sends_deliver (missed : Bool) :
    Sends (Planned (environment app selected world) world.plan) s.reliability
      (deliver app selected body missed world s).2.reliability := by
  unfold deliver
  split
  · exact .refl _
  dsimp only
  split
  · exact sends_streamPlan world.plan .init s.reliability
  · have hsends : Sends (Planned (environment app selected world) world.plan) s.reliability
        (deliverPlan (environment app selected world) world.plan "no upstream available"
          s.reliability).2 := sends_deliverPlan world.plan "no upstream available" s.reliability
    split
    · rename_i hserved
      rw [hserved] at hsends
      rw [reliability_finish]
      exact hsends
    · rename_i hserved
      rw [hserved] at hsends
      exact hsends
    · rename_i hserved
      rw [hserved] at hsends
      exact hsends
    · rename_i hserved
      rw [hserved] at hsends
      exact hsends

/-- An answer sends to targets of the plan. -/
theorem sends_answerSelected (now : ℚ) :
    Sends (Planned (environment app selected world) world.plan) s.reliability
      (answerSelected app selected body world now s).2.reliability := by
  unfold answerSelected
  split
  · exact .refl _
  rename_i target _
  split_ifs
  · exact .refl _
  · have hlookup :
        (lookupResponse app selected target body world.lookup now s).2.reliability =
          s.reliability := reliability_lookupResponse target world.lookup now
    rcases hresult : lookupResponse app selected target body world.lookup now s with
      ⟨_ | _ | cached | _, s'⟩ <;> rw [hresult] at hlookup <;> rw [← hlookup]
    · exact sends_deliver false
    · exact .refl _
    · exact .refl _
    · exact sends_deliver true

end Chat

/-! ## Chat requests -/

namespace Planning

open Access (KeyPolicy)
open Config (GatewayConfig gatewayConfigFromToml)

/-- The restrictions of a request allow to send to the target. Its context window may be unknown. -/
structure Confined (app : Chat.App) (restrictions : Restrictions) (target : ConfiguredModel) :
    Prop where
  passes : ∀ reason ∈ (assessDestination restrictions.request
    (destinationSnapshot app.parsers target)).exclusions, reason = .contextWindowUnknown
  permitted : restrictions.request.privacyPosture.permits
    (modelExecutionBoundary app.parsers target) = true
  provenLocal : restrictions.offline = true → modelIsProvenLocal app.parsers target = true
  fits : ∀ window ∈ target.contextWindow, restrictions.promptEstimate ≤ window
  deployed : Deployed app.models target
  allowed : restrictions.allowed ≠ [] → target.name ∈ restrictions.allowed

/-- The restrictions of a request: its own, and those of the key of its caller. -/
def Restricts (app : Chat.App) (planner : Planner) (incoming : Incoming)
    (restrictions : Restrictions) : Prop :=
  ∃ routeOn grant, incoming.routingRequest planner routeOn = .ok restrictions.request ∧
    incoming.authenticate app planner = .ok grant ∧
    restrictions.offline = incoming.offline planner ∧
    restrictions.promptEstimate = incoming.promptEstimate ∧
    restrictions.allowed = allowedModels planner grant

variable {app : Chat.App} {planner : Planner} {incoming : Incoming}

/-- What a route was chosen under. -/
theorem restricts_of_routeRequest {routed : Routed}
    (h : routeRequest app planner incoming = .ok routed) :
    Restricts app planner incoming routed.restrictions := by
  simp only [routeRequest, bind_eq_ok] at h
  obtain ⟨-, -, grant, hgrant, -, -, -, -, routeOn, -, -, -, -, -, request, hrequest, decision, -,
    route, -, h⟩ := h
  cases h
  exact ⟨routeOn, grant, hrequest, hgrant, rfl, rfl, rfl⟩

/-- The privacy posture excludes what it does not permit. -/
theorem permitted_of_exclusions {parsers : Parsers} {request : RoutingRequest}
    {target : ConfiguredModel}
    (h : ∀ reason ∈ (assessDestination request (destinationSnapshot parsers target)).exclusions,
      reason = .contextWindowUnknown) :
    request.privacyPosture.permits (modelExecutionBoundary parsers target) = true := by
  by_contra hdenied
  rw [Bool.not_eq_true] at hdenied
  have hmem : ExclusionReason.privacyBoundaryDenied ∈
      (assessDestination request (destinationSnapshot parsers target)).exclusions := by
    simp [assessDestination, destinationSnapshot, exclude, hdenied]
  cases h _ hmem

/-- A name of the plan is one that may receive the request. -/
theorem mayReceive_of_mem_candidatePlan {decision : Routing.ComplexityScore}
    {restrictions : Restrictions} {route : Route} {breaker : CircuitBreaker} {time : ℚ}
    {name : String}
    (h : name ∈ candidatePlan app planner incoming decision restrictions route breaker time) :
    mayReceive app restrictions name = true := by
  unfold candidatePlan at h
  split at h
  · exact absurd h List.not_mem_nil
  · exact (List.mem_filter.mp h).2

/-- A planned target of a name that may receive the request is confined. -/
theorem confined_of_planned {env : Environment} {restrictions : Restrictions} {plan : List String}
    {target : ConfiguredModel} (hplanned : Planned env plan target)
    (hparsers : env.parsers = app.parsers) (hmodels : env.models = app.models)
    (hrequest : env.request = restrictions.request) (hoffline : env.offline = restrictions.offline)
    (hestimate : env.promptEstimate = restrictions.promptEstimate)
    (hplan : ∀ name ∈ plan, mayReceive app restrictions name = true) :
    Confined app restrictions target := by
  have heligible := hplanned.eligible
  rw [hparsers, hrequest, hoffline, hestimate, targetEligible, Bool.and_eq_true, Bool.and_eq_true,
    isEligible_assessModel_iff, Bool.or_eq_true, Bool.not_eq_true'] at heligible
  obtain ⟨⟨hpasses, hlocal⟩, hfits⟩ := heligible
  have hname := hplan target.name hplanned.mem
  obtain ⟨model, hmodel⟩ : ∃ model, findModel app.models target.name = some model :=
    hmodels ▸ hplanned.deployed.imp fun _ h => h.1
  rw [mayReceive, hmodel, Option.any_some, Bool.and_eq_true, Bool.or_eq_true, decide_eq_true_iff,
    List.isEmpty_iff] at hname
  refine
    { passes := hpasses
      permitted := permitted_of_exclusions hpasses
      provenLocal := fun h => hlocal.resolve_left (by rw [h]; decide)
      fits := fun window hwindow => ?_
      deployed := hmodels ▸ hplanned.deployed
      allowed := hname.2.resolve_left }
  rw [Option.mem_def.mp hwindow, precheckOk, Option.all_some] at hfits
  exact of_decide_eq_true hfits

/-- Every send of a chat request is one for which it was routed. -/
theorem sends_routed (now : ℚ) (incoming : Incoming) (s : Chat.AppState) :
    Sends (fun target => ∃ routed, routeRequest app planner incoming = .ok routed ∧
        Confined app routed.restrictions target)
      s.reliability (serve app planner now incoming s).2.reliability := by
  unfold serve plannedRequest
  split
  · exact .refl _
  rename_i routed hrouted
  split_ifs
  · exact .refl _
  · refine (Chat.sends_answerSelected now).mono fun target hsend => ?_
    exact ⟨routed, hrouted,
      confined_of_planned hsend rfl rfl rfl rfl rfl fun _ => mayReceive_of_mem_candidatePlan⟩

/-- **Step lemma**: every send of a chat request is confined. -/
theorem sends_serve (now : ℚ) (incoming : Incoming) (s : Chat.AppState) :
    Sends (fun target => ∃ restrictions, Restricts app planner incoming restrictions ∧
        Confined app restrictions target)
      s.reliability (serve app planner now incoming s).2.reliability := by
  refine (sends_routed now incoming s).mono ?_
  rintro target ⟨routed, hrouted, hconfined⟩
  exact ⟨routed.restrictions, restricts_of_routeRequest hrouted, hconfined⟩

/-! ## Runs -/

abbrev ServeEvent := Timed.Event ℚ Incoming Chat.ChatResponse

section Runs

variable {init s : Chat.AppState} {h : List ServeEvent}

/-- **Run lemma**: every send of a run is one of a request that confines it. -/
theorem sends_run (run : (serve app planner).Run Timed.Service.Any init h s) :
    Sends (fun target => ∃ event ∈ h, ∃ restrictions,
        Restricts app planner event.call restrictions ∧ Confined app restrictions target)
      init.reliability s.reliability := by
  refine run.invariant (I := fun h s => Sends (fun target => ∃ event ∈ h, ∃ restrictions,
    Restricts app planner event.call restrictions ∧ Confined app restrictions target)
      init.reliability s.reliability) (.refl _) ?_
  intro h s now incoming hsends _ _
  refine Sends.trans (hsends.mono ?_) ((sends_serve now incoming s).mono ?_)
  · rintro target ⟨event, hevent, hconfined⟩
    exact ⟨event, .tail _ hevent, hconfined⟩
  · intro target hconfined
    exact ⟨(serve app planner).event now incoming s, .head _, hconfined⟩

/-- The caller was asked for no key, or has presented one that may use the alias. -/
def Entitled (config : GatewayConfig) (sha256 : List UInt8 → List UInt8)
    (authorization : Option String) (name : String) : Prop :=
  Access.AsksForNoKey config authorization ∨
    ∃ key, Access.PresentsKey config sha256 authorization key ∧ Access.KeyPermits config key name

theorem entitled_of_confined {lib : Toml.Library} {text where_ : String} {config : GatewayConfig}
    {policy : KeyPolicy} (hconfig : gatewayConfigFromToml lib text where_ = .ok config)
    (hpolicy : KeyPolicy.fromGatewayConfig config = .ok policy)
    (hplanner : planner.accessPolicy = some policy) {restrictions : Restrictions}
    {target : ConfiguredModel} (hrestricts : Restricts app planner incoming restrictions)
    (hconfined : Confined app restrictions target) :
    Entitled config app.sha256 incoming.authorization target.name := by
  obtain ⟨-, grant, -, hgrant, -, -, hallowed⟩ := hrestricts
  rw [Incoming.authenticate, hplanner] at hgrant
  dsimp only at hgrant
  split at hgrant
  · cases hgrant
  rename_i grant' hauthenticated
  cases hgrant
  obtain hnone | ⟨keyId, key, hkey, hpresents, hmodels⟩ :=
    Access.presentsKey_of_authenticate hpolicy hauthenticated
  · exact .inl hnone
  · refine .inr ⟨key, hpresents, Access.keyPermits_of_mem hconfig hkey fun hlist => ?_⟩
    have hsame : restrictions.allowed = Access.allowedModels config key := by
      unfold allowedModels at hallowed
      rw [hplanner] at hallowed
      exact hallowed.trans hmodels
    exact hsame ▸ hconfined.allowed (hsame ▸ hlist)

end Runs

/-! ## A workspace of one alias -/

/-- The SHA-256 digest of the key `wf-alice`, in hexadecimal digits. -/
def aliceHash : String :=
  "b38e2b5e7e8203a25ca8336c4b5b2f67de4a518e8b73f957726e20c79f398ea6"

/-- The SHA-256 digest of the key `wf-alice`, and longer texts for the others. -/
def aliceDigest (text : List UInt8) : List UInt8 :=
  if text = utf8 "wf-alice".toList then
    [179, 142, 43, 94, 126, 130, 3, 162, 92, 168, 51, 108, 75, 91, 47, 103, 222, 74, 81, 142, 139,
     115, 249, 87, 114, 110, 32, 199, 159, 57, 142, 166]
  else List.replicate 33 0 ++ text

/-- The alias `fast`, a workspace with this alias only, and a key of the workspace. -/
def teamGateway : GatewayConfig :=
  { GatewayConfig.default with
    workspaces := ⟨[("team", ⟨["fast"], none, none, none⟩)], by decide⟩
    keys := ⟨[("alice", ⟨aliceHash, [], some "team", none, none, []⟩)], by decide⟩
    models := ⟨[("fast", ⟨.openAiCompatible, some "https://one.example/v1", "m", none, none, none,
      none, [], none, [], Config.defaultSelection⟩)], by decide⟩ }

/-- A parser that knows the document of this gateway. -/
def teamLibrary : Toml.Library where
  parse _ := .ok (.table [("gateway", .table [
    ("workspaces", .table [("team", .table [("models", .array [.string "fast"])])]),
    ("keys", .table [("alice", .table [
      ("hash", .string aliceHash), ("workspace", .string "team")])]),
    ("models", .table [("fast", .table [
      ("base_url", .string "https://one.example/v1"), ("model", .string "m")])])])])
  quote text := text

theorem accepts_teamGateway : gatewayConfigFromToml teamLibrary "" "" = .ok teamGateway := by
  rfl

def teamPolicy : KeyPolicy := ⟨[⟨"alice", aliceHash, ["fast"]⟩], false⟩

theorem policy_teamGateway : KeyPolicy.fromGatewayConfig teamGateway = .ok teamPolicy := by
  rfl

/-- A gateway with the keys of the workspace that routes every prompt to `fast`. -/
def teamPlanner : Planner where
  routing := ⟨.default, [⟨0, "fast", none⟩], none, ⟨∅, ∅, by simp⟩⟩
  routePresets := .empty
  accessPolicy := some teamPolicy
  failover := .sameTier
  canary := .default
  routeOn := .turn
  sticky := false
  stickyCooldown := 0
  offline := false
  dryRun := false
  extractFeatures _ _ := .ok ⟨fun _ => 0⟩

def teamApp : Chat.App := { Chat.twoAliases with sha256 := aliceDigest }

/-- A greeting that presents the key. -/
def aliceRequest : Incoming where
  requestId := "request"
  headers := ⟨[("authorization", utf8 "Bearer wf-alice".toList)]⟩
  body := Chat.plainBody.1
  body_wellFormed := Chat.wellFormed_object Chat.plainBody.2
  refusal := none
  limited := none
  mistuned := none
  routing := teamPlanner.routing
  slash := none
  budget := .ok .allow
  canaryAdmits := false
  world := Chat.worldOf 200

theorem run_aliceRequest : (serve teamApp teamPlanner).Run Timed.Service.Any Chat.firstState
    [(serve teamApp teamPlanner).event 0 aliceRequest Chat.firstState]
    (serve teamApp teamPlanner 0 aliceRequest Chat.firstState).2 :=
  .cons 0 aliceRequest .nil (fun _ he => absurd he List.not_mem_nil) trivial

/-- The greeting is sent to `fast`. -/
theorem sent_aliceRequest : (contacts (serve teamApp teamPlanner 0 aliceRequest
    Chat.firstState).2.reliability.log).map (fun contact => contact.1.name) = ["fast"] := by
  decide +kernel

theorem mem_sends_aliceRequest {sends : List (ConfiguredModel × Outcome)}
    (h : contacts (serve teamApp teamPlanner 0 aliceRequest Chat.firstState).2.reliability.log =
      sends ++ contacts Chat.firstState.reliability.log) :
    ∃ contact ∈ sends, contact.1.name = "fast" := by
  have hsent := sent_aliceRequest
  rw [h, show contacts Chat.firstState.reliability.log = [] from rfl, List.append_nil] at hsent
  exact List.mem_map.mp (hsent ▸ List.mem_singleton_self "fast")

end Planning

end WayfinderRouter.Gateway
