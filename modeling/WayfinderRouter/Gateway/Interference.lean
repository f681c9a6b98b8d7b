import WayfinderRouter.Gateway.Shadow

/-!
# Shadow work beside production

Chat requests and shadow evaluations run interleaved on one application state. A request is any
script of what a request does on the production state; it also schedules evaluations. What the
world contributes to a step, such as an upstream outcome or the time, comes with the step.

An evaluation that asks for the deployments of an alias moves the cursor of the alias, which the
requests share. All other operations of an evaluation leave the production state alone.

## Main definitions

- `ProductionOp`, `System` — the operations of requests, and everything that runs
- `act` — one step of one of them
- `Undisturbing` — the step does not move a cursor for an evaluation

## Main results

- `shadow_undisturbing` — runs that differ in shadow work show the same production
-/

namespace WayfinderRouter.Gateway

open Interaction

section System

variable {Stores World Value : Type}

/-- What a chat request does on the production state. -/
inductive ProductionOp (Stores World Value : Type) where
  | deploymentCandidates (name : String)
  /-- The alias that is chosen and the plan of the delivery. -/
  | decided (chosen : String) (plan : List String)
  | scheduleShadow (job : ShadowJob)
  /-- Any access to the breaker and to the stores. -/
  | access (effect : World → CircuitBreaker × Stores → Value × CircuitBreaker × Stores)

@[reducible] def ProductionOp.Answer : ProductionOp Stores World Value → Type
  | .deploymentCandidates _ => List ConfiguredModel
  | .decided _ _ | .scheduleShadow _ => Unit
  | .access _ => Value

/-- The requests and the evaluations that have not ended, and what they share. -/
structure System (Stores World Value : Type) where
  app : AppState Stores
  freeSlots : ℕ
  requests : List (Script (@ProductionOp.Answer Stores World Value))
  evaluations : List (Script ShadowOp.Answer)

variable (ctx : ShadowContext)

/-- `AppState::schedule_shadow`. -/
def scheduleShadow (job : ShadowJob) (s : System Stores World Value) :
    System Stores World Value :=
  if !ctx.config.enabled || ctx.config.candidateRoutes.isEmpty ||
      !deterministicSample ctx.sha256 job.requestId
        (candidateFingerprint ctx.sha256 ctx.config.candidateRoutes) ctx.config.sampleRate then s
  else
    let app := s.app.withStore s.app.shadowStore.sampled
    match s.freeSlots with
    | 0 =>
      let app := app.withStore app.shadowStore.droppedInFlight
      { s with app := app.observe (.shadowEvent "dropped" "in-flight") }
    | freeSlots + 1 => { s with
        app := app, freeSlots := freeSlots, evaluations := s.evaluations ++ [evaluate ctx job] }

/-- The effect of an operation of a request. -/
def produce : (op : ProductionOp Stores World Value) → World → System Stores World Value →
    op.Answer × System Stores World Value
  | .deploymentCandidates name, _, s =>
    let candidates := s.app.deploymentCandidates ctx.models name
    (candidates.1, { s with app := candidates.2 })
  | .decided _ _, _, s => ((), s)
  | .scheduleShadow job, _, s => ((), scheduleShadow ctx job s)
  | .access effect, world, s =>
    let production := s.app.production
    let result := effect world (production.breaker, production.stores)
    (result.1, { s with app := { s.app with production :=
      ⟨production.cursors, result.2.1, result.2.2⟩ } })

/-- A step: of a request, of an evaluation, or of the operator who switches shadow work. -/
inductive Action (World : Type) where
  | request (index : ℕ) (world : World)
  | evaluation (index : ℕ) (moment : Moment)
  | setActive (active : Bool)

/-- The steps of requests. -/
def Action.isRequest : Action World → Bool
  | .request _ _ => true
  | _ => false

/-- What a step does and what is answered, if it is the step of a request. -/
def Output (Stores World Value : Type) : Type :=
  Option ((op : ProductionOp Stores World Value) × op.Answer)

/-- The next operation of an evaluation; its slot is free again when it has ended. -/
def stepEvaluation (index : ℕ) (moment : Moment) (s : System Stores World Value) :
    System Stores World Value :=
  match s.evaluations[index]? with
  | none => s
  | some .done =>
    { s with freeSlots := s.freeSlots + 1, evaluations := s.evaluations.eraseIdx index }
  | some (.call op next) =>
    let result := handle ctx op moment s.app
    { s with app := result.2, evaluations := s.evaluations.set index (next result.1) }

def act : Action World → System Stores World Value →
    Output Stores World Value × System Stores World Value
  | .request index world, s =>
    match s.requests[index]? with
    | none | some .done => (none, s)
    | some (.call op next) =>
      let result := produce ctx op world s
      (some ⟨op, result.1⟩, { result.2 with requests := s.requests.set index (next result.1) })
  | .evaluation index moment, s => (none, stepEvaluation ctx index moment s)
  | .setActive active, s =>
    (none, { s with app := s.app.withStore { s.app.shadowStore with active := active } })

/-- What production sees: its state and its requests. -/
def System.production (s : System Stores World Value) :
    ProductionState Stores × List (Script (@ProductionOp.Answer Stores World Value)) :=
  (s.app.production, s.requests)

/-- No evaluation asks for the deployments of an alias that has several. -/
def Undisturbing : Action World → System Stores World Value → Prop
  | .evaluation index _, s => ∀ name, (s.evaluations[index]?).bind Script.nextOp =
      some (.deploymentCandidates name) →
    ∀ model, findModel ctx.models name = some model → model.deployments = []
  | _, _ => True

end System

/-! ## One step -/

section Step

variable {Stores World Value : Type} {ctx : ShadowContext} {models : List ConfiguredModel}
  {name : String}

theorem rotateDeployments_of_single {cursors : String → ℕ}
    (h : ∀ model, findModel models name = some model → model.deployments = []) :
    (rotateDeployments models name cursors).2 = cursors := by
  unfold rotateDeployments
  split
  · rfl
  · rename_i model hmodel
    have hlength : model.deploymentTargets.length ≤ 1 := by
      rw [ConfiguredModel.deploymentTargets, h model hmodel]
      exact le_rfl
    dsimp only
    rw [if_pos hlength]

/-- An operation of an evaluation keeps the production state, unless it moves a cursor. -/
theorem production_handle (op : ShadowOp) (moment : Moment) (s : AppState Stores)
    (h : ∀ name, op = .deploymentCandidates name →
      ∀ model, findModel ctx.models name = some model → model.deployments = []) :
    (handle ctx op moment s).2.production = s.production := by
  cases op with
  | deploymentCandidates name =>
    have hkeep := @rotateDeployments_of_single _ name s.production.cursors (h name rfl)
    show (⟨(rotateDeployments ctx.models name s.production.cursors).2, s.production.breaker,
      s.production.stores⟩ : ProductionState Stores) = s.production
    rw [hkeep]
  | selectDeployments name candidates =>
    show (AppState.selectDeployments ctx.models moment.signals name candidates s).2.production = _
    unfold AppState.selectDeployments
    dsimp only
    split
    · rfl
    · rfl
  | _ => rfl

theorem production_scheduleShadow (job : ShadowJob) (s : System Stores World Value) :
    (scheduleShadow ctx job s).production = s.production := by
  unfold scheduleShadow
  split
  · rfl
  · dsimp only
    split
    · rfl
    · rfl

/-- An operation of a request answers, and changes production, as production alone says. -/
theorem produce_congr (op : ProductionOp Stores World Value) (world : World)
    {s t : System Stores World Value} (h : s.production = t.production) :
    (produce ctx op world s).1 = (produce ctx op world t).1 ∧
      (produce ctx op world s).2.production = (produce ctx op world t).2.production := by
  have happ : s.app.production = t.app.production := congrArg Prod.fst h
  have hrequests : s.requests = t.requests := congrArg Prod.snd h
  cases op with
  | deploymentCandidates name =>
    simp only [produce, AppState.deploymentCandidates, System.production, happ, hrequests,
      and_self]
  | decided chosen plan => exact ⟨rfl, h⟩
  | scheduleShadow job =>
    refine ⟨rfl, ?_⟩
    exact (production_scheduleShadow job s).trans (h.trans (production_scheduleShadow job t).symm)
  | access effect => simp only [produce, System.production, happ, hrequests, and_self]

theorem production_stepEvaluation (index : ℕ) (moment : Moment) (s : System Stores World Value)
    (h : Undisturbing ctx (@Action.evaluation World index moment) s) :
    (stepEvaluation ctx index moment s).production = s.production := by
  unfold stepEvaluation
  split
  · rfl
  · rfl
  · rename_i op next heval
    have hkeep := production_handle op moment s.app fun name hop =>
      h name (by rw [heval]; exact congrArg some hop)
    exact Prod.ext hkeep rfl

/-- Requests depend on production alone, and evaluations leave it alone. -/
theorem unwinding : Unwinding (@act Stores World Value ctx) Action.isRequest
    (Undisturbing ctx) System.production where
  output a s t ha h := by
    cases a with
    | request index world =>
      have hrequests : s.requests = t.requests := congrArg Prod.snd h
      simp only [act, hrequests]
      split
      · rfl
      · rfl
      · rename_i op next _
        dsimp only
        rw [(produce_congr op world h).1]
    | evaluation index moment => cases ha
    | setActive active => cases ha
  after a s t ha h := by
    cases a with
    | request index world =>
      have hrequests : s.requests = t.requests := congrArg Prod.snd h
      simp only [act, hrequests]
      split
      · exact h
      · exact h
      · rename_i op next _
        have hstep := @produce_congr _ _ _ ctx op world _ _ h
        have happ := congrArg Prod.fst hstep.2
        dsimp only [System.production] at happ ⊢
        rw [happ, hstep.1]
    | evaluation index moment => cases ha
    | setActive active => cases ha
  hidden a s ha h := by
    cases a with
    | request index world => cases ha
    | evaluation index moment => exact production_stepEvaluation index moment s h
    | setActive active => rfl

end Step

/-! ## Runs -/

/-- Two runs with the same steps of requests, in which no evaluation asks for the deployments of an
alias that has several: the requests do the same with the same answers, and leave the same
production state. -/
theorem shadow_undisturbing {Stores World Value : Type} (ctx : ShadowContext)
    (start : System Stores World Value) (left right : List (Action World))
    (hleft : Throughout (act ctx) (Undisturbing ctx) left start)
    (hright : Throughout (act ctx) (Undisturbing ctx) right start)
    (hsame : left.filter Action.isRequest = right.filter Action.isRequest) :
    (run (act ctx) Action.isRequest left start).1 =
        (run (act ctx) Action.isRequest right start).1 ∧
      (run (act ctx) Action.isRequest left start).2.app.production =
        (run (act ctx) Action.isRequest right start).2.app.production := by
  obtain ⟨houtputs, hlast⟩ := unwinding.same_outputs hleft hright hsame
  exact ⟨houtputs, congrArg Prod.fst hlast⟩

/-- Without aliases of several deployments no run is disturbed. -/
theorem throughout_of_single {Stores World Value : Type} {ctx : ShadowContext}
    (h : ∀ model ∈ ctx.models, model.deployments = []) (actions : List (Action World))
    (s : System Stores World Value) : Throughout (act ctx) (Undisturbing ctx) actions s := by
  induction actions generalizing s with
  | nil => trivial
  | cons action actions ih =>
    refine ⟨?_, ih _⟩
    cases action with
    | evaluation index moment =>
      intro name _ model hmodel
      exact h model (List.mem_of_find?_eq_some hmodel)
    | _ => trivial

/-! ## Two requests -/

/-- A request that is sampled, and then delivered to its alias. -/
def sampledRequest : Script (@ProductionOp.Answer Unit Unit Unit) :=
  .call (.scheduleShadow comparedJob) fun _ => .call (.deploymentCandidates "cloud") fun _ => .done

/-- Two requests, before they begin. -/
def twoRequests : System Unit Unit Unit where
  app := ⟨⟨fun _ => 0, .new 5 (.finite 30), ()⟩, .new 1, []⟩
  freeSlots := 1
  requests := [sampledRequest, sampledRequest]
  evaluations := []

def quietMoment : Moment where
  clock := .finite 0
  elapsedMs := 0
  signals := fun _ => ⟨fun _ => false, fun _ _ => false⟩
  upstream := fun _ _ => .error .credentialUnavailable

/-- One request after the other. -/
def withoutShadow : List (Action Unit) :=
  [.request 0 (), .request 0 (), .request 1 (), .request 1 ()]

/-- The same requests, and between them the evaluation of the first one, up to the deployments of
its comparison. -/
def withShadow : List (Action Unit) :=
  [.request 0 (), .request 0 ()] ++ List.replicate 4 (.evaluation 0 quietMoment) ++
    [.request 1 (), .request 1 ()]

theorem shadow_undisturbing_hosted :
    (run (act (comparingContext [hostedModel])) Action.isRequest withShadow twoRequests).1 =
        (run (act (comparingContext [hostedModel])) Action.isRequest withoutShadow twoRequests).1 ∧
      (run (act (comparingContext [hostedModel])) Action.isRequest withShadow
          twoRequests).2.app.production =
        (run (act (comparingContext [hostedModel])) Action.isRequest withoutShadow
          twoRequests).2.app.production :=
  shadow_undisturbing (comparingContext [hostedModel]) twoRequests withShadow withoutShadow
    (throughout_of_single (by decide) _ _) (throughout_of_single (by decide) _ _) rfl

/-- The hosted model with a second deployment. -/
def backedModel : ConfiguredModel :=
  { hostedModel with
    deployments := [.new "backup" "https://backup.example/v1" "gpt-backup" none true 1] }

/-- The deployment that comes first for a request. -/
def firstCandidate : Output Unit Unit Unit → Option String
  | some ⟨.deploymentCandidates _, candidates⟩ =>
    (candidates.head?).map ConfiguredModel.deliveryId
  | _ => none

/-- The comparison takes the turn of the second deployment. -/
theorem shadow_disturbs :
    withShadow.filter Action.isRequest = withoutShadow.filter Action.isRequest ∧
      (run (act (comparingContext [backedModel])) Action.isRequest withShadow twoRequests).1 ≠
        (run (act (comparingContext [backedModel])) Action.isRequest withoutShadow
          twoRequests).1 := by
  refine ⟨rfl, ?_⟩
  intro h
  have hfirst := congrArg (List.map firstCandidate) h
  have hleft : (run (act (comparingContext [backedModel])) Action.isRequest withShadow
      twoRequests).1.map firstCandidate =
        [none, some "cloud#default", none, some "cloud#default"] := by decide
  have hright : (run (act (comparingContext [backedModel])) Action.isRequest withoutShadow
      twoRequests).1.map firstCandidate =
        [none, some "cloud#default", none, some "cloud#backup"] := by decide
  rw [hleft, hright] at hfirst
  exact absurd hfirst (by decide)

end WayfinderRouter.Gateway
