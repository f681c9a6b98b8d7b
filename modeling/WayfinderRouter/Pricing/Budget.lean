import WayfinderRouter.Pricing.Ledger
import WayfinderRouter.SharedState.Backend

/-!
# Spend caps

Before a request is routed the gateway compares the realized spend with the caps that apply to
it: the cap of the gateway, of the request's workspace and of its key. `evaluateFor` reads the
spend from the local ledger and `evaluateSharedFor` from the shared one.

## Main definitions

- `Cap` — whom a cap applies to
- `BudgetPolicy.evaluateFor`, `BudgetPolicy.evaluateSharedFor` — the two evaluations
- `Cap.Measured`, `Cap.Attributed` — the turns that the local evaluation measures for a cap,
  and the turns that the cap is about
-/

namespace WayfinderRouter.Pricing

inductive OnBreach where
  | degrade
  | block
deriving DecidableEq

structure Budget where
  limit : ℚ
  window : BudgetWindow
  onBreach : OnBreach
deriving DecidableEq

inductive BudgetDecision where
  | allow
  | degrade
  | block (window : BudgetWindow) (limit : ℚ)
deriving DecidableEq

inductive LedgerError where
  | lockPoisoned
deriving DecidableEq

structure BudgetPolicy where
  global : Option Budget
  byWorkspace : String → Option Budget
  byKey : String → Option Budget

/-- Whom a cap applies to. -/
inductive Cap where
  | global
  | workspace (id : String)
  | key (id : String)
deriving DecidableEq

/-- The scope of the shared ledger. -/
def Cap.scope : Cap → String
  | .global => "global"
  | .workspace id => "workspace:" ++ id
  | .key id => "key:" ++ id

/-- The key id that the local evaluation looks up. -/
def Cap.keyId : Cap → Option String
  | .global => none
  | .workspace id => some id
  | .key id => some id

/-- The turn is attributed to the cap's subject. -/
def Cap.Attributed (turn : Turn) : Cap → Prop
  | .global => True
  | .workspace id => turn.workspace = some id
  | .key id => turn.virtualKey = some id

instance (turn : Turn) (cap : Cap) : Decidable (cap.Attributed turn) :=
  match cap with
  | .global => inferInstanceAs (Decidable True)
  | .workspace id => inferInstanceAs (Decidable (turn.workspace = some id))
  | .key id => inferInstanceAs (Decidable (turn.virtualKey = some id))

/-- `evaluate_spent`. -/
def evaluateSpent (spent : ℚ) (budget : Budget) (offline : Bool) : BudgetDecision :=
  if spent < budget.limit then .allow
  else if budget.onBreach = .block ∧ offline = false then .block budget.window budget.limit
  else .degrade

/-- `evaluate_one`. -/
def evaluateOne (ledger : SavingsLedger) (budget : Budget) (keyId : Option String)
    (today : UtcDate) (offline : Bool) : BudgetDecision :=
  evaluateSpent (ledger.spent budget.window keyId today) budget offline

/-- `evaluate_shared_one`. -/
def evaluateSharedOne (spend : BudgetWindow → String → UtcDate → Except StateBackendError ℚ)
    (budget : Budget) (scope : String) (date : UtcDate) (offline : Bool) :
    Except StateBackendError BudgetDecision := do
  let spent ← spend budget.window scope date
  return evaluateSpent spent budget offline

namespace BudgetPolicy

/-- The caps of a request, in the order of their evaluation. -/
def caps (policy : BudgetPolicy) (workspaceId keyId : Option String) : List (Cap × Budget) :=
  (policy.global.map fun budget => (.global, budget)).toList ++
  (workspaceId.bind fun id => (policy.byWorkspace id).map fun budget =>
    (.workspace id, budget)).toList ++
  (keyId.bind fun id => (policy.byKey id).map fun budget => (.key id, budget)).toList

/-- Evaluate the caps. A block ends the evaluation. -/
def evaluateCaps {ε : Type} (evaluate : Cap × Budget → Except ε BudgetDecision) :
    List (Cap × Budget) → Bool → Except ε BudgetDecision
  | [], degraded => .ok (if degraded then .degrade else .allow)
  | cap :: caps, degraded =>
    match evaluate cap with
    | .error e => .error e
    | .ok .allow => evaluateCaps evaluate caps degraded
    | .ok .degrade => evaluateCaps evaluate caps true
    | .ok (.block window limit) => .ok (.block window limit)

/-- `BudgetPolicy::evaluate_for`. -/
def evaluateFor (policy : BudgetPolicy) (ledger : SavingsLedger) (priced : Bool)
    (workspaceId keyId : Option String) (today : UtcDate) (offline : Bool) :
    Except LedgerError BudgetDecision :=
  if priced = false then .ok .allow
  else evaluateCaps (fun c => .ok (evaluateOne ledger c.2 c.1.keyId today offline))
    (policy.caps workspaceId keyId) false

/-- `BudgetPolicy::evaluate_shared_for`. -/
def evaluateSharedFor (policy : BudgetPolicy)
    (spend : BudgetWindow → String → UtcDate → Except StateBackendError ℚ) (priced : Bool)
    (workspaceId keyId : Option String) (today : UtcDate) (offline : Bool) :
    Except StateBackendError BudgetDecision :=
  if priced = false then .ok .allow
  else evaluateCaps (fun c => evaluateSharedOne spend c.2 c.1.scope today offline)
    (policy.caps workspaceId keyId) false

end BudgetPolicy

/-- The cost of the turns of the window that are attributed to the cap's subject. -/
def Cap.spend (cap : Cap) (window : BudgetWindow) (today : UtcDate)
    (turns : List (UtcDate × Turn)) : ℚ :=
  total (fun e => window.Covers today e.1 ∧ cap.Attributed e.2) turns

/-- The cost of the turns of the window and of the kept days that have the cap's key id. -/
def Cap.measured (cap : Cap) (maxDays : ℕ) (window : BudgetWindow) (today : UtcDate)
    (turns : List (UtcDate × Turn)) : ℚ :=
  total (fun e => window.Covers today e.1 ∧ Ordered.Retained maxDays turns e.1 ∧
    e.2.By cap.keyId) turns

/-- The two costs are on the same side of the limit. -/
def SameSide (maxDays : ℕ) (turns : List (UtcDate × Turn)) (today : UtcDate)
    (c : Cap × Budget) : Prop :=
  c.2.limit ≤ c.1.measured maxDays c.2.window today turns ↔
    c.2.limit ≤ c.1.spend c.2.window today turns

/-- The local evaluation of a cap does not allow the request. -/
def Breached (ledger : SavingsLedger) (today : UtcDate) (offline : Bool)
    (c : Cap × Budget) : Prop :=
  evaluateOne ledger c.2 c.1.keyId today offline ≠ .allow

theorem evaluateSpent_ne_allow {spent : ℚ} {budget : Budget} {offline : Bool} :
    evaluateSpent spent budget offline ≠ .allow ↔ budget.limit ≤ spent := by
  unfold evaluateSpent
  split_ifs with hless hblock
  · simpa using hless
  · simpa using hless
  · simpa using hless

/-- The decision depends on the spend only through its comparison with the limit. -/
theorem evaluateSpent_congr {spent spent' : ℚ} {budget : Budget} {offline : Bool}
    (h : budget.limit ≤ spent ↔ budget.limit ≤ spent') :
    evaluateSpent spent budget offline = evaluateSpent spent' budget offline := by
  have hless : spent < budget.limit ↔ spent' < budget.limit := by
    rw [← not_le, ← not_le, h]
  simp only [evaluateSpent, hless]

variable {maxDays : ℕ} {turns : List (UtcDate × Turn)} {today : UtcDate} {offline : Bool}

theorem evaluateOne_recordAll (c : Cap × Budget) :
    evaluateOne (SavingsLedger.recordAll maxDays turns) c.2 c.1.keyId today offline =
      evaluateSpent (c.1.measured maxDays c.2.window today turns) c.2 offline := by
  rw [evaluateOne, SavingsLedger.spent_eq_total]
  rfl

/-- A cap is breached when the turns that are measured for it reach its limit. -/
theorem breached_iff (c : Cap × Budget) :
    Breached (SavingsLedger.recordAll maxDays turns) today offline c ↔
      c.2.limit ≤ c.1.measured maxDays c.2.window today turns := by
  rw [Breached, evaluateOne_recordAll, evaluateSpent_ne_allow]

namespace BudgetPolicy

/-- The evaluation reports the caps that are breached. -/
theorem evaluateCaps_ok_allow (decision : Cap × Budget → BudgetDecision)
    (caps : List (Cap × Budget)) (degraded : Bool) :
    evaluateCaps (fun c => (.ok (decision c) : Except LedgerError _)) caps degraded =
      .ok .allow ↔ degraded = false ∧ ∀ c ∈ caps, decision c = .allow := by
  induction caps generalizing degraded with
  | nil => cases degraded <;> simp [evaluateCaps]
  | cons c caps ih =>
    rw [evaluateCaps]
    cases hc : decision c with
    | allow => simp [hc, ih]
    | degrade => simp [hc, ih]
    | block window limit => simp [hc]

theorem evaluateCaps_congr {ε ε' : Type} {evaluate : Cap × Budget → Except ε BudgetDecision}
    {evaluate' : Cap × Budget → Except ε' BudgetDecision} {decision : Cap × Budget → BudgetDecision}
    {caps : List (Cap × Budget)} (h : ∀ c ∈ caps, evaluate c = .ok (decision c))
    (h' : ∀ c ∈ caps, evaluate' c = .ok (decision c)) (degraded : Bool) :
    ∃ d, evaluateCaps evaluate caps degraded = .ok d ∧
      evaluateCaps evaluate' caps degraded = .ok d := by
  induction caps generalizing degraded with
  | nil => exact ⟨_, rfl, rfl⟩
  | cons c caps ih =>
    have hrest := ih (fun c hc => h c (List.mem_cons_of_mem _ hc))
      (fun c hc => h' c (List.mem_cons_of_mem _ hc))
    rw [evaluateCaps, evaluateCaps, h c (by simp), h' c (by simp)]
    cases decision c with
    | allow => exact hrest degraded
    | degrade => exact hrest true
    | block window limit => exact ⟨_, rfl, rfl⟩

/-- A request is allowed when none of its caps is breached. -/
theorem evaluateFor_ok_allow (policy : BudgetPolicy) (ledger : SavingsLedger) (priced : Bool)
    (workspaceId keyId : Option String) :
    policy.evaluateFor ledger priced workspaceId keyId today offline = .ok .allow ↔
      priced = false ∨
        ∀ c ∈ policy.caps workspaceId keyId, ¬ Breached ledger today offline c := by
  unfold evaluateFor
  cases priced with
  | false => simp
  | true =>
    rw [if_neg (by simp), evaluateCaps_ok_allow]
    simp [Breached]

/-- The two evaluations agree when the shared ledger has the spend of every cap. -/
theorem evaluateFor_agrees (policy : BudgetPolicy)
    (spend : BudgetWindow → String → UtcDate → Except StateBackendError ℚ) (priced : Bool)
    (workspaceId keyId : Option String)
    (hspend : ∀ c ∈ policy.caps workspaceId keyId,
      spend c.2.window c.1.scope today = .ok (c.1.spend c.2.window today turns))
    (hsame : ∀ c ∈ policy.caps workspaceId keyId, SameSide maxDays turns today c) :
    ∃ d, policy.evaluateFor (.recordAll maxDays turns) priced workspaceId keyId today offline =
        .ok d ∧
      policy.evaluateSharedFor spend priced workspaceId keyId today offline = .ok d := by
  unfold evaluateFor evaluateSharedFor
  cases priced with
  | false => exact ⟨_, rfl, rfl⟩
  | true =>
    have hlocal : ∀ c ∈ policy.caps workspaceId keyId,
        evaluateOne (.recordAll maxDays turns) c.2 c.1.keyId today offline =
          evaluateSpent (c.1.spend c.2.window today turns) c.2 offline := by
      intro c hc
      rw [evaluateOne_recordAll, evaluateSpent_congr (hsame c hc)]
    have hshared : ∀ c ∈ policy.caps workspaceId keyId,
        evaluateSharedOne spend c.2 c.1.scope today offline =
          .ok (evaluateSpent (c.1.spend c.2.window today turns) c.2 offline) := by
      intro c hc
      rw [evaluateSharedOne, hspend c hc]
      rfl
    exact evaluateCaps_congr (fun c hc => congrArg _ (hlocal c hc)) hshared false

theorem workspace_mem_caps {policy : BudgetPolicy} {workspaceId : String} {budget : Budget}
    (h : policy.byWorkspace workspaceId = some budget) (keyId : Option String) :
    (.workspace workspaceId, budget) ∈ policy.caps (some workspaceId) keyId := by
  simp [caps, h]

/-- The cap of a workspace bounds the spend of the workspace exactly when the kept turns of the
virtual key with the workspace's id are on the same side of the limit. A request is allowed when
none of its caps is breached, and the local and the shared evaluation agree when this holds of
all its caps. -/
theorem evaluateFor_workspace (maxDays : ℕ) (turns : List (UtcDate × Turn))
    (policy : BudgetPolicy) (priced : Bool) (workspaceId : String) (keyId : Option String)
    (today : UtcDate) (offline : Bool) (budget : Budget)
    (hcap : policy.byWorkspace workspaceId = some budget) :
    (.workspace workspaceId, budget) ∈ policy.caps (some workspaceId) keyId ∧
    ((Breached (.recordAll maxDays turns) today offline (.workspace workspaceId, budget) ↔
        budget.limit ≤ (Cap.workspace workspaceId).spend budget.window today turns) ↔
      SameSide maxDays turns today (.workspace workspaceId, budget)) ∧
    (policy.evaluateFor (.recordAll maxDays turns) priced (some workspaceId) keyId today offline =
        .ok .allow ↔
      priced = false ∨ ∀ c ∈ policy.caps (some workspaceId) keyId,
        ¬ Breached (.recordAll maxDays turns) today offline c) ∧
    ((∀ c ∈ policy.caps (some workspaceId) keyId, SameSide maxDays turns today c) →
      ∀ spend : BudgetWindow → String → UtcDate → Except StateBackendError ℚ,
        (∀ c ∈ policy.caps (some workspaceId) keyId,
          spend c.2.window c.1.scope today = .ok (c.1.spend c.2.window today turns)) →
        ∃ d, policy.evaluateFor (.recordAll maxDays turns) priced (some workspaceId) keyId today
              offline = .ok d ∧
          policy.evaluateSharedFor spend priced (some workspaceId) keyId today offline =
            .ok d) := by
  refine ⟨workspace_mem_caps hcap keyId, ?_, ?_, ?_⟩
  · rw [breached_iff]
    rfl
  · exact evaluateFor_ok_allow policy _ priced (some workspaceId) keyId
  · intro hsame spend hspend
    exact evaluateFor_agrees policy spend priced (some workspaceId) keyId hspend hsame

/-- A day for the examples. -/
def newYear : UtcDate := ⟨2026, 1, 1, by decide, by decide, by decide⟩

/-- A turn of cost 1. -/
def unitTurn (virtualKey workspace : Option String) : Turn :=
  ⟨1, ⟨10 ^ 6, by norm_num⟩, virtualKey, workspace⟩

/-- A daily cap of 1 on the workspace `team`. -/
def teamPolicy : BudgetPolicy where
  global := none
  byWorkspace id := if id = "team" then some ⟨1, .day, .block⟩ else none
  byKey _ := none

/-- A turn in the workspace by a key of the same name is counted. -/
theorem evaluateFor_workspace_sameName :
    Breached (.recordAll 90 [(newYear, unitTurn (some "team") (some "team"))]) newYear false
        (.workspace "team", ⟨1, .day, .block⟩) ↔
      (1 : ℚ) ≤ (Cap.workspace "team").spend .day newYear
        [(newYear, unitTurn (some "team") (some "team"))] :=
  (evaluateFor_workspace 90 [(newYear, unitTurn (some "team") (some "team"))] teamPolicy true
    "team" (some "team") newYear false ⟨1, .day, .block⟩ (by decide)).2.1.mpr (by
      unfold SameSide
      decide +kernel)

/-- A turn in the workspace by another key is not counted, so the workspace can spend its limit
without a breach. -/
theorem evaluateFor_ignores_workspace :
    ¬ ∀ (maxDays : ℕ) (turns : List (UtcDate × Turn)) (policy : BudgetPolicy)
      (workspaceId : String) (today : UtcDate) (offline : Bool) (budget : Budget),
      policy.byWorkspace workspaceId = some budget →
      (Breached (.recordAll maxDays turns) today offline (.workspace workspaceId, budget) ↔
        budget.limit ≤ (Cap.workspace workspaceId).spend budget.window today turns) := by
  intro h
  have hteam := h 90 [(newYear, unitTurn (some "alice") (some "team"))] teamPolicy "team" newYear
    false ⟨1, .day, .block⟩ (by decide)
  rw [breached_iff] at hteam
  exact absurd hteam (by decide +kernel)

end BudgetPolicy

end WayfinderRouter.Pricing
