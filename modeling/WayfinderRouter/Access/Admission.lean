import WayfinderRouter.Access.Scopes
import WayfinderRouter.Timed.Service

/-!
# Admission of a key

A request of a virtual key takes a slot of the workspace and then a slot of the key. The slot
of the workspace is not given back when the key's limiter refuses or fails, so the workspace
counts requests that were not admitted. `Leaks` says when a call does so; without such calls
the counter of a workspace is the number of its admitted requests.

The other calls that reach the limiters count tokens and leave the request counters alone.

## Main definitions

- `LimiterStore` — the limiters of one store as admission uses them
- `AccessPolicy.admitKey`, `AccessPolicy.sharedAdmitKey` — the two admissions
- `Leaks` — a call that keeps a slot of the workspace without being admitted
- `admittedIn` — the requests admitted for a workspace in a window
-/

namespace WayfinderRouter.Access

open Timed Timed.Compensation RateLimit

/-- The call was admitted. -/
def granted {ε : Type} : Except ε RateResult → Bool
  | .ok rate => rate.allowed
  | .error _ => false

/-- The limiters of one store. `perform` are the calls that count no request. -/
structure LimiterStore (τ σ ε : Type) [Preorder τ] where
  Op : Type
  initial : Limit → σ
  admitRequest : Limit → τ → σ → Except ε RateResult × σ
  perform : Limit → Op → τ → σ → σ
  /-- The requests that a call at the given time finds counted. -/
  requests : Limit → τ → σ → ℤ
  window : Limit → τ → ℕ
  /-- The times that the store can work with. -/
  Servable : Limit → τ → Prop
  /-- The states that calls up to a time can leave. -/
  Ready : Limit → τ → σ → Prop
  servable_of_le : ∀ {l t t'}, t ≤ t' → Servable l t' → Servable l t
  ready_initial : ∀ l t, Ready l t (initial l)
  requests_initial : ∀ l t, requests l t (initial l) = 0
  ready_mono : ∀ {l t t' s}, t ≤ t' → Ready l t s → Ready l t' s
  ready_admitRequest : ∀ {l t s}, Servable l t → Ready l t s → Ready l t (admitRequest l t s).2
  ready_perform : ∀ {l op t s}, Servable l t → Ready l t s → Ready l t (perform l op t s)
  requests_granted : ∀ {l t t' s}, Ready l t s → granted (admitRequest l t s).1 = true →
    requests l t s < U64.max → t ≤ t' →
      requests l t' (admitRequest l t s).2 =
        requests l t' s + if window l t = window l t' then 1 else 0
  requests_refused : ∀ {l t t' s}, Ready l t s → granted (admitRequest l t s).1 = false → t ≤ t' →
    requests l t' (admitRequest l t s).2 = requests l t' s
  window_mono : ∀ {l t t'}, t ≤ t' → window l t ≤ window l t'
  requests_perform : ∀ {l op t t' s}, Ready l t s → t ≤ t' →
    requests l t' (perform l op t s) = requests l t' s

variable {τ σ ε : Type} [Preorder τ]

/-- Ask the limiter of a scope, if there is one. -/
def admitScope (A : LimiterStore τ σ ε) (limit : Scope → Option Limit) (scope : Option Scope)
    (d : Delivery ε) (t : τ) (S : Scope → σ) : Except ε (Option RateResult) × (Scope → σ) :=
  match scope with
  | none => (.ok none, S)
  | some k => match limit k with
    | none => (.ok none, S)
    | some l =>
      let (result, s) := d.deliver .error (A.admitRequest l t (S k)) (S k)
      (result.map some, Function.update S k s)

/-- A limiter that was asked did not admit. -/
def refusal : Except ε (Option RateResult) → Bool
  | .ok answer => answer.any fun rate => !rate.allowed
  | .error _ => true

namespace AccessPolicy

variable (p : AccessPolicy) (A : LimiterStore τ σ ε)

/-- The virtual key of a grant and its index. -/
def key (grant : AccessGrant) : Option (ℕ × VirtualKey) :=
  grant.keyIndex.bind fun index => p.keys[index]?.map fun key => (index, key)

/-- The scope of the workspace of a grant. -/
def workspaceScope (grant : AccessGrant) : Option Scope :=
  (p.key grant).bind fun key => key.2.workspace.map .workspace

/-- The scope of the key of a grant. -/
def keyScope (grant : AccessGrant) : Option Scope := (p.key grant).map fun key => .virtualKey key.1

/-- The common part of the two admissions. The two limiters are asked at `asked` and at `now`,
and `workspace` and `key` are what the line makes of the two calls. -/
def admitKeyWith (answer : Option RateResult → Option RateResult → Option RateResult)
    (grant : AccessGrant) (workspace key : Delivery ε) (asked now : τ) (S : Scope → σ) :
    Except ε (Option RateResult) × (Scope → σ) :=
  match admitScope A p.limit (p.workspaceScope grant) workspace asked S with
  | (.error e, S) => (.error e, S)
  | (.ok workspaceResult, S) =>
    if refusal (.ok workspaceResult : Except ε (Option RateResult)) then (.ok workspaceResult, S)
    else
      let (result, S) := admitScope A p.limit (p.keyScope grant) key now S
      (result.map (answer workspaceResult), S)

/-- `AccessPolicy::admit_key`: the answer of the key, else that of the workspace. -/
def admitKey (grant : AccessGrant) (workspace key : Delivery ε) (asked now : τ) (S : Scope → σ) :
    Except ε (Option RateResult) × (Scope → σ) :=
  p.admitKeyWith A (fun workspaceResult keyResult => keyResult <|> workspaceResult)
    grant workspace key asked now S

/-- `SharedAccessPolicy::admit_key`: an answer only when a limiter refuses. -/
def sharedAdmitKey (grant : AccessGrant) (workspace key : Delivery ε) (asked now : τ)
    (S : Scope → σ) : Except ε (Option RateResult) × (Scope → σ) :=
  p.admitKeyWith A (fun _ keyResult => keyResult.filter fun rate => !rate.allowed)
    grant workspace key asked now S

end AccessPolicy

/-- The calls that reach the limiters of a policy. -/
inductive Call (τ ε Op : Type) where
  | admitKey (grant : AccessGrant) (workspace key : Delivery ε) (asked : τ)
  | perform (scope : Scope) (op : Op)

/-- The admissions of the process and of the shared backend. -/
inductive Side where
  | process
  | shared
deriving DecidableEq

def Side.admitKey (side : Side) (p : AccessPolicy) (A : LimiterStore τ σ ε) (grant : AccessGrant)
    (workspace key : Delivery ε) (asked now : τ) (S : Scope → σ) :
    Except ε (Option RateResult) × (Scope → σ) :=
  match side with
  | .process => p.admitKey A grant workspace key asked now S
  | .shared => p.sharedAdmitKey A grant workspace key asked now S

/-- The limiters of a policy under its calls. -/
def serve (side : Side) (p : AccessPolicy) (A : LimiterStore τ σ ε) :
    Service τ (Scope → σ) (Call τ ε A.Op) (Option (Except ε (Option RateResult)))
  | now, .admitKey grant workspace key asked, S =>
    (side.admitKey p A grant workspace key asked now S).map some id
  | now, .perform scope op, S => (none, match p.limit scope with
    | none => S
    | some l => Function.update S scope (A.perform l op now (S scope)))

/-- No limiter has been asked. -/
def fresh (p : AccessPolicy) (A : LimiterStore τ σ ε) (unlimited : Scope → σ) : Scope → σ :=
  fun k => match p.limit k with
    | none => unlimited k
    | some l => A.initial l

section Admission

variable {A : LimiterStore τ σ ε} {p : AccessPolicy} {scope : Option Scope} {d : Delivery ε}
  {t t' now asked : τ} {S : Scope → σ} {k : Scope} {l : Limit} {side : Side}

/-- The limiter of the scope counted the request. -/
def took (A : LimiterStore τ σ ε) (limit : Scope → Option Limit) (scope : Option Scope)
    (d : Delivery ε) (t : τ) (S : Scope → σ) : Bool :=
  scope.any fun k => (limit k).any fun l => granted (A.admitRequest l t (S k)).1 && match d with
    | .unreached _ => false
    | _ => true

/-- The limiter of the scope, if there is one, counted the request and said so. -/
def passes (A : LimiterStore τ σ ε) (limit : Scope → Option Limit) (scope : Option Scope)
    (d : Delivery ε) (t : τ) (S : Scope → σ) : Bool :=
  scope.all fun k => (limit k).all fun l => granted (A.admitRequest l t (S k)).1 && match d with
    | .served => true
    | _ => false

theorem admitScope_unlimited (hl : p.limit k = none) :
    admitScope A p.limit (some k) d t S = (.ok none, S) := by
  simp only [admitScope, hl]

theorem admitScope_limited (hl : p.limit k = some l) :
    admitScope A p.limit (some k) d t S =
      ((d.deliver .error (A.admitRequest l t (S k)) (S k)).1.map some,
        Function.update S k (d.deliver .error (A.admitRequest l t (S k)) (S k)).2) := by
  simp only [admitScope, hl]

theorem refusal_admitScope (scope : Option Scope) (d : Delivery ε) (t : τ) (S : Scope → σ) :
    refusal (admitScope A p.limit scope d t S).1 = !passes A p.limit scope d t S := by
  cases scope with
  | none => rfl
  | some k =>
    cases hl : p.limit k with
    | none => simp [admitScope_unlimited hl, passes, hl, refusal]
    | some l =>
      simp only [admitScope_limited hl, passes, hl, Option.all_some]
      generalize A.admitRequest l t (S k) = result
      rcases result with ⟨_ | rate, s⟩ <;> cases d <;>
        simp [Delivery.deliver, refusal, granted, Except.map]

theorem admitScope_of_ne (hk : scope ≠ some k) : (admitScope A p.limit scope d t S).2 k = S k := by
  cases scope with
  | none => rfl
  | some k₀ =>
    cases hl : p.limit k₀ with
    | none => rw [admitScope_unlimited hl]
    | some l =>
      rw [admitScope_limited hl]
      refine Function.update_of_ne ?_ _ _
      rintro rfl
      exact hk rfl

/-- The limiters of a policy are ready for a call. -/
def AllReady (A : LimiterStore τ σ ε) (p : AccessPolicy) (t : τ) (S : Scope → σ) : Prop :=
  ∀ k l, p.limit k = some l → A.Ready l t (S k)

theorem AllReady.mono (ready : AllReady A p t S) (hle : t ≤ t') : AllReady A p t' S :=
  fun k l hl => A.ready_mono hle (ready k l hl)

/-- The limiters of a policy can work at a time. -/
def AllServable (A : LimiterStore τ σ ε) (p : AccessPolicy) (t : τ) : Prop :=
  ∀ k l, p.limit k = some l → A.Servable l t

theorem AllReady.admitScope (ready : AllReady A p t S) (servable : AllServable A p t) :
    AllReady A p t (admitScope A p.limit scope d t S).2 := by
  intro k l hl
  by_cases hk : scope = some k
  · subst hk
    have hready := ready k l hl
    rw [admitScope_limited hl]
    simp only [Function.update_self]
    cases d with
    | served => exact A.ready_admitRequest (servable k l hl) hready
    | unreached e => exact hready
    | unanswered e => exact A.ready_admitRequest (servable k l hl) hready
  · rw [admitScope_of_ne hk]
    exact ready k l hl

/-- Asking a limiter counts a request exactly when the limiter takes it. -/
theorem requests_admitScope (scope : Option Scope) (d : Delivery ε)
    (ready : AllReady A p t S) (hl : p.limit k = some l)
    (hfits : A.requests l t (S k) < U64.max) (hle : t ≤ t') :
    A.requests l t' ((admitScope A p.limit scope d t S).2 k) = A.requests l t' (S k) +
      if scope = some k ∧ took A p.limit scope d t S = true ∧ A.window l t = A.window l t'
      then 1 else 0 := by
  by_cases hk : scope = some k
  swap
  · simp [admitScope_of_ne hk, hk]
  subst hk
  have hready := ready k l hl
  rw [admitScope_limited hl]
  simp only [took, hl, Option.any_some, Function.update_self, true_and]
  cases hgranted : granted (A.admitRequest l t (S k)).1 with
  | true =>
    have hcounted := A.requests_granted hready hgranted hfits hle
    cases d with
    | served => simpa [Delivery.deliver] using hcounted
    | unreached e => simp [Delivery.deliver]
    | unanswered e => simpa [Delivery.deliver] using hcounted
  | false =>
    have hsame := A.requests_refused hready hgranted hle
    cases d with
    | served => simpa [Delivery.deliver] using hsame
    | unreached e => simp [Delivery.deliver]
    | unanswered e => simpa [Delivery.deliver] using hsame

theorem took_congr {S' : Scope → σ} (h : ∀ k ∈ scope, S' k = S k) :
    took A p.limit scope d t S' = took A p.limit scope d t S ∧
      passes A p.limit scope d t S' = passes A p.limit scope d t S := by
  cases scope with
  | none => exact ⟨rfl, rfl⟩
  | some k => simp only [took, passes, Option.any_some, Option.all_some, h k rfl, and_self]

theorem keyScope_ne_workspaceScope {grant : AccessGrant} (hk : k ∈ p.keyScope grant) :
    p.workspaceScope grant ≠ some k := by
  rw [AccessPolicy.keyScope, Option.mem_def, Option.map_eq_some_iff] at hk
  obtain ⟨key, -, rfl⟩ := hk
  rw [AccessPolicy.workspaceScope]
  cases p.key grant with
  | none => simp
  | some key' => cases h : key'.2.workspace <;> simp [h]

/-- The answer of an admission that the workspace let through is a refusal when the key's is. -/
theorem refusal_map_answer {answer : Option RateResult → Option RateResult → Option RateResult}
    {workspaceResult : Option RateResult}
    (h : ∀ keyResult, (answer workspaceResult keyResult).any (fun rate => !rate.allowed) =
      keyResult.any fun rate => !rate.allowed) (result : Except ε (Option RateResult)) :
    refusal (result.map (answer workspaceResult)) = refusal result := by
  cases result with
  | error e => rfl
  | ok keyResult => exact h keyResult

/-- What the two calls answer and leave. -/
theorem admitKeyWith_eq
    {answer : Option RateResult → Option RateResult → Option RateResult}
    (hanswer : ∀ workspaceResult keyResult,
      workspaceResult.any (fun rate => !rate.allowed) = false →
        (answer workspaceResult keyResult).any (fun rate => !rate.allowed) =
          keyResult.any fun rate => !rate.allowed)
    (grant : AccessGrant) (dw dk : Delivery ε) (asked now : τ) (S : Scope → σ) :
    refusal (p.admitKeyWith A answer grant dw dk asked now S).1 =
        !(passes A p.limit (p.workspaceScope grant) dw asked S &&
          passes A p.limit (p.keyScope grant) dk now S) ∧
      (p.admitKeyWith A answer grant dw dk asked now S).2 =
        if passes A p.limit (p.workspaceScope grant) dw asked S = true then
          (admitScope A p.limit (p.keyScope grant) dk now
            (admitScope A p.limit (p.workspaceScope grant) dw asked S).2).2
        else (admitScope A p.limit (p.workspaceScope grant) dw asked S).2 := by
  have hworkspace := refusal_admitScope (A := A) (p := p) (p.workspaceScope grant) dw asked S
  have hkey := refusal_admitScope (A := A) (p := p) (p.keyScope grant) dk now
    (admitScope A p.limit (p.workspaceScope grant) dw asked S).2
  have hsame : ∀ k ∈ p.keyScope grant,
      (admitScope A p.limit (p.workspaceScope grant) dw asked S).2 k = S k :=
    fun k hk => admitScope_of_ne (keyScope_ne_workspaceScope hk)
  rw [(took_congr hsame).2] at hkey
  rw [AccessPolicy.admitKeyWith]
  generalize admitScope A p.limit (p.workspaceScope grant) dw asked S = asked₁ at hworkspace hkey ⊢
  rcases asked₁ with ⟨e | result, S₁⟩
  · have hpasses : passes A p.limit (p.workspaceScope grant) dw asked S = false := by
      simpa [refusal] using hworkspace.symm
    rw [hpasses]
    exact ⟨rfl, rfl⟩
  · simp only at hworkspace hkey ⊢
    rw [hworkspace]
    cases hpasses : passes A p.limit (p.workspaceScope grant) dw asked S with
    | false =>
      rw [hpasses] at hworkspace
      exact ⟨hworkspace, rfl⟩
    | true =>
      rw [hpasses] at hworkspace
      simp only [Bool.not_true, Bool.false_eq_true, if_false, if_true, Bool.true_and, and_true]
      rw [refusal_map_answer fun keyResult => hanswer result keyResult hworkspace, hkey]

theorem admitKey_eq (side : Side) (grant : AccessGrant) (dw dk : Delivery ε) (asked now : τ)
    (S : Scope → σ) :
    refusal (side.admitKey p A grant dw dk asked now S).1 =
        !(passes A p.limit (p.workspaceScope grant) dw asked S &&
          passes A p.limit (p.keyScope grant) dk now S) ∧
      (side.admitKey p A grant dw dk asked now S).2 =
        if passes A p.limit (p.workspaceScope grant) dw asked S = true then
          (admitScope A p.limit (p.keyScope grant) dk now
            (admitScope A p.limit (p.workspaceScope grant) dw asked S).2).2
        else (admitScope A p.limit (p.workspaceScope grant) dw asked S).2 := by
  cases side with
  | process =>
    refine admitKeyWith_eq ?_ grant dw dk asked now S
    rintro workspaceResult (_ | rate) h
    · exact h
    · rfl
  | shared =>
    refine admitKeyWith_eq ?_ grant dw dk asked now S
    rintro workspaceResult (_ | rate) -
    · rfl
    · cases h : rate.allowed <;> simp [Option.filter, h]

/-- The call takes a slot and is not admitted: the workspace counts it in a window that has not
passed and then its answer is lost or the key's limiter refuses or fails, or the answer of the
key's limiter is lost. -/
def Leaks (p : AccessPolicy) (A : LimiterStore τ σ ε) (S : Scope → σ) (now : τ) :
    Call τ ε A.Op → Prop
  | .admitKey grant dw dk asked =>
    (took A p.limit (p.workspaceScope grant) dw asked S = true ∧
      (∀ k ∈ p.workspaceScope grant, ∀ l ∈ p.limit k, A.window l asked = A.window l now) ∧
      ¬(passes A p.limit (p.workspaceScope grant) dw asked S = true ∧
        passes A p.limit (p.keyScope grant) dk now S = true)) ∨
    (passes A p.limit (p.workspaceScope grant) dw asked S = true ∧
      took A p.limit (p.keyScope grant) dk now S = true ∧
      passes A p.limit (p.keyScope grant) dk now S = false)
  | .perform _ _ => False

/-- A request that both limiters pass is admitted. -/
theorem not_leaks {grant : AccessGrant} {dw dk : Delivery ε}
    (hworkspace : passes A p.limit (p.workspaceScope grant) dw asked S = true)
    (hkey : passes A p.limit (p.keyScope grant) dk now S = true) :
    ¬Leaks p A S now (.admitKey grant dw dk asked) := by
  rintro (⟨-, -, hnot⟩ | ⟨-, -, hfalse⟩)
  · exact hnot ⟨hworkspace, hkey⟩
  · simp [hkey] at hfalse

abbrev History (A : LimiterStore τ σ ε) :=
  List (Event τ (Call τ ε A.Op) (Option (Except ε (Option RateResult))))

/-- The event is the admission of a request of the workspace in window `w`. -/
def AdmittedIn (p : AccessPolicy) (A : LimiterStore τ σ ε) (id : String) (l : Limit) (w : ℕ)
    (e : Event τ (Call τ ε A.Op) (Option (Except ε (Option RateResult)))) : Bool :=
  match e.call with
  | .admitKey grant _ _ asked => p.workspaceScope grant = some (.workspace id) ∧
      e.reply.all (fun reply => !refusal reply) = true ∧ A.window l asked = w
  | .perform _ _ => false

/-- The requests admitted for a workspace in window `w`. -/
def admittedIn (p : AccessPolicy) (A : LimiterStore τ σ ε) (id : String) (l : Limit) (w : ℕ)
    (h : History A) : ℕ := h.countP (AdmittedIn p A id l w)

/-- The calls of an admission come after the calls before. -/
def Timely (A : LimiterStore τ σ ε) (h : History A) (now : τ) : Call τ ε A.Op → Prop
  | .admitKey _ _ _ asked => (∀ e ∈ h, e.time ≤ asked) ∧ asked ≤ now
  | .perform _ _ => True

def Ok (p : AccessPolicy) (A : LimiterStore τ σ ε) (h : History A) (S : Scope → σ) (now : τ)
    (call : Call τ ε A.Op) : Prop :=
  (h.length : ℤ) < U64.max ∧ AllServable A p now ∧ Timely A h now call ∧ ¬Leaks p A S now call

/-- Every request that a workspace counts was admitted. -/
structure Inv (p : AccessPolicy) (A : LimiterStore τ σ ε) (h : History A) (S : Scope → σ) :
    Prop where
  ready : ∀ t, (∀ e ∈ h, e.time ≤ t) → AllReady A p t S
  requests : ∀ t, (∀ e ∈ h, e.time ≤ t) → ∀ id l, p.limit (.workspace id) = some l →
    A.requests l t (S (.workspace id)) = admittedIn p A id l (A.window l t) h
  bounded : ∀ t, (∀ e ∈ h, e.time ≤ t) → ∀ k l, p.limit k = some l →
    A.requests l t (S k) ≤ h.length

theorem inv_fresh (p : AccessPolicy) (A : LimiterStore τ σ ε) (unlimited : Scope → σ) :
    Inv p A [] (fresh p A unlimited) where
  ready := by
    intro t _ k l hl
    simp only [fresh, hl]
    exact A.ready_initial l t
  requests := by
    intro t _ id l hl
    simp only [fresh, hl]
    exact A.requests_initial l t
  bounded := by
    intro t _ k l hl
    simp only [fresh, hl]
    exact (A.requests_initial l t).le

theorem took_of_passes (hl : p.limit k = some l) (h : passes A p.limit (some k) d t S = true) :
    took A p.limit (some k) d t S = true := by
  simp only [passes, took, hl, Option.all_some, Option.any_some, Bool.and_eq_true] at h ⊢
  cases d <;> simp_all

/-- The state that an admission leaves is ready for later calls. -/
theorem AllReady.admitKey (ready : AllReady A p asked S) (servable : AllServable A p now)
    (hle : asked ≤ now) (side : Side) (grant : AccessGrant) (dw dk : Delivery ε) :
    AllReady A p now (side.admitKey p A grant dw dk asked now S).2 := by
  have hasked : AllServable A p asked := fun k l hl => A.servable_of_le hle (servable k l hl)
  rw [(admitKey_eq side grant dw dk asked now S).2]
  split
  · exact ((ready.admitScope hasked).mono hle).admitScope servable
  · exact (ready.admitScope hasked).mono hle

/-- What a workspace counts for an admission. -/
theorem requests_admitKey (ready : AllReady A p asked S) (hle : asked ≤ now) (side : Side)
    (grant : AccessGrant) (dw dk : Delivery ε) {id : String}
    (hl : p.limit (.workspace id) = some l)
    (hfits : A.requests l asked (S (.workspace id)) < U64.max) (ht : now ≤ t) :
    A.requests l t ((side.admitKey p A grant dw dk asked now S).2 (.workspace id)) =
      A.requests l t (S (.workspace id)) +
        if p.workspaceScope grant = some (.workspace id) ∧
          took A p.limit (p.workspaceScope grant) dw asked S = true ∧
          A.window l asked = A.window l t then 1 else 0 := by
  have hother : p.keyScope grant ≠ some (.workspace id) := by
    rw [AccessPolicy.keyScope]
    cases p.key grant <;> simp
  rw [(admitKey_eq side grant dw dk asked now S).2]
  split
  · rw [admitScope_of_ne hother]
    exact requests_admitScope _ _ ready hl hfits (hle.trans ht)
  · exact requests_admitScope _ _ ready hl hfits (hle.trans ht)

/-- A scope that took a request is limited. -/
theorem exists_limit_of_took (h : took A p.limit scope d t S = true) :
    ∃ k l, scope = some k ∧ p.limit k = some l := by
  cases scope with
  | none => simp [took] at h
  | some k =>
    cases hl : p.limit k with
    | none => simp [took, hl] at h
    | some l => exact ⟨k, l, rfl, hl⟩

theorem exists_workspace_of_mem {grant : AccessGrant} (hk : p.workspaceScope grant = some k) :
    ∃ id, k = .workspace id := by
  rw [AccessPolicy.workspaceScope, Option.bind_eq_some_iff] at hk
  obtain ⟨key, -, hkey⟩ := hk
  obtain ⟨id, -, rfl⟩ := Option.map_eq_some_iff.mp hkey
  exact ⟨id, rfl⟩

/-- An admission leaves the other scopes alone. -/
theorem admitKey_of_ne {grant : AccessGrant} {dw dk : Delivery ε}
    (hworkspace : p.workspaceScope grant ≠ some k) (hkey : p.keyScope grant ≠ some k) :
    (side.admitKey p A grant dw dk asked now S).2 k = S k := by
  rw [(admitKey_eq side grant dw dk asked now S).2]
  split
  · rw [admitScope_of_ne hkey, admitScope_of_ne hworkspace]
  · rw [admitScope_of_ne hworkspace]

/-- What the scope of the key counts for an admission. -/
theorem requests_admitKey_key (ready : AllReady A p asked S) (servable : AllServable A p now)
    (hle : asked ≤ now) (side : Side)
    (grant : AccessGrant) (dw dk : Delivery ε) (hk : p.keyScope grant = some k)
    (hl : p.limit k = some l) (hfits : A.requests l now (S k) < U64.max) (ht : now ≤ t) :
    A.requests l t ((side.admitKey p A grant dw dk asked now S).2 k) = A.requests l t (S k) +
      if passes A p.limit (p.workspaceScope grant) dw asked S = true ∧
        took A p.limit (p.keyScope grant) dk now S = true ∧ A.window l now = A.window l t
      then 1 else 0 := by
  have hne := keyScope_ne_workspaceScope hk
  have hsame : (admitScope A p.limit (p.workspaceScope grant) dw asked S).2 k = S k :=
    admitScope_of_ne hne
  rw [(admitKey_eq side grant dw dk asked now S).2]
  cases passes A p.limit (p.workspaceScope grant) dw asked S with
  | false => simp [hsame]
  | true =>
    have hasked : AllServable A p asked := fun k l hl => A.servable_of_le hle (servable k l hl)
    have hready : AllReady A p now (admitScope A p.limit (p.workspaceScope grant) dw asked S).2 :=
      (ready.admitScope hasked).mono hle
    have hcounted := requests_admitScope (p.keyScope grant) dk hready hl (hsame.symm ▸ hfits) ht
    have htook : took A p.limit (p.keyScope grant) dk now
        (admitScope A p.limit (p.workspaceScope grant) dw asked S).2 =
          took A p.limit (p.keyScope grant) dk now S := by
      refine (took_congr ?_).1
      rw [hk]
      rintro _ ⟨⟩
      exact hsame
    rw [if_pos rfl, hcounted, hsame, htook]
    simp [hk]

/-- An admission counts at most one request in any scope. -/
theorem requests_admitKey_le (ready : AllReady A p asked S) (servable : AllServable A p now)
    (hle : asked ≤ now) (side : Side)
    (grant : AccessGrant) (dw dk : Delivery ε) (hl : p.limit k = some l)
    (hfits : ∀ t, asked ≤ t → A.requests l t (S k) < U64.max) (ht : now ≤ t) :
    A.requests l t ((side.admitKey p A grant dw dk asked now S).2 k) ≤
      A.requests l t (S k) + 1 := by
  by_cases hkey : p.keyScope grant = some k
  · rw [requests_admitKey_key ready servable hle side grant dw dk hkey hl (hfits now hle) ht]
    split <;> omega
  by_cases hworkspace : p.workspaceScope grant = some k
  · obtain ⟨id, rfl⟩ := exists_workspace_of_mem hworkspace
    rw [requests_admitKey ready hle side grant dw dk hl (hfits asked le_rfl) ht]
    split <;> omega
  · rw [admitKey_of_ne hworkspace hkey]
    omega

/-- An admission that does not leak is counted when it is admitted. -/
theorem Inv.admitKey {h : History A} (inv : Inv p A h S) {grant : AccessGrant}
    {dw dk : Delivery ε} (ok : Ok p A h S now (.admitKey grant dw dk asked)) (side : Side) :
    Inv p A ((serve side p A).event now (.admitKey grant dw dk asked) S :: h)
      (serve side p A now (.admitKey grant dw dk asked) S).2 := by
  obtain ⟨hroom, servable, ⟨hasked, hle⟩, hleak⟩ := ok
  have ready := inv.ready asked hasked
  have hfits : ∀ k l, p.limit k = some l → ∀ t, asked ≤ t → A.requests l t (S k) < U64.max := by
    intro k l hl t ht
    exact (inv.bounded t (fun e he => (hasked e he).trans ht) k l hl).trans_lt hroom
  refine ⟨?_, ?_, ?_⟩
  · intro t ht
    exact (ready.admitKey servable hle side grant dw dk).mono (ht _ List.mem_cons_self)
  · intro t ht id l hl
    have hnow : now ≤ t := ht _ List.mem_cons_self
    have hbefore := inv.requests t (fun e he => ht e (List.mem_cons_of_mem _ he)) id l hl
    refine (requests_admitKey ready hle side grant dw dk hl (hfits _ l hl asked le_rfl)
      hnow).trans ?_
    rw [hbefore, admittedIn, admittedIn, List.countP_cons]
    -- A slot of the current window is taken exactly by the requests that are admitted.
    have hiff : (p.workspaceScope grant = some (.workspace id) ∧
        took A p.limit (p.workspaceScope grant) dw asked S = true ∧
          A.window l asked = A.window l t) ↔
        AdmittedIn p A id l (A.window l t)
          ((serve side p A).event now (.admitKey grant dw dk asked) S) = true := by
      simp only [AdmittedIn, Service.event, serve, Prod.map_fst, Option.all_some,
        decide_eq_true_eq, (admitKey_eq side grant dw dk asked now S).1, Bool.not_not,
        Bool.and_eq_true]
      refine and_congr_right fun hscope => ?_
      rw [and_congr_left_iff]
      intro hwindow
      constructor
      · intro htook
        by_contra hnot
        refine hleak (.inl ⟨htook, ?_, hnot⟩)
        rw [hscope]
        rintro _ ⟨⟩ l' hl'
        obtain rfl : l' = l := Option.some.inj (hl'.symm.trans hl)
        have := A.window_mono (l := l') hle
        have := A.window_mono (l := l') hnow
        omega
      · rintro ⟨hpasses, -⟩
        rw [hscope] at hpasses ⊢
        exact took_of_passes hl hpasses
    by_cases hcounted : AdmittedIn p A id l (A.window l t)
        ((serve side p A).event now (.admitKey grant dw dk asked) S) = true
    · rw [if_pos (hiff.mpr hcounted), if_pos hcounted, Nat.cast_add, Nat.cast_one]
    · rw [if_neg (mt hiff.mp hcounted), if_neg hcounted, add_zero, Nat.add_zero]
  · intro t ht k l hl
    have hbefore := inv.bounded t (fun e he => ht e (List.mem_cons_of_mem _ he)) k l hl
    have hone := requests_admitKey_le ready servable hle side grant dw dk hl (hfits k l hl)
      (ht _ List.mem_cons_self)
    have hstate : (serve side p A now (.admitKey grant dw dk asked) S).2 k =
        (side.admitKey p A grant dw dk asked now S).2 k := rfl
    rw [hstate, List.length_cons, Nat.cast_add, Nat.cast_one]
    omega

/-- A call that counts no request. -/
theorem Inv.perform {h : History A} (inv : Inv p A h S) (htime : ∀ e ∈ h, e.time ≤ now)
    (servable : AllServable A p now) (side : Side) (scope : Scope) (op : A.Op) :
    Inv p A ((serve side p A).event now (.perform scope op) S :: h)
      (serve side p A now (.perform scope op) S).2 := by
  have ready := inv.ready now htime
  have hperform : ∀ k l, p.limit k = some l →
      A.Ready l now ((serve side p A now (.perform scope op) S).2 k) ∧ ∀ t, now ≤ t →
        A.requests l t ((serve side p A now (.perform scope op) S).2 k) = A.requests l t (S k) := by
    intro k l hl
    simp only [serve]
    by_cases hk : k = scope
    · subst hk
      simp only [hl, Function.update_self]
      exact ⟨A.ready_perform (servable k l hl) (ready k l hl),
        fun t ht => A.requests_perform (ready k l hl) ht⟩
    · have hsame : (match p.limit scope with
          | none => S
          | some l => Function.update S scope (A.perform l op now (S scope))) k = S k := by
        cases p.limit scope with
        | none => rfl
        | some l' => exact Function.update_of_ne hk _ _
      rw [hsame]
      exact ⟨ready k l hl, fun t _ => rfl⟩
  refine ⟨?_, ?_, ?_⟩
  · intro t ht k l hl
    exact A.ready_mono (ht _ List.mem_cons_self) (hperform k l hl).1
  · intro t ht id l hl
    rw [(hperform _ l hl).2 t (ht _ List.mem_cons_self),
      inv.requests t (fun e he => ht e (List.mem_cons_of_mem _ he)) id l hl]
    rfl
  · intro t ht k l hl
    have hbefore := inv.bounded t (fun e he => ht e (List.mem_cons_of_mem _ he)) k l hl
    rw [(hperform _ l hl).2 t (ht _ List.mem_cons_self), List.length_cons, Nat.cast_add,
      Nat.cast_one]
    omega

theorem inv_of_run {unlimited : Scope → σ} {h : History A}
    (run : (serve side p A).Run (Ok p A) (fresh p A unlimited) h S) : Inv p A h S := by
  refine run.invariant (inv_fresh p A unlimited) ?_
  intro h S now call inv htime ok
  cases call with
  | admitKey grant dw dk asked => exact inv.admitKey ok side
  | perform scope op => exact inv.perform htime ok.2.1 side scope op

/-- No later call finds another request counter than before. -/
def RequestsKept (p : AccessPolicy) (A : LimiterStore τ σ ε) (t : τ) (S S' : Scope → σ) : Prop :=
  ∀ k l, p.limit k = some l → ∀ t', t ≤ t' → A.requests l t' (S' k) = A.requests l t' (S k)

/-- A refused admission keeps all request counters exactly when it does not leak. -/
theorem requestsKept_iff (ready : AllReady A p asked S) (servable : AllServable A p now)
    (hle : asked ≤ now) (side : Side)
    (grant : AccessGrant) (dw dk : Delivery ε)
    (hfits : ∀ k l t, p.limit k = some l → asked ≤ t → A.requests l t (S k) < U64.max)
    (hrefused : refusal (side.admitKey p A grant dw dk asked now S).1 = true) :
    RequestsKept p A now S (side.admitKey p A grant dw dk asked now S).2 ↔
      ¬Leaks p A S now (.admitKey grant dw dk asked) := by
  have hnot : ¬(passes A p.limit (p.workspaceScope grant) dw asked S = true ∧
      passes A p.limit (p.keyScope grant) dk now S = true) := by
    rintro ⟨hworkspace, hkey⟩
    rw [(admitKey_eq side grant dw dk asked now S).1, hworkspace, hkey] at hrefused
    simp at hrefused
  constructor
  · rintro kept (⟨htook, hwindow, -⟩ | ⟨hpasses, htook, -⟩)
    · obtain ⟨k, l, hk, hl⟩ := exists_limit_of_took htook
      obtain ⟨id, rfl⟩ := exists_workspace_of_mem hk
      have hcounted := requests_admitKey ready hle side grant dw dk hl
        (hfits _ l asked hl le_rfl) (le_refl now)
      rw [kept _ l hl now le_rfl, if_pos ⟨hk, htook, hwindow _ hk l hl⟩] at hcounted
      omega
    · obtain ⟨k, l, hk, hl⟩ := exists_limit_of_took htook
      have hcounted := requests_admitKey_key ready servable hle side grant dw dk hk hl
        (hfits _ l now hl hle) (le_refl now)
      rw [kept _ l hl now le_rfl, if_pos ⟨hpasses, htook, rfl⟩] at hcounted
      omega
  · intro hleak k l hl t ht
    by_cases hkey : p.keyScope grant = some k
    · rw [requests_admitKey_key ready servable hle side grant dw dk hkey hl (hfits _ l now hl hle)
        ht, if_neg, add_zero]
      rintro ⟨hpasses, htook, -⟩
      refine hleak (.inr ⟨hpasses, htook, ?_⟩)
      exact Bool.eq_false_iff.mpr fun h => hnot ⟨hpasses, h⟩
    by_cases hworkspace : p.workspaceScope grant = some k
    · obtain ⟨id, rfl⟩ := exists_workspace_of_mem hworkspace
      rw [requests_admitKey ready hle side grant dw dk hl (hfits _ l asked hl le_rfl) ht,
        if_neg, add_zero]
      rintro ⟨-, htook, hwindow⟩
      refine hleak (.inl ⟨htook, ?_, hnot⟩)
      rw [hworkspace]
      rintro _ ⟨⟩ l' hl'
      obtain rfl : l' = l := Option.some.inj (hl'.symm.trans hl)
      have := A.window_mono (l := l') hle
      have := A.window_mono (l := l') ht
      omega
    · rw [admitKey_of_ne hworkspace hkey]

/-- The requests that a workspace counts in a window are those admitted for its keys. -/
def CountsAdmitted (p : AccessPolicy) (A : LimiterStore τ σ ε) (h : History A) (S : Scope → σ) :
    Prop :=
  ∀ t, (∀ e ∈ h, e.time ≤ t) → ∀ id l, p.limit (.workspace id) = some l →
    A.requests l t (S (.workspace id)) = admittedIn p A id l (A.window l t) h

/-- The calls that a gateway makes, whether they leak or not. -/
def Served (p : AccessPolicy) (A : LimiterStore τ σ ε) (h : History A) (_ : Scope → σ) (now : τ)
    (call : Call τ ε A.Op) : Prop :=
  (h.length : ℤ) < U64.max ∧ AllServable A p now ∧ Timely A h now call

/-- In every run of calls that do not leak, the workspaces count the admitted requests; and from
any state so reached a refused admission keeps all request counters exactly when it does not
leak. -/
def Fair (side : Side) (p : AccessPolicy) (A : LimiterStore τ σ ε) : Prop :=
  ∀ (unlimited : Scope → σ) (h : History A) (S : Scope → σ),
    (serve side p A).Run (Ok p A) (fresh p A unlimited) h S →
      CountsAdmitted p A h S ∧
      ∀ (now : τ) (grant : AccessGrant) (dw dk : Delivery ε) (asked : τ),
        Served p A h S now (.admitKey grant dw dk asked) →
        refusal (side.admitKey p A grant dw dk asked now S).1 = true →
          (RequestsKept p A now S (side.admitKey p A grant dw dk asked now S).2 ↔
            ¬Leaks p A S now (.admitKey grant dw dk asked))

theorem fair (side : Side) (p : AccessPolicy) (A : LimiterStore τ σ ε) : Fair side p A := by
  intro unlimited h S run
  have inv := inv_of_run run
  refine ⟨inv.requests, ?_⟩
  rintro now grant dw dk asked ⟨hroom, servable, hasked, hle⟩ hrefused
  refine requestsKept_iff (inv.ready asked hasked) servable hle side grant dw dk ?_ hrefused
  intro k l t hl ht
  exact (inv.bounded t (fun e he => (hasked e he).trans ht) k l hl).trans_lt hroom

end Admission

end WayfinderRouter.Access
