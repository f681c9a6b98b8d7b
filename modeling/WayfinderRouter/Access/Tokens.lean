import WayfinderRouter.Access.LocalLimiters
import WayfinderRouter.Access.SharedLimiters
import WayfinderRouter.RateLimit.Accounting
import WayfinderRouter.RateLimit.Agreement

/-!
# Token reservations of an access policy

A reservation charges every scope of a grant that limits tokens. With a shared backend the
scopes are charged there, and only a failure that was taken back lets the policy fall back to
its own limiters.

## Main definitions

- `SharedAccess` — the shared side of a policy during one call
- `AccessPolicy.reserveTokens` — the reservation
- `Untouched`, `ChargedOnce` — what a reservation may leave in a store
-/

namespace WayfinderRouter.Access

open Redis Timed Timed.Compensation RateLimit RateLimit.Backends

/-- `TokenReservationDecision`. The entries are of the shared backend or of the process. -/
inductive TokenReservationDecision where
  | reserved (shared : Bool) (entries : List (Scope × RateReservation))
  | rejected (rate : RateResult)
deriving DecidableEq

/-- `SharedReservationError`; `uncertain` is its variant for a rollback that failed. -/
inductive SharedReservationError where
  | clean
  | uncertain (error : StateBackendError)

/-- `AccessPolicyError`, as far as reservations return it. -/
inductive AccessPolicyError where
  | rateLimit (error : RateLimitError)
  | stateBackend (error : StateBackendError)
deriving DecidableEq

/-- The shared side of a policy during one call: the backend, the times at which it serves
the calls and what the line makes of them. -/
structure SharedAccess (τ σ : Type) [Preorder τ] (limit : Scope → Option Limit) (amount : ℕ) where
  backend : Backend τ σ StateBackendError limit amount
  clock : ℕ → τ
  line : ℕ → Delivery StateBackendError

/-- The limiters of the process, the shared state and `degraded`. -/
structure Stores (σ : Type) where
  limiters : Scope → State
  shared : Scope → σ
  degraded : Bool

variable {τ σ : Type} [Preorder τ]

namespace SharedAccess

variable {limit : Scope → Option Limit} {amount : ℕ} (sh : SharedAccess τ σ limit amount)

/-- The loop over the limits of the shared policy. A failed call is compensated. -/
def attempt (scopes : List Scope) (S : Scope → σ) :
    Result Scope RateReservation RateResult StateBackendError × (Scope → σ) :=
  chargeAll sh.backend.toAccounts sh.clock sh.line true 0 scopes [] S

/-- `SharedAccessPolicy::reserve_tokens`. -/
def reserveTokens (scopes : List Scope) (s : Stores σ) :
    Except SharedReservationError TokenReservationDecision × Stores σ :=
  match sh.attempt scopes s.shared with
  | (.charged entries, S) =>
    (.ok (.reserved true entries.reverse), { s with shared := S, degraded := false })
  | (.refused rate undone, S) =>
    (.ok (.rejected rate), { s with shared := S, degraded := s.degraded || !undone })
  | (.failed _ true, S) => (.error .clean, { s with shared := S })
  | (.failed error false, S) => (.error (.uncertain error), { s with shared := S })

end SharedAccess

namespace AccessPolicy

variable (p : AccessPolicy) (grant : AccessGrant) (amount : ℕ)

/-- `reserve_local_tokens`. A failed call is returned at once. -/
def reserveLocalTokens (now : ℚ) (s : Stores σ) :
    Except AccessPolicyError TokenReservationDecision × Stores σ :=
  match chargeAll (localLimiters p.limit amount).toAccounts (fun _ => now) reliable false 0
      (p.scopes grant) [] s.limiters with
  | (.charged entries, S) => (.ok (.reserved false entries.reverse), { s with limiters := S })
  | (.refused rate _, S) => (.ok (.rejected rate), { s with limiters := S })
  | (.failed error _, S) => (.error (.rateLimit error), { s with limiters := S })

/-- `reserve_tokens`. -/
def reserveTokens (shared : Option (SharedAccess τ σ p.limit amount)) (now : ℚ) (s : Stores σ) :
    Except AccessPolicyError TokenReservationDecision × Stores σ :=
  match shared with
  | none => p.reserveLocalTokens grant amount now s
  | some sh => match sh.reserveTokens (p.tokenScopes grant) s with
    | (.ok decision, s) => (.ok decision, s)
    | (.error .clean, s) => p.reserveLocalTokens grant amount now { s with degraded := true }
    | (.error (.uncertain error), s) => (.error (.stateBackend error), { s with degraded := true })

end AccessPolicy

-- ════════════════════════════════════════════════════════════════════════
-- What a reservation leaves in a store
-- ════════════════════════════════════════════════════════════════════════

section Stores

variable {ε : Type} {limit : Scope → Option Limit} {amount : ℕ}
  (B : Backend τ σ ε limit amount)

/-- No call from a time on finds other counters than before. -/
def Untouched (t : τ) (S S' : Scope → σ) : Prop :=
  ∀ k t', t ≤ t' → B.requests k t' (S' k) = B.requests k t' (S k) ∧
    B.tokens k t' (S' k) = B.tokens k t' (S k)

/-- Each of the scopes has one entry and was charged the amount when its entry was made, and no
call finds other counters in another scope than before. -/
structure ChargedOnce (clock : ℕ → τ) (n : ℕ) (scopes : List Scope)
    (entries : List (Scope × RateReservation)) (S S' : Scope → σ) : Prop where
  nodup : (entries.map Prod.fst).Nodup
  entries : ∀ k, k ∈ entries.map Prod.fst ↔ k ∈ scopes
  charged : ∀ k ∈ scopes, ∃ j ≤ n,
    B.requests k (clock j) (S' k) = B.requests k (clock j) (S k) ∧
      B.tokens k (clock j) (S' k) = B.tokens k (clock j) (S k) + amount
  other : ∀ k ∉ scopes, ∀ t', clock n ≤ t' →
    B.requests k t' (S' k) = B.requests k t' (S k) ∧ B.tokens k t' (S' k) = B.tokens k t' (S k)

variable {B} {clock : ℕ → τ} {n : ℕ} {ks active : List Scope} {S S' : Scope → σ}
  {receipts : List (Scope × RateReservation)}

theorem untouched_of_same {t : τ} (h : ∀ k, B.Same k t (S k) (S' k)) : Untouched B t S S' :=
  fun k => B.same_iff.mp (h k)

/-- The active scopes are charged once when the attempt charged all it had to. -/
theorem chargedOnce_of_charged (charged : Charged B.toAccounts clock S n receipts S')
    (covers : Covers B.toAccounts clock S ks receipts)
    (hactive : ∀ k, k ∈ active ↔ k ∈ ks ∧ (limit k).any (fun l => l.tpm.isSome) = true) :
    ChargedOnce B clock n active receipts.reverse S S' := by
  have hmem : ∀ k, k ∈ receipts.map Prod.fst ↔ k ∈ active := by
    intro k
    rw [hactive]
    constructor
    · intro hk
      obtain ⟨⟨k', r⟩, hkr, rfl⟩ := List.mem_map.mp hk
      obtain ⟨j, -, hready, hcharge⟩ := charged.once k' r hkr
      exact ⟨covers.1 k' hk, (B.charged_amount hready (congrArg Prod.fst hcharge)).1⟩
    · rintro ⟨hk, htpm⟩
      rcases covers.2 k hk with hin | ⟨j, hready, hexempt⟩
      · exact hin
      · exact absurd (B.exempt_unlimited hready hexempt) (by simp [htpm])
  refine ⟨?_, ?_, ?_, ?_⟩
  · rw [List.map_reverse, List.nodup_reverse]
    exact charged.nodup
  · intro k
    rw [List.map_reverse, List.mem_reverse]
    exact hmem k
  · intro k hk
    obtain ⟨⟨k', r⟩, hkr, rfl⟩ := List.mem_map.mp ((hmem k).mpr hk)
    obtain ⟨j, hj, hready, hcharge⟩ := charged.once k' r hkr
    have hamount := B.charged_amount hready (congrArg Prod.fst hcharge)
    rw [hcharge] at hamount
    exact ⟨j, hj, hamount.2⟩
  · intro k hk
    exact B.same_iff.mp (charged.other k (mt (hmem k).mp hk))

end Stores

section Reservation

variable {p : AccessPolicy} {grant : AccessGrant} {amount : ℕ}

theorem mem_tokenScopes {k : Scope} :
    k ∈ p.tokenScopes grant ↔
      k ∈ p.scopes grant ∧ (p.limit k).any (fun l => l.tpm.isSome) = true := by
  rw [AccessPolicy.tokenScopes, AccessPolicy.scopes, List.mem_filter, List.mem_filter]
  cases p.limit k <;> simp

/-- The shared counters are those of before to every call after the attempt. -/
def SharedUntouched (p : AccessPolicy) (grant : AccessGrant) (amount : ℕ)
    (shared : Option (SharedAccess τ σ p.limit amount)) (s s' : Stores σ) : Prop :=
  ∀ sh ∈ shared, Untouched sh.backend (sh.clock (2 * (p.tokenScopes grant).length))
    s.shared s'.shared

/-- Every scope of the grant that limits tokens is charged once in one of the stores, or no
counter of any scope is touched. -/
def Atomic (p : AccessPolicy) (grant : AccessGrant) (amount : ℕ)
    (shared : Option (SharedAccess τ σ p.limit amount)) (now : ℚ) (s : Stores σ) :
    Except AccessPolicyError TokenReservationDecision × Stores σ → Prop
  | (.ok (.reserved true entries), s') => s'.limiters = s.limiters ∧ ∃ sh ∈ shared,
      ChargedOnce sh.backend sh.clock (2 * (p.tokenScopes grant).length) (p.tokenScopes grant)
        entries s.shared s'.shared
  | (.ok (.reserved false entries), s') => SharedUntouched p grant amount shared s s' ∧
      ChargedOnce (localLimiters p.limit amount) (fun _ => now) (2 * (p.scopes grant).length)
        (p.tokenScopes grant) entries s.limiters s'.limiters
  | (.ok (.rejected _), s') | (.error _, s') => SharedUntouched p grant amount shared s s' ∧
      Untouched (localLimiters p.limit amount) now s.limiters s'.limiters

/-- A limiter of the process fails after another one was charged. -/
def LocalFailsCharged (p : AccessPolicy) (grant : AccessGrant) (amount : ℕ) (now : ℚ)
    (limiters : Scope → State) : Prop :=
  FailsCharged (localLimiters p.limit amount).toAccounts (fun _ => now) reliable limiters 0
    (p.scopes grant)

/-- The local loop, unless a limiter fails after another one was charged. -/
theorem reserveLocalTokens_atomic {shared : Option (SharedAccess τ σ p.limit amount)} {now : ℚ}
    {s s₁ : Stores σ} (hsame : s₁.limiters = s.limiters)
    (hshared : SharedUntouched p grant amount shared s s₁)
    (hready : ∀ k ∈ p.scopes grant, (localLimiters p.limit amount).Ready k now (s.limiters k))
    (hfails : ¬LocalFailsCharged p grant amount now s.limiters) :
    Atomic p grant amount shared now s (p.reserveLocalTokens grant amount now s₁) := by
  have hclock : Monotone fun _ : ℕ => now := fun _ _ _ => le_rfl
  have hanswered : ∀ (j : ℕ) (error : RateLimitError), reliable j ≠ .unanswered error := by
    simp [reliable]
  have settled := chargeAll_settled false hclock (p.nodup_scopes grant) hready hanswered
  rw [AccessPolicy.reserveLocalTokens, hsame]
  rcases hattempt : chargeAll (localLimiters p.limit amount).toAccounts (fun _ => now) reliable
    false 0 (p.scopes grant) [] s.limiters with ⟨result, S⟩
  rw [hattempt] at settled
  cases result with
  | charged receipts =>
    exact ⟨hshared, chargedOnce_of_charged settled.2 settled.1 fun k => mem_tokenScopes⟩
  | refused rate undone =>
    exact ⟨hshared, untouched_of_same (settled.2 (settled.1 fun _ => rfl))⟩
  | failed error undone =>
    exact ⟨hshared, untouched_of_same (settled.2 (.inr ⟨rfl, hfails⟩))⟩

/-- The limiters of the process are asked when the shared backend fails. -/
def Degrades (p : AccessPolicy) (grant : AccessGrant) (amount : ℕ)
    (shared : Option (SharedAccess τ σ p.limit amount)) (s : Stores σ) : Prop :=
  ∀ sh ∈ shared, ∃ error undone,
    (sh.attempt (p.tokenScopes grant) s.shared).1 = .failed error undone

/-- **Reservations are atomic**: a reservation charges every scope of the grant that limits
tokens once, or leaves no trace in any counter. No answer of the shared backend may get lost
and no rollback may fail there, and nothing is said of a limiter of the process that fails
after another one was charged. -/
theorem reserveTokens_atomic (p : AccessPolicy) (grant : AccessGrant) (amount : ℕ)
    (shared : Option (SharedAccess τ σ p.limit amount)) (now : ℚ) (s : Stores σ)
    (hclock : ∀ sh ∈ shared, Monotone sh.clock)
    (hshared : ∀ sh ∈ shared, ∀ k ∈ p.tokenScopes grant,
      sh.backend.Ready k (sh.clock 0) (s.shared k))
    (hlimiters : ∀ k ∈ p.scopes grant,
      (localLimiters p.limit amount).Ready k now (s.limiters k))
    (hanswered : ∀ sh ∈ shared, ∀ i error, sh.line i ≠ .unanswered error)
    (hundone : ∀ sh ∈ shared, (sh.attempt (p.tokenScopes grant) s.shared).1.undone = true)
    (hfails : Degrades p grant amount shared s →
      ¬LocalFailsCharged p grant amount now s.limiters) :
    Atomic p grant amount shared now s (p.reserveTokens grant amount shared now s) := by
  cases shared with
  | none =>
    exact reserveLocalTokens_atomic rfl (by simp [SharedUntouched]) hlimiters
      (hfails (by simp [Degrades]))
  | some sh =>
    have settled := chargeAll_settled true (hclock sh rfl) (p.nodup_tokenScopes grant)
      (hshared sh rfl) (hanswered sh rfl)
    have hundone := hundone sh rfl
    have htouched : ∀ {S : Scope → σ} {degraded : Bool}, (∀ k, sh.backend.Same k
        (sh.clock (2 * (p.tokenScopes grant).length)) (s.shared k) (S k)) →
        SharedUntouched p grant amount (some sh) s ⟨s.limiters, S, degraded⟩ := by
      rintro S degraded hsame sh' ⟨⟩
      exact untouched_of_same hsame
    simp only [AccessPolicy.reserveTokens, SharedAccess.reserveTokens]
    rcases hattempt : sh.attempt (p.tokenScopes grant) s.shared with ⟨result, S⟩
    rw [SharedAccess.attempt] at hattempt
    rw [hattempt] at settled
    rw [SharedAccess.attempt, hattempt] at hundone
    cases result with
    | charged receipts =>
      refine ⟨rfl, sh, rfl, chargedOnce_of_charged settled.2 settled.1 fun k => ?_⟩
      rw [mem_tokenScopes]
      exact ⟨fun h => ⟨⟨h.1, h.2⟩, h.2⟩, fun h => h.1⟩
    | refused rate undone =>
      exact ⟨htouched (settled.2 hundone), fun _ _ _ => ⟨rfl, rfl⟩⟩
    | failed error undone =>
      obtain rfl : undone = true := hundone
      refine reserveLocalTokens_atomic rfl (htouched (settled.2 (.inl rfl))) hlimiters
        (hfails ?_)
      rintro sh' ⟨⟩
      exact ⟨error, true, by rw [SharedAccess.attempt, hattempt]⟩

/-- Every rollback succeeds when the line serves all calls. -/
theorem attempt_undone (sh : SharedAccess τ σ p.limit amount) (hclock : Monotone sh.clock)
    {S : Scope → σ} (hready : ∀ k ∈ p.tokenScopes grant, sh.backend.Ready k (sh.clock 0) (S k))
    (hserved : ∀ i, sh.line i = .served) :
    (sh.attempt (p.tokenScopes grant) S).1.undone = true := by
  have hanswered : ∀ i error, sh.line i ≠ .unanswered error := by
    intro i error
    simp [hserved i]
  have settled := chargeAll_settled true hclock (p.nodup_tokenScopes grant) hready hanswered
  rw [SharedAccess.attempt]
  rcases hattempt : chargeAll sh.backend.toAccounts sh.clock sh.line true 0 (p.tokenScopes grant)
    [] S with ⟨result, S'⟩
  rw [hattempt] at settled
  cases result with
  | charged receipts => rfl
  | refused rate undone => exact settled.1 hserved
  | failed error undone => exact settled.1 rfl hserved

end Reservation

-- ════════════════════════════════════════════════════════════════════════
-- Reachable states
-- ════════════════════════════════════════════════════════════════════════

/-- A limiter of the process after any of its runs. -/
theorem past_of_run {c : Configuration} {h : RateLimit.History} {s : State} {now : ℚ}
    (run : RateLimit.serve.Run (RateLimit.Ok c) (State.initial c) h s)
    (htime : ∀ e ∈ h, e.time ≤ now) : Past c now s := by
  have inv := run.invariant (inv_nil c) fun _ _ _ _ inv htime ok => RateLimit.inv_step inv htime ok
  refine ⟨inv.configuration, ?_⟩
  intro w hw
  exact inv.window_le htime (inv.windowId.symm.trans hw)

/-- A limit key after any run of the limiter backends. -/
theorem pastKey_of_run {limits : String → Limits} {h : Backends.History}
    {s : (String → Option State) × (String → LimitKey)} {now : ℕ}
    (run : (Backends.serve limits).Run (Backends.Ok limits) unused h s)
    (htime : ∀ e ∈ h, e.time ≤ now) {key : String} (htpm : (limits key).tpm.isSome) :
    PastKey (limits key).windowMs now (s.2 key) := by
  have inv := run.invariant (inv_unused limits) fun _ _ _ _ inv htime ok =>
    Backends.inv_step inv htime ok
  have agree := inv.agree now htime key
  intro v hv
  obtain ⟨x, rfl, hx, -⟩ := agree.key_le v hv
  refine ⟨by exact_mod_cast hx, ?_⟩
  intro hnow
  have htokens := agree.tokens htpm x (by omega)
  rw [seenShared, if_pos hv] at htokens
  omega

section FailedRollback

/-- Sixty tokens a minute for the gateway and ten for its key. -/
def keyedPolicy : AccessPolicy :=
  ⟨some (minuteTokens 60 (by decide) (by decide)), fun _ => none,
    [⟨none, some (minuteTokens 10 (by decide) (by decide))⟩]⟩

def unusedStores : Stores LimitKey :=
  ⟨fun k => State.initial ⟨none, if k = .global then some 60 else some 10, 60, minute_pos⟩,
    fun _ => none, false⟩

/-- A server that is reached by all calls but the one at `lost`. -/
def serverWithout (lost : Option ℕ) : SharedAccess ℕ LimitKey keyedPolicy.limit 50 :=
  ⟨redisBackend _ 50, fun _ => 0,
    fun i => if lost = some i then .unreached .unavailable else .served⟩

theorem ready_unusedStores (k : Scope) (hk : k ∈ keyedPolicy.scopes ⟨some 0⟩) :
    (localLimiters keyedPolicy.limit 50).Ready k 0 (unusedStores.limiters k) := by
  have hscopes : keyedPolicy.scopes ⟨some 0⟩ = [.global, .virtualKey 0] := by decide
  rw [hscopes] at hk
  simp only [List.mem_cons, List.not_mem_nil, or_false] at hk
  rcases hk with rfl | rfl
  · exact ⟨minuteTokens 60 (by decide) (by decide), rfl, rfl, by simp [unusedStores, State.initial]⟩
  · exact ⟨minuteTokens 10 (by decide) (by decide), rfl, rfl, by simp [unusedStores, State.initial]⟩

theorem reserveTokens_atomic_refused :
    Atomic keyedPolicy ⟨some 0⟩ 50 (some (serverWithout none)) 0 unusedStores
      (keyedPolicy.reserveTokens ⟨some 0⟩ 50 (some (serverWithout none)) 0 unusedStores) := by
  refine reserveTokens_atomic keyedPolicy ⟨some 0⟩ 50 (some (serverWithout none)) 0 unusedStores
    ?_ ?_ ready_unusedStores ?_ ?_ ?_
  · rintro sh ⟨⟩ _ _ _
    exact le_rfl
  · rintro sh ⟨⟩ k - l -  v hv
    simp [unusedStores] at hv
  · rintro sh ⟨⟩ i error
    simp [serverWithout]
  · rintro sh ⟨⟩
    decide +kernel
  · intro hdegrades
    obtain ⟨error, undone, hfailed⟩ := hdegrades _ rfl
    have hrefused : ((serverWithout none).attempt (keyedPolicy.tokenScopes ⟨some 0⟩)
      unusedStores.shared).1.isRefused = true := by decide +kernel
    rw [hfailed] at hrefused
    exact absurd hrefused Bool.false_ne_true

/-- The key refuses, the rollback of the gateway's charge does not arrive, and the charge
stays. -/
theorem reserveTokens_lostRollback :
    ¬∀ (p : AccessPolicy) (grant : AccessGrant) (amount : ℕ)
      (shared : Option (SharedAccess ℕ LimitKey p.limit amount)) (now : ℚ) (s : Stores LimitKey),
      (∀ sh ∈ shared, Monotone sh.clock) →
      (∀ sh ∈ shared, ∀ k ∈ p.tokenScopes grant, sh.backend.Ready k (sh.clock 0) (s.shared k)) →
      (∀ k ∈ p.scopes grant, (localLimiters p.limit amount).Ready k now (s.limiters k)) →
      Atomic p grant amount shared now s (p.reserveTokens grant amount shared now s) := by
  intro hall
  have hatomic := hall keyedPolicy ⟨some 0⟩ 50 (some (serverWithout (some 2))) 0 unusedStores
    (by rintro sh ⟨⟩ _ _ _; exact le_rfl)
    (by rintro sh ⟨⟩ k - l - v hv; simp [unusedStores] at hv) ready_unusedStores
  have hrejected : (keyedPolicy.reserveTokens ⟨some 0⟩ 50 (some (serverWithout (some 2))) 0
      unusedStores).1 = .ok (.rejected ⟨some .tokens, 60⟩) := by decide +kernel
  rcases hrun : keyedPolicy.reserveTokens ⟨some 0⟩ 50 (some (serverWithout (some 2))) 0
    unusedStores with ⟨decision, s'⟩
  rw [hrun] at hatomic hrejected
  obtain rfl : decision = _ := hrejected
  have hglobal := (hatomic.1 _ rfl .global 0 le_rfl).2
  have hs' : s' = _ := (congrArg Prod.snd hrun).symm
  rw [hs'] at hglobal
  exact absurd hglobal (by decide +kernel)

end FailedRollback

end WayfinderRouter.Access
