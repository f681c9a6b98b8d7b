import WayfinderRouter.RateLimit.Backends
import WayfinderRouter.Timed.Compensation

/-!
# Limits of an access policy

A grant is limited in up to three scopes: the gateway, the workspace of the key and the
key. Each scope has a limiter of its own, in the process or behind the shared backend; the
keys of a workspace share the limiter of the workspace.

Token reservations in several scopes are charges to several accounts. `Backend` is what
the access policy needs of the limiters of one store.

## Main definitions

- `AccessPolicy`, `Scope` — which scopes limit a grant
- `Backend` — limiters as accounts of tokens, with the counters a later call sees
-/

namespace WayfinderRouter.Access

open Redis Timed Timed.Compensation RateLimit RateLimit.Backends

/-- A rate limit as the parser accepts it: some limit is set, the set ones are positive signed
integers and the window is positive. -/
structure Limit where
  rpm : Option ℕ
  tpm : Option ℕ
  window : ℚ
  window_pos : 0 < window
  limited : rpm.isSome ∨ tpm.isSome
  rpm_pos : ∀ n ∈ rpm, 0 < n
  tpm_pos : ∀ n ∈ tpm, 0 < n
  rpm_lt : ∀ n ∈ rpm, n < 2 ^ 63
  tpm_lt : ∀ n ∈ tpm, n < 2 ^ 63

/-- A limit of requests in windows of a minute. -/
def minuteRequests (rpm : ℕ) (hpos : 0 < rpm) (hlt : rpm < 2 ^ 63) : Limit :=
  ⟨some rpm, none, 60, minute_pos, by simp, by simpa using hpos, by simp, by simpa using hlt,
    by simp⟩

/-- A limit of tokens in windows of a minute. -/
def minuteTokens (tpm : ℕ) (hpos : 0 < tpm) (hlt : tpm < 2 ^ 63) : Limit :=
  ⟨none, some tpm, 60, minute_pos, by simp, by simp, by simpa using hpos, by simp,
    by simpa using hlt⟩

/-- The configuration of a limiter in the process, `new_limiter`. -/
def Limit.configuration (l : Limit) : Configuration := ⟨l.rpm, l.tpm, l.window, l.window_pos⟩

/-- `shared_limit_config`. -/
def Limit.config (l : Limit) : StateLimitConfig := ⟨l.rpm, l.tpm, .finite l.window⟩

/-- What the limiters of a policy need to know of a virtual key. -/
structure VirtualKey where
  workspace : Option String
  rateLimit : Option Limit

/-- The limits of a gateway, its known workspaces and its virtual keys. -/
structure AccessPolicy where
  rateLimit : Option Limit
  workspaces : String → Option Limit
  keys : List VirtualKey

/-- `AccessGrant`: the index of the authenticated key, if the caller presented one. -/
structure AccessGrant where
  keyIndex : Option ℕ

inductive Scope where
  | global
  | workspace (id : String)
  | virtualKey (index : ℕ)
deriving DecidableEq

namespace AccessPolicy

variable (p : AccessPolicy)

/-- The limit of a scope. -/
def limit : Scope → Option Limit
  | .global => p.rateLimit
  | .workspace id => p.workspaces id
  | .virtualKey index => (p.keys[index]?).bind VirtualKey.rateLimit

/-- The workspace of a grant's key and the key itself. -/
def keyScopes (grant : AccessGrant) : List Scope :=
  match grant.keyIndex with
  | none => []
  | some index => match p.keys[index]? with
    | none => []
    | some key => (key.workspace.map Scope.workspace).toList ++ [.virtualKey index]

/-- The scopes that limit a grant, in the order in which they are asked. -/
def scopes (grant : AccessGrant) : List Scope :=
  (.global :: p.keyScopes grant).filter fun scope => (p.limit scope).isSome

/-- The scopes that limit the tokens of a grant. The shared policy asks only these. -/
def tokenScopes (grant : AccessGrant) : List Scope :=
  (.global :: p.keyScopes grant).filter fun scope => (p.limit scope).any fun l => l.tpm.isSome

theorem nodup_keyScopes (grant : AccessGrant) : (Scope.global :: p.keyScopes grant).Nodup := by
  rw [keyScopes]
  cases grant.keyIndex with
  | none => simp
  | some index =>
    simp only
    cases p.keys[index]? with
    | none => simp
    | some key => rcases key with ⟨_ | id, rateLimit⟩ <;> simp

theorem nodup_scopes (grant : AccessGrant) : (p.scopes grant).Nodup :=
  (p.nodup_keyScopes grant).filter _

theorem nodup_tokenScopes (grant : AccessGrant) : (p.tokenScopes grant).Nodup :=
  (p.nodup_keyScopes grant).filter _

end AccessPolicy

/-- What a reservation comes to for the loop over the scopes. -/
def outcome {ε : Type} : Except ε ReservationResult → Outcome RateReservation RateResult ε
  | .error e => .failed e
  | .ok result =>
    if !result.rate.allowed then .refused result.rate
    else match result.reservation with
      | some reservation => .charged reservation
      | none => .exempt

/-- Limiters as accounts that are charged `amount` tokens. The counters are those that a call
at the given time would find. -/
structure Backend (τ σ ε : Type) [Preorder τ] (limit : Scope → Option Limit) (amount : ℕ) extends
    Accounts Scope τ σ RateReservation RateResult ε where
  requests : Scope → τ → σ → ℤ
  tokens : Scope → τ → σ → ℤ
  same_iff : ∀ {k t s s'}, Same k t s s' ↔
    ∀ t', t ≤ t' → requests k t' s' = requests k t' s ∧ tokens k t' s' = tokens k t' s
  charged_amount : ∀ {k t s r}, Ready k t s → (charge k t s).1 = .charged r →
    (limit k).any (fun l => l.tpm.isSome) = true ∧
      requests k t (charge k t s).2 = requests k t s ∧
        tokens k t (charge k t s).2 = tokens k t s + amount
  exempt_unlimited : ∀ {k t s}, Ready k t s → (charge k t s).1 = .exempt →
    (limit k).any (fun l => l.tpm.isSome) = false

end WayfinderRouter.Access
