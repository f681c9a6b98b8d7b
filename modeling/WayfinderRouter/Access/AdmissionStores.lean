import WayfinderRouter.Access.Admission
import WayfinderRouter.Access.LocalLimiters
import WayfinderRouter.Access.SharedLimiters

/-!
# The stores that admissions use

The limiters of the process, the memory backend and the shared server, as admission sees
them. Every other operation on a limiter moves it to the current window or changes its token
counter, so the request counters are those of the admissions.

## Main definitions

- `TokenOp` — the operations that count no request
- `localStore`, `memoryStore`, `redisStore` — the three stores
-/

namespace WayfinderRouter.Access

open Redis Timed Timed.Compensation RateLimit RateLimit.Backends

/-- The operations on a limiter that count no request. A policy rolls back only what it
reserved, which are tokens. -/
inductive TokenOp where
  | reserveTokens (tokens : ℕ)
  | reconcile (reservation : RateReservation) (actualTokens : ℕ)
  | rollback (windowId reservedTokens : ℕ)
  | addTokens (tokens : ℕ)
  | snapshot

/-- The call of a backend. -/
def TokenOp.call : TokenOp → Backends.Call
  | .reserveTokens tokens => .reserveTokens tokens
  | .reconcile reservation actualTokens => .reconcile 0 reservation actualTokens
  | .rollback windowId tokens => .rollback 0 ⟨windowId, tokens, false⟩
  | .addTokens tokens => .addTokens tokens
  | .snapshot => .snapshot

section Local

variable {c : Configuration} {s s' : State} {t t' : ℚ} {l : Limit}

/-- The operations on a limiter of the process. -/
def performAt (op : TokenOp) (t : ℚ) (s : State) : State :=
  match op with
  | .reserveTokens tokens => (reserveTokensAt tokens (.finite t) s).2
  | .reconcile reservation actualTokens => (reconcileAt reservation actualTokens (.finite t) s).2
  | .rollback windowId tokens => (rollbackAt ⟨windowId, tokens, false⟩ (.finite t) s).2
  | .addTokens tokens => (addTokensAt tokens (.finite t) s).2
  | .snapshot => (snapshotAt (.finite t) s).2

/-- A limiter that was advanced at most and has its request counter. -/
def Counts (t : ℚ) (s s' : State) : Prop :=
  s'.configuration = s.configuration ∧
    ((s'.windowId = s.windowId ∧ s'.requests = s.requests) ∨
      (s'.windowId = (rolled t s).windowId ∧ s'.requests = (rolled t s).requests))

theorem counts_refl (t : ℚ) (s : State) : Counts t s s := ⟨rfl, .inl ⟨rfl, rfl⟩⟩

theorem counts_rolled (t : ℚ) (s : State) : Counts t s (rolled t s) :=
  ⟨configuration_rolled t s, .inr ⟨rfl, rfl⟩⟩

/-- Advancing reads the configuration, the window and the counter alone. -/
theorem rolled_requests_congr (hconf : s'.configuration = s.configuration)
    (hid : s'.windowId = s.windowId) (hreq : s'.requests = s.requests) :
    (rolled t s').requests = (rolled t s).requests := by
  rw [rolled, rolled, hconf, hid]
  split
  · exact hreq
  · rfl

theorem Counts.requests (counts : Counts t s s') (past : Past c t s) (hle : t ≤ t') :
    (rolled t' s').requests = (rolled t' s).requests := by
  obtain ⟨hconf, ⟨hid, hreq⟩ | ⟨hid, hreq⟩⟩ := counts
  · exact rolled_requests_congr hconf hid hreq
  · rw [← rolled_rolled past hle]
    exact rolled_requests_congr (hconf.trans (configuration_rolled t s).symm) hid hreq

theorem Counts.past (counts : Counts t s s') (past : Past c t s) : Past c t s' := by
  obtain ⟨hconf, ⟨hid, -⟩ | ⟨hid, -⟩⟩ := counts
  · exact ⟨hconf.trans past.1, hid ▸ past.2⟩
  · refine ⟨hconf.trans past.1, ?_⟩
    rw [hid, windowId_rolled, past.1]
    rintro w ⟨⟩
    exact le_rfl

/-- No operation on tokens counts a request. -/
theorem counts_performAt (op : TokenOp) (t : ℚ) (s : State) : Counts t s (performAt op t s) := by
  cases op with
  | reserveTokens tokens =>
    rw [performAt, reserveTokensAt, reserveInner_eq]
    split
    · exact counts_refl t s
    split
    · exact counts_refl t s
    split
    · exact counts_refl t s
    · cases limiting tokens false (rolled t s) with
      | some kind => exact counts_rolled t s
      | none => exact ⟨configuration_rolled t s, .inr ⟨rfl, by simp [charge]⟩⟩
  | reconcile reservation actualTokens =>
    simp only [performAt, reconcileAt]
    cases validateTime (.finite t) with
    | error e => exact counts_refl t s
    | ok now =>
      simp only
      split_ifs
      · exact counts_refl t s
      · exact ⟨rfl, .inl ⟨rfl, rfl⟩⟩
      · exact ⟨rfl, .inl ⟨rfl, rfl⟩⟩
  | rollback windowId tokens =>
    simp only [performAt, rollbackAt]
    cases validateTime (.finite t) with
    | error e => exact counts_refl t s
    | ok now =>
      simp only [Bool.false_eq_true, if_false]
      split_ifs
      · exact counts_refl t s
      · exact ⟨rfl, .inl ⟨rfl, rfl⟩⟩
  | addTokens tokens =>
    rw [performAt, addTokensAt_eq]
    split
    · exact counts_refl t s
    split
    · exact counts_refl t s
    split
    · exact counts_refl t s
    · exact ⟨configuration_rolled t s, .inr ⟨rfl, by simp [charge]⟩⟩
  | snapshot =>
    rw [performAt, snapshotAt_eq]
    split
    · exact counts_refl t s
    · cases s.configuration.rpm with
      | none => exact counts_refl t s
      | some limit =>
        simp only
        split
        · exact counts_refl t s
        · exact counts_rolled t s

/-- What an admission comes to. -/
theorem admitAt_cases (past : Past l.configuration t s) :
    (granted (admitAt (.finite t) s).1 = false ∧ Counts t s (admitAt (.finite t) s).2) ∨
    (granted (admitAt (.finite t) s).1 = true ∧
      (admitAt (.finite t) s).2 = charge 0 true (rolled t s)) := by
  have hactive : s.configuration.Active true := by
    rw [past.1, Configuration.Active]
    rcases l.limited with h | h <;> simp_all [Limit.configuration, Option.isSome_iff_ne_none]
  simp only [admitAt, reserveAt, reserveInner_eq]
  by_cases hneg : t < 0
  · simp only [hneg, if_true]
    exact .inl ⟨rfl, counts_refl t s⟩
  by_cases hcount : s.configuration.Countable t
  swap
  · simp only [hneg, hactive, hcount, if_false, not_true_eq_false, not_false_eq_true, if_true]
    exact .inl ⟨rfl, counts_refl t s⟩
  simp only [hneg, hactive, hcount, if_false, not_true_eq_false]
  cases limiting 0 true (rolled t s) with
  | some kind => exact .inl ⟨rfl, counts_rolled t s⟩
  | none => exact .inr ⟨rfl, rfl⟩

/-- A limiter of the current window at a later time. -/
theorem requests_rolled_of_windowId (hconf : s.configuration = c)
    (hid : s.windowId = some (c.windowAt t)) :
    (rolled t' s).requests = if c.windowAt t = c.windowAt t' then s.requests else 0 := by
  rw [rolled, hconf, hid]
  by_cases h : c.windowAt t = c.windowAt t'
  · rw [if_pos (congrArg some h), if_pos h]
  · rw [if_neg (by simpa using h), if_neg h]

/-- An admission that is granted counts a request of its window. -/
theorem admitAt_granted (past : Past l.configuration t s)
    (hgranted : granted (admitAt (.finite t) s).1 = true)
    (hfits : (rolled t s).requests < U64.max) (hle : t ≤ t') :
    ((rolled t' (admitAt (.finite t) s).2).requests : ℤ) = (rolled t' s).requests +
      if l.configuration.windowAt t = l.configuration.windowAt t' then 1 else 0 := by
  obtain ⟨hfalse, -⟩ | ⟨-, hstate⟩ := admitAt_cases past
  · rw [hgranted] at hfalse
    exact absurd hfalse (by simp)
  have hconf : (rolled t s).configuration = l.configuration :=
    (configuration_rolled t s).trans past.1
  have hid : (rolled t s).windowId = some (l.configuration.windowAt t) := by
    rw [windowId_rolled, past.1]
  rw [hstate, ← rolled_rolled past hle, requests_rolled_of_windowId hconf hid,
    requests_rolled_of_windowId (s := charge 0 true (rolled t s)) hconf hid]
  have hcharge : (charge 0 true (rolled t s)).requests = (rolled t s).requests + 1 :=
    U64.saturatingAdd_eq hfits
  split
  · rw [hcharge, Nat.cast_add, Nat.cast_one]
  · rfl

theorem admitAt_past (past : Past l.configuration t s) :
    Past l.configuration t (admitAt (.finite t) s).2 := by
  obtain ⟨-, counts⟩ | ⟨-, hstate⟩ := admitAt_cases past
  · exact counts.past past
  · rw [hstate]
    exact (counts_rolled t s).past past

/-- The limiters of the process. -/
def localStore : LimiterStore ℚ State RateLimitError where
  Op := TokenOp
  initial l := State.initial l.configuration
  admitRequest _ t s := admitAt (.finite t) s
  perform _ op t s := performAt op t s
  requests _ t s := (rolled t s).requests
  window l t := l.configuration.windowAt t
  Servable _ _ := True
  Ready l t s := Past l.configuration t s
  servable_of_le := fun _ h => h
  ready_initial := by
    intro l t
    exact ⟨rfl, by simp [State.initial]⟩
  requests_initial := by
    intro l t
    simp [rolled, State.initial]
  ready_mono := fun hle past => past.mono hle
  ready_admitRequest := fun _ past => admitAt_past past
  ready_perform := by
    intro l op t s _ past
    exact (counts_performAt op t s).past past
  requests_granted := by
    intro l t t' s past hgranted hfits hle
    exact admitAt_granted past hgranted (by exact_mod_cast hfits) hle
  requests_refused := by
    intro l t t' s past hrefused hle
    obtain ⟨-, counts⟩ | ⟨htrue, -⟩ := admitAt_cases past
    · exact congrArg Nat.cast (counts.requests past hle)
    · rw [hrefused] at htrue
      exact absurd htrue (by simp)
  window_mono := by
    intro l t t' hle
    exact l.configuration.windowAt_mono hle
  requests_perform := by
    intro l op t t' s past hle
    exact congrArg Nat.cast ((counts_performAt op t s).requests past hle)

/-- The memory backend performs an operation on the limiter of the key. -/
theorem limiterOf_call {m : Option State} (past : Past l.configuration t (limiterOf l m))
    (op : TokenOp) :
    limiterOf l (Memory.call l.config t m op.call).2 = performAt op t (limiterOf l m) := by
  have hvalid : l.config.validate = .ok l.window := if_neg (not_le.mpr l.window_pos)
  cases op with
  | snapshot =>
    simp only [TokenOp.call, Memory.call, hvalid]
    by_cases hrpm : l.config.rpm.isNone = true
    · rw [if_pos hrpm]
      have hnone : (limiterOf l m).configuration.rpm = none := by
        rw [past.1]
        exact Option.isNone_iff_eq_none.mp hrpm
      simp only [performAt, snapshotAt_eq, hnone]
      split <;> rfl
    · rw [if_neg hrpm, onLimiter_limit]
      rfl
  | _ =>
    simp only [TokenOp.call, Memory.call, onLimiter_limit]
    rfl

theorem granted_mapError {ε ε' : Type} (f : ε → ε') (result : Except ε RateResult) :
    granted (result.mapError f) = granted result := by
  cases result <;> rfl

/-- The limiters of the memory backend. -/
def memoryStore : LimiterStore ℚ (Option State) StateBackendError where
  Op := TokenOp
  initial _ := none
  admitRequest l t m := Memory.onLimiter l.config (admitAt (.finite t)) m
  perform l op t m := (Memory.call l.config t m op.call).2
  requests l t m := (rolled t (limiterOf l m)).requests
  window l t := l.configuration.windowAt t
  Servable _ _ := True
  Ready l t m := Past l.configuration t (limiterOf l m)
  servable_of_le := fun _ h => h
  ready_initial := localStore.ready_initial
  requests_initial := localStore.requests_initial
  ready_mono := fun hle past => past.mono hle
  ready_admitRequest := by
    intro l t m _ past
    rw [onLimiter_limit]
    exact admitAt_past past
  ready_perform := by
    intro l op t m _ past
    rw [limiterOf_call past]
    exact localStore.ready_perform trivial past
  requests_granted := by
    intro l t t' m past hgranted hfits hle
    rw [onLimiter_limit] at hgranted ⊢
    exact localStore.requests_granted past ((granted_mapError _ _).symm.trans hgranted) hfits hle
  requests_refused := by
    intro l t t' m past hrefused hle
    rw [onLimiter_limit] at hrefused ⊢
    exact localStore.requests_refused past ((granted_mapError _ _).symm.trans hrefused) hle
  window_mono := localStore.window_mono
  requests_perform := by
    intro l op t t' m past hle
    rw [limiterOf_call past]
    exact localStore.requests_perform past hle

end Local

section Redis

variable {w t t' : ℕ} {key key' : LimitKey} {l : Limit}

/-- The keys that scripts up to a time can leave. A key with a deadline outlives its window. -/
def HeldKey (w t : ℕ) (key : LimitKey) : Prop :=
  ∀ v, key.hget .window = some v → ∃ x : ℕ, v = x ∧ x ≤ t / w ∧
    ∀ d ∈ key.deadline?, (x + 1) * w ≤ d

theorem HeldKey.dated (held : HeldKey w t key) : Dated w t key := by
  intro v hv
  obtain ⟨x, rfl, hx, -⟩ := held v hv
  exact_mod_cast hx

theorem HeldKey.mono (held : HeldKey w t key) (hle : t ≤ t') : HeldKey w t' key := by
  intro v hv
  obtain ⟨x, hvx, hx, hd⟩ := held v hv
  exact ⟨x, hvx, hx.trans (Nat.div_le_div_right hle), hd⟩

theorem HeldKey.congr (held : HeldKey w t key) (hdeadline : key'.deadline? = key.deadline?)
    (hwindow : key'.hget .window = key.hget .window) : HeldKey w t key' := by
  rw [HeldKey, hdeadline, hwindow]
  exact held

theorem heldKey_none : HeldKey w t none := by
  intro v hv
  simp at hv

theorem HeldKey.live (held : HeldKey w t key) : HeldKey w t (key.live t) := by
  by_cases hlapsed : key.Lapsed t
  · rw [Key.live_of_lapsed hlapsed]
    exact heldKey_none
  · rw [Key.live_of_not_lapsed hlapsed]
    exact held

/-- Deleting a lapsed key changes nothing that a script can see. -/
theorem seenAt_live (field : Field) (hle : t ≤ t') :
    seenAt w field t' (key.live t) = seenAt w field t' key := by
  by_cases hlapsed : key.Lapsed t
  · rw [Key.live_of_lapsed hlapsed, seenAt_of_lapsed (lapsed_mono hlapsed hle)]
    exact seenAt_of_counter rfl
  · rw [Key.live_of_not_lapsed hlapsed]

theorem hget_window_openKey (w t : ℕ) (key : LimitKey) :
    (openKey w t key).hget .window = some ((t / w : ℕ) : ℤ) := by
  by_cases hw : (key.live t).hget .window = some ((t / w : ℕ) : ℤ)
  · rw [openKey, if_pos hw]
    exact hw
  · rw [openKey, if_neg hw, Key.hget_pexpire]
    simp [reset, Key.hget_hset]

theorem HeldKey.openKey (held : HeldKey w t key) (hw : 0 < w) :
    HeldKey w t (Access.openKey w t key) := by
  by_cases hwindow : (key.live t).hget .window = some ((t / w : ℕ) : ℤ)
  · rw [Access.openKey, if_pos hwindow]
    exact held.live
  · intro v hv
    rw [hget_window_openKey] at hv
    refine ⟨t / w, (Option.some.inj hv).symm, le_rfl, ?_⟩
    rw [Access.openKey, if_neg hwindow]
    intro d hd
    have hdeadline : d = t + max (w * 2) 1000 :=
      Option.some.inj (hd.symm.trans (Key.deadline?_hset_pexpire t _ Field.tokens (0 : ℤ) _))
    have hfloor : t / w * w ≤ t := Nat.div_mul_le_self t w
    have := le_max_left (w * 2) 1000
    rw [hdeadline, Nat.add_mul]
    omega

/-- The key keeps its deadline, its window and its requests. -/
def TokensOnly (key key' : LimitKey) : Prop :=
  key'.deadline? = key.deadline? ∧ key'.hget .window = key.hget .window ∧
    counter .requests key' = counter .requests key

theorem tokensOnly_refl (key : LimitKey) : TokensOnly key key := ⟨rfl, rfl, rfl⟩

theorem tokensOnly_hincrby (delta : ℤ) (key : LimitKey) :
    TokensOnly key (hincrby .tokens delta key) :=
  ⟨rfl, hget_window_hincrby (by simp) _ _, (counter_hincrby _ _ _ _).trans (if_neg (by simp))⟩

/-- A script that works on the tokens of the opened key. -/
theorem HeldKey.perform (held : HeldKey w t key) (hw : 0 < w)
    (h : TokensOnly key key' ∨ TokensOnly (key.live t) key' ∨
      TokensOnly (Access.openKey w t key) key') :
    HeldKey w t key' ∧ ∀ t', t ≤ t' → seenAt w .requests t' key' = seenAt w .requests t' key := by
  obtain ⟨hdeadline, hwindow, hcounter⟩ | ⟨hdeadline, hwindow, hcounter⟩ |
    ⟨hdeadline, hwindow, hcounter⟩ := h
  · exact ⟨held.congr hdeadline hwindow, fun t' _ => seenAt_congr hdeadline hwindow hcounter⟩
  · refine ⟨held.live.congr hdeadline hwindow, ?_⟩
    intro t' hle
    exact (seenAt_congr hdeadline hwindow hcounter).trans (seenAt_live _ hle)
  · refine ⟨(held.openKey hw).congr hdeadline hwindow, ?_⟩
    intro t' hle
    exact (seenAt_congr hdeadline hwindow hcounter).trans
      (held.dated.seenAt_openKey hle (by simp))

/-- What an operation on tokens does to a key. -/
theorem call_cases (l : Limit) (op : TokenOp) (t : ℕ) (key : LimitKey) :
    (¬Openable (Shared.windowMs l.window) t key ∧ (Shared.call l.config t key op.call).2 =
        reset (t / Shared.windowMs l.window) (key.live t)) ∨
      TokensOnly key (Shared.call l.config t key op.call).2 ∨
      TokensOnly (key.live t) (Shared.call l.config t key op.call).2 ∨
      TokensOnly (openKey (Shared.windowMs l.window) t key)
        (Shared.call l.config t key op.call).2 := by
  cases op with
  | reserveTokens tokens =>
    simp only [TokenOp.call, Shared.call]
    obtain ⟨-, heq⟩ | ⟨hopen, e, heq⟩ | ⟨retry, heq⟩ | ⟨-, heq⟩ :=
      reserveTokens_cases l tokens t key
    · rw [heq]
      exact .inr (.inl (tokensOnly_refl key))
    · rw [heq]
      exact .inl ⟨hopen, rfl⟩
    · rw [heq]
      exact .inr (.inr (.inr (tokensOnly_refl _)))
    · rw [heq]
      exact .inr (.inr (.inr (tokensOnly_hincrby _ _)))
  | reconcile reservation actualTokens =>
    simp only [TokenOp.call, Shared.call, Shared.reconcile, l.validate_config, reconcileScript]
    refine .inr (.inr (.inl ?_))
    split
    · exact tokensOnly_refl _
    · exact tokensOnly_hincrby _ _
  | rollback windowId tokens =>
    simp only [TokenOp.call, Shared.call, Shared.rollback, l.validate_config, rollbackScript,
      Bool.false_eq_true, if_false, Nat.zero_ne_one]
    refine .inr (.inr (.inl ?_))
    split
    · exact tokensOnly_refl _
    · refine ⟨rfl, ?_, ?_⟩
      · exact (Key.hget_hset _ _ _ _).trans (if_neg (by simp))
      · exact congrArg (Option.getD · 0) ((Key.hget_hset _ _ _ _).trans (if_neg (by simp)))
  | addTokens tokens =>
    simp only [TokenOp.call, Shared.call, Shared.addTokens, l.validate_config, addTokensScript]
    by_cases hopen : Openable (Shared.windowMs l.window) t key
    · rw [inWindow_of_openable hopen]
      exact .inr (.inr (.inr (tokensOnly_hincrby _ _)))
    · rw [inWindow_of_not_openable hopen]
      exact .inl ⟨hopen, rfl⟩
  | snapshot =>
    simp only [TokenOp.call, Shared.call, Shared.snapshot, l.validate_config, snapshotScript]
    cases l.config.rpm with
    | none => exact .inr (.inl (tokensOnly_refl key))
    | some limit =>
      by_cases hopen : Openable (Shared.windowMs l.window) t key
      · simp only [inWindow_of_openable hopen]
        exact .inr (.inr (.inr (tokensOnly_refl _)))
      · simp only [inWindow_of_not_openable hopen]
        exact .inl ⟨hopen, rfl⟩

/-- What an admission does to a key. -/
theorem admitRequest_cases (l : Limit) (t : ℕ) (key : LimitKey) :
    (¬Openable (Shared.windowMs l.window) t key ∧
        granted (Shared.admitRequest l.config t key).1 = false ∧
        (Shared.admitRequest l.config t key).2 =
          reset (t / Shared.windowMs l.window) (key.live t)) ∨
      (granted (Shared.admitRequest l.config t key).1 = false ∧
        (Shared.admitRequest l.config t key).2 = openKey (Shared.windowMs l.window) t key) ∨
      (granted (Shared.admitRequest l.config t key).1 = true ∧
        (Shared.admitRequest l.config t key).2 =
          hincrby .requests 1 (openKey (Shared.windowMs l.window) t key)) := by
  simp only [Shared.admitRequest, l.validate_config, admitScript]
  generalize Shared.windowMs l.window = w
  by_cases hopen : Openable w t key
  swap
  · rw [inWindow_of_not_openable hopen]
    exact .inl ⟨hopen, rfl, rfl⟩
  rw [inWindow_of_openable hopen]
  have hretry := retrySeconds_nonneg w t
  split_ifs with hrpm htpm
  · refine .inr (.inl ⟨?_, rfl⟩)
    simp [Shared.reply, redisResult_requests hretry, granted, RateResult.allowed]
  · refine .inr (.inl ⟨?_, rfl⟩)
    simp [Shared.reply, redisResult_tokens hretry, granted, RateResult.allowed]
  · exact .inr (.inr ⟨rfl, rfl⟩)

theorem openable_of_expirable (h : Key.Expirable t (max (w * 2) 1000)) : Openable w t key := .inr h

/-- A reset key reads as zero, as it did before. -/
theorem HeldKey.seenAt_reset (held : HeldKey w t key) (h : ¬Openable w t key) (hle : t ≤ t') :
    seenAt w .requests t' (reset (t / w) (key.live t)) = seenAt w .requests t' key := by
  rw [held.dated.seenAt_eq_zero (not_or.mp h).1 hle]
  exact seenAt_of_counter (counter_reset _ _ (by simp))

/-- An admission that is granted counts a request of its window. -/
theorem HeldKey.seenAt_hincrby (held : HeldKey w t key) (hw : 0 < w) (hle : t ≤ t') :
    seenAt w .requests t' (hincrby .requests 1 (Access.openKey w t key)) =
      seenAt w .requests t' key + if t / w = t' / w then 1 else 0 := by
  rw [← held.dated.seenAt_openKey hle (by simp : Field.requests ≠ .window)]
  have hwindow := hget_window_openKey w t key
  obtain ⟨x, hx, -, hdeadline⟩ := held.openKey hw _ hwindow
  obtain rfl : t / w = x := by exact_mod_cast hx
  by_cases hsame : t / w = t' / w
  · -- The key outlives its window.
    have hlapsed : ¬(Access.openKey w t key).Lapsed t' := by
      rintro ⟨d, hd, hdt⟩
      have := hdeadline d hd
      have := Nat.lt_div_mul_add hw (a := t')
      rw [hsame, Nat.add_mul] at *
      omega
    have hlapsed' : ¬(hincrby .requests 1 (Access.openKey w t key)).Lapsed t' := hlapsed
    rw [seenAt, seenAt, Key.live_of_not_lapsed hlapsed, Key.live_of_not_lapsed hlapsed',
      seenShared, seenShared, hget_window_hincrby (by simp), hwindow, ← hsame, if_pos rfl,
      if_pos rfl, if_pos rfl, counter_hincrby, if_pos rfl]
  · have hne : ∀ key' : LimitKey, key'.hget .window = some ((t / w : ℕ) : ℤ) →
        seenAt w .requests t' key' = 0 := by
      intro key' hkey'
      by_cases hlapsed : key'.Lapsed t'
      · exact seenAt_of_lapsed hlapsed
      · rw [seenAt, Key.live_of_not_lapsed hlapsed, seenShared, hkey', if_neg]
        intro heq
        exact hsame (by exact_mod_cast Option.some.inj heq)
    rw [hne _ hwindow, hne _ ((hget_window_hincrby (by simp) _ _).trans hwindow), if_neg hsame]
    rfl

theorem windowMs_pos (l : Limit) : 0 < Shared.windowMs l.window := by
  rw [Shared.windowMs, U64.max]
  have := le_max_right ⌈l.window * 1000⌉ 1
  omega

/-- The limit keys of the server. -/
def redisStore : LimiterStore ℕ LimitKey StateBackendError where
  Op := TokenOp
  initial _ := none
  admitRequest l t key := Shared.admitRequest l.config t key
  perform l op t key := (Shared.call l.config t key op.call).2
  requests l t key := seenAt (Shared.windowMs l.window) .requests t key
  window l t := t / Shared.windowMs l.window
  Servable l t := Key.Expirable t (max (Shared.windowMs l.window * 2) 1000)
  Ready l t key := HeldKey (Shared.windowMs l.window) t key
  servable_of_le := fun hle h => Key.Expirable.of_le hle h
  ready_initial := fun l t => heldKey_none
  requests_initial := fun l t => seenAt_of_counter rfl
  ready_mono := fun hle held => held.mono hle
  ready_admitRequest := by
    intro l t key servable held
    obtain ⟨hopen, -⟩ | ⟨-, heq⟩ | ⟨-, heq⟩ := admitRequest_cases l t key
    · exact absurd (openable_of_expirable servable) hopen
    · rw [heq]
      exact held.openKey (windowMs_pos l)
    · rw [heq]
      exact (held.openKey (windowMs_pos l)).congr rfl (hget_window_hincrby (by simp) _ _)
  ready_perform := by
    intro l op t key servable held
    obtain ⟨hopen, -⟩ | htokens := call_cases l op t key
    · exact absurd (openable_of_expirable servable) hopen
    · exact (held.perform (windowMs_pos l) htokens).1
  requests_granted := by
    intro l t t' key held hgranted _ hle
    obtain ⟨-, hfalse, -⟩ | ⟨hfalse, -⟩ | ⟨-, heq⟩ := admitRequest_cases l t key
    · simp [hgranted] at hfalse
    · simp [hgranted] at hfalse
    · rw [heq]
      exact held.seenAt_hincrby (windowMs_pos l) hle
  requests_refused := by
    intro l t t' key held hrefused hle
    obtain ⟨hopen, -, heq⟩ | ⟨-, heq⟩ | ⟨htrue, -⟩ := admitRequest_cases l t key
    · rw [heq]
      exact held.seenAt_reset hopen hle
    · rw [heq]
      exact held.dated.seenAt_openKey hle (by simp)
    · simp [hrefused] at htrue
  window_mono := fun hle => Nat.div_le_div_right hle
  requests_perform := by
    intro l op t t' key held hle
    obtain ⟨hopen, heq⟩ | htokens := call_cases l op t key
    · rw [heq]
      exact held.seenAt_reset hopen hle
    · exact (held.perform (windowMs_pos l) htokens).2 t' hle

end Redis

/-- **Admission of keys**: in the process and behind either backend, a workspace counts the
admitted requests of its keys as long as no call leaks a slot, and a refused admission changes a
request counter only by leaking one. -/
theorem admissions_fair (p : AccessPolicy) :
    Fair .process p localStore ∧ Fair .shared p memoryStore ∧ Fair .shared p redisStore :=
  ⟨fair .process p localStore, fair .shared p memoryStore, fair .shared p redisStore⟩

section Team

/-- Two requests a minute for a team of two keys, and one for its first key. -/
def teamPolicy : AccessPolicy :=
  ⟨none, fun id => if id = "team" then some (minuteRequests 2 (by decide) (by decide)) else none,
    [⟨some "team", some (minuteRequests 1 (by decide) (by decide))⟩, ⟨some "team", none⟩]⟩

/-- The request of a key at a time, over a line that serves it. -/
def request (index : ℕ) (t : ℚ) : Call ℚ RateLimitError TokenOp :=
  .admitKey ⟨some index⟩ .served .served t

def unusedTeam : Scope → State :=
  fresh teamPolicy localStore fun _ => State.initial ⟨none, none, 60, minute_pos⟩

/-- The limiters of the team after the given calls, newest call first. -/
def team (calls : List (ℚ × Call ℚ RateLimitError TokenOp)) :
    History localStore × (Scope → State) :=
  (serve .process teamPolicy localStore).replay unusedTeam calls

theorem time_le_of_mem_team {e : Event ℚ (Call ℚ RateLimitError TokenOp)
    (Option (Except RateLimitError (Option RateResult)))} {index : ℕ}
    (he : e ∈ (team [(0, request index 0)]).1) : e.time ≤ 1 := by
  obtain rfl := List.mem_singleton.mp he
  exact zero_le_one

theorem admissions_fair_team :
    localStore.requests (minuteRequests 2 (by decide) (by decide)) 1
        ((team [(1, request 1 1), (0, request 0 0)]).2 (.workspace "team")) =
      admittedIn teamPolicy localStore "team" (minuteRequests 2 (by decide) (by decide))
        (localStore.window (minuteRequests 2 (by decide) (by decide)) 1)
        (team [(1, request 1 1), (0, request 0 0)]).1 ∧
    admittedIn teamPolicy localStore "team" (minuteRequests 2 (by decide) (by decide)) 0
      (team [(1, request 1 1), (0, request 0 0)]).1 = 2 := by
  have hservable : AllServable localStore teamPolicy 1 := fun _ _ _ => trivial
  have hfirst : (serve .process teamPolicy localStore).Run (Ok teamPolicy localStore) unusedTeam
      (team [(0, request 0 0)]).1 (team [(0, request 0 0)]).2 := by
    refine .cons 0 (request 0 0) .nil (by rintro e ⟨⟩) ⟨by decide, fun _ _ _ => trivial,
      ⟨by rintro e ⟨⟩, le_rfl⟩, not_leaks (by decide +kernel) (by decide +kernel)⟩
  have run : (serve .process teamPolicy localStore).Run (Ok teamPolicy localStore) unusedTeam
      (team [(1, request 1 1), (0, request 0 0)]).1
      (team [(1, request 1 1), (0, request 0 0)]).2 := by
    refine .cons 1 (request 1 1) hfirst (fun e he => time_le_of_mem_team he) ⟨by decide, hservable,
      ⟨fun e he => time_le_of_mem_team he, le_rfl⟩,
      not_leaks (by decide +kernel) (by decide +kernel)⟩
  refine ⟨?_, by decide +kernel⟩
  refine ((admissions_fair teamPolicy).1 _ _ _ run).1 1 ?_ "team" _ rfl
  intro e he
  rcases List.mem_cons.mp he with rfl | he
  · exact le_rfl
  · exact time_le_of_mem_team he

/-- The first key is refused its second request, and the team has no slot left for the other
key: the workspace counts two requests, of which one was admitted. -/
theorem refused_request_takes_slot :
    ¬∀ (p : AccessPolicy) (unlimited : Scope → State) (h : History localStore) (S : Scope → State),
      (serve .process p localStore).Run (Served p localStore) (fresh p localStore unlimited) h S →
        CountsAdmitted p localStore h S := by
  intro hall
  have hfirst : (serve .process teamPolicy localStore).Run (Served teamPolicy localStore) unusedTeam
      (team [(0, request 0 0)]).1 (team [(0, request 0 0)]).2 :=
    .cons 0 (request 0 0) .nil (by rintro e ⟨⟩) ⟨by decide, fun _ _ _ => trivial,
      by rintro e ⟨⟩, le_rfl⟩
  have run : (serve .process teamPolicy localStore).Run (Served teamPolicy localStore) unusedTeam
      (team [(1, request 0 1), (0, request 0 0)]).1
      (team [(1, request 0 1), (0, request 0 0)]).2 :=
    .cons 1 (request 0 1) hfirst (fun e he => time_le_of_mem_team he) ⟨by decide,
      fun _ _ _ => trivial, fun e he => time_le_of_mem_team he, le_rfl⟩
  have hcounts := hall _ _ _ _ run 1 ?_ "team" _ rfl
  · exact absurd hcounts (by decide +kernel)
  · intro e he
    rcases List.mem_cons.mp he with rfl | he
    · exact le_rfl
    · exact time_le_of_mem_team he

end Team

end WayfinderRouter.Access
