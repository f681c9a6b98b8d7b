import WayfinderRouter.Access.Scopes

/-!
# Limiters in the process

The limiters of the process and the memory backend as accounts of tokens. A limiter that was
advanced to a later window looks like one that was not, so states are compared by what a
call finds after advancing them.

## Main definitions

- `Past` — the states that calls up to a time can leave
- `Alike` — the states that no later call can tell apart
- `localLimiters`, `memoryBackend` — the two stores
-/

namespace WayfinderRouter.Access

open Redis Timed Timed.Compensation RateLimit RateLimit.Backends

variable {c : Configuration} {s : State} {t t' : ℚ} {n : ℕ}

/-- The states of a limiter that calls up to a time can leave. -/
def Past (c : Configuration) (t : ℚ) (s : State) : Prop :=
  s.configuration = c ∧ ∀ w ∈ s.windowId, w ≤ c.windowAt t

theorem Past.mono (past : Past c t s) (hle : t ≤ t') : Past c t' s :=
  ⟨past.1, fun w hw => (past.2 w hw).trans (c.windowAt_mono hle)⟩

/-- Advancing twice is advancing once. -/
theorem rolled_rolled (past : Past c t s) (hle : t ≤ t') :
    rolled t' (rolled t s) = rolled t' s := by
  obtain ⟨rfl, hwindow⟩ := past
  have hmono := s.configuration.windowAt_mono hle
  by_cases hid : s.windowId = some (s.configuration.windowAt t)
  · have hs : rolled t s = s := if_pos hid
    rw [hs]
  · have hs : rolled t s = { s with
        windowId := some (s.configuration.windowAt t), requests := 0, tokens := 0 } := if_neg hid
    have hne : s.windowId ≠ some (s.configuration.windowAt t') := by
      intro heq
      have := hwindow _ heq
      exact hid (heq.trans (congrArg some (le_antisymm this hmono)))
    rw [hs, rolled, rolled, if_neg hne]
    by_cases hsame : s.configuration.windowAt t = s.configuration.windowAt t'
    · simp [hsame]
    · simp [hsame]

/-- The states that no later call can tell apart. -/
def Alike (t : ℚ) (s s' : State) : Prop :=
  ∀ t', t ≤ t' → (rolled t' s').requests = (rolled t' s).requests ∧
    (rolled t' s').tokens = (rolled t' s).tokens

theorem alike_rolled (past : Past c t s) : Alike t s (rolled t s) := by
  intro t' hle
  rw [rolled_rolled past hle]
  exact ⟨rfl, rfl⟩

/-- What reserving tokens in one limiter comes to. -/
theorem reserveTokensAt_cases (past : Past c t s) (hlt : ∀ tpm ∈ c.tpm, tpm < 2 ^ 63) :
    (∃ e, (reserveTokensAt n (.finite t) s) = (.error e, s)) ∨
    (c.tpm = none ∧ reserveTokensAt n (.finite t) s = (.ok ⟨admitted, none⟩, s)) ∨
    (∃ kind, reserveTokensAt n (.finite t) s =
      (.ok ⟨rejected kind (rolled t s) t, none⟩, rolled t s)) ∨
    (0 ≤ t ∧ c.tpm.isSome ∧ (rolled t s).tokens + n < 2 ^ 63 ∧ reserveTokensAt n (.finite t) s =
      (.ok ⟨admitted, some ⟨c.windowAt t, n, false⟩⟩,
        { rolled t s with tokens := (rolled t s).tokens + n })) := by
  obtain ⟨rfl, -⟩ := past
  rw [reserveTokensAt, reserveInner_eq]
  by_cases hneg : t < 0
  · exact .inl ⟨_, if_pos hneg⟩
  rw [if_neg hneg]
  by_cases hactive : s.configuration.Active false
  swap
  · refine .inr (.inl ⟨?_, if_pos hactive⟩)
    simpa [Configuration.Active] using hactive
  rw [if_neg (not_not.mpr hactive)]
  by_cases hcount : s.configuration.Countable t
  swap
  · exact .inl ⟨_, if_pos hcount⟩
  rw [if_neg (not_not.mpr hcount)]
  have hsome : s.configuration.tpm.isSome := by
    rw [Option.isSome_iff_ne_none]
    simpa [Configuration.Active] using hactive
  cases hlim : limiting n false (rolled t s) with
  | some kind => exact .inr (.inr (.inl ⟨kind, rfl⟩))
  | none =>
    obtain ⟨tpm, htpm⟩ := Option.isSome_iff_exists.mp hsome
    have hbound := hlt tpm htpm
    have hfree := (limiting_eq_none hlim).2 tpm (by rw [configuration_rolled]; exact htpm)
    have hsum : (rolled t s).tokens + n < 2 ^ 63 := by
      rw [U64.saturatingAdd, U64.max] at hfree
      split at hfree <;> omega
    refine .inr (.inr (.inr ⟨not_lt.mp hneg, hsome, hsum, ?_⟩))
    have hsat : U64.saturatingAdd (rolled t s).tokens n = (rolled t s).tokens + n :=
      U64.saturatingAdd_eq (by rw [U64.max]; omega)
    simp [charge, hsat]

/-- Taking back what was just charged. -/
theorem rollbackAt_charged (ht : 0 ≤ t') (hid : s.windowId = some (c.windowAt t)) :
    rollbackAt ⟨c.windowAt t, n, false⟩ (.finite t') { s with tokens := s.tokens + n } =
      (.ok true, s) := by
  rw [rollbackAt_of_eq ht hid]
  simp

/-- A reservation that was charged. -/
theorem reserveTokensAt_charged (past : Past c t s) (hlt : ∀ tpm ∈ c.tpm, tpm < 2 ^ 63)
    {r : RateReservation} (h : outcome (reserveTokensAt n (.finite t) s).1 = .charged r) :
    0 ≤ t ∧ c.tpm.isSome ∧ r = ⟨c.windowAt t, n, false⟩ ∧
      (reserveTokensAt n (.finite t) s).2 =
        { rolled t s with tokens := (rolled t s).tokens + n } := by
  obtain ⟨e, heq⟩ | ⟨-, heq⟩ | ⟨kind, heq⟩ | ⟨ht, htpm, -, heq⟩ :=
    reserveTokensAt_cases (n := n) past hlt
  · simp [heq, outcome] at h
  · simp [heq, outcome, admitted, RateResult.allowed] at h
  · simp [heq, outcome, rejected, RateResult.allowed] at h
  · rw [heq] at h ⊢
    refine ⟨ht, htpm, ?_, rfl⟩
    simpa [outcome, admitted, RateResult.allowed, eq_comm] using h

/-- A reservation that was not charged. -/
theorem reserveTokensAt_alike (past : Past c t s) (hlt : ∀ tpm ∈ c.tpm, tpm < 2 ^ 63)
    (h : ∀ r, outcome (reserveTokensAt n (.finite t) s).1 ≠ .charged r) :
    Alike t s (reserveTokensAt n (.finite t) s).2 := by
  obtain ⟨e, heq⟩ | ⟨-, heq⟩ | ⟨kind, heq⟩ | ⟨-, -, -, heq⟩ :=
    reserveTokensAt_cases (n := n) past hlt
  · rw [heq]
    exact fun t' _ => ⟨rfl, rfl⟩
  · rw [heq]
    exact fun t' _ => ⟨rfl, rfl⟩
  · rw [heq]
    exact alike_rolled past
  · refine absurd ?_ (h ⟨c.windowAt t, n, false⟩)
    rw [heq]
    rfl

/-- A reservation that is not counted. -/
theorem reserveTokensAt_exempt (past : Past c t s) (hlt : ∀ tpm ∈ c.tpm, tpm < 2 ^ 63)
    (h : outcome (reserveTokensAt n (.finite t) s).1 = .exempt) : c.tpm = none := by
  obtain ⟨e, heq⟩ | ⟨htpm, -⟩ | ⟨kind, heq⟩ | ⟨-, -, -, heq⟩ :=
    reserveTokensAt_cases (n := n) past hlt
  · simp [heq, outcome] at h
  · exact htpm
  · simp [heq, outcome, rejected, RateResult.allowed] at h
  · simp [heq, outcome, admitted, RateResult.allowed] at h

/-- A charge that is taken back is not seen by any later call. -/
theorem rollbackAt_alike (past : Past c t s) (hlt : ∀ tpm ∈ c.tpm, tpm < 2 ^ 63)
    {r : RateReservation} (h : outcome (reserveTokensAt n (.finite t) s).1 = .charged r)
    (hle : t ≤ t') :
    (rollbackAt r (.finite t') (reserveTokensAt n (.finite t) s).2).1 = .ok true ∧
      Alike t' s (rollbackAt r (.finite t') (reserveTokensAt n (.finite t) s).2).2 := by
  obtain ⟨ht, -, rfl, hstate⟩ := reserveTokensAt_charged past hlt h
  have hid : (rolled t s).windowId = some (c.windowAt t) := by
    rw [windowId_rolled, past.1]
  rw [hstate, rollbackAt_charged (ht.trans hle) hid]
  exact ⟨rfl, fun t'' hle' => alike_rolled past t'' (hle.trans hle')⟩

/-- A charge shows in the token counter and nowhere else. -/
theorem reserveTokensAt_amount (past : Past c t s) (hlt : ∀ tpm ∈ c.tpm, tpm < 2 ^ 63)
    {r : RateReservation} (h : outcome (reserveTokensAt n (.finite t) s).1 = .charged r) :
    c.tpm.isSome ∧ (rolled t (reserveTokensAt n (.finite t) s).2).requests = (rolled t s).requests ∧
      (rolled t (reserveTokensAt n (.finite t) s).2).tokens = (rolled t s).tokens + n := by
  obtain ⟨-, htpm, -, hstate⟩ := reserveTokensAt_charged past hlt h
  have hid : (rolled t s).windowId = some ((rolled t s).configuration.windowAt t) := by
    rw [windowId_rolled, configuration_rolled]
  have hagain : rolled t { rolled t s with tokens := (rolled t s).tokens + n } =
      { rolled t s with tokens := (rolled t s).tokens + n } := if_pos hid
  rw [hstate, hagain]
  exact ⟨htpm, rfl, rfl⟩

/-- The limiters of the process. -/
def localLimiters (limit : Scope → Option Limit) (amount : ℕ) :
    Backend ℚ State RateLimitError limit amount where
  charge _ t s := (reserveTokensAt amount (.finite t) s).map outcome id
  undo _ r t s := (rollbackAt r (.finite t) s).map Except.isOk id
  Ready k t s := ∃ l, limit k = some l ∧ Past l.configuration t s
  Same _ t s s' := Alike t s s'
  requests _ t s := (rolled t s).requests
  tokens _ t s := (rolled t s).tokens
  ready_mono := by
    rintro k t t' s hle ⟨l, hl, past⟩
    exact ⟨l, hl, past.mono hle⟩
  same_refl := by
    intro k t s t' _
    exact ⟨rfl, rfl⟩
  same_mono := by
    intro k t t' s s' hle h t'' hle'
    exact h t'' (hle.trans hle')
  charge_same := by
    rintro k t s ⟨l, -, past⟩ hnot
    exact reserveTokensAt_alike past l.tpm_lt hnot
  undo_same := by
    rintro k t t' s r ⟨l, -, past⟩ hcharged hle
    obtain ⟨hok, halike⟩ := rollbackAt_alike past l.tpm_lt hcharged hle
    refine ⟨?_, halike⟩
    change Except.isOk (rollbackAt r (.finite t') (reserveTokensAt amount (.finite t) s).2).1 = true
    rw [hok]
    rfl
  same_iff := by
    intro k t s s'
    simp only [Alike, Nat.cast_inj]
  charged_amount := by
    rintro k t s r ⟨l, hl, past⟩ hcharged
    obtain ⟨htpm, hrequests, htokens⟩ := reserveTokensAt_amount past l.tpm_lt hcharged
    have hlimit : (limit k).any (fun l => l.tpm.isSome) = true := by
      rw [hl]
      exact htpm
    exact ⟨hlimit, congrArg Nat.cast hrequests,
      (congrArg Nat.cast htokens).trans (Nat.cast_add _ _)⟩
  exempt_unlimited := by
    rintro k t s ⟨l, hl, past⟩ hexempt
    have htpm : l.tpm = none := reserveTokensAt_exempt past l.tpm_lt hexempt
    simp [hl, htpm]

/-- The limiter of a scope in the memory backend, new if there is none. -/
def limiterOf (l : Limit) (m : Option State) : State := m.getD (State.initial l.configuration)

theorem onLimiter_limit {α : Type} (l : Limit) (operation : State → Except RateLimitError α × State)
    (m : Option State) :
    Memory.onLimiter l.config operation m =
      ((operation (limiterOf l m)).1.mapError (fun _ => .unavailable),
        some (operation (limiterOf l m)).2) := by
  have hvalid : l.config.validate = .ok l.window := if_neg (not_le.mpr l.window_pos)
  have hnew : new l.config.rpm l.config.tpm l.config.windowSeconds =
      .ok (State.initial l.configuration) := by
    simp only [new, Limit.config, validatedConfiguration]
    rw [dif_neg (not_le.mpr l.window_pos)]
    rfl
  simp only [Memory.onLimiter, hvalid]
  cases m with
  | none =>
    simp only [hnew]
    rfl
  | some s => rfl

/-- The outcome does not depend on the name of the error. -/
theorem outcome_mapError_eq_charged {result : Except RateLimitError ReservationResult}
    {r : RateReservation} :
    outcome (result.mapError fun _ => StateBackendError.unavailable) = .charged r ↔
      outcome result = .charged r := by
  cases result with
  | error e => simp [outcome, Except.mapError]
  | ok result =>
    simp only [Except.mapError, outcome]
    split
    · simp
    · cases result.reservation <;> simp

theorem outcome_mapError_eq_exempt {result : Except RateLimitError ReservationResult} :
    outcome (result.mapError fun _ => StateBackendError.unavailable) = .exempt ↔
      outcome result = .exempt := by
  cases result with
  | error e => simp [outcome, Except.mapError]
  | ok result =>
    simp only [Except.mapError, outcome]
    split
    · simp
    · cases result.reservation <;> simp

section Memory

variable {limit : Scope → Option Limit} {k : Scope} {l : Limit} {m : Option State}

/-- A reservation in the memory backend. -/
def memoryCharge (limit : Scope → Option Limit) (amount : ℕ) (k : Scope) (t : ℚ)
    (m : Option State) : Outcome RateReservation RateResult StateBackendError × Option State :=
  match limit k with
  | none => (.exempt, m)
  | some l => (Memory.onLimiter l.config (reserveTokensAt amount (.finite t)) m).map outcome id

/-- A rollback in the memory backend. -/
def memoryUndo (limit : Scope → Option Limit) (k : Scope) (r : RateReservation) (t : ℚ)
    (m : Option State) : Bool × Option State :=
  match limit k with
  | none => (true, m)
  | some l => (Memory.onLimiter l.config (rollbackAt r (.finite t)) m).map Except.isOk id

theorem memoryCharge_eq (hl : limit k = some l) (amount : ℕ) (t : ℚ) (m : Option State) :
    memoryCharge limit amount k t m =
      (outcome ((reserveTokensAt amount (.finite t) (limiterOf l m)).1.mapError
          fun _ => StateBackendError.unavailable),
        some (reserveTokensAt amount (.finite t) (limiterOf l m)).2) := by
  simp only [memoryCharge, hl, onLimiter_limit]
  rfl

theorem memoryUndo_eq (hl : limit k = some l) (r : RateReservation) (t : ℚ) (m : Option State) :
    memoryUndo limit k r t m = (Except.isOk (rollbackAt r (.finite t) (limiterOf l m)).1,
      some (rollbackAt r (.finite t) (limiterOf l m)).2) := by
  simp only [memoryUndo, hl, onLimiter_limit]
  cases (rollbackAt r (.finite t) (limiterOf l m)).1 <;> rfl

/-- The limiters of the memory backend. -/
def memoryBackend (limit : Scope → Option Limit) (amount : ℕ) :
    Backend ℚ (Option State) StateBackendError limit amount where
  charge := memoryCharge limit amount
  undo := memoryUndo limit
  Ready k t m := ∀ l ∈ limit k, Past l.configuration t (limiterOf l m)
  Same k t m m' := ∀ l ∈ limit k, Alike t (limiterOf l m) (limiterOf l m')
  requests k t m := (limit k).elim 0 fun l => (rolled t (limiterOf l m)).requests
  tokens k t m := (limit k).elim 0 fun l => (rolled t (limiterOf l m)).tokens
  ready_mono := by
    intro k t t' m hle ready l hl
    exact (ready l hl).mono hle
  same_refl := by
    intro k t m l _ t' _
    exact ⟨rfl, rfl⟩
  same_mono := by
    intro k t t' m m' hle same l hl t'' hle'
    exact same l hl t'' (hle.trans hle')
  charge_same := by
    intro k t m ready hnot l hl
    rw [memoryCharge_eq hl] at hnot ⊢
    refine reserveTokensAt_alike (ready l hl) l.tpm_lt ?_
    intro r hr
    exact hnot r (outcome_mapError_eq_charged.mpr hr)
  undo_same := by
    intro k t t' m r ready hcharged hle
    cases hl : limit k with
    | none => simp [memoryCharge, hl] at hcharged
    | some l =>
      rw [memoryCharge_eq hl] at hcharged ⊢
      obtain ⟨hok, halike⟩ := rollbackAt_alike (ready l hl) l.tpm_lt
        (outcome_mapError_eq_charged.mp hcharged) hle
      rw [memoryUndo_eq hl]
      refine ⟨?_, ?_⟩
      · change Except.isOk (rollbackAt r (.finite t')
          (reserveTokensAt amount (.finite t) (limiterOf l m)).2).1 = true
        rw [hok]
        rfl
      · rintro l' ⟨⟩
        exact halike
  same_iff := by
    intro k t m m'
    cases limit k with
    | none => simp
    | some l => simp [Alike]
  charged_amount := by
    intro k t m r ready hcharged
    cases hl : limit k with
    | none => simp [memoryCharge, hl] at hcharged
    | some l =>
      rw [memoryCharge_eq hl] at hcharged ⊢
      obtain ⟨htpm, hrequests, htokens⟩ := reserveTokensAt_amount (ready l hl) l.tpm_lt
        (outcome_mapError_eq_charged.mp hcharged)
      exact ⟨htpm, congrArg Nat.cast hrequests,
        (congrArg Nat.cast htokens).trans (Nat.cast_add _ _)⟩
  exempt_unlimited := by
    intro k t m ready hexempt
    cases hl : limit k with
    | none => rfl
    | some l =>
      rw [memoryCharge_eq hl] at hexempt
      have htpm : l.tpm = none := reserveTokensAt_exempt (ready l hl) l.tpm_lt
        (outcome_mapError_eq_exempt.mp hexempt)
      simp [htpm]

end Memory

end WayfinderRouter.Access
