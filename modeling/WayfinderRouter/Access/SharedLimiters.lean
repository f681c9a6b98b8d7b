import WayfinderRouter.Access.Scopes
import WayfinderRouter.RateLimit.Simulation

/-!
# Limiters on the shared server

The limit keys of the shared server as accounts of tokens. A key of a window that has passed,
a lapsed key and a key that was just reset all read as zero, also when the reset key could not
be given a deadline.

## Main definitions

- `seenAt` — a counter as a script at the given time finds it
- `redisBackend` — the limit keys as accounts
-/

namespace WayfinderRouter.Access

open Redis Timed Timed.Compensation RateLimit RateLimit.Backends

variable {w t t' n : ℕ} {key key' : LimitKey} {field : Field}

/-- A counter as a script at the given time finds it. -/
def seenAt (w : ℕ) (field : Field) (t : ℕ) (key : LimitKey) : ℤ :=
  seenShared field (t / w) (key.live t)

/-- The window of the key has come. -/
def Dated (w t : ℕ) (key : LimitKey) : Prop := ∀ v, key.hget .window = some v → v ≤ (t / w : ℕ)

/-- The keys that scripts up to a time can leave. -/
def PastKey (w t : ℕ) (key : LimitKey) : Prop :=
  ∀ v, key.hget .window = some v → v ≤ (t / w : ℕ) ∧
    (v = (t / w : ℕ) → 0 ≤ counter .tokens key)

theorem PastKey.dated (past : PastKey w t key) : Dated w t key := fun v hv => (past v hv).1

theorem PastKey.mono (past : PastKey w t key) (hle : t ≤ t') : PastKey w t' key := by
  intro v hv
  have hdiv : t / w ≤ t' / w := Nat.div_le_div_right hle
  obtain ⟨hle', htokens⟩ := past v hv
  refine ⟨by omega, ?_⟩
  intro hv'
  exact htokens (by omega)

theorem seenAt_of_lapsed (h : key.Lapsed t) : seenAt w field t key = 0 := by
  simp [seenAt, Key.live_of_lapsed h, seenShared]

theorem lapsed_mono (h : key.Lapsed t) (hle : t ≤ t') : key.Lapsed t' := by
  obtain ⟨d, hd, hdt⟩ := h
  exact ⟨d, hd, hdt.trans hle⟩

/-- Scripts read the same from keys with the same deadline and the same fields. -/
theorem seenAt_congr (hdeadline : key'.deadline? = key.deadline?)
    (hwindow : key'.hget .window = key.hget .window)
    (hcounter : counter field key' = counter field key) :
    seenAt w field t key' = seenAt w field t key := by
  have hlapsed : key'.Lapsed t ↔ key.Lapsed t := by rw [Key.Lapsed, hdeadline, Key.Lapsed]
  by_cases h : key.Lapsed t
  · rw [seenAt_of_lapsed h, seenAt_of_lapsed (hlapsed.mpr h)]
  · rw [seenAt, seenAt, Key.live_of_not_lapsed h, Key.live_of_not_lapsed (mt hlapsed.mp h),
      seenShared, seenShared, hwindow, hcounter]

/-- A counter that is zero reads as zero. -/
theorem seenAt_of_counter (h : counter field key = 0) : seenAt w field t key = 0 := by
  by_cases hlapsed : key.Lapsed t
  · exact seenAt_of_lapsed hlapsed
  · simp [seenAt, Key.live_of_not_lapsed hlapsed, seenShared, h]

/-- A key of another window reads as zero from now on. -/
theorem Dated.seenAt_eq_zero (dated : Dated w t key)
    (hwindow : (key.live t).hget .window ≠ some ((t / w : ℕ) : ℤ)) (hle : t ≤ t') :
    seenAt w field t' key = 0 := by
  by_cases hlapsed : key.Lapsed t'
  · exact seenAt_of_lapsed hlapsed
  · rw [Key.live_of_not_lapsed (mt (lapsed_mono · hle) hlapsed)] at hwindow
    rw [seenAt, Key.live_of_not_lapsed hlapsed, seenShared]
    refine if_neg ?_
    intro hnow
    have hdiv : t / w ≤ t' / w := Nat.div_le_div_right hle
    have := dated _ hnow
    exact hwindow (hnow.trans (congrArg some (by omega)))

/-- The key that the body of a script works on. -/
def openKey (w t : ℕ) (key : LimitKey) : LimitKey :=
  if (key.live t).hget .window = some ((t / w : ℕ) : ℤ) then key.live t
  else (reset (t / w) (key.live t)).pexpire t (max (w * 2) 1000)

/-- The key can be opened: it belongs to the window or it can be given a deadline. -/
def Openable (w t : ℕ) (key : LimitKey) : Prop :=
  (key.live t).hget .window = some ((t / w : ℕ) : ℤ) ∨ Key.Expirable t (max (w * 2) 1000)

instance (w t : ℕ) (key : LimitKey) : Decidable (Openable w t key) :=
  inferInstanceAs (Decidable (_ ∨ _))

theorem inWindow_of_openable {α : Type} (h : Openable w t key) (body : LimitKey → α × LimitKey) :
    inWindow w t body key = (.ok (body (openKey w t key)).1, (body (openKey w t key)).2) := by
  by_cases hw : (key.live t).hget .window = some ((t / w : ℕ) : ℤ)
  · simp only [inWindow, openKey, if_pos hw]
    rfl
  · simp only [inWindow, openKey, if_neg hw, if_pos (h.resolve_left hw)]
    rfl

theorem inWindow_of_not_openable {α : Type} (h : ¬Openable w t key)
    (body : LimitKey → α × LimitKey) :
    inWindow w t body key = (.error "invalid expire time", reset (t / w) (key.live t)) := by
  obtain ⟨hw, hexp⟩ := not_or.mp h
  simp only [inWindow, if_neg hw, if_neg hexp]

theorem counter_reset (id : ℕ) (key : LimitKey) (hfield : field ≠ .window) :
    counter field (reset id key) = 0 := by
  cases field with
  | window => exact absurd rfl hfield
  | requests => simp [counter, reset, Key.hget_hset]
  | tokens => simp [counter, reset, Key.hget_hset]

/-- Opening the key changes nothing that a script can see. -/
theorem Dated.seenAt_openKey (dated : Dated w t key) (hle : t ≤ t') (hfield : field ≠ .window) :
    seenAt w field t' (openKey w t key) = seenAt w field t' key := by
  by_cases hw : (key.live t).hget .window = some ((t / w : ℕ) : ℤ)
  · have hlive : key.live t = key := by
      apply Key.live_of_not_lapsed
      intro hlapsed
      simp [Key.live_of_lapsed hlapsed] at hw
    rw [openKey, if_pos hw, hlive]
  · rw [dated.seenAt_eq_zero hw hle, openKey, if_neg hw]
    apply seenAt_of_counter
    rw [counter, Key.hget_pexpire]
    exact counter_reset _ _ hfield

/-- The opened key belongs to the current window and is alive. -/
theorem PastKey.openKey (past : PastKey w t key) :
    (openKey w t key).hget .window = some ((t / w : ℕ) : ℤ) ∧ ¬(openKey w t key).Lapsed t ∧
      0 ≤ counter .tokens (openKey w t key) := by
  by_cases hw : (key.live t).hget .window = some ((t / w : ℕ) : ℤ)
  · rw [Access.openKey, if_pos hw]
    refine ⟨hw, Key.not_lapsed_live key, ?_⟩
    by_cases hlapsed : key.Lapsed t
    · simp [Key.live_of_lapsed hlapsed, counter]
    · rw [Key.live_of_not_lapsed hlapsed] at hw ⊢
      exact (past _ hw).2 rfl
  · rw [Access.openKey, if_neg hw]
    refine ⟨?_, ?_, ?_⟩
    · rw [Key.hget_pexpire]
      simp [reset, Key.hget_hset]
    · refine Key.not_lapsed_of_lt (Key.deadline?_hset_pexpire t _ Field.tokens (0 : ℤ) _) ?_
      have := le_max_right (w * 2) 1000
      omega
    · rw [counter, Key.hget_pexpire]
      exact (counter_reset _ _ (by simp)).ge

theorem Limit.validate_config (l : Limit) : l.config.validate = .ok l.window :=
  if_neg (not_le.mpr l.window_pos)

/-- What reserving tokens on the server comes to. -/
theorem reserveTokens_cases (l : Limit) (n t : ℕ) (key : LimitKey) :
    (l.tpm = none ∧ Shared.reserveTokens l.config n t key = (.ok ⟨admitted, none⟩, key)) ∨
    (¬Openable (Shared.windowMs l.window) t key ∧ ∃ e,
      Shared.reserveTokens l.config n t key =
        (.error e, reset (t / Shared.windowMs l.window) (key.live t))) ∨
    (∃ retry, Shared.reserveTokens l.config n t key =
      (.ok ⟨⟨some .tokens, retry⟩, none⟩, openKey (Shared.windowMs l.window) t key)) ∨
    (l.tpm.isSome ∧ Shared.reserveTokens l.config n t key =
      (.ok ⟨admitted, some ⟨t / Shared.windowMs l.window, n, false⟩⟩,
        hincrby .tokens n (openKey (Shared.windowMs l.window) t key))) := by
  rw [Shared.reserveTokens, l.validate_config]
  by_cases htpm : l.tpm = none
  · have hnone : l.config.tpm.isNone = true := by simp [Limit.config, htpm]
    exact .inl ⟨htpm, if_pos hnone⟩
  have hsome : ¬l.config.tpm.isNone = true := by simp [Limit.config, htpm]
  refine .inr ?_
  simp only [if_neg hsome, Shared.reserveWith, l.validate_config, reserveScript]
  generalize Shared.windowMs l.window = w
  by_cases hopen : Openable w t key
  swap
  · refine .inl ⟨hopen, .unavailable, ?_⟩
    rw [inWindow_of_not_openable hopen]
    rfl
  · refine .inr ?_
    rw [inWindow_of_openable hopen]
    simp only [Bool.false_eq_true, if_false, Nat.zero_ne_one, false_and]
    by_cases hfull : 0 < l.config.tpm.getD 0 ∧
        ((l.config.tpm.getD 0 : ℕ) : ℤ) < counter .tokens (openKey w t key) + n
    · refine .inl ⟨(retrySeconds w t).toNat, ?_⟩
      rw [if_pos hfull]
      refine Prod.ext ?_ rfl
      exact redisReservationResult_of_rejected (redisResult_tokens (retrySeconds_nonneg w t))
        (by simp) n false
    · refine .inr ⟨Option.isSome_iff_ne_none.mpr htpm, ?_⟩
      rw [if_neg hfull]
      refine Prod.ext ?_ rfl
      exact redisReservationResult_admitted (t / w) n false

/-- A reservation on the server. -/
def redisCharge (limit : Scope → Option Limit) (amount : ℕ) (k : Scope) (t : ℕ) (key : LimitKey) :
    Outcome RateReservation RateResult StateBackendError × LimitKey :=
  match limit k with
  | none => (.exempt, key)
  | some l => (Shared.reserveTokens l.config amount t key).map outcome id

/-- A rollback on the server. -/
def redisUndo (limit : Scope → Option Limit) (k : Scope) (r : RateReservation) (t : ℕ)
    (key : LimitKey) : Bool × LimitKey :=
  match limit k with
  | none => (true, key)
  | some l => (Shared.rollback l.config r t key).map Except.isOk id

/-- Neither counter reads differently from a time on. -/
def AlikeKeys (w t : ℕ) (key key' : LimitKey) : Prop :=
  ∀ t', t ≤ t' → seenAt w .requests t' key' = seenAt w .requests t' key ∧
    seenAt w .tokens t' key' = seenAt w .tokens t' key

theorem PastKey.alikeKeys_openKey (past : PastKey w t key) :
    AlikeKeys w t key (Access.openKey w t key) := by
  intro t' hle
  exact ⟨past.dated.seenAt_openKey hle (by simp), past.dated.seenAt_openKey hle (by simp)⟩

/-- A reservation that was charged. -/
theorem reserveTokens_charged {l : Limit} {r : RateReservation}
    (h : outcome (Shared.reserveTokens l.config n t key).1 = .charged r) :
    l.tpm.isSome ∧ r = ⟨t / Shared.windowMs l.window, n, false⟩ ∧
      (Shared.reserveTokens l.config n t key).2 =
        hincrby .tokens n (openKey (Shared.windowMs l.window) t key) := by
  obtain ⟨-, heq⟩ | ⟨-, e, heq⟩ | ⟨retry, heq⟩ | ⟨htpm, heq⟩ := reserveTokens_cases l n t key
  · simp [heq, outcome, admitted, RateResult.allowed] at h
  · simp [heq, outcome] at h
  · simp [heq, outcome, RateResult.allowed] at h
  · rw [heq] at h ⊢
    refine ⟨htpm, ?_, rfl⟩
    simpa [outcome, admitted, RateResult.allowed, eq_comm] using h

/-- A reservation that was not charged. -/
theorem reserveTokens_alike {l : Limit} (past : PastKey (Shared.windowMs l.window) t key)
    (h : ∀ r, outcome (Shared.reserveTokens l.config n t key).1 ≠ .charged r) :
    AlikeKeys (Shared.windowMs l.window) t key (Shared.reserveTokens l.config n t key).2 := by
  obtain ⟨-, heq⟩ | ⟨hopen, e, heq⟩ | ⟨retry, heq⟩ | ⟨-, heq⟩ := reserveTokens_cases l n t key
  · rw [heq]
    exact fun t' _ => ⟨rfl, rfl⟩
  · rw [heq]
    have hw := (not_or.mp hopen).1
    intro t' hle
    rw [past.dated.seenAt_eq_zero hw hle, past.dated.seenAt_eq_zero hw hle]
    exact ⟨seenAt_of_counter (counter_reset _ _ (by simp)),
      seenAt_of_counter (counter_reset _ _ (by simp))⟩
  · rw [heq]
    exact past.alikeKeys_openKey
  · refine absurd ?_ (h ⟨t / Shared.windowMs l.window, n, false⟩)
    rw [heq]
    rfl

/-- Taking back what was just charged leaves what was there, or nothing if the key lapsed. -/
theorem rollbackScript_alike (n t' : ℕ) (hw : key.hget .window = some ((t / w : ℕ) : ℤ))
    (htokens : 0 ≤ counter .tokens key) :
    AlikeKeys w t' key (rollbackScript (t / w) n 0 t' (hincrby .tokens n key)).2 := by
  intro t'' hle
  by_cases hlapsed : key.Lapsed t'
  · have hlapsed' : (hincrby .tokens n key).Lapsed t' := hlapsed
    have hnone : (rollbackScript (t / w) n 0 t' (hincrby .tokens n key)).2 = none := by
      simp [rollbackScript, Key.live_of_lapsed hlapsed']
    have hthen := lapsed_mono hlapsed hle
    rw [hnone, seenAt_of_lapsed hthen, seenAt_of_lapsed hthen]
    exact ⟨seenAt_of_counter rfl, seenAt_of_counter rfl⟩
  · have hlive : (hincrby .tokens n key).live t' = hincrby .tokens n key :=
      Key.live_of_not_lapsed hlapsed
    have hw' : (hincrby .tokens n key).hget .window = some ((t / w : ℕ) : ℤ) :=
      (hget_window_hincrby (by simp) _ _).trans hw
    have hstate : (rollbackScript (t / w) n 0 t' (hincrby .tokens n key)).2 =
        (hincrby .tokens n key).hset .tokens (counter .tokens key) := by
      simp [rollbackScript, hlive, hw', counter_hincrby, max_eq_right htokens]
    rw [hstate]
    refine ⟨seenAt_congr rfl ?_ ?_, seenAt_congr rfl ?_ ?_⟩
    · rw [Key.hget_hset, if_neg (by simp), hw', hw]
    · rw [counter, Key.hget_hset, if_neg (by simp)]
      exact (counter_hincrby _ _ _ _).trans (if_neg (by simp))
    · rw [Key.hget_hset, if_neg (by simp), hw', hw]
    · rw [counter, Key.hget_hset, if_pos rfl]
      rfl

/-- A charge that is taken back is not seen by any later call. -/
theorem rollback_alike {l : Limit} (past : PastKey (Shared.windowMs l.window) t key)
    {r : RateReservation} (h : outcome (Shared.reserveTokens l.config n t key).1 = .charged r)
    (hle : t ≤ t') :
    Except.isOk (Shared.rollback l.config r t' (Shared.reserveTokens l.config n t key).2).1 = true ∧
      AlikeKeys (Shared.windowMs l.window) t' key
        (Shared.rollback l.config r t' (Shared.reserveTokens l.config n t key).2).2 := by
  obtain ⟨-, rfl, hstate⟩ := reserveTokens_charged h
  obtain ⟨hw, -, htokens⟩ := past.openKey
  rw [hstate, Shared.rollback, l.validate_config]
  refine ⟨rfl, ?_⟩
  intro t'' hle'
  obtain ⟨hrequests, htokens'⟩ := rollbackScript_alike n t' hw htokens t'' hle'
  obtain ⟨hrequests₀, htokens₀⟩ := past.alikeKeys_openKey t'' (hle.trans hle')
  exact ⟨hrequests.trans hrequests₀, htokens'.trans htokens₀⟩

/-- A charge shows in the token counter and nowhere else. -/
theorem reserveTokens_amount {l : Limit} (past : PastKey (Shared.windowMs l.window) t key)
    {r : RateReservation} (h : outcome (Shared.reserveTokens l.config n t key).1 = .charged r) :
    l.tpm.isSome ∧
      seenAt (Shared.windowMs l.window) .requests t (Shared.reserveTokens l.config n t key).2 =
        seenAt (Shared.windowMs l.window) .requests t key ∧
      seenAt (Shared.windowMs l.window) .tokens t (Shared.reserveTokens l.config n t key).2 =
        seenAt (Shared.windowMs l.window) .tokens t key + n := by
  obtain ⟨htpm, -, hstate⟩ := reserveTokens_charged h
  obtain ⟨hrequests, htokens⟩ := past.alikeKeys_openKey t le_rfl
  obtain ⟨hw, hlapsed, -⟩ := past.openKey
  rw [hstate, ← hrequests, ← htokens]
  generalize Access.openKey (Shared.windowMs l.window) t key = key' at hw hlapsed
  refine ⟨htpm, seenAt_congr rfl (hget_window_hincrby (by simp) _ _) (counter_hincrby _ _ _ _), ?_⟩
  have hlapsed' : ¬(hincrby .tokens n key').Lapsed t := hlapsed
  rw [seenAt, seenAt, Key.live_of_not_lapsed hlapsed, Key.live_of_not_lapsed hlapsed', seenShared,
    seenShared, hget_window_hincrby (by simp), if_pos hw, if_pos hw, counter_hincrby, if_pos rfl]

/-- The limit keys of the server. -/
def redisBackend (limit : Scope → Option Limit) (amount : ℕ) :
    Backend ℕ LimitKey StateBackendError limit amount where
  charge := redisCharge limit amount
  undo := redisUndo limit
  Ready k t key := ∀ l ∈ limit k, PastKey (Shared.windowMs l.window) t key
  Same k t key key' := ∀ l ∈ limit k, AlikeKeys (Shared.windowMs l.window) t key key'
  requests k t key := (limit k).elim 0 fun l => seenAt (Shared.windowMs l.window) .requests t key
  tokens k t key := (limit k).elim 0 fun l => seenAt (Shared.windowMs l.window) .tokens t key
  ready_mono := by
    intro k t t' key hle ready l hl
    exact (ready l hl).mono hle
  same_refl := by
    intro k t key l _ t' _
    exact ⟨rfl, rfl⟩
  same_mono := by
    intro k t t' key key' hle same l hl t'' hle'
    exact same l hl t'' (hle.trans hle')
  charge_same := by
    intro k t key ready hnot l hl
    have hl' : limit k = some l := hl
    simp only [redisCharge, hl'] at hnot ⊢
    exact reserveTokens_alike (ready l hl) hnot
  undo_same := by
    intro k t t' key r ready hcharged hle
    cases hl : limit k with
    | none => simp [redisCharge, hl] at hcharged
    | some l =>
      simp only [redisCharge, redisUndo, hl] at hcharged ⊢
      obtain ⟨hok, halike⟩ := rollback_alike (ready l hl) hcharged hle
      refine ⟨hok, ?_⟩
      rintro l' ⟨⟩
      exact halike
  same_iff := by
    intro k t key key'
    cases limit k with
    | none => simp
    | some l => simp [AlikeKeys]
  charged_amount := by
    intro k t key r ready hcharged
    cases hl : limit k with
    | none => simp [redisCharge, hl] at hcharged
    | some l =>
      simp only [redisCharge, hl] at hcharged ⊢
      exact reserveTokens_amount (ready l hl) hcharged
  exempt_unlimited := by
    intro k t key ready hexempt
    cases hl : limit k with
    | none => rfl
    | some l =>
      simp only [redisCharge, hl] at hexempt
      obtain ⟨htpm, -⟩ | ⟨-, e, heq⟩ | ⟨retry, heq⟩ | ⟨-, heq⟩ := reserveTokens_cases l amount t key
      · simp [htpm]
      · simp [heq, outcome] at hexempt
      · simp [heq, outcome, RateResult.allowed] at hexempt
      · simp [heq, outcome, admitted, RateResult.allowed] at hexempt

end WayfinderRouter.Access
