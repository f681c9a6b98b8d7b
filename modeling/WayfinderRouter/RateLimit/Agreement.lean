import WayfinderRouter.RateLimit.Simulation

/-!
# The limiter backends agree

Both backends serve the same calls at the same times, on any number of keys.

The calls settle reservations that are still outstanding. `Covered` says that the counters
hold what the outstanding reservations of a window were charged, which keeps the
subtractions of the two backends away from zero, where they differ.

## Main definitions

- `serve` — both backends under the same calls
- `outstanding` — the reservations that were granted and not settled
- `Covered` — the counters hold the outstanding reservations
-/

namespace WayfinderRouter.RateLimit.Backends

open Redis Timed

/-- Both backends under the same calls, each call on one key. -/
def serve (limits : String → Limits) :
    Service ℕ ((String → Option State) × (String → LimitKey)) (String × Call) (Reply × Reply)
  | now, (key, call), (memory, shared) =>
    let (reply, limiter) := Memory.call (limits key).config (now / 1000) (memory key) call
    let (reply', hash) := Shared.call (limits key).config now (shared key) call
    ((reply, reply'), (Function.update memory key limiter, Function.update shared key hash))

/-- No key has been used. -/
def unused : (String → Option State) × (String → LimitKey) := (fun _ => none, fun _ => none)

abbrev History := List (Event ℕ (String × Call) (Reply × Reply))

/-- The outstanding reservations after a call at position `pos` of a run. -/
def booked (key : String) (call : Call) (reply : Reply) (pos : ℕ)
    (out : Hash ℕ (String × RateReservation)) : Hash ℕ (String × RateReservation) :=
  match call with
  | .reconcile grant _ _ | .rollback grant _ => out.del grant
  | _ => reply.reservation.elim out fun r => out.set pos (key, r)

/-- The granted reservations that were not settled, by the position of the call. -/
def outstanding : History → Hash ℕ (String × RateReservation)
  | [] => ∅
  | e :: h => booked e.call.1 e.call.2 e.reply.1 h.length (outstanding h)

/-- Token reservations are positive, and a reservation is settled by its holder and at most
once. -/
def Allowed (h : History) : String × Call → Prop
  | (_, .reserve tokens) | (_, .reserveTokens tokens) => 0 < tokens
  | (key, .reconcile grant r _) | (key, .rollback grant r) =>
    (outstanding h).get grant = some (key, r)
  | _ => True

/-- The counters of a key fit a signed integer in both backends. -/
def Fits (m : Option State) (k : LimitKey) : Prop :=
  (∀ s ∈ m, (s.requests : ℤ) ≤ i64Max ∧ (s.tokens : ℤ) ≤ i64Max) ∧
    counter .requests k ≤ i64Max ∧ counter .tokens k ≤ i64Max

def Ok (limits : String → Limits) (h : History)
    (s : (String → Option State) × (String → LimitKey)) (now : ℕ) (call : String × Call) : Prop :=
  Allowed h call ∧ Key.Expirable now (limits call.1).ttl ∧
    Fits ((serve limits now call s).2.1 call.1) ((serve limits now call s).2.2 call.1)

/-- The replies are the same, except for what a settlement answers. -/
def Reply.Agrees : Reply → Reply → Prop
  | .settled _, .settled _ => True
  | reply, reply' => reply = reply'

/-- The request that a reservation holds in window `x` of a key. -/
def owedRequests (key : String) (x : ℕ) (p : String × RateReservation) : ℤ :=
  if p.1 = key ∧ p.2.windowId = x ∧ p.2.reservedRequest then 1 else 0

/-- The tokens that a reservation holds in window `x` of a key. -/
def owedTokens (key : String) (x : ℕ) (p : String × RateReservation) : ℤ :=
  if p.1 = key ∧ p.2.windowId = x then p.2.reservedTokens else 0

/-- The counters of a key hold what its outstanding reservations were charged. -/
structure Covered (key : String) (n : ℕ) (out : Hash ℕ (String × RateReservation))
    (m : Option State) (k : LimitKey) : Prop where
  held : ∀ g r, out.get g = some (key, r) → n ≤ r.windowId →
    (∃ s ∈ m, s.windowId = some r.windowId) ∧ k.hget .window = some (r.windowId : ℤ)
  requests : ∀ x, n ≤ x → out.sumBy (owedRequests key x) ≤ seen State.requests x m
  tokens : ∀ x, n ≤ x → out.sumBy (owedTokens key x) ≤ seen State.tokens x m

section Covered

variable {l : Limits} {n x now pos : ℕ} {m : Option State} {s : State} {k : LimitKey}
  {key key' : String} {out : Hash ℕ (String × RateReservation)} {call : Call} {reply : Reply}

theorem covered_unused (key : String) (n : ℕ) : Covered key n ∅ none none where
  held := by simp
  requests := by simp [seen]
  tokens := by simp [seen]

theorem Covered.mono (cov : Covered key n out m k) (hle : n ≤ x) : Covered key x out m k where
  held := by
    intro g r hg hr
    exact cov.held g r hg (hle.trans hr)
  requests := by
    intro y hy
    exact cov.requests y (hle.trans hy)
  tokens := by
    intro y hy
    exact cov.tokens y (hle.trans hy)

theorem owedRequests_of_ne (hne : key' ≠ key) (x : ℕ) (r : RateReservation) :
    owedRequests key' x (key, r) = 0 :=
  if_neg fun h => hne h.1.symm

theorem owedTokens_of_ne (hne : key' ≠ key) (x : ℕ) (r : RateReservation) :
    owedTokens key' x (key, r) = 0 :=
  if_neg fun h => hne h.1.symm

theorem owedRequests_nonneg (key : String) (x : ℕ) (p : String × RateReservation) :
    0 ≤ owedRequests key x p := by
  rw [owedRequests]
  split <;> omega

theorem owedTokens_nonneg (key : String) (x : ℕ) (p : String × RateReservation) :
    0 ≤ owedTokens key x p := by
  rw [owedTokens]
  split <;> omega

/-- A new reservation adds its weight. -/
theorem sumBy_set_new {weight : String × RateReservation → ℤ} (hid : out.get pos = none)
    (p : String × RateReservation) :
    (out.set pos p).sumBy weight = out.sumBy weight + weight p := by
  rw [Hash.sumBy_set, hid, Option.elim_none, sub_zero]

/-- The other keys are not concerned by a call. -/
theorem Covered.booked_of_ne (cov : Covered key' n out m k) (reply : Reply) (hne : key' ≠ key)
    (hid : out.get pos = none)
    (hsettle : ∀ grant r, (∃ a, call = .reconcile grant r a) ∨ call = .rollback grant r →
      out.get grant = some (key, r)) :
    Covered key' n (booked key call reply pos out) m k := by
  have hdel : ∀ grant r, out.get grant = some (key, r) → Covered key' n (out.del grant) m k := by
    intro grant r hg
    refine ⟨?_, ?_, ?_⟩
    · intro g r' hg' hle
      rw [Hash.get_del] at hg'
      split at hg'
      · simp at hg'
      · exact cov.held g r' hg' hle
    · intro x hx
      rw [Hash.sumBy_del, hg, Option.elim_some, owedRequests_of_ne hne, sub_zero]
      exact cov.requests x hx
    · intro x hx
      rw [Hash.sumBy_del, hg, Option.elim_some, owedTokens_of_ne hne, sub_zero]
      exact cov.tokens x hx
  have hgrant : Covered key' n (reply.reservation.elim out fun r => out.set pos (key, r)) m k := by
    cases reply.reservation with
    | none => exact cov
    | some r =>
      rw [Option.elim_some]
      refine ⟨?_, ?_, ?_⟩
      · intro g r' hg' hle
        rw [Hash.get_set] at hg'
        split at hg'
        · obtain ⟨rfl, rfl⟩ := Prod.mk.inj (Option.some.inj hg')
          exact absurd rfl hne
        · exact cov.held g r' hg' hle
      · intro x hx
        rw [sumBy_set_new hid, owedRequests_of_ne hne, add_zero]
        exact cov.requests x hx
      · intro x hx
        rw [sumBy_set_new hid, owedTokens_of_ne hne, add_zero]
        exact cov.tokens x hx
  cases call with
  | reconcile grant r a => exact hdel grant r (hsettle grant r (.inl ⟨a, rfl⟩))
  | rollback grant r => exact hdel grant r (hsettle grant r (.inr rfl))
  | _ => exact hgrant

theorem seen_of_lt (agree : Agree l n m k) (hx : n < x) (count : State → ℕ) :
    seen count x m = 0 := by
  by_contra hne
  obtain ⟨s, hs, hid⟩ := windowId_of_seen_ne_zero hne
  have := agree.window_le s hs x hid
  omega

/-- A call served in its window. -/
theorem Covered.serve {granted : Option RateReservation} {s' : State} {k' : LimitKey}
    (cov : Covered key (now / l.windowMs) out m k) (agree : Agree l (now / l.windowMs) m k)
    (served : Served l now m granted s' k') (hid : out.get pos = none) :
    Covered key (now / l.windowMs) (granted.elim out fun r => out.set pos (key, r)) (some s')
      k' := by
  have hwindow : ∀ g r, out.get g = some (key, r) → now / l.windowMs ≤ r.windowId →
      r.windowId = now / l.windowMs := by
    intro g r hg hle
    obtain ⟨⟨s, hs, hid⟩, -⟩ := cov.held g r hg hle
    exact le_antisymm (agree.window_le s hs _ hid) hle
  have hsame : ∀ r : RateReservation, r.windowId = now / l.windowMs →
      (∃ s ∈ some s', s.windowId = some r.windowId) ∧
        k'.hget .window = some (r.windowId : ℤ) := by
    intro r hr
    rw [hr]
    exact ⟨⟨s', rfl, served.same.windowId⟩, served.same.window⟩
  obtain ⟨hreq, htok⟩ := rolled_requests now m agree.configuration
  have hseen : ∀ count x, now / l.windowMs ≤ x →
      seen count x (some s') = if x = now / l.windowMs then count s' else 0 := by
    intro count x _
    simp [seen, served.same.windowId, eq_comm]
  have hr := served.requests
  have ht := served.tokens
  rw [advanced] at hr ht
  cases granted with
  | none =>
    rw [Option.elim_none]
    refine ⟨fun g r hg hle => hsame r (hwindow g r hg hle), ?_, ?_⟩
    · intro x hx
      have hcov := cov.requests x hx
      rw [hseen _ x hx]
      by_cases hxn : x = now / l.windowMs
      · subst hxn
        simp only [Option.elim_none] at hr
        simp only [if_true]
        omega
      · rw [seen_of_lt agree (lt_of_le_of_ne hx (Ne.symm hxn))] at hcov
        rw [if_neg hxn]
        exact hcov
    · intro x hx
      have hcov := cov.tokens x hx
      rw [hseen _ x hx]
      by_cases hxn : x = now / l.windowMs
      · subst hxn
        simp only [Option.elim_none] at ht
        simp only [if_true]
        omega
      · rw [seen_of_lt agree (lt_of_le_of_ne hx (Ne.symm hxn))] at hcov
        rw [if_neg hxn]
        exact hcov
  | some r =>
    have hrw := served.window r rfl
    rw [Option.elim_some]
    refine ⟨?_, ?_, ?_⟩
    · intro g r' hg hle
      rw [Hash.get_set] at hg
      split at hg
      · obtain ⟨-, rfl⟩ := Prod.mk.inj (Option.some.inj hg)
        exact hsame r hrw
      · exact hsame r' (hwindow g r' hg hle)
    · intro x hx
      have hcov := cov.requests x hx
      rw [hseen _ x hx, sumBy_set_new hid, owedRequests]
      by_cases hxn : x = now / l.windowMs
      · subst hxn
        simp only [Option.elim_some] at hr
        simp only [hrw, true_and, if_true]
        cases hrr : r.reservedRequest <;> simp only [hrr] at hr ⊢ <;> simp at hr ⊢ <;> omega
      · rw [seen_of_lt agree (lt_of_le_of_ne hx (Ne.symm hxn))] at hcov
        rw [if_neg hxn, if_neg (by rw [hrw]; exact fun h => hxn h.2.1.symm)]
        simpa using hcov
    · intro x hx
      have hcov := cov.tokens x hx
      rw [hseen _ x hx, sumBy_set_new hid, owedTokens]
      by_cases hxn : x = now / l.windowMs
      · subst hxn
        simp only [Option.elim_some] at ht
        simp only [hrw, true_and, if_true]
        omega
      · rw [seen_of_lt agree (lt_of_le_of_ne hx (Ne.symm hxn))] at hcov
        rw [if_neg hxn, if_neg (by rw [hrw]; exact fun h => hxn h.2.symm)]
        simpa using hcov

section Settle

variable {grant : ℕ} {r : RateReservation} {s' : State} {k' : LimitKey}

/-- The backends are in the window of an outstanding reservation that can still be settled. -/
theorem Covered.same (cov : Covered key n out m k) (agree : Agree l n m k)
    (hget : out.get grant = some (key, r)) (hle : n ≤ r.windowId) :
    ∃ s, m = some s ∧ r.windowId = n ∧ Same l r.windowId s k ∧ r.reservedTokens ≤ s.tokens ∧
      (r.reservedRequest → 1 ≤ s.requests) := by
  obtain ⟨⟨s, hs, hid⟩, hw⟩ := cov.held grant r hget hle
  obtain rfl : m = some s := hs
  obtain ⟨y, hy, -, hdeadline⟩ := agree.key_le _ hw
  obtain rfl : r.windowId = y := by exact_mod_cast hy
  have hreq := agree.requests _ hle
  have hseen : ∀ count : State → ℕ, seen count r.windowId (some s) = count s := by
    intro count
    simp [seen, hid]
  rw [hseen, seenShared, if_pos hw] at hreq
  refine ⟨s, rfl, le_antisymm (agree.window_le s rfl _ hid) hle,
    ⟨agree.configuration s rfl, hid, hw, hdeadline, hreq, ?_⟩, ?_, ?_⟩
  · intro htpm
    have htok := agree.tokens htpm _ hle
    rwa [hseen, seenShared, if_pos hw] at htok
  · have hcov := cov.tokens _ hle
    have hentry := Hash.le_sumBy_of_get (owedTokens_nonneg key r.windowId) hget
    simp only [owedTokens, and_self, if_true] at hentry
    rw [hseen] at hcov
    exact_mod_cast hentry.trans hcov
  · intro hrr
    have hcov := cov.requests _ hle
    have hentry := Hash.le_sumBy_of_get (owedRequests_nonneg key r.windowId) hget
    simp only [owedRequests, hrr, and_self, if_true] at hentry
    rw [hseen] at hcov
    exact_mod_cast hentry.trans hcov

/-- A settlement in the window of the reservation. -/
theorem Covered.settle (cov : Covered key n out (some s) k) (agree : Agree l n (some s) k)
    (hget : out.get grant = some (key, r)) (hr : r.windowId = n) (hid : s.windowId = some n)
    (hid' : s'.windowId = some n) (hw' : k'.hget .window = some (n : ℤ))
    (hreq : s.requests ≤ s'.requests + if r.reservedRequest then 1 else 0)
    (htok : s.tokens ≤ s'.tokens + r.reservedTokens) :
    Covered key n (out.del grant) (some s') k' := by
  refine ⟨?_, ?_, ?_⟩
  · intro g r' hg hle
    rw [Hash.get_del] at hg
    split at hg
    · simp at hg
    · obtain ⟨⟨s₁, hs₁, hid₁⟩, -⟩ := cov.held g r' hg hle
      have hn : r'.windowId = n := le_antisymm (agree.window_le s₁ hs₁ _ hid₁) hle
      rw [hn]
      exact ⟨⟨s', rfl, hid'⟩, hw'⟩
  · intro x hx
    have hcov := cov.requests x hx
    rw [Hash.sumBy_del, hget, Option.elim_some, owedRequests]
    by_cases hxn : x = n
    · subst hxn
      simp only [seen, hid, hid', Option.elim_some, if_true] at hcov ⊢
      simp only [hr, true_and]
      split at hreq <;> simp_all <;> omega
    · have hxn' : ¬n = x := fun h => hxn h.symm
      simpa [seen, hid, hid', hxn', hr] using hcov
  · intro x hx
    have hcov := cov.tokens x hx
    rw [Hash.sumBy_del, hget, Option.elim_some, owedTokens]
    by_cases hxn : x = n
    · subst hxn
      simp only [seen, hid, hid', Option.elim_some, if_true] at hcov ⊢
      simp only [hr, and_self, if_true]
      omega
    · have hxn' : ¬n = x := fun h => hxn h.symm
      simpa [seen, hid, hid', hxn', hr] using hcov

/-- A settlement in a window that has passed. -/
theorem Covered.stale (cov : Covered key n out m k) (hget : out.get grant = some (key, r))
    (hr : r.windowId < n) (hseen : ∀ y, n ≤ y → ∀ count, seen count y (some s') = seen count y m)
    (hlive : ∀ y, n ≤ y → k.hget .window = some (y : ℤ) → k' = k) :
    Covered key n (out.del grant) (some s') k' := by
  refine ⟨?_, ?_, ?_⟩
  · intro g r' hg hle
    rw [Hash.get_del] at hg
    split at hg
    · simp at hg
    · obtain ⟨⟨s₁, hs₁, hid₁⟩, hw⟩ := cov.held g r' hg hle
      rw [hlive _ hle hw]
      refine ⟨⟨s', rfl, ?_⟩, hw⟩
      -- a limiter that sees the window is in it
      have hone := hseen _ hle fun _ => 1
      have hone' : seen (fun _ => 1) r'.windowId m = 1 := by
        obtain rfl : m = some s₁ := hs₁
        simp [seen, hid₁]
      by_contra hne
      rw [hone'] at hone
      simp [seen, hne] at hone
  · intro x hx
    have hcov := cov.requests x hx
    have hne : ¬r.windowId = x := by omega
    rw [Hash.sumBy_del, hget, Option.elim_some, owedRequests, hseen x hx]
    simpa [hne] using hcov
  · intro x hx
    have hcov := cov.tokens x hx
    have hne : ¬r.windowId = x := by omega
    rw [Hash.sumBy_del, hget, Option.elim_some, owedTokens, hseen x hx]
    simpa [hne] using hcov

end Settle

section Create

theorem seen_getD (l : Limits) (m : Option State) (count : State → ℕ) (x : ℕ) :
    seen count x (some (m.getD (State.initial l.configuration))) = seen count x m := by
  cases m with
  | none => simp [seen, State.initial]
  | some s => rfl

/-- A new limiter has counted nothing. -/
theorem Agree.create (agree : Agree l n m k) :
    Agree l n (some (m.getD (State.initial l.configuration))) k where
  configuration := by
    rintro s ⟨⟩
    exact agree.configuration_getD
  window_le := by
    rintro s ⟨⟩ x hx
    cases m with
    | none => simp [State.initial] at hx
    | some s => exact agree.window_le s rfl x hx
  key_le := agree.key_le
  requests := by
    intro x hx
    rw [seen_getD]
    exact agree.requests x hx
  tokens := by
    intro htpm x hx
    rw [seen_getD]
    exact agree.tokens htpm x hx

theorem Covered.create (cov : Covered key n out m k) :
    Covered key n out (some (m.getD (State.initial l.configuration))) k where
  held := by
    intro g r hg hle
    obtain ⟨⟨s, hs, hid⟩, hw⟩ := cov.held g r hg hle
    obtain rfl : m = some s := hs
    exact ⟨⟨s, rfl, hid⟩, hw⟩
  requests := by
    intro x hx
    rw [seen_getD]
    exact cov.requests x hx
  tokens := by
    intro x hx
    rw [seen_getD]
    exact cov.tokens x hx

/-- The shared backend opens the window for tokens that nobody limits. -/
theorem Agree.add_unlimited (agree : Agree l (now / l.windowMs) m k) (htpm : l.tpm = none)
    (tokens : ℕ) :
    Agree l (now / l.windowMs) m (hincrby .tokens tokens (opened l now k)) := by
  obtain ⟨hwindow, hdeadline, hreq, -⟩ := agree.opened_key now
  have hwindow' : (hincrby .tokens (tokens : ℤ) (opened l now k)).hget .window =
      some ((now / l.windowMs : ℕ) : ℤ) := by
    rw [hget_window_hincrby (by simp), hwindow]
  refine ⟨agree.configuration, agree.window_le, ?_, ?_, ?_⟩
  · intro v hv
    exact ⟨_, (Option.some.inj (hwindow'.symm.trans hv)).symm, le_rfl, hdeadline⟩
  · intro x hx
    have hsame : counter .requests (hincrby .tokens (tokens : ℤ) (opened l now k)) =
        seenShared .requests (now / l.windowMs) k := by
      rw [counter_hincrby, if_neg (by simp), hreq]
    rw [seenShared, hwindow', hsame]
    by_cases hxn : now / l.windowMs = x
    · subst hxn
      rw [if_pos rfl]
      exact agree.requests _ le_rfl
    · have hne : some ((now / l.windowMs : ℕ) : ℤ) ≠ some (x : ℤ) := by
        rw [Ne, Option.some_inj, Nat.cast_inj]
        exact hxn
      rw [seen_of_lt agree (lt_of_le_of_ne hx hxn), if_neg hne]
      rfl
  · intro hsome
    simp [htpm] at hsome

theorem Covered.add_unlimited (cov : Covered key (now / l.windowMs) out m k)
    (agree : Agree l (now / l.windowMs) m k) (tokens : ℕ) :
    Covered key (now / l.windowMs) out m (hincrby .tokens tokens (opened l now k)) where
  held := by
    intro g r hg hle
    obtain ⟨⟨s, hs, hid⟩, -⟩ := cov.held g r hg hle
    have hn : r.windowId = now / l.windowMs :=
      le_antisymm (agree.window_le s hs _ hid) hle
    refine ⟨⟨s, hs, hid⟩, ?_⟩
    rw [hget_window_hincrby (by simp), (agree.opened_key now).1, hn]
  requests := cov.requests
  tokens := cov.tokens

end Create

/-- **One call**: the replies agree, and the backends agree afterwards. -/
structure Step (key : String) (l : Limits) (now pos : ℕ) (out : Hash ℕ (String × RateReservation))
    (call : Call) (local' : Reply × Option State) (shared' : Reply × LimitKey) : Prop where
  agrees : local'.1.Agrees shared'.1
  agree : Agree l (now / l.windowMs) local'.2 shared'.2
  covered : Covered key (now / l.windowMs) (booked key call local'.1 pos out) local'.2 shared'.2

section Steps

variable (agree : Agree l (now / l.windowMs) m k) (cov : Covered key (now / l.windowMs) out m k)
  (hexp : Key.Expirable now l.ttl) (hpos : out.get pos = none)

include agree cov hexp hpos

theorem step_admitRequest
    (hfits : Fits (Memory.call l.config (now / 1000) m .admitRequest).2
      (Shared.call l.config now k .admitRequest).2) :
    Step key l now pos out .admitRequest (Memory.call l.config (now / 1000) m .admitRequest)
      (Shared.call l.config now k .admitRequest) := by
  obtain ⟨rate, s', k', hlocal, hshared, served⟩ := agree.admitRequest le_rfl hexp hfits.1
  rw [Memory.call, Shared.call, hlocal, hshared]
  exact ⟨rfl, served.same.agree, cov.serve agree served hpos⟩

theorem step_reserve {tokens : ℕ} (htokens : 0 < tokens)
    (hfits : Fits (Memory.call l.config (now / 1000) m (.reserve tokens)).2
      (Shared.call l.config now k (.reserve tokens)).2) :
    Step key l now pos out (.reserve tokens)
      (Memory.call l.config (now / 1000) m (.reserve tokens))
      (Shared.call l.config now k (.reserve tokens)) := by
  obtain ⟨result, s', k', hlocal, hshared, served⟩ :=
    agree.reserve le_rfl hexp l.active_true htokens hfits.1
  have hlocal' : Memory.onLimiter l.config (reserveAt tokens (.finite (now / 1000))) m =
      (.ok result, some s') := hlocal
  rw [Memory.call, Shared.call, hlocal', hshared]
  exact ⟨rfl, served.same.agree, cov.serve agree served hpos⟩

theorem step_reserveTokens {tokens : ℕ} (htokens : 0 < tokens)
    (hfits : Fits (Memory.call l.config (now / 1000) m (.reserveTokens tokens)).2
      (Shared.call l.config now k (.reserveTokens tokens)).2) :
    Step key l now pos out (.reserveTokens tokens)
      (Memory.call l.config (now / 1000) m (.reserveTokens tokens))
      (Shared.call l.config now k (.reserveTokens tokens)) := by
  have htpmiff : l.configuration.Active false ↔ ¬l.tpm.isNone = true := by
    simp [Configuration.Active, Limits.configuration]
  by_cases htpm : l.tpm.isNone = true
  · -- tokens are not limited: nobody counts
    have hactive : ¬l.configuration.Active false := fun h => htpmiff.mp h htpm
    have hnow : ¬(now / 1000 : ℚ) < 0 := not_lt.mpr (by positivity)
    have hlocal : Memory.onLimiter l.config (reserveTokensAt tokens (.finite (now / 1000))) m =
        (.ok ⟨admitted, none⟩, some (m.getD (State.initial l.configuration))) := by
      rw [l.onLimiter_config, reserveTokensAt, reserveInner_eq, agree.configuration_getD,
        if_neg hnow, if_pos hactive]
      rfl
    have hshared : Shared.reserveTokens l.config tokens now k = (.ok ⟨admitted, none⟩, k) := by
      simp only [Shared.reserveTokens, l.validate_config]
      exact if_pos htpm
    rw [Memory.call, Shared.call, hlocal, hshared]
    exact ⟨rfl, agree.create, cov.create⟩
  · obtain ⟨result, s', k', hlocal, hshared, served⟩ :=
      agree.reserve le_rfl hexp (htpmiff.mpr htpm) htokens hfits.1
    have hlocal' : Memory.onLimiter l.config (reserveTokensAt tokens (.finite (now / 1000))) m =
        (.ok result, some s') := hlocal
    have hshared' : Shared.reserveTokens l.config tokens now k = (.ok result, k') := by
      simp only [Shared.reserveTokens, l.validate_config]
      exact (if_neg htpm).trans hshared
    rw [Memory.call, Shared.call, hlocal', hshared']
    exact ⟨rfl, served.same.agree, cov.serve agree served hpos⟩

theorem step_addTokens {tokens : ℕ}
    (hfits : Fits (Memory.call l.config (now / 1000) m (.addTokens tokens)).2
      (Shared.call l.config now k (.addTokens tokens)).2) :
    Step key l now pos out (.addTokens tokens)
      (Memory.call l.config (now / 1000) m (.addTokens tokens))
      (Shared.call l.config now k (.addTokens tokens)) := by
  cases htpm : l.tpm with
  | none =>
    have hnow : ¬(now / 1000 : ℚ) < 0 := not_lt.mpr (by positivity)
    have hlocal : Memory.onLimiter l.config (addTokensAt tokens (.finite (now / 1000))) m =
        (.ok (), some (m.getD (State.initial l.configuration))) := by
      rw [l.onLimiter_config, addTokensAt_eq, agree.configuration_getD, if_neg hnow,
        if_pos (by simp [Limits.configuration, htpm])]
      rfl
    rw [Memory.call, Shared.call, hlocal, addTokens_eq hexp]
    exact ⟨rfl, (agree.add_unlimited htpm tokens).create, (cov.add_unlimited agree tokens).create⟩
  | some tpm =>
    obtain ⟨s', k', hlocal, hshared, served⟩ :=
      agree.addTokens le_rfl hexp (by simp [htpm]) hfits.1
    rw [Memory.call, Shared.call, hlocal, hshared]
    exact ⟨rfl, served.same.agree, cov.serve agree served hpos⟩

theorem step_snapshot :
    Step key l now pos out .snapshot (Memory.call l.config (now / 1000) m .snapshot)
      (Shared.call l.config now k .snapshot) := by
  cases hrpm : l.rpm with
  | none =>
    have hconfig : l.config.rpm = none := hrpm
    have hlocal : Memory.call l.config (now / 1000) m .snapshot = (.snapshot (.ok none), m) := by
      simp [Memory.call, l.validate_config, hconfig]
    have hshared : Shared.call l.config now k .snapshot = (.snapshot (.ok none), k) := by
      simp [Shared.call, Shared.snapshot, l.validate_config, hconfig]
    rw [hlocal, hshared]
    exact ⟨rfl, agree, cov⟩
  | some limit =>
    obtain ⟨view, hlocal, hshared⟩ := agree.snapshot le_rfl hexp hrpm
    have hconfig : l.config.rpm = some limit := hrpm
    have hlocal' : Memory.call l.config (now / 1000) m .snapshot =
        (.snapshot (.ok (some view)), some (advanced l now m)) := by
      simp [Memory.call, l.validate_config, hconfig, hlocal]
    rw [hlocal', Shared.call, hshared]
    exact ⟨rfl, (agree.served le_rfl).same.agree, cov.serve agree (agree.served le_rfl) hpos⟩

omit hexp hpos

theorem step_reconcile {grant actualTokens : ℕ} {r : RateReservation}
    (hget : out.get grant = some (key, r))
    (hfits : Fits (Memory.call l.config (now / 1000) m (.reconcile grant r actualTokens)).2
      (Shared.call l.config now k (.reconcile grant r actualTokens)).2) :
    Step key l now pos out (.reconcile grant r actualTokens)
      (Memory.call l.config (now / 1000) m (.reconcile grant r actualTokens))
      (Shared.call l.config now k (.reconcile grant r actualTokens)) := by
  have hnow : (0 : ℚ) ≤ now / 1000 := by positivity
  have hshared : Shared.reconcile l.config r actualTokens now k =
      (.ok ((reconcileScript r.windowId r.reservedTokens actualTokens now k).1 == 1),
        (reconcileScript r.windowId r.reservedTokens actualTokens now k).2) := by
    simp only [Shared.reconcile, l.validate_config]
    rfl
  rw [Memory.call, Shared.call, l.onLimiter_config, hshared] at hfits ⊢
  by_cases hle : now / l.windowMs ≤ r.windowId
  · obtain ⟨s, rfl, hr, same, hcovers, -⟩ := cov.same agree hget hle
    rw [Option.getD_some] at hfits ⊢
    have hlive := agree.live_eq same.window hle
    obtain ⟨hstate, hsame⟩ := same.reconcile hlive hnow hcovers (hfits.1 _ rfl).2
    rw [hstate]
    refine ⟨trivial, hr ▸ hsame.agree, ?_⟩
    refine cov.settle agree hget hr (hr ▸ same.windowId) (hr ▸ hsame.windowId)
      (hr ▸ hsame.window) (Nat.le_add_right _ _) ?_
    simp only
    omega
  · obtain ⟨hagree, hseen, hkey⟩ := agree.stale (not_le.mp hle) rfl
      (settledFrom_reconcileAt r actualTokens hnow _)
      (settledKey_reconcileScript r actualTokens now k)
    exact ⟨trivial, hagree, cov.stale hget (not_le.mp hle) hseen hkey⟩

theorem step_rollback {grant : ℕ} {r : RateReservation} (hget : out.get grant = some (key, r)) :
    Step key l now pos out (.rollback grant r)
      (Memory.call l.config (now / 1000) m (.rollback grant r))
      (Shared.call l.config now k (.rollback grant r)) := by
  have hnow : (0 : ℚ) ≤ now / 1000 := by positivity
  have hshared : Shared.rollback l.config r now k =
      (.ok ((rollbackScript r.windowId r.reservedTokens (if r.reservedRequest then 1 else 0) now
          k).1 == 1),
        (rollbackScript r.windowId r.reservedTokens (if r.reservedRequest then 1 else 0) now
          k).2) := by
    simp only [Shared.rollback, l.validate_config]
    rfl
  rw [Memory.call, Shared.call, l.onLimiter_config, hshared]
  by_cases hle : now / l.windowMs ≤ r.windowId
  · obtain ⟨s, rfl, hr, same, hcovers, hcovers'⟩ := cov.same agree hget hle
    rw [Option.getD_some, rollbackAt_of_eq hnow same.windowId]
    have hsame := same.rollback (agree.live_eq same.window hle) hcovers hcovers'
    refine ⟨trivial, hr ▸ hsame.agree, ?_⟩
    refine cov.settle agree hget hr (hr ▸ same.windowId) (hr ▸ hsame.windowId)
      (hr ▸ hsame.window) ?_ ?_
    · simp only
      omega
    · simp only
      omega
  · obtain ⟨hagree, hseen, hkey⟩ := agree.stale (not_le.mp hle) rfl
      (settledFrom_rollbackAt r hnow _) (settledKey_rollbackScript r _ now k)
    exact ⟨trivial, hagree, cov.stale hget (not_le.mp hle) hseen hkey⟩

end Steps

end Covered

/-- A position that is booked lies in the past. -/
theorem lt_of_outstanding {h : History} {pos : ℕ} {p : String × RateReservation}
    (hget : (outstanding h).get pos = some p) : pos < h.length := by
  induction h with
  | nil => simp [outstanding] at hget
  | cons e h ih =>
    have hold : (outstanding h).get pos = some p → pos < (e :: h).length := by
      intro hp
      rw [List.length_cons]
      have := ih hp
      omega
    have hdel : ∀ grant, ((outstanding h).del grant).get pos = some p → pos < (e :: h).length := by
      intro grant hp
      rw [Hash.get_del] at hp
      split at hp
      · simp at hp
      · exact hold hp
    have hset : (e.reply.1.reservation.elim (outstanding h)
        fun r => (outstanding h).set h.length (e.call.1, r)).get pos = some p →
        pos < (e :: h).length := by
      intro hp
      cases hr : e.reply.1.reservation with
      | none =>
        rw [hr] at hp
        exact hold hp
      | some r =>
        rw [hr, Option.elim_some, Hash.get_set] at hp
        split at hp
        · next hpos =>
          rw [hpos, List.length_cons]
          omega
        · exact hold hp
    rw [outstanding] at hget
    cases hc : e.call.2 with
    | reconcile grant r a =>
      rw [hc] at hget
      exact hdel grant hget
    | rollback grant r =>
      rw [hc] at hget
      exact hdel grant hget
    | _ =>
      rw [hc] at hget
      exact hset hget

/-- At every time from now on the backends agree on every key, and they agreed so far. -/
structure Inv (limits : String → Limits) (h : History)
    (s : (String → Option State) × (String → LimitKey)) : Prop where
  agrees : ∀ e ∈ h, e.reply.1.Agrees e.reply.2
  agree : ∀ now, (∀ e ∈ h, e.time ≤ now) → ∀ key,
    Agree (limits key) (now / (limits key).windowMs) (s.1 key) (s.2 key)
  covered : ∀ now, (∀ e ∈ h, e.time ≤ now) → ∀ key,
    Covered key (now / (limits key).windowMs) (outstanding h) (s.1 key) (s.2 key)

theorem inv_unused (limits : String → Limits) : Inv limits [] unused where
  agrees := by simp
  agree := by
    intro now _ key
    exact agree_unused _ _
  covered := by
    intro now _ key
    exact covered_unused _ _

section Run

variable {limits : String → Limits} {h : History}
  {s : (String → Option State) × (String → LimitKey)} {now : ℕ} {key : String} {call : Call}

theorem step_of_inv (inv : Inv limits h s) (htime : ∀ e ∈ h, e.time ≤ now)
    (ok : Ok limits h s now (key, call)) :
    Step key (limits key) now h.length (outstanding h) call
      (Memory.call (limits key).config (now / 1000) (s.1 key) call)
      (Shared.call (limits key).config now (s.2 key) call) := by
  obtain ⟨allowed, hexp, hfits⟩ := ok
  have agree := inv.agree now htime key
  have cov := inv.covered now htime key
  have hpos : (outstanding h).get h.length = none := by
    by_contra hne
    obtain ⟨p, hp⟩ := Option.ne_none_iff_exists'.mp hne
    exact absurd (lt_of_outstanding hp) (lt_irrefl _)
  simp only [serve, Function.update_self] at hfits
  cases call with
  | admitRequest => exact step_admitRequest agree cov hexp hpos hfits
  | reserve tokens => exact step_reserve agree cov hexp hpos allowed hfits
  | reserveTokens tokens => exact step_reserveTokens agree cov hexp hpos allowed hfits
  | reconcile grant r actualTokens => exact step_reconcile agree cov allowed hfits
  | rollback grant r => exact step_rollback agree cov allowed
  | addTokens tokens => exact step_addTokens agree cov hexp hpos hfits
  | snapshot => exact step_snapshot agree cov hexp hpos

theorem inv_step (inv : Inv limits h s) (htime : ∀ e ∈ h, e.time ≤ now)
    (ok : Ok limits h s now (key, call)) :
    Inv limits ((serve limits).event now (key, call) s :: h)
      (serve limits now (key, call) s).2 := by
  have step := step_of_inv inv htime ok
  have hpos : (outstanding h).get h.length = none := by
    by_contra hne
    obtain ⟨p, hp⟩ := Option.ne_none_iff_exists'.mp hne
    exact absurd (lt_of_outstanding hp) (lt_irrefl _)
  have hold : ∀ now', (∀ e ∈ (serve limits).event now (key, call) s :: h, e.time ≤ now') →
      now ≤ now' := fun now' h' => h' _ List.mem_cons_self
  refine ⟨?_, ?_, ?_⟩
  · intro e he
    rcases List.mem_cons.mp he with rfl | he
    · exact step.agrees
    · exact inv.agrees e he
  · intro now' h' key'
    have hdiv := Nat.div_le_div_right (c := (limits key').windowMs) (hold now' h')
    by_cases hkey : key' = key
    · subst hkey
      simpa [serve] using step.agree.mono hdiv
    · have hother := inv.agree now htime key'
      simpa [serve, Function.update_of_ne hkey] using hother.mono hdiv
  · intro now' h' key'
    have hdiv := Nat.div_le_div_right (c := (limits key').windowMs) (hold now' h')
    by_cases hkey : key' = key
    · subst hkey
      simpa [serve, outstanding, Service.event] using step.covered.mono hdiv
    · have hsettle : ∀ grant r, (∃ a, call = .reconcile grant r a) ∨ call = .rollback grant r →
          (outstanding h).get grant = some (key, r) := by
        rintro grant r (⟨a, rfl⟩ | rfl)
        · exact ok.1
        · exact ok.1
      have hother := (inv.covered now htime key').booked_of_ne
        (Memory.call (limits key).config (now / 1000) (s.1 key) call).1 hkey hpos hsettle
      simpa [serve, outstanding, Service.event, Function.update_of_ne hkey] using hother.mono hdiv

end Run

instance (h : History) (call : String × Call) : Decidable (Allowed h call) := by
  obtain ⟨key, call⟩ := call
  cases call <;> unfold Allowed <;> infer_instance

instance (m : Option State) (k : LimitKey) : Decidable (Fits m k) :=
  match m with
  | none => decidable_of_iff (counter .requests k ≤ i64Max ∧ counter .tokens k ≤ i64Max)
      (by simp [Fits])
  | some s => decidable_of_iff (((s.requests : ℤ) ≤ i64Max ∧ (s.tokens : ℤ) ≤ i64Max) ∧
      counter .requests k ≤ i64Max ∧ counter .tokens k ≤ i64Max) (by simp [Fits])

instance (limits : String → Limits) (h : History)
    (s : (String → Option State) × (String → LimitKey)) (now : ℕ) (call : String × Call) :
    Decidable (Ok limits h s now call) :=
  inferInstanceAs (Decidable (_ ∧ _ ∧ _))

/-- Two limits in windows of a second. -/
def secondLimits : Limits :=
  ⟨some 2, some 100, 1000, by decide, by decide, by decide, by decide⟩

/-- A refused, a reconciled and a late reservation, newest call first. -/
def lateSettlement : List (ℕ × String × Call) :=
  [(3700, "a", .rollback 4 ⟨0, 10, true⟩), (3600, "a", .reserve 5), (1100, "b", .admitRequest),
    (700, "a", .snapshot), (600, "a", .admitRequest), (500, "a", .reserve 10),
    (400, "b", .addTokens 3),
    (300, "a", .reconcile 0 ⟨0, 80, true⟩ 20), (200, "a", .reserveTokens 30),
    (100, "a", .reserve 80)]

/-- The two backends part on a reservation of no tokens when the token limit is used up
exactly: the limiter refuses it as an admission, the script compares the sum. -/
theorem reserve_zero_at_limit {l : Limits} {now tpm : ℕ} {m : Option State} {k : LimitKey}
    (agree : Agree l (now / l.windowMs) m k) (hexp : Key.Expirable now l.ttl)
    (htpm : l.tpm = some tpm) (hfull : (advanced l now m).tokens = tpm)
    (hfree : ¬RequestsFull true (advanced l now m)) :
    (Memory.onLimiter l.config (reserveInner 0 true (.finite (now / 1000))) m).1 =
        .ok ⟨rejected .tokens (advanced l now m) (now / 1000), none⟩ ∧
      (Shared.reserveWith l.config 0 true now k).1 =
        .ok ⟨admitted, some ⟨now / l.windowMs, 0, true⟩⟩ := by
  have same : Same l (now / l.windowMs) (advanced l now m) (opened l now k) :=
    agree.same_opened le_rfl
  constructor
  · have hlim : limiting 0 true (advanced l now m) = some .tokens := by
      obtain ⟨-, hreq⟩ | ⟨hlim, -⟩ | ⟨-, -, hnot⟩ := limiting_cases 0 true (advanced l now m)
      · exact absurd hreq hfree
      · exact hlim
      · refine absurd ⟨tpm, ?_, ?_⟩ hnot
        · rw [same.configuration]
          exact htpm
        · rw [if_pos rfl, hfull]
    rw [onLimiter_reserveInner agree hexp l.active_true, hlim]
  · have htok := same.tokens (by simp [htpm])
    rw [reserveWith_eq hexp, if_neg (mt (same.requestsFull_iff true).mpr hfree), if_neg]
    rw [htpm, Option.getD_some, ← htok, hfull]
    omega

end WayfinderRouter.RateLimit.Backends
