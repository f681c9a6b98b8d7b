import WayfinderRouter.Double
import WayfinderRouter.Unsigned

/-!
# The fixed-window limiter

One limiter counts the requests and the tokens of the current window. The window is
advanced lazily: by the first operation that reserves, adds tokens or reads a snapshot in
a new window. Settling a reservation only compares window ids and never advances.

Seconds are exact. The quotient of two such numbers is then an exact floor, which is
`pythonFloorDivPositive_eq`.

## Main definitions

- `State` — the counters behind the lock of a `RateLimiter`
- `reserveInner` — admission of a request, of tokens, or of both
- `reconcileAt`, `rollbackAt` — settling a reservation
- `rolled` — the counters as an operation at a given time finds them
-/

namespace WayfinderRouter.RateLimit

inductive LimitKind where
  | requests
  | tokens
deriving DecidableEq, Repr

structure RateResult where
  limitedBy : Option LimitKind
  retryAfterSeconds : ℕ
deriving DecidableEq, Repr

def RateResult.allowed (result : RateResult) : Bool := result.limitedBy.isNone

structure RateReservation where
  windowId : ℕ
  reservedTokens : ℕ
  reservedRequest : Bool
deriving DecidableEq, Repr

structure ReservationResult where
  rate : RateResult
  reservation : Option RateReservation
deriving DecidableEq, Repr

structure RateSnapshot where
  limit : ℕ
  remaining : ℕ
  resetSeconds : ℕ
deriving DecidableEq, Repr

/-- `RateLimitError`. The lock is never poisoned here. -/
inductive RateLimitError where
  | invalidWindow
  | invalidTime
deriving DecidableEq, Repr

/-- The windows of the examples last a minute. -/
theorem minute_pos : (0 : ℚ) < 60 := by norm_num

/-- A validated configuration has a positive window. -/
structure Configuration where
  rpm : Option ℕ
  tpm : Option ℕ
  windowSeconds : ℚ
  window_pos : 0 < windowSeconds
deriving DecidableEq

structure State where
  configuration : Configuration
  windowId : Option ℕ
  requests : ℕ
  tokens : ℕ
deriving DecidableEq

/-- `validated_configuration`. -/
def validatedConfiguration (rpm tpm : Option ℕ) :
    Double → Except RateLimitError Configuration
  | .notFinite => .error .invalidWindow
  | .finite windowSeconds =>
    if h : windowSeconds ≤ 0 then .error .invalidWindow
    else .ok ⟨rpm, tpm, windowSeconds, not_le.mp h⟩

/-- A limiter that has served nothing. -/
def State.initial (configuration : Configuration) : State := ⟨configuration, none, 0, 0⟩

/-- `RateLimiter::new`. -/
def new (rpm tpm : Option ℕ) (windowSeconds : Double) : Except RateLimitError State :=
  (validatedConfiguration rpm tpm windowSeconds).map State.initial

/-- `validate_time`, with the time it accepts. -/
def validateTime : Double → Except RateLimitError ℚ
  | .notFinite => .error .invalidTime
  | .finite now => if now < 0 then .error .invalidTime else .ok now

/-- `python_floor_div_positive`. The remainder of two non-negative doubles is exact. -/
def pythonFloorDivPositive (numerator denominator : ℚ) : ℚ :=
  let modulo := numerator - denominator * ⌊numerator / denominator⌋
  let division := (numerator - modulo) / denominator
  if division = 0 then 0
  else
    let floored : ℚ := ⌊division⌋
    if 1 / 2 < division - floored then floored + 1 else floored

/-- `roll`. The comparison is with `u64::MAX as f64`, which is `2 ^ 64`. -/
def roll (state : State) (now : ℚ) : Except RateLimitError State :=
  let quotient := pythonFloorDivPositive now state.configuration.windowSeconds
  if 2 ^ 64 ≤ quotient then .error .invalidTime
  else
    let windowId := ⌊quotient⌋.toNat
    if some windowId ≠ state.windowId then
      .ok { state with windowId := some windowId, requests := 0, tokens := 0 }
    else .ok state

/-- `retry_after`. -/
def retryAfter (state : State) (now : ℚ) : ℕ :=
  let nextWindow := U64.saturatingAdd (state.windowId.getD 0) 1
  let next := nextWindow * state.configuration.windowSeconds
  min (max ⌈next - now⌉ 1).toNat U64.max

/-- `rejected`. -/
def rejected (kind : LimitKind) (state : State) (now : ℚ) : RateResult :=
  ⟨some kind, retryAfter state now⟩

/-- The rate of an admission. -/
def admitted : RateResult := ⟨none, 0⟩

/-- `RateLimiter::reserve_inner`. -/
def reserveInner (tokens : ℕ) (reserveRequest : Bool) (now : Double) (state : State) :
    Except RateLimitError ReservationResult × State :=
  match validateTime now with
  | .error e => (.error e, state)
  | .ok now =>
    if (!reserveRequest || state.configuration.rpm.isNone) && state.configuration.tpm.isNone then
      (.ok ⟨admitted, none⟩, state)
    else match roll state now with
    | .error e => (.error e, state)
    | .ok state =>
      if reserveRequest && state.configuration.rpm.any (· ≤ state.requests) then
        (.ok ⟨rejected .requests state now, none⟩, state)
      else if state.configuration.tpm.any fun limit =>
          if tokens = 0 then limit ≤ state.tokens
          else limit < U64.saturatingAdd state.tokens tokens then
        (.ok ⟨rejected .tokens state now, none⟩, state)
      else
        let state := if reserveRequest then
            { state with requests := U64.saturatingAdd state.requests 1 }
          else state
        let state := { state with tokens := U64.saturatingAdd state.tokens tokens }
        match state.windowId with
        | none => (.error .invalidTime, state)
        | some windowId => (.ok ⟨admitted, some ⟨windowId, tokens, reserveRequest⟩⟩, state)

/-- `RateLimiter::reserve_at`. -/
def reserveAt (tokens : ℕ) (now : Double) (state : State) :
    Except RateLimitError ReservationResult × State :=
  reserveInner tokens true now state

/-- `RateLimiter::reserve_tokens_at`. -/
def reserveTokensAt (tokens : ℕ) (now : Double) (state : State) :
    Except RateLimitError ReservationResult × State :=
  reserveInner tokens false now state

/-- `RateLimiter::admit_at`. -/
def admitAt (now : Double) (state : State) : Except RateLimitError RateResult × State :=
  let (result, state) := reserveAt 0 now state
  (result.map ReservationResult.rate, state)

/-- `RateLimiter::reconcile_at`. -/
def reconcileAt (reservation : RateReservation) (actualTokens : ℕ) (now : Double)
    (state : State) : Except RateLimitError Bool × State :=
  match validateTime now with
  | .error e => (.error e, state)
  | .ok _ =>
    if state.windowId ≠ some reservation.windowId then (.ok false, state)
    else if reservation.reservedTokens ≤ actualTokens then
      (.ok true, { state with
        tokens := U64.saturatingAdd state.tokens (actualTokens - reservation.reservedTokens) })
    else
      (.ok true, { state with
        tokens := state.tokens - (reservation.reservedTokens - actualTokens) })

/-- `RateLimiter::rollback_at`. -/
def rollbackAt (reservation : RateReservation) (now : Double) (state : State) :
    Except RateLimitError Bool × State :=
  match validateTime now with
  | .error e => (.error e, state)
  | .ok _ =>
    if state.windowId ≠ some reservation.windowId then (.ok false, state)
    else
      let state := if reservation.reservedRequest then
          { state with requests := state.requests - 1 }
        else state
      (.ok true, { state with tokens := state.tokens - reservation.reservedTokens })

/-- `RateLimiter::add_tokens_at`. -/
def addTokensAt (tokens : ℕ) (now : Double) (state : State) :
    Except RateLimitError Unit × State :=
  match validateTime now with
  | .error e => (.error e, state)
  | .ok now =>
    if state.configuration.tpm.isNone then (.ok (), state)
    else match roll state now with
    | .error e => (.error e, state)
    | .ok state => (.ok (), { state with tokens := U64.saturatingAdd state.tokens tokens })

/-- `RateLimiter::snapshot_at`. -/
def snapshotAt (now : Double) (state : State) :
    Except RateLimitError (Option RateSnapshot) × State :=
  match validateTime now with
  | .error e => (.error e, state)
  | .ok now =>
    match state.configuration.rpm with
    | none => (.ok none, state)
    | some limit => match roll state now with
      | .error e => (.error e, state)
      | .ok state =>
        (.ok (some ⟨limit, limit - state.requests, retryAfter state now⟩), state)

/-- With exact numbers the quotient is the floor. -/
theorem pythonFloorDivPositive_eq (numerator : ℚ) {denominator : ℚ} (hd : 0 < denominator) :
    pythonFloorDivPositive numerator denominator = ⌊numerator / denominator⌋ := by
  have hdivision : (numerator - (numerator - denominator * ⌊numerator / denominator⌋)) /
      denominator = ⌊numerator / denominator⌋ := by
    field_simp
    ring
  simp only [pythonFloorDivPositive, hdivision, Int.floor_intCast, sub_self]
  split
  · next h => exact h.symm
  · rw [if_neg (by norm_num)]

/-- The window of a time. -/
def Configuration.windowAt (c : Configuration) (now : ℚ) : ℕ := ⌊now / c.windowSeconds⌋.toNat

/-- The id of the window of a time fits the counter. -/
def Configuration.Countable (c : Configuration) (now : ℚ) : Prop := now / c.windowSeconds < 2 ^ 64

instance (c : Configuration) (now : ℚ) : Decidable (c.Countable now) :=
  inferInstanceAs (Decidable (_ < _))

theorem Configuration.windowAt_mono (c : Configuration) {t t' : ℚ} (h : t ≤ t') :
    c.windowAt t ≤ c.windowAt t' :=
  Int.toNat_le_toNat (Int.floor_mono (by gcongr; exact c.window_pos.le))

/-- The counters as an operation at time `now` finds them. -/
def rolled (now : ℚ) (state : State) : State :=
  if state.windowId = some (state.configuration.windowAt now) then state
  else { state with
    windowId := some (state.configuration.windowAt now), requests := 0, tokens := 0 }

theorem roll_eq (state : State) (now : ℚ) :
    roll state now = if state.configuration.Countable now then .ok (rolled now state)
      else .error .invalidTime := by
  have hle : ((2 : ℚ) ^ 64 ≤ (⌊now / state.configuration.windowSeconds⌋ : ℚ)) ↔
      ¬state.configuration.Countable now := by
    have hfloor := @Int.le_floor ℚ _ _ _ (2 ^ 64) (now / state.configuration.windowSeconds)
    rw [Configuration.Countable, not_lt, ← Int.cast_ofNat, ← Int.cast_pow, ← hfloor, Int.cast_le]
  simp only [roll, pythonFloorDivPositive_eq _ state.configuration.window_pos, hle,
    Int.floor_intCast, rolled, Configuration.windowAt, eq_comm (a := state.windowId)]
  split_ifs <;> first | rfl | contradiction

section Rolled

variable (now : ℚ) (state : State)

@[simp] theorem configuration_rolled : (rolled now state).configuration = state.configuration := by
  rw [rolled]
  split <;> rfl

@[simp] theorem windowId_rolled :
    (rolled now state).windowId = some (state.configuration.windowAt now) := by
  rw [rolled]
  split
  · assumption
  · rfl

end Rolled

/-- The dimension that refuses a reservation, if one does. -/
def limiting (tokens : ℕ) (reserveRequest : Bool) (state : State) : Option LimitKind :=
  if reserveRequest && state.configuration.rpm.any (· ≤ state.requests) then some .requests
  else if state.configuration.tpm.any fun limit =>
      if tokens = 0 then limit ≤ state.tokens
      else limit < U64.saturatingAdd state.tokens tokens then some .tokens
  else none

/-- The request limit refuses the reservation. -/
def RequestsFull (reserveRequest : Bool) (state : State) : Prop :=
  reserveRequest ∧ ∃ rpm ∈ state.configuration.rpm, rpm ≤ state.requests

/-- The token limit refuses the reservation. -/
def TokensFull (tokens : ℕ) (state : State) : Prop :=
  ∃ tpm ∈ state.configuration.tpm,
    if tokens = 0 then tpm ≤ state.tokens else tpm < U64.saturatingAdd state.tokens tokens

theorem limiting_cases (tokens : ℕ) (reserveRequest : Bool) (state : State) :
    (limiting tokens reserveRequest state = some .requests ∧ RequestsFull reserveRequest state) ∨
    (limiting tokens reserveRequest state = some .tokens ∧ ¬RequestsFull reserveRequest state ∧
      TokensFull tokens state) ∨
    (limiting tokens reserveRequest state = none ∧ ¬RequestsFull reserveRequest state ∧
      ¬TokensFull tokens state) := by
  have hreq : (reserveRequest && state.configuration.rpm.any (· ≤ state.requests)) = true ↔
      RequestsFull reserveRequest state := by
    simp [RequestsFull, Option.any_eq_true, Option.mem_def]
  have htok : (state.configuration.tpm.any fun limit => if tokens = 0 then limit ≤ state.tokens
      else limit < U64.saturatingAdd state.tokens tokens) = true ↔ TokensFull tokens state := by
    by_cases h0 : tokens = 0 <;> simp [TokensFull, Option.any_eq_true, Option.mem_def, h0]
  rw [limiting]
  by_cases hr : RequestsFull reserveRequest state
  · exact .inl ⟨if_pos (hreq.mpr hr), hr⟩
  · rw [if_neg (mt hreq.mp hr)]
    by_cases ht : TokensFull tokens state
    · exact .inr (.inl ⟨if_pos (htok.mpr ht), hr, ht⟩)
    · exact .inr (.inr ⟨if_neg (mt htok.mp ht), hr, ht⟩)

theorem limiting_eq_none {tokens : ℕ} {reserveRequest : Bool} {state : State}
    (h : limiting tokens reserveRequest state = none) :
    (reserveRequest → ∀ rpm ∈ state.configuration.rpm, state.requests < rpm) ∧
      ∀ tpm ∈ state.configuration.tpm, if tokens = 0 then state.tokens < tpm
        else U64.saturatingAdd state.tokens tokens ≤ tpm := by
  obtain ⟨hsome, -⟩ | ⟨hsome, -⟩ | ⟨-, hr, ht⟩ := limiting_cases tokens reserveRequest state
  · simp [h] at hsome
  · simp [h] at hsome
  · constructor
    · intro hreq rpm hmem
      by_contra hle
      exact hr ⟨hreq, rpm, hmem, not_lt.mp hle⟩
    · intro tpm hmem
      by_contra hfull
      refine ht ⟨tpm, hmem, ?_⟩
      by_cases h0 : tokens = 0
      · simpa [h0] using hfull
      · simpa [h0] using hfull

/-- The counters after a granted reservation. -/
def charge (tokens : ℕ) (reserveRequest : Bool) (state : State) : State :=
  { state with
    requests := if reserveRequest then U64.saturatingAdd state.requests 1 else state.requests
    tokens := U64.saturatingAdd state.tokens tokens }

/-- Some dimension that the reservation uses is limited. -/
def Configuration.Active (c : Configuration) (reserveRequest : Bool) : Prop :=
  ¬((!reserveRequest || c.rpm.isNone) && c.tpm.isNone) = true

instance (c : Configuration) (reserveRequest : Bool) : Decidable (c.Active reserveRequest) :=
  inferInstanceAs (Decidable (¬_ = true))

/-- **The limiter's step**: everything a reservation can answer and leave behind. -/
theorem reserveInner_eq (tokens : ℕ) (reserveRequest : Bool) (now : ℚ) (state : State) :
    reserveInner tokens reserveRequest (.finite now) state =
      if now < 0 then (.error .invalidTime, state)
      else if ¬state.configuration.Active reserveRequest then (.ok ⟨admitted, none⟩, state)
      else if ¬state.configuration.Countable now then (.error .invalidTime, state)
      else match limiting tokens reserveRequest (rolled now state) with
        | some kind =>
          (.ok ⟨rejected kind (rolled now state) now, none⟩, rolled now state)
        | none =>
          (.ok ⟨admitted, some ⟨state.configuration.windowAt now, tokens, reserveRequest⟩⟩,
            charge tokens reserveRequest (rolled now state)) := by
  rw [reserveInner, validateTime]
  by_cases hneg : now < 0
  · rw [if_pos hneg, if_pos hneg]
  rw [if_neg hneg, if_neg hneg]
  by_cases hactive : state.configuration.Active reserveRequest
  · rw [if_neg (not_not.mpr hactive)]
    simp only [roll_eq]
    rw [if_neg hactive]
    by_cases hcount : state.configuration.Countable now
    · rw [if_pos hcount, if_neg (not_not.mpr hcount)]
      have hid := windowId_rolled now state
      generalize rolled now state = s at hid ⊢
      simp only [limiting, charge]
      by_cases hreq : (reserveRequest && s.configuration.rpm.any (· ≤ s.requests)) = true
      · simp only [hreq, if_true]
      · simp only [hreq, if_false, Bool.false_eq_true]
        generalize (s.configuration.tpm.any _) = full
        cases full
        · cases reserveRequest <;> simp [hid]
        · rfl
    · rw [if_neg hcount, if_pos hcount]
  · rw [if_pos hactive]
    exact if_pos (not_not.mp hactive)

theorem addTokensAt_eq (tokens : ℕ) (now : ℚ) (state : State) :
    addTokensAt tokens (.finite now) state =
      if now < 0 then (.error .invalidTime, state)
      else if state.configuration.tpm.isNone then (.ok (), state)
      else if ¬state.configuration.Countable now then (.error .invalidTime, state)
      else (.ok (), charge tokens false (rolled now state)) := by
  rw [addTokensAt, validateTime]
  by_cases hneg : now < 0
  · rw [if_pos hneg, if_pos hneg]
  rw [if_neg hneg, if_neg hneg]
  simp only [roll_eq]
  by_cases hcount : state.configuration.Countable now
  · rw [if_pos hcount, if_neg (not_not.mpr hcount)]
    rfl
  · rw [if_neg hcount, if_pos hcount]

theorem snapshotAt_eq (now : ℚ) (state : State) :
    snapshotAt (.finite now) state =
      if now < 0 then (.error .invalidTime, state)
      else match state.configuration.rpm with
        | none => (.ok none, state)
        | some limit =>
          if ¬state.configuration.Countable now then (.error .invalidTime, state)
          else (.ok (some ⟨limit, limit - (rolled now state).requests,
            retryAfter (rolled now state) now⟩), rolled now state) := by
  rw [snapshotAt, validateTime]
  by_cases hneg : now < 0
  · rw [if_pos hneg, if_pos hneg]
  rw [if_neg hneg, if_neg hneg]
  cases hrpm : state.configuration.rpm with
  | none => rfl
  | some limit =>
    simp only [roll_eq]
    by_cases hcount : state.configuration.Countable now
    · rw [if_pos hcount, if_neg (not_not.mpr hcount)]
    · rw [if_neg hcount, if_pos hcount]

/-- Settling a reservation of another window is refused. -/
theorem reconcileAt_of_ne {reservation : RateReservation} {now : ℚ} {state : State}
    (hnow : 0 ≤ now) (hne : state.windowId ≠ some reservation.windowId) (actualTokens : ℕ) :
    reconcileAt reservation actualTokens (.finite now) state = (.ok false, state) := by
  rw [reconcileAt, validateTime, if_neg (not_lt.mpr hnow)]
  exact if_pos hne

theorem rollbackAt_of_ne {reservation : RateReservation} {now : ℚ} {state : State}
    (hnow : 0 ≤ now) (hne : state.windowId ≠ some reservation.windowId) :
    rollbackAt reservation (.finite now) state = (.ok false, state) := by
  rw [rollbackAt, validateTime, if_neg (not_lt.mpr hnow)]
  exact if_pos hne

/-- Settling a reservation of the window moves the token counter to the tokens used. -/
theorem reconcileAt_of_eq {reservation : RateReservation} {now : ℚ} {state : State}
    (hnow : 0 ≤ now) (heq : state.windowId = some reservation.windowId) {actualTokens : ℕ}
    (hcharged : reservation.reservedTokens ≤ state.tokens)
    (hfits : state.tokens - reservation.reservedTokens + actualTokens ≤ U64.max) :
    reconcileAt reservation actualTokens (.finite now) state = (.ok true, { state with
      tokens := state.tokens - reservation.reservedTokens + actualTokens }) := by
  rw [reconcileAt, validateTime, if_neg (not_lt.mpr hnow)]
  refine (if_neg (not_not.mpr heq)).trans ?_
  by_cases hle : reservation.reservedTokens ≤ actualTokens
  · have htokens : state.tokens + (actualTokens - reservation.reservedTokens) =
        state.tokens - reservation.reservedTokens + actualTokens := by omega
    rw [if_pos hle, U64.saturatingAdd_eq (htokens ▸ hfits), htokens]
  · have htokens : state.tokens - (reservation.reservedTokens - actualTokens) =
        state.tokens - reservation.reservedTokens + actualTokens := by omega
    rw [if_neg hle, htokens]

theorem rollbackAt_of_eq {reservation : RateReservation} {now : ℚ} {state : State}
    (hnow : 0 ≤ now) (heq : state.windowId = some reservation.windowId) :
    rollbackAt reservation (.finite now) state = (.ok true, { state with
      requests := state.requests - if reservation.reservedRequest then 1 else 0
      tokens := state.tokens - reservation.reservedTokens }) := by
  rw [rollbackAt, validateTime, if_neg (not_lt.mpr hnow)]
  refine (if_neg (not_not.mpr heq)).trans ?_
  cases reservation.reservedRequest <;> rfl

end WayfinderRouter.RateLimit
