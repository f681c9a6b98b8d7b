import WayfinderRouter.RateLimit.Backends

/-!
# The simulation between the limiter backends

`Agree` relates the limiter of a key to the hash of that key. It speaks about the counters
of the current window and of later ones, so it survives the passing of time by itself.
Opening the window of a call turns it into `Same`, and every operation keeps that.

## Main definitions

- `Limits` — a configuration as the parser accepts it, in whole milliseconds
- `Same`, `Agree` — the simulation
- `Served` — what an operation in its window leaves behind
-/

namespace WayfinderRouter.RateLimit.Backends

open Redis Timed

/-- A limit configuration as the parser accepts it, with a window of whole milliseconds. -/
structure Limits where
  rpm : Option ℕ
  tpm : Option ℕ
  windowMs : ℕ
  windowMs_pos : 0 < windowMs
  rpm_pos : ∀ n ∈ rpm, 0 < n
  tpm_pos : ∀ n ∈ tpm, 0 < n
  limited : rpm.isSome ∨ tpm.isSome

namespace Limits

variable (l : Limits)

/-- The window in seconds. -/
def seconds : ℚ := l.windowMs / 1000

theorem seconds_pos : 0 < l.seconds := by
  have := l.windowMs_pos
  rw [seconds]
  positivity

/-- The configuration as the backends receive it. -/
def config : StateLimitConfig := ⟨l.rpm, l.tpm, .finite l.seconds⟩

/-- The configuration of the limiter. -/
def configuration : Configuration := ⟨l.rpm, l.tpm, l.seconds, l.seconds_pos⟩

/-- The expiry a script gives the key. -/
def ttl : ℕ := max (l.windowMs * 2) 1000

theorem validate_config : l.config.validate = .ok l.seconds :=
  if_neg (not_le.mpr l.seconds_pos)

theorem new_config : new l.config.rpm l.config.tpm l.config.windowSeconds =
    .ok (State.initial l.configuration) := by
  simp only [new, config, validatedConfiguration]
  rw [dif_neg (not_le.mpr l.seconds_pos)]
  rfl

theorem onLimiter_config {α : Type} (operation : State → Except RateLimitError α × State)
    (m : Option State) :
    Memory.onLimiter l.config operation m =
      ((operation (m.getD (State.initial l.configuration))).1.mapError (fun _ => .unavailable),
        some (operation (m.getD (State.initial l.configuration))).2) := by
  simp only [Memory.onLimiter, l.validate_config]
  cases m with
  | none =>
    simp only [l.new_config]
    rfl
  | some s => rfl

/-- Both backends number the windows alike. -/
theorem windowAt_eq (now : ℕ) : l.configuration.windowAt (now / 1000) = now / l.windowMs := by
  have hw : (l.windowMs : ℚ) ≠ 0 := by
    have := l.windowMs_pos
    positivity
  have hdiv : (now / 1000 : ℚ) / l.seconds = now / l.windowMs := by
    rw [seconds]
    field_simp
  rw [Configuration.windowAt, configuration, hdiv, Rat.floor_natCast_div_natCast]
  norm_cast

variable {l} {now : ℕ}

theorem lt_of_expirable (hexp : Key.Expirable now l.ttl) : now < 2 ^ 63 ∧ l.windowMs < 2 ^ 62 := by
  rw [Key.Expirable, ttl] at hexp
  have := le_max_left (l.windowMs * 2) 1000
  omega

theorem countable (hexp : Key.Expirable now l.ttl) :
    l.configuration.Countable ((now : ℚ) / 1000) := by
  have hnow : (now : ℚ) < 2 ^ 63 := by exact_mod_cast (lt_of_expirable hexp).1
  have hw : (1 : ℚ) ≤ l.windowMs := by exact_mod_cast l.windowMs_pos
  have hdiv : (now / 1000 : ℚ) / l.seconds = now / l.windowMs := by
    rw [seconds]
    field_simp
  rw [Configuration.Countable, configuration, hdiv]
  calc (now : ℚ) / l.windowMs ≤ now := div_le_self (Nat.cast_nonneg _) hw
    _ < 2 ^ 64 := by linarith

theorem windowMs_seconds (hexp : Key.Expirable now l.ttl) :
    Shared.windowMs l.seconds = l.windowMs := by
  have hw := (lt_of_expirable hexp).2
  have hpos := l.windowMs_pos
  have hmul : l.seconds * 1000 = ((l.windowMs : ℤ) : ℚ) := by
    rw [seconds]
    push_cast
    ring
  rw [Shared.windowMs, hmul, Int.ceil_intCast, max_eq_left (by omega), Int.toNat_natCast]
  exact min_eq_left (by rw [U64.max]; omega)

/-- Both backends report the same wait. -/
theorem retryAfter_eq {s : State} (hexp : Key.Expirable now l.ttl)
    (hconf : s.configuration = l.configuration) (hid : s.windowId = some (now / l.windowMs)) :
    (retryAfter s (now / 1000) : ℤ) = retrySeconds l.windowMs now := by
  obtain ⟨hnow, hw⟩ := lt_of_expirable hexp
  have hle : now / l.windowMs ≤ now := Nat.div_le_self _ _
  have hnext : now < (now / l.windowMs + 1) * l.windowMs :=
    Nat.lt_mul_of_div_lt (Nat.lt_succ_self _) l.windowMs_pos
  have hend : (now / l.windowMs + 1) * l.windowMs ≤ now + l.windowMs := by
    rw [Nat.add_mul, one_mul]
    have := Nat.div_mul_le_self now l.windowMs
    omega
  have hremaining : ((now / l.windowMs + 1 : ℕ) : ℚ) * l.seconds - now / 1000 =
      ((((now / l.windowMs + 1) * l.windowMs : ℕ) : ℚ) - now) / 1000 := by
    rw [seconds]
    push_cast
    ring
  have hpos : 1 ≤ ⌈((((now / l.windowMs + 1) * l.windowMs : ℕ) : ℚ) - now) / 1000⌉ := by
    apply Int.one_le_ceil_iff.mpr
    apply div_pos _ (by norm_num)
    rw [sub_pos]
    exact_mod_cast hnext
  have hbound : ⌈((((now / l.windowMs + 1) * l.windowMs : ℕ) : ℚ) - now) / 1000⌉ ≤ l.windowMs := by
    apply Int.ceil_le.mpr
    have hcast : (((now / l.windowMs + 1) * l.windowMs : ℕ) : ℚ) ≤ now + l.windowMs := by
      exact_mod_cast hend
    have hnonneg : (0 : ℚ) ≤ l.windowMs := Nat.cast_nonneg _
    have hdiv : ((((now / l.windowMs + 1) * l.windowMs : ℕ) : ℚ) - now) / 1000 ≤
        l.windowMs / 1000 := by
      gcongr
      linarith
    refine hdiv.trans ?_
    rw [Int.cast_natCast]
    linarith
  have hsat : U64.saturatingAdd (now / l.windowMs) 1 = now / l.windowMs + 1 :=
    U64.saturatingAdd_eq (by rw [U64.max]; omega)
  simp only [retryAfter, hid, hconf, Option.getD_some, hsat]
  rw [configuration, hremaining, retrySeconds, max_eq_left hpos, max_eq_right (by omega),
    min_eq_left (by rw [U64.max]; omega), Int.toNat_of_nonneg (by omega)]

end Limits

/-- The two backends in the same window. -/
structure Same (l : Limits) (x : ℕ) (s : State) (k : LimitKey) : Prop where
  configuration : s.configuration = l.configuration
  windowId : s.windowId = some x
  window : k.hget .window = some (x : ℤ)
  deadline : ∃ d, k.deadline? = some d ∧ (x + 1) * l.windowMs ≤ d
  requests : (s.requests : ℤ) = counter .requests k
  tokens : l.tpm.isSome → (s.tokens : ℤ) = counter .tokens k

/-- A counter of the limiter as a call in window `x` sees it. -/
def seen (count : State → ℕ) (x : ℕ) (m : Option State) : ℕ :=
  m.elim 0 fun s => if s.windowId = some x then count s else 0

/-- A counter of the hash as a call in window `x` sees it. -/
def seenShared (field : Field) (x : ℕ) (k : LimitKey) : ℤ :=
  if k.hget .window = some (x : ℤ) then counter field k else 0

/-- The backends agree on everything that a call in window `n` or later can see. -/
structure Agree (l : Limits) (n : ℕ) (m : Option State) (k : LimitKey) : Prop where
  configuration : ∀ s ∈ m, s.configuration = l.configuration
  window_le : ∀ s ∈ m, ∀ x ∈ s.windowId, x ≤ n
  key_le : ∀ v, k.hget .window = some v → ∃ x : ℕ, v = x ∧ x ≤ n ∧
    ∃ d, k.deadline? = some d ∧ (x + 1) * l.windowMs ≤ d
  requests : ∀ x, n ≤ x → (seen State.requests x m : ℤ) = seenShared .requests x k
  tokens : l.tpm.isSome → ∀ x, n ≤ x → (seen State.tokens x m : ℤ) = seenShared .tokens x k

section Agree

variable {l : Limits} {n x now : ℕ} {m : Option State} {s : State} {k : LimitKey}

theorem agree_unused (l : Limits) (n : ℕ) : Agree l n none none where
  configuration := by simp
  window_le := by simp
  key_le := by simp
  requests := by simp [seen, seenShared]
  tokens := by simp [seen, seenShared]

theorem Agree.mono (agree : Agree l n m k) (hle : n ≤ x) : Agree l x m k where
  configuration := agree.configuration
  window_le := by
    intro s hs y hy
    exact (agree.window_le s hs y hy).trans hle
  key_le := by
    intro v hv
    obtain ⟨y, hy, hyn, hd⟩ := agree.key_le v hv
    exact ⟨y, hy, hyn.trans hle, hd⟩
  requests := by
    intro y hy
    exact agree.requests y (hle.trans hy)
  tokens := by
    intro htpm y hy
    exact agree.tokens htpm y (hle.trans hy)

theorem Same.agree (same : Same l x s k) : Agree l x (some s) k where
  configuration := by
    rintro s' ⟨⟩
    exact same.configuration
  window_le := by
    rintro s' ⟨⟩ y hy
    rw [same.windowId] at hy
    exact (Option.some.inj hy).symm.le
  key_le := by
    intro v hv
    exact ⟨x, (Option.some.inj (same.window.symm.trans hv)).symm, le_rfl, same.deadline⟩
  requests := by
    intro y _
    by_cases hy : x = y
    · subst hy
      simp [seen, seenShared, same.windowId, same.window, same.requests]
    · simp [seen, seenShared, same.windowId, same.window, hy]
  tokens := by
    intro htpm y _
    by_cases hy : x = y
    · subst hy
      simp [seen, seenShared, same.windowId, same.window, same.tokens htpm]
    · simp [seen, seenShared, same.windowId, same.window, hy]

/-- A key that still counts for the window of a call is alive. -/
theorem Agree.live_eq (agree : Agree l n m k) (hw : k.hget .window = some (x : ℤ))
    (hx : now / l.windowMs ≤ x) : k.live now = k := by
  obtain ⟨y, hy, -, d, hd, hle⟩ := agree.key_le _ hw
  obtain rfl : x = y := by exact_mod_cast hy
  apply Key.live_of_not_lapsed
  apply Key.not_lapsed_of_lt hd
  have hlt : now < (x + 1) * l.windowMs :=
    Nat.lt_mul_of_div_lt (Nat.lt_succ_of_le hx) l.windowMs_pos
  omega

theorem Agree.seenShared_live (agree : Agree l n m k) (hx : now / l.windowMs ≤ x)
    (field : Field) : seenShared field x (k.live now) = seenShared field x k := by
  by_cases hw : k.hget .window = some (x : ℤ)
  · rw [agree.live_eq hw hx]
  · by_cases hlapsed : k.Lapsed now
    · simp [seenShared, Key.live_of_lapsed hlapsed, hw]
    · rw [Key.live_of_not_lapsed hlapsed]

/-- The key as the scripts that work in a window find it. -/
def opened (l : Limits) (now : ℕ) (k : LimitKey) : LimitKey :=
  if (k.live now).hget .window = some ((now / l.windowMs : ℕ) : ℤ) then k.live now
  else (reset (now / l.windowMs) (k.live now)).pexpire now l.ttl

theorem inWindow_eq {α : Type} (hexp : Key.Expirable now l.ttl) (body : LimitKey → α × LimitKey)
    (k : LimitKey) :
    inWindow l.windowMs now body k =
      (.ok (body (opened l now k)).1, (body (opened l now k)).2) := by
  by_cases hw : (k.live now).hget .window = some ((now / l.windowMs : ℕ) : ℤ)
  · simp only [inWindow, opened, if_pos hw]
    rfl
  · rw [Limits.ttl] at hexp
    simp only [inWindow, opened, if_neg hw, if_pos hexp, Limits.ttl]
    rfl

theorem windowId_of_seen_ne_zero {count : State → ℕ} (h : seen count x m ≠ 0) :
    ∃ s ∈ m, s.windowId = some x := by
  cases m with
  | none => simp [seen] at h
  | some s =>
    by_cases hs : s.windowId = some x
    · exact ⟨s, rfl, hs⟩
    · simp [seen, hs] at h

/-- The limiter advanced to a window has the counters that are seen in it. -/
theorem rolled_requests (now : ℕ) (m : Option State)
    (hconf : ∀ s ∈ m, s.configuration = l.configuration) :
    (rolled (now / 1000) (m.getD (State.initial l.configuration))).requests =
      seen State.requests (now / l.windowMs) m ∧
    (rolled (now / 1000) (m.getD (State.initial l.configuration))).tokens =
      seen State.tokens (now / l.windowMs) m := by
  cases m with
  | none => simp [rolled, State.initial, seen]
  | some s =>
    have hs := hconf s rfl
    rw [Option.getD_some, rolled, hs, l.windowAt_eq]
    by_cases hid : s.windowId = some (now / l.windowMs)
    · simp [seen, hid]
    · simp [seen, hid]

/-- The key opened in a window has the counters that are seen in it. -/
theorem Agree.opened_key (agree : Agree l n m k) (now : ℕ) :
    (opened l now k).hget .window = some ((now / l.windowMs : ℕ) : ℤ) ∧
    (∃ d, (opened l now k).deadline? = some d ∧ (now / l.windowMs + 1) * l.windowMs ≤ d) ∧
    counter .requests (opened l now k) = seenShared .requests (now / l.windowMs) k ∧
    counter .tokens (opened l now k) = seenShared .tokens (now / l.windowMs) k := by
  rw [← agree.seenShared_live le_rfl, ← agree.seenShared_live le_rfl, opened]
  by_cases hw : (k.live now).hget .window = some ((now / l.windowMs : ℕ) : ℤ)
  · rw [if_pos hw]
    refine ⟨hw, ?_, by simp [seenShared, hw], by simp [seenShared, hw]⟩
    by_cases hlapsed : k.Lapsed now
    · simp [Key.live_of_lapsed hlapsed] at hw
    · rw [Key.live_of_not_lapsed hlapsed] at hw ⊢
      obtain ⟨y, hy, -, hd⟩ := agree.key_le _ hw
      obtain rfl : now / l.windowMs = y := by exact_mod_cast hy
      exact hd
  · rw [if_neg hw]
    refine ⟨?_, ⟨now + l.ttl, ?_, ?_⟩, ?_, ?_⟩
    · simp [reset, Key.hget_hset]
    · exact Key.deadline?_hset_pexpire _ _ _ _ _
    · have hmul := Nat.div_mul_le_self now l.windowMs
      have httl : l.windowMs * 2 ≤ l.ttl := le_max_left _ _
      rw [Nat.add_mul, one_mul]
      omega
    · rw [seenShared, if_neg hw]
      simp [reset, counter, Key.hget_hset]
    · rw [seenShared, if_neg hw]
      simp [reset, counter, Key.hget_hset]

/-- Opening the window of a call brings the backends into the same window. -/
theorem Agree.same_opened (agree : Agree l n m k) (hn : n ≤ now / l.windowMs) :
    Same l (now / l.windowMs) (rolled (now / 1000) (m.getD (State.initial l.configuration)))
      (opened l now k) := by
  obtain ⟨hwindow, hdeadline, hreq, htok⟩ := agree.opened_key now
  obtain ⟨hreq', htok'⟩ := rolled_requests now m agree.configuration
  have hconf : (m.getD (State.initial l.configuration)).configuration = l.configuration := by
    cases m with
    | none => rfl
    | some s => exact agree.configuration s rfl
  refine ⟨?_, ?_, hwindow, hdeadline, ?_, ?_⟩
  · rw [configuration_rolled, hconf]
  · rw [windowId_rolled, hconf, l.windowAt_eq]
  · rw [hreq', hreq]
    exact agree.requests _ hn
  · intro htpm
    rw [htok', htok]
    exact agree.tokens htpm _ hn

section Calls

theorem counter_hincrby (field field' : Field) (delta : ℤ) (k : LimitKey) :
    counter field' (hincrby field delta k) =
      if field' = field then counter field k + delta else counter field' k := by
  rw [counter, hincrby, Key.hget_hset]
  split <;> rfl

theorem hget_window_hincrby {field : Field} (hf : field ≠ .window) (delta : ℤ) (k : LimitKey) :
    (hincrby field delta k).hget .window = k.hget .window := by
  rw [hincrby, Key.hget_hset, if_neg (Ne.symm hf)]

theorem deadline?_hincrby (field : Field) (delta : ℤ) (k : LimitKey) :
    (hincrby field delta k).deadline? = k.deadline? := rfl

/-- The request limit refuses in both backends or in none. -/
theorem Same.requestsFull_iff (same : Same l x s k) (request : Bool) :
    RequestsFull request s ↔
      request ∧ 0 < l.rpm.getD 0 ∧ ((l.rpm.getD 0 : ℕ) : ℤ) ≤ counter .requests k := by
  rw [RequestsFull, same.configuration, ← same.requests, Limits.configuration]
  have hpos := l.rpm_pos
  cases hrpm : l.rpm with
  | none => simp
  | some rpm => simp [hpos rpm hrpm]

/-- A hash whose counters went up by a request and some tokens. -/
theorem Same.charge (same : Same l x s k) {tokens : ℕ} {request : Bool} {k' : LimitKey}
    (hfits : U64.saturatingAdd s.requests 1 < U64.max ∧ U64.saturatingAdd s.tokens tokens < U64.max)
    (hwindow : k'.hget .window = k.hget .window) (hdeadline : k'.deadline? = k.deadline?)
    (hreq : counter .requests k' = counter .requests k + if request then 1 else 0)
    (htok : l.tpm.isSome → counter .tokens k' = counter .tokens k + tokens) :
    Same l x (RateLimit.charge tokens request s) k' where
  configuration := same.configuration
  windowId := same.windowId
  window := hwindow.trans same.window
  deadline := hdeadline ▸ same.deadline
  requests := by
    have hsat : U64.saturatingAdd s.requests 1 = s.requests + 1 := by
      have := hfits.1
      rw [U64.saturatingAdd] at this ⊢
      omega
    rw [hreq, ← same.requests, RateLimit.charge]
    cases request <;> simp [hsat]
  tokens := by
    intro htpm
    have hsat : U64.saturatingAdd s.tokens tokens = s.tokens + tokens := by
      have := hfits.2
      rw [U64.saturatingAdd] at this ⊢
      omega
    rw [htok htpm, ← same.tokens htpm, RateLimit.charge, hsat]
    push_cast
    rfl

/-- The counters of a limiter fit a signed integer. -/
theorem saturating_lt {tokens : ℕ} {request : Bool}
    (hreq : ((RateLimit.charge tokens request s).requests : ℤ) ≤ i64Max)
    (htok : ((RateLimit.charge tokens request s).tokens : ℤ) ≤ i64Max) :
    U64.saturatingAdd s.requests 1 < U64.max ∧ U64.saturatingAdd s.tokens tokens < U64.max := by
  rw [i64Max] at hreq htok
  simp only [RateLimit.charge] at hreq htok
  constructor
  · cases request with
    | false =>
      simp only [Bool.false_eq_true, if_false] at hreq
      have hle := U64.saturatingAdd_le s.requests 1
      rw [U64.max]
      omega
    | true =>
      simp only [if_true] at hreq
      rw [U64.max]
      omega
  · rw [U64.max]
    omega

section Replies

variable {retry : ℤ}

theorem redisResult_requests (hretry : 0 ≤ retry) :
    Shared.redisResult (0, 1, retry) = .ok ⟨some .requests, retry.toNat⟩ := by
  simp [Shared.redisResult, Shared.unsigned, not_lt.mpr hretry, bind, Except.bind]

theorem redisResult_tokens (hretry : 0 ≤ retry) :
    Shared.redisResult (0, 2, retry) = .ok ⟨some .tokens, retry.toNat⟩ := by
  simp [Shared.redisResult, Shared.unsigned, not_lt.mpr hretry, bind, Except.bind]

theorem redisResult_admitted : Shared.redisResult (1, 0, 0) = .ok admitted := rfl

theorem redisReservationResult_of_rejected {value : ℤ × ℤ × ℤ × ℤ} {rate : RateResult}
    (hrate : Shared.redisResult (value.1, value.2.1, value.2.2.1) = .ok rate)
    (hlimited : rate.limitedBy ≠ none) (tokens : ℕ) (request : Bool) :
    Shared.redisReservationResult value tokens request = .ok ⟨rate, none⟩ := by
  have hallowed : rate.allowed = false := by
    rw [RateResult.allowed, Option.isNone_eq_false_iff]
    exact Option.isSome_iff_ne_none.mpr hlimited
  simp [Shared.redisReservationResult, hrate, hallowed, bind, Except.bind]

theorem redisReservationResult_admitted (windowId tokens : ℕ) (request : Bool) :
    Shared.redisReservationResult (1, 0, 0, windowId) tokens request =
      .ok ⟨admitted, some ⟨windowId, tokens, request⟩⟩ := by
  have hid : Shared.unsigned windowId = .ok windowId := if_neg (not_lt.mpr (Int.natCast_nonneg _))
  simp [Shared.redisReservationResult, redisResult_admitted, hid, bind, Except.bind, admitted,
    RateResult.allowed]

end Replies

theorem retrySeconds_nonneg (windowMs now : ℕ) : 0 ≤ retrySeconds windowMs now := le_max_left _ _

/-- What the shared backend answers to a reservation, from the opened key. -/
theorem reserveWith_eq (hexp : Key.Expirable now l.ttl) (tokens : ℕ) (request : Bool)
    (k : LimitKey) :
    Shared.reserveWith l.config tokens request now k =
      if request ∧ 0 < l.rpm.getD 0 ∧
          ((l.rpm.getD 0 : ℕ) : ℤ) ≤ counter .requests (opened l now k) then
        (.ok ⟨⟨some .requests, (retrySeconds l.windowMs now).toNat⟩, none⟩, opened l now k)
      else if 0 < l.tpm.getD 0 ∧
          ((l.tpm.getD 0 : ℕ) : ℤ) < counter .tokens (opened l now k) + tokens then
        (.ok ⟨⟨some .tokens, (retrySeconds l.windowMs now).toNat⟩, none⟩, opened l now k)
      else
        (.ok ⟨admitted, some ⟨now / l.windowMs, tokens, request⟩⟩,
          hincrby .tokens tokens
            (if request then hincrby .requests 1 (opened l now k) else opened l now k)) := by
  have hretry := retrySeconds_nonneg l.windowMs now
  have hone : ((if request = true then 1 else 0) = 1) ↔ request = true := by
    cases request <;> simp
  simp only [Shared.reserveWith, l.validate_config, Limits.windowMs_seconds hexp, reserveScript,
    inWindow_eq hexp, hone]
  rw [show l.config.rpm = l.rpm from rfl, show l.config.tpm = l.tpm from rfl]
  generalize opened l now k = k'
  by_cases hreq : request ∧ 0 < l.rpm.getD 0 ∧ ((l.rpm.getD 0 : ℕ) : ℤ) ≤ counter .requests k'
  · simp only [if_pos hreq]
    exact Prod.ext (redisReservationResult_of_rejected (redisResult_requests hretry) (by simp) _ _)
      rfl
  · simp only [if_neg hreq]
    by_cases htok : 0 < l.tpm.getD 0 ∧ ((l.tpm.getD 0 : ℕ) : ℤ) < counter .tokens k' + tokens
    · simp only [if_pos htok]
      exact Prod.ext (redisReservationResult_of_rejected (redisResult_tokens hretry) (by simp) _ _)
        rfl
    · simp only [if_neg htok]
      exact Prod.ext (redisReservationResult_admitted _ _ _) rfl

/-- The limiter of a key, advanced to the window of a call. -/
def advanced (l : Limits) (now : ℕ) (m : Option State) : State :=
  rolled (now / 1000) (m.getD (State.initial l.configuration))

/-- What the memory backend answers to a reservation. -/
theorem onLimiter_reserveInner (agree : Agree l n m k) (hexp : Key.Expirable now l.ttl)
    {request : Bool} (hactive : l.configuration.Active request) (tokens : ℕ) :
    Memory.onLimiter l.config (reserveInner tokens request (.finite (now / 1000))) m =
      match limiting tokens request (advanced l now m) with
      | some kind =>
        (.ok ⟨rejected kind (advanced l now m) (now / 1000), none⟩, some (advanced l now m))
      | none =>
        (.ok ⟨admitted, some ⟨now / l.windowMs, tokens, request⟩⟩,
          some (RateLimit.charge tokens request (advanced l now m))) := by
  have hconf : (m.getD (State.initial l.configuration)).configuration = l.configuration := by
    cases m with
    | none => rfl
    | some s => exact agree.configuration s rfl
  have hnow : ¬(now / 1000 : ℚ) < 0 := not_lt.mpr (by positivity)
  rw [l.onLimiter_config, reserveInner_eq, hconf, if_neg hnow, if_neg (not_not.mpr hactive),
    if_neg (not_not.mpr (Limits.countable hexp)), l.windowAt_eq, advanced]
  cases limiting tokens request (rolled (now / 1000) (m.getD (State.initial l.configuration))) <;>
    rfl

theorem Same.rejected_eq (same : Same l (now / l.windowMs) s k) (hexp : Key.Expirable now l.ttl)
    (kind : LimitKind) :
    rejected kind s (now / 1000) = ⟨some kind, (retrySeconds l.windowMs now).toNat⟩ := by
  rw [rejected, ← Limits.retryAfter_eq hexp same.configuration same.windowId, Int.toNat_natCast]

/-- Both backends served a call in its window and granted `granted`. -/
structure Served (l : Limits) (now : ℕ) (m : Option State) (granted : Option RateReservation)
    (s' : State) (k' : LimitKey) : Prop where
  same : Same l (now / l.windowMs) s' k'
  requests : (advanced l now m).requests +
    granted.elim 0 (fun r => if r.reservedRequest then 1 else 0) ≤ s'.requests
  tokens : (advanced l now m).tokens + granted.elim 0 RateReservation.reservedTokens ≤ s'.tokens
  window : ∀ r ∈ granted, r.windowId = now / l.windowMs

theorem Agree.served (agree : Agree l n m k) (hn : n ≤ now / l.windowMs) :
    Served l now m none (advanced l now m) (opened l now k) where
  same := agree.same_opened hn
  requests := le_rfl
  tokens := le_rfl
  window := by simp

/-- A hash whose counters went up as the limiter's did. -/
theorem Agree.served_charge (agree : Agree l n m k) (hn : n ≤ now / l.windowMs) {tokens : ℕ}
    {request : Bool} {granted : Option RateReservation} {k' : LimitKey}
    (hfits : ((RateLimit.charge tokens request (advanced l now m)).requests : ℤ) ≤ i64Max ∧
      ((RateLimit.charge tokens request (advanced l now m)).tokens : ℤ) ≤ i64Max)
    (hwindow : k'.hget .window = (opened l now k).hget .window)
    (hdeadline : k'.deadline? = (opened l now k).deadline?)
    (hreq : counter .requests k' =
      counter .requests (opened l now k) + if request then 1 else 0)
    (htok : l.tpm.isSome → counter .tokens k' = counter .tokens (opened l now k) + tokens)
    (hgranted : granted = none ∨ granted = some ⟨now / l.windowMs, tokens, request⟩) :
    Served l now m granted (RateLimit.charge tokens request (advanced l now m)) k' := by
  obtain ⟨hsatreq, hsattok⟩ := saturating_lt hfits.1 hfits.2
  have same : Same l (now / l.windowMs) (advanced l now m) (opened l now k) :=
    agree.same_opened hn
  refine ⟨same.charge ⟨hsatreq, hsattok⟩ hwindow hdeadline hreq htok, ?_, ?_, ?_⟩
  · rw [U64.saturatingAdd] at hsatreq
    rcases hgranted with rfl | rfl
    · cases request <;> simp only [RateLimit.charge, U64.saturatingAdd, Option.elim_none] <;>
        simp only [Bool.false_eq_true, if_true, if_false] <;> omega
    · cases request <;> simp only [RateLimit.charge, U64.saturatingAdd, Option.elim_some] <;>
        simp only [Bool.false_eq_true, if_true, if_false] <;> omega
  · rw [U64.saturatingAdd] at hsattok
    rcases hgranted with rfl | rfl <;>
      simp only [RateLimit.charge, U64.saturatingAdd, Option.elim_none, Option.elim_some] <;> omega
  · rcases hgranted with rfl | rfl <;> simp

/-- The token limit refuses in both backends or in none. -/
theorem Same.tokensFull_iff (same : Same l x s k) {tokens : ℕ}
    (hfits : ¬TokensFull tokens s → (U64.saturatingAdd s.tokens tokens : ℤ) ≤ i64Max) :
    TokensFull tokens s ↔ 0 < l.tpm.getD 0 ∧ if tokens = 0
      then ((l.tpm.getD 0 : ℕ) : ℤ) ≤ counter .tokens k
      else ((l.tpm.getD 0 : ℕ) : ℤ) < counter .tokens k + tokens := by
  cases htpm : l.tpm with
  | none => simp [TokensFull, same.configuration, Limits.configuration, htpm]
  | some tpm =>
    have hpos := l.tpm_pos tpm htpm
    have hfull : TokensFull tokens s ↔
        if tokens = 0 then tpm ≤ s.tokens else tpm < U64.saturatingAdd s.tokens tokens := by
      simp [TokensFull, same.configuration, Limits.configuration, htpm]
    rw [Option.getD_some, ← same.tokens (by simp [htpm])]
    simp only [hpos, true_and]
    rw [hfull] at hfits ⊢
    by_cases h0 : tokens = 0
    · simp only [h0, if_true]
      omega
    · -- a saturated sum is at most the exact one, and a refused one does not matter
      simp only [h0, if_false] at hfits ⊢
      have hle := U64.saturatingAdd_le s.tokens tokens
      constructor
      · intro hlt
        omega
      · intro hlt
        by_contra hnot
        have hle' := hfits hnot
        rw [U64.saturatingAdd, U64.max, i64Max] at hle'
        rw [U64.saturatingAdd, U64.max] at hnot
        omega

/-- A reservation of tokens: both backends answer the same and stay in the same window. -/
theorem Agree.reserve (agree : Agree l n m k) (hn : n ≤ now / l.windowMs)
    (hexp : Key.Expirable now l.ttl) {request : Bool} (hactive : l.configuration.Active request)
    {tokens : ℕ} (htokens : 0 < tokens)
    (hfits : ∀ s ∈ (Memory.onLimiter l.config (reserveInner tokens request
      (.finite (now / 1000))) m).2, (s.requests : ℤ) ≤ i64Max ∧ (s.tokens : ℤ) ≤ i64Max) :
    ∃ result s' k',
      Memory.onLimiter l.config (reserveInner tokens request (.finite (now / 1000))) m =
        (.ok result, some s') ∧
      Shared.reserveWith l.config tokens request now k = (.ok result, k') ∧
      Served l now m result.reservation s' k' := by
  have same : Same l (now / l.windowMs) (advanced l now m) (opened l now k) :=
    agree.same_opened hn
  have hlocal := onLimiter_reserveInner agree hexp hactive tokens
  have hshared := reserveWith_eq hexp tokens request k
  have hreqiff := same.requestsFull_iff request
  rw [hlocal] at hfits
  obtain ⟨hlim, hreq⟩ | ⟨hlim, hreq, hfull⟩ | ⟨hlim, hreq, hfull⟩ :=
    limiting_cases tokens request (advanced l now m)
  · rw [if_pos (hreqiff.mp hreq), ← same.rejected_eq hexp] at hshared
    rw [hlim] at hlocal
    exact ⟨_, _, _, hlocal, hshared, agree.served hn⟩
  · have hfull' := (same.tokensFull_iff (absurd hfull)).mp hfull
    rw [if_neg htokens.ne'] at hfull'
    rw [if_neg (mt hreqiff.mpr hreq), if_pos hfull', ← same.rejected_eq hexp] at hshared
    rw [hlim] at hlocal
    exact ⟨_, _, _, hlocal, hshared, agree.served hn⟩
  · rw [hlim] at hlocal hfits
    have hfree := mt (same.tokensFull_iff fun _ => (hfits _ rfl).2).mpr hfull
    rw [if_neg htokens.ne'] at hfree
    rw [if_neg (mt hreqiff.mpr hreq), if_neg hfree] at hshared
    refine ⟨_, _, _, hlocal, hshared,
      agree.served_charge hn (hfits _ rfl) ?_ ?_ ?_ ?_ (.inr rfl)⟩
    · rw [hget_window_hincrby (by simp)]
      cases request <;> simp [hget_window_hincrby]
    · cases request <;> rfl
    · rw [counter_hincrby, if_neg (by simp)]
      cases request <;> simp [counter_hincrby]
    · intro _
      rw [counter_hincrby, if_pos rfl]
      cases request <;> simp [counter_hincrby]

/-- What the shared backend answers to an admission, from the opened key. -/
theorem admitRequest_eq (hexp : Key.Expirable now l.ttl) (k : LimitKey) :
    Shared.admitRequest l.config now k =
      if 0 < l.rpm.getD 0 ∧ ((l.rpm.getD 0 : ℕ) : ℤ) ≤ counter .requests (opened l now k) then
        (.ok ⟨some .requests, (retrySeconds l.windowMs now).toNat⟩, opened l now k)
      else if 0 < l.tpm.getD 0 ∧ ((l.tpm.getD 0 : ℕ) : ℤ) ≤ counter .tokens (opened l now k) then
        (.ok ⟨some .tokens, (retrySeconds l.windowMs now).toNat⟩, opened l now k)
      else (.ok admitted, hincrby .requests 1 (opened l now k)) := by
  have hretry := retrySeconds_nonneg l.windowMs now
  simp only [Shared.admitRequest, l.validate_config, Limits.windowMs_seconds hexp, admitScript,
    inWindow_eq hexp]
  rw [show l.config.rpm = l.rpm from rfl, show l.config.tpm = l.tpm from rfl]
  generalize opened l now k = k'
  by_cases hreq : 0 < l.rpm.getD 0 ∧ ((l.rpm.getD 0 : ℕ) : ℤ) ≤ counter .requests k'
  · simp only [if_pos hreq]
    exact Prod.ext (redisResult_requests hretry) rfl
  · simp only [if_neg hreq]
    by_cases htok : 0 < l.tpm.getD 0 ∧ ((l.tpm.getD 0 : ℕ) : ℤ) ≤ counter .tokens k'
    · simp only [if_pos htok]
      exact Prod.ext (redisResult_tokens hretry) rfl
    · simp only [if_neg htok]
      exact Prod.ext redisResult_admitted rfl

theorem onLimiter_admitAt (l : Limits) (now : Double) (m : Option State) :
    Memory.onLimiter l.config (admitAt now) m =
      (Memory.onLimiter l.config (reserveInner 0 true now) m).map
        (Except.map ReservationResult.rate) id := by
  rw [l.onLimiter_config, l.onLimiter_config]
  refine Prod.ext ?_ rfl
  simp only [admitAt, reserveAt, Prod.map_fst]
  cases (reserveInner 0 true now (m.getD (State.initial l.configuration))).1 <;> rfl

theorem Limits.active_true (l : Limits) : l.configuration.Active true := by
  rw [Configuration.Active, Limits.configuration]
  rcases l.limited with h | h <;> simp_all [Option.isSome_iff_ne_none]

/-- An admission. -/
theorem Agree.admitRequest (agree : Agree l n m k) (hn : n ≤ now / l.windowMs)
    (hexp : Key.Expirable now l.ttl)
    (hfits : ∀ s ∈ (Memory.onLimiter l.config (admitAt (.finite (now / 1000))) m).2,
      (s.requests : ℤ) ≤ i64Max ∧ (s.tokens : ℤ) ≤ i64Max) :
    ∃ rate s' k', Memory.onLimiter l.config (admitAt (.finite (now / 1000))) m =
        (.ok rate, some s') ∧
      Shared.admitRequest l.config now k = (.ok rate, k') ∧ Served l now m none s' k' := by
  have same : Same l (now / l.windowMs) (advanced l now m) (opened l now k) :=
    agree.same_opened hn
  have hlocal := onLimiter_admitAt l (.finite (now / 1000)) m
  rw [onLimiter_reserveInner agree hexp l.active_true] at hlocal
  have hshared := admitRequest_eq hexp k
  have hreqiff := same.requestsFull_iff true
  simp only [true_and] at hreqiff
  rw [hlocal] at hfits
  obtain ⟨hlim, hreq⟩ | ⟨hlim, hreq, hfull⟩ | ⟨hlim, hreq, hfull⟩ :=
    limiting_cases 0 true (advanced l now m)
  · rw [if_pos (hreqiff.mp hreq), ← same.rejected_eq hexp] at hshared
    rw [hlim] at hlocal
    exact ⟨_, _, _, hlocal, hshared, agree.served hn⟩
  · have hfull' := (same.tokensFull_iff (absurd hfull)).mp hfull
    rw [if_pos rfl] at hfull'
    rw [if_neg (mt hreqiff.mpr hreq), if_pos hfull', ← same.rejected_eq hexp] at hshared
    rw [hlim] at hlocal
    exact ⟨_, _, _, hlocal, hshared, agree.served hn⟩
  · rw [hlim] at hlocal hfits
    have hfree := mt (same.tokensFull_iff fun _ => (hfits _ rfl).2).mpr hfull
    rw [if_pos rfl] at hfree
    rw [if_neg (mt hreqiff.mpr hreq), if_neg hfree] at hshared
    refine ⟨_, _, _, hlocal, hshared,
      agree.served_charge hn (hfits _ rfl) ?_ rfl ?_ ?_ (.inl rfl)⟩
    · rw [hget_window_hincrby (by simp)]
    · rw [counter_hincrby, if_pos rfl]
      rfl
    · intro _
      rw [counter_hincrby, if_neg (by simp)]
      simp

theorem Agree.configuration_getD (agree : Agree l n m k) :
    (m.getD (State.initial l.configuration)).configuration = l.configuration := by
  cases m with
  | none => rfl
  | some s => exact agree.configuration s rfl

theorem addTokens_eq (hexp : Key.Expirable now l.ttl) (tokens : ℕ) (k : LimitKey) :
    Shared.addTokens l.config tokens now k = (.ok (), hincrby .tokens tokens (opened l now k)) := by
  simp only [Shared.addTokens, l.validate_config, Limits.windowMs_seconds hexp, addTokensScript,
    inWindow_eq hexp]
  rfl

/-- Tokens added where they are limited. -/
theorem Agree.addTokens (agree : Agree l n m k) (hn : n ≤ now / l.windowMs)
    (hexp : Key.Expirable now l.ttl) (htpm : l.tpm.isSome) {tokens : ℕ}
    (hfits : ∀ s ∈ (Memory.onLimiter l.config (addTokensAt tokens (.finite (now / 1000))) m).2,
      (s.requests : ℤ) ≤ i64Max ∧ (s.tokens : ℤ) ≤ i64Max) :
    ∃ s' k', Memory.onLimiter l.config (addTokensAt tokens (.finite (now / 1000))) m =
        (.ok (), some s') ∧
      Shared.addTokens l.config tokens now k = (.ok (), k') ∧ Served l now m none s' k' := by
  have hnow : ¬(now / 1000 : ℚ) < 0 := not_lt.mpr (by positivity)
  have htpm' : ¬l.configuration.tpm.isNone = true := by
    rw [Bool.not_eq_true, Option.isNone_eq_false_iff]
    exact htpm
  have hlocal : Memory.onLimiter l.config (addTokensAt tokens (.finite (now / 1000))) m =
      (.ok (), some (RateLimit.charge tokens false (advanced l now m))) := by
    rw [l.onLimiter_config, addTokensAt_eq, agree.configuration_getD, if_neg hnow, if_neg htpm',
      if_neg (not_not.mpr (Limits.countable hexp))]
    rfl
  rw [hlocal] at hfits
  refine ⟨_, _, hlocal, addTokens_eq hexp tokens k,
    agree.served_charge hn (hfits _ rfl) ?_ rfl ?_ ?_ (.inl rfl)⟩
  · rw [hget_window_hincrby (by simp)]
  · rw [counter_hincrby, if_neg (by simp)]
    simp
  · intro _
    rw [counter_hincrby, if_pos rfl]

/-- A snapshot where requests are limited. -/
theorem Agree.snapshot (agree : Agree l n m k) (hn : n ≤ now / l.windowMs)
    (hexp : Key.Expirable now l.ttl) {limit : ℕ} (hrpm : l.rpm = some limit) :
    ∃ view, Memory.onLimiter l.config (snapshotAt (.finite (now / 1000))) m =
        (.ok (some view), some (advanced l now m)) ∧
      Shared.snapshot l.config now k = (.ok (some view), opened l now k) := by
  have hnow : ¬(now / 1000 : ℚ) < 0 := not_lt.mpr (by positivity)
  have same : Same l (now / l.windowMs) (advanced l now m) (opened l now k) :=
    agree.same_opened hn
  refine ⟨⟨limit, limit - (advanced l now m).requests,
    retryAfter (advanced l now m) (now / 1000)⟩, ?_, ?_⟩
  · have hlimit : l.configuration.rpm = some limit := hrpm
    rw [l.onLimiter_config, snapshotAt_eq, agree.configuration_getD, if_neg hnow, hlimit]
    simp only [not_not.mpr (Limits.countable hexp), if_false]
    rfl
  · have hlimit : l.config.rpm = some limit := hrpm
    simp only [Shared.snapshot, l.validate_config, Limits.windowMs_seconds hexp, snapshotScript,
      inWindow_eq hexp, hlimit]
    rw [← same.requests, ← Limits.retryAfter_eq hexp same.configuration same.windowId]
    have hunsigned : ∀ count : ℕ, Shared.unsigned count = .ok count := fun count =>
      if_neg (not_lt.mpr (Int.natCast_nonneg count))
    refine Prod.ext ?_ rfl
    simp [Shared.reply, hunsigned, bind, Except.bind]

/-- A settlement changes the limiter only in the window of the reservation. -/
def SettledFrom (r : RateReservation) (s s' : State) : Prop :=
  s'.configuration = s.configuration ∧ s'.windowId = s.windowId ∧
    (s.windowId ≠ some r.windowId → s' = s)

/-- A settlement changes the hash only in the window of the reservation. -/
def SettledKey (r : RateReservation) (k k' : LimitKey) : Prop :=
  k'.deadline? = k.deadline? ∧ k'.hget .window = k.hget .window ∧
    (k.hget .window ≠ some (r.windowId : ℤ) → k' = k)

/-- A settlement in a window that has passed changes nothing that a call can see. -/
theorem Agree.stale (agree : Agree l x m k) {r : RateReservation} {s' : State} {k' : LimitKey}
    (hr : r.windowId < now / l.windowMs) (hx : x = now / l.windowMs)
    (hs : SettledFrom r (m.getD (State.initial l.configuration)) s')
    (hk : SettledKey r (k.live now) k') :
    Agree l x (some s') k' ∧
      (∀ y, x ≤ y → ∀ count, seen count y (some s') = seen count y m) ∧
      (∀ y, x ≤ y → k.hget .window = some (y : ℤ) → k' = k) := by
  obtain ⟨hconf, hid, hs⟩ := hs
  obtain ⟨hdeadline, hwindow, hk⟩ := hk
  have hseen : ∀ y, x ≤ y → ∀ count, seen count y (some s') = seen count y m := by
    intro y hy count
    by_cases hne : (m.getD (State.initial l.configuration)).windowId = some r.windowId
    · have hy' : some r.windowId ≠ some y := by
        rw [Ne, Option.some_inj]
        omega
      cases m with
      | none => simp [State.initial] at hne
      | some s =>
        rw [Option.getD_some] at hid hne
        simp [seen, hid, hne, hy']
    · rw [hs hne]
      cases m with
      | none => simp [seen, State.initial]
      | some s => rfl
  have hlive : ∀ y, x ≤ y → k.hget .window = some (y : ℤ) → k' = k := by
    intro y hy hw
    have hlive := agree.live_eq hw (hx ▸ hy)
    rw [hlive] at hk
    apply hk
    rw [hw, Ne, Option.some_inj]
    omega
  have hshared : ∀ y, x ≤ y → ∀ field, seenShared field y k' = seenShared field y k := by
    intro y hy field
    by_cases hw : k.hget .window = some (y : ℤ)
    · rw [hlive y hy hw]
    · rw [seenShared, hwindow]
      have hw' : (k.live now).hget .window ≠ some (y : ℤ) := by
        by_cases hlapsed : k.Lapsed now
        · simp [Key.live_of_lapsed hlapsed]
        · rwa [Key.live_of_not_lapsed hlapsed]
      rw [if_neg hw', seenShared, if_neg hw]
  refine ⟨⟨?_, ?_, ?_, ?_, ?_⟩, hseen, hlive⟩
  · rintro s ⟨⟩
    rw [hconf, agree.configuration_getD]
  · rintro s ⟨⟩ y hy
    rw [hid] at hy
    cases m with
    | none => simp [State.initial] at hy
    | some s => exact agree.window_le s rfl y hy
  · intro v hv
    rw [hwindow] at hv
    rw [hdeadline]
    by_cases hlapsed : k.Lapsed now
    · simp [Key.live_of_lapsed hlapsed] at hv
    · rw [Key.live_of_not_lapsed hlapsed] at hv ⊢
      exact agree.key_le v hv
  · intro y hy
    rw [hseen y hy, hshared y hy]
    exact agree.requests y hy
  · intro htpm y hy
    rw [hseen y hy, hshared y hy]
    exact agree.tokens htpm y hy

theorem settledFrom_reconcileAt (r : RateReservation) (actualTokens : ℕ) {t : ℚ} (ht : 0 ≤ t)
    (s : State) : SettledFrom r s (reconcileAt r actualTokens (.finite t) s).2 := by
  by_cases hw : s.windowId = some r.windowId
  · refine ⟨?_, ?_, absurd hw⟩ <;>
    · simp only [reconcileAt, validateTime, if_neg (not_lt.mpr ht)]
      rw [if_neg (not_not.mpr hw)]
      split <;> rfl
  · rw [reconcileAt_of_ne ht hw]
    exact ⟨rfl, rfl, fun _ => rfl⟩

theorem settledFrom_rollbackAt (r : RateReservation) {t : ℚ} (ht : 0 ≤ t) (s : State) :
    SettledFrom r s (rollbackAt r (.finite t) s).2 := by
  by_cases hw : s.windowId = some r.windowId
  · rw [rollbackAt_of_eq ht hw]
    exact ⟨rfl, rfl, absurd hw⟩
  · rw [rollbackAt_of_ne ht hw]
    exact ⟨rfl, rfl, fun _ => rfl⟩

theorem settledKey_reconcileScript (r : RateReservation) (actualTokens now : ℕ) (k : LimitKey) :
    SettledKey r (k.live now)
      (reconcileScript r.windowId r.reservedTokens actualTokens now k).2 := by
  simp only [reconcileScript]
  by_cases hw : (k.live now).hget .window = some (r.windowId : ℤ)
  · rw [if_neg (not_not.mpr hw)]
    exact ⟨rfl, hget_window_hincrby (by simp) _ _, absurd hw⟩
  · rw [if_pos hw]
    exact ⟨rfl, rfl, fun _ => rfl⟩

theorem settledKey_rollbackScript (r : RateReservation) (reservedRequest now : ℕ) (k : LimitKey) :
    SettledKey r (k.live now)
      (rollbackScript r.windowId r.reservedTokens reservedRequest now k).2 := by
  simp only [rollbackScript]
  by_cases hw : (k.live now).hget .window = some (r.windowId : ℤ)
  · rw [if_neg (not_not.mpr hw)]
    refine ⟨?_, ?_, absurd hw⟩
    · split <;> rfl
    · split <;> simp [Key.hget_hset]
  · rw [if_pos hw]
    exact ⟨rfl, rfl, fun _ => rfl⟩

/-- A reconciliation in the window of the reservation. -/
theorem Same.reconcile {r : RateReservation} (same : Same l r.windowId s k)
    (hlive : k.live now = k) {actualTokens : ℕ} {t : ℚ} (ht : 0 ≤ t)
    (hcovers : r.reservedTokens ≤ s.tokens)
    (hfits : ((reconcileAt r actualTokens (.finite t) s).2.tokens : ℤ) ≤ i64Max) :
    (reconcileAt r actualTokens (.finite t) s).2 =
        { s with tokens := s.tokens - r.reservedTokens + actualTokens } ∧
      Same l r.windowId { s with tokens := s.tokens - r.reservedTokens + actualTokens }
        (reconcileScript r.windowId r.reservedTokens actualTokens now k).2 := by
  constructor
  · simp only [reconcileAt, validateTime, if_neg (not_lt.mpr ht)] at hfits ⊢
    rw [if_neg (not_not.mpr same.windowId)] at hfits ⊢
    by_cases hle : r.reservedTokens ≤ actualTokens
    · rw [if_pos hle] at hfits ⊢
      have hsat : U64.saturatingAdd s.tokens (actualTokens - r.reservedTokens) =
          s.tokens - r.reservedTokens + actualTokens := by
        simp only [U64.saturatingAdd, U64.max, i64Max] at hfits ⊢
        omega
      rw [hsat]
    · rw [if_neg hle]
      have heq : s.tokens - (r.reservedTokens - actualTokens) =
          s.tokens - r.reservedTokens + actualTokens := by omega
      rw [heq]
  · simp only [reconcileScript, hlive]
    rw [if_neg (not_not.mpr same.window)]
    refine ⟨same.configuration, same.windowId, ?_, same.deadline, ?_, ?_⟩
    · rw [hget_window_hincrby (by simp)]
      exact same.window
    · rw [counter_hincrby, if_neg (by simp)]
      exact same.requests
    · intro htpm
      rw [counter_hincrby, if_pos rfl, ← same.tokens htpm]
      push_cast [hcovers]
      ring

/-- A rollback in the window of the reservation. -/
theorem Same.rollback {r : RateReservation} (same : Same l r.windowId s k)
    (hlive : k.live now = k) (hcovers : r.reservedTokens ≤ s.tokens)
    (hcovers' : r.reservedRequest → 1 ≤ s.requests) :
    Same l r.windowId { s with
        requests := s.requests - if r.reservedRequest then 1 else 0
        tokens := s.tokens - r.reservedTokens }
      (rollbackScript r.windowId r.reservedTokens (if r.reservedRequest then 1 else 0)
        now k).2 := by
  have hone : ((if r.reservedRequest = true then 1 else 0) = 1) ↔ r.reservedRequest = true := by
    cases r.reservedRequest <;> simp
  simp only [rollbackScript, hlive, hone]
  rw [if_neg (not_not.mpr same.window)]
  refine ⟨same.configuration, same.windowId, ?_, ?_, ?_, ?_⟩
  · split <;> simpa [Key.hget_hset] using same.window
  · split <;> exact same.deadline
  · rw [← same.requests]
    cases hr : r.reservedRequest with
    | false =>
      simp only [counter, Bool.false_eq_true, if_false, Key.hget_hset]
      simpa [counter] using same.requests
    | true =>
      have := hcovers' hr
      simp only [counter, if_true, Key.hget_hset]
      simp
      omega
  · intro htpm
    rw [← same.tokens htpm]
    simp only [counter, Key.hget_hset, if_true, Option.getD_some]
    push_cast [hcovers]
    omega

end Calls

end Agree

end WayfinderRouter.RateLimit.Backends
