import WayfinderRouter.RateLimit.Limiter
import WayfinderRouter.Redis.Hash
import WayfinderRouter.SharedState.Backend
import WayfinderRouter.Timed.Service

/-!
# The two limiter backends

The memory backend keeps one `RateLimiter` per key. The shared server keeps a hash with
the window and its two counters, and runs the same fixed-window algorithm in scripts that
write an unlimited dimension as zero. Both count in the same clock here, in whole
milliseconds.

The two states need not be equal: a lapsed key, a limiter that was never advanced and
counters of a window that has passed all look the same to the next call. `Agree` compares
what a call can still see, which is the counters at the current window and later.

## Main definitions

- `Memory.call`, `Shared.call` — the operations of one key
- `admitScript`, `reserveScript`, `reconcileScript`, `rollbackScript`, `addTokensScript`,
  `snapshotScript` — the scripts
- `serve` — both backends under the same calls
- `Agree` — the counters that a call can still see are the same
-/

namespace WayfinderRouter.RateLimit.Backends

open Redis Timed

/-- `StateLimitConfig`. -/
structure StateLimitConfig where
  rpm : Option ℕ
  tpm : Option ℕ
  windowSeconds : Double

/-- `StateLimitConfig::validate`, with the window it accepts. -/
def StateLimitConfig.validate (config : StateLimitConfig) : Except StateBackendError ℚ :=
  match config.windowSeconds with
  | .notFinite => .error .invalidWindow
  | .finite windowSeconds =>
    if windowSeconds ≤ 0 then .error .invalidWindow else .ok windowSeconds

/-- The operations on one key. A settling call names the call that was granted the
reservation, by its position in the run. -/
inductive Call where
  | admitRequest
  | reserve (tokens : ℕ)
  | reserveTokens (tokens : ℕ)
  | reconcile (grant : ℕ) (reservation : RateReservation) (actualTokens : ℕ)
  | rollback (grant : ℕ) (reservation : RateReservation)
  | addTokens (tokens : ℕ)
  | snapshot
deriving DecidableEq

inductive Reply where
  | admitted (result : Except StateBackendError RateResult)
  | reserved (result : Except StateBackendError ReservationResult)
  | settled (result : Except StateBackendError Bool)
  | added (result : Except StateBackendError Unit)
  | snapshot (result : Except StateBackendError (Option RateSnapshot))
deriving DecidableEq

/-- The reservation that a reply grants. -/
def Reply.reservation : Reply → Option RateReservation
  | .reserved (.ok result) => result.reservation
  | _ => none

namespace Memory

/-- `limiter_for`, with the operation on the limiter it returns. -/
def onLimiter {α : Type} (config : StateLimitConfig)
    (operation : State → Except RateLimitError α × State) (limiter : Option State) :
    Except StateBackendError α × Option State :=
  match config.validate with
  | .error e => (.error e, limiter)
  | .ok _ =>
    let found : Except RateLimitError State := match limiter with
      | some state => .ok state
      | none => new config.rpm config.tpm config.windowSeconds
    match found with
    | .error _ => (.error .invalidWindow, limiter)
    | .ok state =>
      let (result, state) := operation state
      (result.mapError fun _ => .unavailable, some state)

/-- The operations of the memory backend on one key. -/
def call (config : StateLimitConfig) (now : ℚ) (limiter : Option State) :
    Call → Reply × Option State
  | .admitRequest => (onLimiter config (admitAt (.finite now)) limiter).map .admitted id
  | .reserve tokens => (onLimiter config (reserveAt tokens (.finite now)) limiter).map .reserved id
  | .reserveTokens tokens =>
    (onLimiter config (reserveTokensAt tokens (.finite now)) limiter).map .reserved id
  | .reconcile _ reservation actualTokens =>
    (onLimiter config (reconcileAt reservation actualTokens (.finite now)) limiter).map .settled id
  | .rollback _ reservation =>
    (onLimiter config (rollbackAt reservation (.finite now)) limiter).map .settled id
  | .addTokens tokens => (onLimiter config (addTokensAt tokens (.finite now)) limiter).map .added id
  | .snapshot =>
    match config.validate with
    | .error e => (.snapshot (.error e), limiter)
    | .ok _ =>
      if config.rpm.isNone then (.snapshot (.ok none), limiter)
      else (onLimiter config (snapshotAt (.finite now)) limiter).map .snapshot id

end Memory

/-- The fields of a limit key. -/
inductive Field where
  | window
  | requests
  | tokens
deriving DecidableEq

/-- A limit key: absent, or the window and its counters. -/
abbrev LimitKey := Key (Hash Field ℤ)

/-- `HINCRBY`. -/
def hincrby (field : Field) (delta : ℤ) (key : LimitKey) : LimitKey :=
  key.hset field ((key.hget field).getD 0 + delta)

/-- A counter as the scripts read it, zero when the field is absent. -/
def counter (field : Field) (key : LimitKey) : ℤ := (key.hget field).getD 0

/-- The counters of a new window. -/
def reset (windowId : ℕ) (key : LimitKey) : LimitKey :=
  ((key.hset Field.window (windowId : ℤ)).hset Field.requests (0 : ℤ)).hset .tokens 0

/-- The opening lines of the scripts that work in a window: a key of another window is reset
and given a new deadline. The server does not undo the reset when `PEXPIRE` fails. -/
def inWindow {α : Type} (windowMs now : ℕ) (body : LimitKey → α × LimitKey) (key : LimitKey) :
    Except String α × LimitKey :=
  let key := key.live now
  if key.hget .window = some ((now / windowMs : ℕ) : ℤ) then (body key).map .ok id
  else
    let key := reset (now / windowMs) key
    let ttl := max (windowMs * 2) 1000
    if Key.Expirable now ttl then (body (key.pexpire now ttl)).map .ok id
    else (.error "invalid expire time", key)

/-- The seconds until the window ends. -/
def retrySeconds (windowMs now : ℕ) : ℤ :=
  max 0 ⌈((((now / windowMs + 1) * windowMs : ℕ) : ℚ) - now) / 1000⌉

/-- `ADMIT_SCRIPT`. -/
def admitScript (windowMs rpm tpm now : ℕ) : LimitKey → Except String (ℤ × ℤ × ℤ) × LimitKey :=
  inWindow windowMs now fun key =>
    let retry := retrySeconds windowMs now
    if 0 < rpm ∧ (rpm : ℤ) ≤ counter .requests key then ((0, 1, retry), key)
    else if 0 < tpm ∧ (tpm : ℤ) ≤ counter .tokens key then ((0, 2, retry), key)
    else ((1, 0, 0), hincrby .requests 1 key)

/-- `RESERVE_SCRIPT`. -/
def reserveScript (windowMs rpm tpm reservation reserveRequest now : ℕ) :
    LimitKey → Except String (ℤ × ℤ × ℤ × ℤ) × LimitKey :=
  inWindow windowMs now fun key =>
    let windowId := now / windowMs
    let retry := retrySeconds windowMs now
    if reserveRequest = 1 ∧ 0 < rpm ∧ (rpm : ℤ) ≤ counter .requests key then
      ((0, 1, retry, windowId), key)
    else if 0 < tpm ∧ (tpm : ℤ) < counter .tokens key + reservation then
      ((0, 2, retry, windowId), key)
    else
      let key := if reserveRequest = 1 then hincrby .requests 1 key else key
      ((1, 0, 0, windowId), hincrby .tokens reservation key)

/-- `RECONCILE_SCRIPT`. -/
def reconcileScript (windowId reserved actual now : ℕ) (key : LimitKey) : ℤ × LimitKey :=
  let key := key.live now
  if key.hget .window ≠ some (windowId : ℤ) then (0, key)
  else (1, hincrby .tokens ((actual : ℤ) - reserved) key)

/-- `ROLLBACK_SCRIPT`. -/
def rollbackScript (windowId reserved reservedRequest now : ℕ) (key : LimitKey) : ℤ × LimitKey :=
  let key := key.live now
  if key.hget .window ≠ some (windowId : ℤ) then (0, key)
  else
    let requests := counter .requests key
    let tokens := counter .tokens key
    let key := if reservedRequest = 1 then key.hset .requests (max 0 (requests - 1)) else key
    (1, key.hset .tokens (max 0 (tokens - reserved)))

/-- `ADD_TOKENS_SCRIPT`. -/
def addTokensScript (windowMs tokens now : ℕ) : LimitKey → Except String ℤ × LimitKey :=
  inWindow windowMs now fun key => (1, hincrby .tokens tokens key)

/-- `SNAPSHOT_SCRIPT`. -/
def snapshotScript (windowMs now : ℕ) : LimitKey → Except String (ℤ × ℤ) × LimitKey :=
  inWindow windowMs now fun key => ((counter .requests key, retrySeconds windowMs now), key)

namespace Shared

/-- The window in whole milliseconds, as the operations pass it to a script. -/
def windowMs (windowSeconds : ℚ) : ℕ := min (max ⌈windowSeconds * 1000⌉ 1).toNat U64.max

/-- `u64::try_from`. -/
def unsigned (value : ℤ) : Except StateBackendError ℕ :=
  if value < 0 then .error .unavailable else .ok value.toNat

/-- `redis_result`. -/
def redisResult (value : ℤ × ℤ × ℤ) : Except StateBackendError RateResult := do
  let limitedBy ← match value.2.1 with
    | 0 => .ok none
    | 1 => .ok (some LimitKind.requests)
    | 2 => .ok (some LimitKind.tokens)
    | _ => .error .unavailable
  let retryAfterSeconds ← unsigned value.2.2
  if (value.1 == 1) ≠ limitedBy.isNone then .error .unavailable
  else .ok ⟨limitedBy, retryAfterSeconds⟩

/-- `redis_reservation_result`. -/
def redisReservationResult (value : ℤ × ℤ × ℤ × ℤ) (reservedTokens : ℕ) (reservedRequest : Bool) :
    Except StateBackendError ReservationResult := do
  let rate ← redisResult (value.1, value.2.1, value.2.2.1)
  if rate.allowed then
    let windowId ← unsigned value.2.2.2
    .ok ⟨rate, some ⟨windowId, reservedTokens, reservedRequest⟩⟩
  else .ok ⟨rate, none⟩

/-- The result of a script's reply. -/
def reply {α β : Type} (result : α → Except StateBackendError β) :
    Except String α → Except StateBackendError β
  | .error _ => .error .unavailable
  | .ok value => result value

/-- `RedisStateBackend::admit`. -/
def admitRequest (config : StateLimitConfig) (now : ℕ) (key : LimitKey) :
    Except StateBackendError RateResult × LimitKey :=
  match config.validate with
  | .error e => (.error e, key)
  | .ok windowSeconds =>
    (admitScript (windowMs windowSeconds) (config.rpm.getD 0) (config.tpm.getD 0) now key).map
      (reply redisResult) id

/-- `RedisStateBackend::reserve` and, without the request, the part of `reserve_tokens` that
reaches the server. -/
def reserveWith (config : StateLimitConfig) (tokens : ℕ) (request : Bool) (now : ℕ)
    (key : LimitKey) : Except StateBackendError ReservationResult × LimitKey :=
  match config.validate with
  | .error e => (.error e, key)
  | .ok windowSeconds =>
    (reserveScript (windowMs windowSeconds) (config.rpm.getD 0) (config.tpm.getD 0) tokens
      (if request then 1 else 0) now key).map
        (reply fun value => redisReservationResult value tokens request) id

/-- `RedisStateBackend::reserve_tokens`. -/
def reserveTokens (config : StateLimitConfig) (tokens : ℕ) (now : ℕ) (key : LimitKey) :
    Except StateBackendError ReservationResult × LimitKey :=
  match config.validate with
  | .error e => (.error e, key)
  | .ok _ =>
    if config.tpm.isNone then (.ok ⟨RateLimit.admitted, none⟩, key)
    else reserveWith config tokens false now key

/-- `RedisStateBackend::reconcile`. -/
def reconcile (config : StateLimitConfig) (reservation : RateReservation) (actualTokens : ℕ)
    (now : ℕ) (key : LimitKey) : Except StateBackendError Bool × LimitKey :=
  match config.validate with
  | .error e => (.error e, key)
  | .ok _ =>
    (reconcileScript reservation.windowId reservation.reservedTokens actualTokens now key).map
      (fun value => .ok (value == 1)) id

/-- `RedisStateBackend::rollback`. -/
def rollback (config : StateLimitConfig) (reservation : RateReservation) (now : ℕ)
    (key : LimitKey) : Except StateBackendError Bool × LimitKey :=
  match config.validate with
  | .error e => (.error e, key)
  | .ok _ =>
    (rollbackScript reservation.windowId reservation.reservedTokens
      (if reservation.reservedRequest then 1 else 0) now key).map (fun value => .ok (value == 1)) id

/-- `RedisStateBackend::add_tokens`. -/
def addTokens (config : StateLimitConfig) (tokens now : ℕ) (key : LimitKey) :
    Except StateBackendError Unit × LimitKey :=
  match config.validate with
  | .error e => (.error e, key)
  | .ok windowSeconds =>
    (addTokensScript (windowMs windowSeconds) tokens now key).map (reply fun _ => .ok ()) id

/-- `RedisStateBackend::snapshot`. -/
def snapshot (config : StateLimitConfig) (now : ℕ) (key : LimitKey) :
    Except StateBackendError (Option RateSnapshot) × LimitKey :=
  match config.validate with
  | .error e => (.error e, key)
  | .ok windowSeconds =>
    match config.rpm with
    | none => (.ok none, key)
    | some limit =>
      (snapshotScript (windowMs windowSeconds) now key).map
        (reply fun value => do
          let requests ← unsigned value.1
          let resetSeconds ← unsigned value.2
          .ok (some ⟨limit, limit - requests, resetSeconds⟩)) id

/-- The operations of the shared backend on one key. -/
def call (config : StateLimitConfig) (now : ℕ) (key : LimitKey) : Call → Reply × LimitKey
  | .admitRequest => (admitRequest config now key).map .admitted id
  | .reserve tokens => (reserveWith config tokens true now key).map .reserved id
  | .reserveTokens tokens => (reserveTokens config tokens now key).map .reserved id
  | .reconcile _ reservation actualTokens =>
    (reconcile config reservation actualTokens now key).map .settled id
  | .rollback _ reservation => (rollback config reservation now key).map .settled id
  | .addTokens tokens => (addTokens config tokens now key).map .added id
  | .snapshot => (snapshot config now key).map .snapshot id

end Shared

end WayfinderRouter.RateLimit.Backends
