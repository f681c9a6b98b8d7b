import Mathlib.Data.Finset.Insert
import Mathlib.Data.List.Dedup
import Mathlib.Data.List.Sort
import WayfinderRouter.Redis.Keyspace
import WayfinderRouter.Redis.SortedSet
import WayfinderRouter.SharedState.Backend
import WayfinderRouter.Timed.Service

/-!
# The shared budget

The fleet accounts spend per ledger: one period (a day, a month or all time) of one scope.
A ledger has three keys: the hash with its counters, a sorted set with the deadlines of its
reservations, and a hash with their amounts. Before a request is delivered its conservative
cost is reserved in every ledger that caps it, afterwards its realized cost is recorded and
the reservation released.

Every script drops the keys of the ledgers it names whose deadline has come.

## Main definitions

- `LedgerId`, `Account` — a ledger and its three keys
- `reserveBudgetScript`, `releaseBudgetScript`, `recordCostScript` — the scripts
- `verdict` — what a reserve decides between its purge and its charge
- `serve` — `record_cost`, `reserve_budget` and `release_budget`
- `spend` — the realized cost of a ledger
-/

namespace WayfinderRouter.Budget

open Redis Timed

/-- `SHARED_LEDGER_DAY_TTL_SECONDS`. -/
@[irreducible] def ledgerDayTtlSeconds : ℕ := 400 * 24 * 60 * 60

/-- `SHARED_LEDGER_MONTH_TTL_SECONDS`. -/
@[irreducible] def ledgerMonthTtlSeconds : ℕ := 5 * 365 * 24 * 60 * 60

/-- `SHARED_LEDGER_IDEMPOTENCY_TTL_SECONDS`. -/
@[irreducible] def ledgerIdempotencyTtlSeconds : ℕ := 5 * 365 * 24 * 60 * 60

/-- `SHARED_BUDGET_RESERVATION_TTL_MS`. -/
@[irreducible] def reservationTtlMs : ℕ := 6 * 60 * 60 * 1000

/-- The accounting period of a ledger. The period is a part of the names of its keys, as
`day:` with the date, `month:` with the first seven characters of the date, or `all`. -/
inductive Period where
  | day (date : String)
  | month (month : String)
  | all
deriving DecidableEq

/-- One period of one scope. -/
structure LedgerId where
  period : Period
  scope : String
deriving DecidableEq

/-- The fields of a ledger's hash. A field that was never written reads as 0. -/
structure Ledger where
  requests : ℤ := 0
  estimatedRequests : ℤ := 0
  promptTokens : ℤ := 0
  completionTokens : ℤ := 0
  realizedMicros : ℤ := 0
  baselineMicros : ℤ := 0
  savingsMicros : ℤ := 0
  reservedMicros : ℤ := 0

instance : Inhabited Ledger := ⟨{}⟩

/-- The keys of a ledger: its hash, the deadlines of its reservations and their amounts. -/
structure Account where
  ledger : Key Ledger := none
  reservations : Key (ZSet String) := none
  amounts : Key (Hash String ℤ) := none

namespace Account

/-- What a script at time `now` finds. -/
def live (now : ℕ) (a : Account) : Account :=
  ⟨a.ledger.live now, a.reservations.live now, a.amounts.live now⟩

/-- The counters of the ledger. -/
def counters (a : Account) : Ledger := a.ledger.value?.getD default

/-- `HINCRBY` of `reserved_micros`. -/
def addReserved (delta : ℤ) (a : Account) : Account :=
  { a with ledger := a.ledger.write fun l => { l with reservedMicros := l.reservedMicros + delta } }

/-- Take a reservation out of the account. Expiry and release both run these commands. An
amount of 0 stays in the hash. -/
def drop (requestId : String) (a : Account) : Account :=
  let amount := (a.amounts.hget requestId).getD 0
  let a := if 0 < amount then
      { a.addReserved (-amount) with amounts := a.amounts.hdel requestId }
    else a
  { a with reservations := a.reservations.zrem requestId }

/-- Take out the reservations whose deadline has come. -/
def purge (now : ℕ) (a : Account) : Account :=
  (a.reservations.zrangebyscore now).foldl (fun a requestId => a.drop requestId) a

/-- Enter a new reservation. The ledger gets an expiry only when it has none. -/
def charge (requestId : String) (amount : ℤ) (ledgerTtlMs ttlMs now : ℕ) (a : Account) : Account :=
  let ledger := (a.addReserved amount).ledger
  { ledger := if ledger.pttl now < 0 ∧ 0 < ledgerTtlMs then ledger.pexpire now ledgerTtlMs
      else ledger
    amounts := (a.amounts.hset requestId amount).pexpire now ttlMs
    reservations := (a.reservations.zadd (now + ttlMs) requestId).pexpire now ttlMs }

end Account

/-- All budget keys of the namespace: the ledgers and the set of recorded request ids. -/
structure State where
  accounts : LedgerId → Account := fun _ => {}
  seen : Key (Finset String) := none

-- ════════════════════════════════════════════════════════════════════════
-- The reserve script
-- ════════════════════════════════════════════════════════════════════════

/-- The arguments of the reserve script for one scope. -/
structure ScopeArgs where
  ledger : LedgerId
  limit : ℤ
  blocks : Bool
  ledgerTtlMs : ℕ
deriving DecidableEq

/-- The arguments of the reserve script. -/
structure ReserveArgs where
  requestId : String
  amount : ℤ
  scopes : List ScopeArgs
deriving DecidableEq

def ReserveArgs.ledgers (a : ReserveArgs) : List LedgerId := a.scopes.map ScopeArgs.ledger

/-- What a reserve decides after its purge. -/
inductive Verdict where
  | repeated
  | partialReservation
  | denied
  | charged
deriving DecidableEq

/-- The cap of a scope leaves room for the amount. Only blocking scopes have one. -/
def ScopeArgs.Allows (amount : ℤ) (accounts : LedgerId → Account) (scope : ScopeArgs) : Prop :=
  scope.blocks → (accounts scope.ledger).counters.realizedMicros +
    (accounts scope.ledger).counters.reservedMicros + amount ≤ scope.limit

instance (amount : ℤ) (accounts : LedgerId → Account) (scope : ScopeArgs) :
    Decidable (scope.Allows amount accounts) :=
  inferInstanceAs (Decidable (scope.blocks → (accounts scope.ledger).counters.realizedMicros +
    (accounts scope.ledger).counters.reservedMicros + amount ≤ scope.limit))

/-- The scopes that have an amount for the request, counted by the script. -/
def existingCount (a : ReserveArgs) (accounts : LedgerId → Account) : ℕ :=
  a.scopes.countP fun scope => ((accounts scope.ledger).amounts.hget a.requestId).isSome

/-- The checks of the reserve script. -/
def verdict (a : ReserveArgs) (accounts : LedgerId → Account) : Verdict :=
  if existingCount a accounts = a.scopes.length then .repeated
  else if 0 < existingCount a accounts then .partialReservation
  else if ∀ scope ∈ a.scopes, scope.Allows a.amount accounts then .charged
  else .denied

/-- The purge loop of the reserve script. -/
def purgeAll (now : ℕ) (ledgers : List LedgerId) (accounts : LedgerId → Account) :
    LedgerId → Account :=
  updateAll id (fun _ a => (a.live now).purge now) ledgers accounts

/-- The charge loop of the reserve script. -/
def chargeAll (a : ReserveArgs) (now : ℕ) (accounts : LedgerId → Account) : LedgerId → Account :=
  updateAll ScopeArgs.ledger
    (fun scope => Account.charge a.requestId a.amount scope.ledgerTtlMs reservationTtlMs now)
    a.scopes accounts

/-- `RESERVE_BUDGET_SCRIPT`. -/
def reserveBudgetScript (a : ReserveArgs) (now : ℕ) (accounts : LedgerId → Account) :
    ScriptReply × (LedgerId → Account) :=
  if a.amount < 0 ∨ a.scopes.length < 1 then (.errorReply "invalid budget reservation", accounts)
  else
    let accounts := purgeAll now a.ledgers accounts
    match verdict a accounts with
    | .repeated => (.integer 1, accounts)
    | .partialReservation => (.errorReply "partial budget reservation", accounts)
    | .denied => (.integer 0, accounts)
    | .charged => (.integer 1, chargeAll a now accounts)

-- ════════════════════════════════════════════════════════════════════════
-- The release and record scripts
-- ════════════════════════════════════════════════════════════════════════

/-- `RELEASE_BUDGET_SCRIPT`. -/
def releaseBudgetScript (requestId : String) (ledgers : List LedgerId) (now : ℕ)
    (accounts : LedgerId → Account) : ScriptReply × (LedgerId → Account) :=
  (.integer 1, updateAll id (fun _ a => (a.live now).drop requestId) ledgers accounts)

/-- The arguments of the record script. -/
structure RecordArgs where
  requestId : String
  date : String
  scopes : List String
  realized : ℤ
  baseline : ℤ
  savings : ℤ
  prompt : ℤ
  completion : ℤ
  estimated : ℤ

/-- The first seven characters of a date. -/
def monthOf (date : String) : String := String.ofList (date.toList.take 7)

/-- The ledgers of one scope with the retention of each, in seconds. The lifetime ledger is
kept without an expiry. -/
def scopeLedgers (date scope : String) : List (LedgerId × Option ℕ) :=
  [(⟨.day date, scope⟩, some ledgerDayTtlSeconds),
   (⟨.month (monthOf date), scope⟩, some ledgerMonthTtlSeconds),
   (⟨.all, scope⟩, none)]

def RecordArgs.ledgers (a : RecordArgs) : List (LedgerId × Option ℕ) :=
  a.scopes.flatMap (scopeLedgers a.date)

/-- The increments of the record script. -/
def Ledger.record (a : RecordArgs) (l : Ledger) : Ledger :=
  { l with
    requests := l.requests + 1
    estimatedRequests := l.estimatedRequests + a.estimated
    promptTokens := l.promptTokens + a.prompt
    completionTokens := l.completionTokens + a.completion
    realizedMicros := l.realizedMicros + a.realized
    baselineMicros := l.baselineMicros + a.baseline
    savingsMicros := l.savingsMicros + a.savings }

def Account.record (a : RecordArgs) (retention : Option ℕ) (now : ℕ) (account : Account) :
    Account :=
  let account := account.live now
  let ledger := account.ledger.write (Ledger.record a)
  { account with
    ledger := match retention with
      | some seconds => ledger.pexpire now (seconds * 1000)
      | none => ledger }

/-- `RECORD_COST_SCRIPT`. -/
def recordCostScript (a : RecordArgs) (now : ℕ) (s : State) : ScriptReply × State :=
  let seen := (s.seen.live now).value?.getD ∅
  if a.requestId ∈ seen then (.integer 0, { s with seen := s.seen.live now })
  else
    (.integer 1,
      { accounts := updateAll Prod.fst (fun ledger account => account.record a ledger.2 now)
          a.ledgers s.accounts
        seen := some ⟨insert a.requestId seen, some (now + ledgerIdempotencyTtlSeconds * 1000)⟩ })

-- ════════════════════════════════════════════════════════════════════════
-- The operations
-- ════════════════════════════════════════════════════════════════════════

/-- `SharedBudgetScope`. -/
structure SharedBudgetScope where
  scope : String
  window : String
  limit : Double
  blocks : Bool

/-- `SharedBudgetReservation`. -/
structure SharedBudgetReservation where
  requestId : String
  date : String
  amount : Double
  scopes : List SharedBudgetScope

/-- `SharedCostObservation`. -/
structure SharedCostObservation where
  requestId : String
  date : String
  scopes : List String
  realized : Double
  baseline : Double
  savings : Double
  promptTokens : ℕ
  completionTokens : ℕ
  estimated : Bool

/-- The calls of a replica. `settle_budget` is `release_budget`. -/
inductive Call where
  | recordCost (observation : SharedCostObservation)
  | reserve (reservation : SharedBudgetReservation)
  | release (reservation : SharedBudgetReservation)

inductive Reply where
  | recorded (result : Except StateBackendError Bool)
  | reserved (result : Except StateBackendError Bool)
  | released (result : Except StateBackendError Unit)
deriving DecidableEq

def InvalidId (id : String) : Prop := id.isEmpty ∨ 128 < id.utf8ByteSize

instance (id : String) : Decidable (InvalidId id) :=
  inferInstanceAs (Decidable (id.isEmpty ∨ 128 < id.utf8ByteSize))

/-- `validate_ledger_date`: ten characters, dashes at 4 and 7, digits elsewhere. -/
def validateLedgerDate (value : String) : Except StateBackendError String :=
  if value.toList.length = 10 ∧ value.toList[4]? = some '-' ∧ value.toList[7]? = some '-' ∧
      value.toList.zipIdx.all (fun c => c.2 == 4 || c.2 == 7 || c.1.isDigit) then .ok value
  else .error .unavailable

/-- `budget_period`. -/
def budgetPeriod (date window : String) : Except StateBackendError Period :=
  if window = "day" then .ok (.day date)
  else if window = "month" then .ok (.month (monthOf date))
  else if window = "all" then .ok .all
  else .error .unavailable

/-- The ledger of a scope, as `shared_budget_keys` names its keys. -/
def scopeLedger (date : String) (scope : SharedBudgetScope) : Except StateBackendError LedgerId :=
  if InvalidId scope.scope then .error .unavailable
  else do
    let period ← budgetPeriod date scope.window
    return ⟨period, scope.scope⟩

/-- The expiry that a reserve gives a ledger without one. -/
def ledgerTtlMillis (window : String) : Except StateBackendError ℕ :=
  if window = "day" then .ok (ledgerDayTtlSeconds * 1000)
  else if window = "month" ∨ window = "all" then .ok (ledgerMonthTtlSeconds * 1000)
  else .error .unavailable

def scopeArgs (date : String) (scope : SharedBudgetScope) : Except StateBackendError ScopeArgs := do
  let ledger ← scopeLedger date scope
  let limit ← scaledCost scope.limit
  let ledgerTtlMs ← ledgerTtlMillis scope.window
  return ⟨ledger, limit, scope.blocks, ledgerTtlMs⟩

/-- What `reserve_budget` sends to the server. -/
def reserveArgs (r : SharedBudgetReservation) : Except StateBackendError ReserveArgs :=
  if InvalidId r.requestId ∨ r.scopes.isEmpty ∨ 8 < r.scopes.length then .error .unavailable
  else do
    let amount ← scaledCost r.amount
    let date ← validateLedgerDate r.date
    let scopes ← r.scopes.mapM (scopeArgs date)
    return ⟨r.requestId, amount, scopes⟩

/-- The ledgers that `release_budget` names to the server. -/
def releaseLedgers (r : SharedBudgetReservation) : Except StateBackendError (List LedgerId) := do
  let date ← validateLedgerDate r.date
  r.scopes.mapM (scopeLedger date)

/-- `scaled_signed_cost`. -/
def scaledSignedCost : Double → Except StateBackendError ℤ
  | .notFinite => .error .unavailable
  | .finite q =>
    let scaled := roundHalfAway (q * sharedCostScale)
    if scaled < -2 ^ 63 ∨ 2 ^ 63 < scaled then .error .unavailable else .ok (min scaled i64Max)

/-- `i64::try_from`. -/
def tokenCount (n : ℕ) : Except StateBackendError ℤ :=
  if i64Max < n then .error .unavailable else .ok n

/-- The distinct scopes of an observation in their order, if there are one to eight. -/
def recordScopes (scopes : List String) : Except StateBackendError (List String) :=
  if scopes.any (fun scope => decide (InvalidId scope)) then .error .unavailable
  else
    let scopes := scopes.dedup.insertionSort (· ≤ ·)
    if scopes.isEmpty ∨ 8 < scopes.length then .error .unavailable else .ok scopes

/-- What `record_cost` sends to the server. -/
def recordArgs (o : SharedCostObservation) : Except StateBackendError RecordArgs := do
  let date ← validateLedgerDate o.date
  if InvalidId o.requestId then throw .unavailable
  let scopes ← recordScopes o.scopes
  let realized ← scaledCost o.realized
  let baseline ← scaledCost o.baseline
  let savings ← scaledSignedCost o.savings
  let prompt ← tokenCount o.promptTokens
  let completion ← tokenCount o.completionTokens
  return ⟨o.requestId, date, scopes, realized, baseline, savings, prompt, completion,
    if o.estimated then 1 else 0⟩

/-- `record_cost`. -/
def recordCost (o : SharedCostObservation) (now : ℕ) (s : State) :
    Except StateBackendError Bool × State :=
  match recordArgs o with
  | .error e => (.error e, s)
  | .ok args =>
    let (reply, s) := recordCostScript args now s
    (reply.granted, s)

/-- `reserve_budget`. -/
def reserveBudget (r : SharedBudgetReservation) (now : ℕ) (s : State) :
    Except StateBackendError Bool × State :=
  match reserveArgs r with
  | .error e => (.error e, s)
  | .ok args =>
    let (reply, accounts) := reserveBudgetScript args now s.accounts
    (reply.granted, { s with accounts := accounts })

/-- `release_budget` and `settle_budget`. -/
def releaseBudget (r : SharedBudgetReservation) (now : ℕ) (s : State) :
    Except StateBackendError Unit × State :=
  match releaseLedgers r with
  | .error e => (.error e, s)
  | .ok ledgers =>
    let (reply, accounts) := releaseBudgetScript r.requestId ledgers now s.accounts
    (reply.done, { s with accounts := accounts })

def serve : Service ℕ State Call Reply
  | now, .recordCost o, s =>
    let (result, s) := recordCost o now s
    (.recorded result, s)
  | now, .reserve r, s =>
    let (result, s) := reserveBudget r now s
    (.reserved result, s)
  | now, .release r, s =>
    let (result, s) := releaseBudget r now s
    (.released result, s)

/-- `spend`: the realized cost of a ledger in the accounting unit. -/
def spend (window scope date : String) (now : ℕ) (s : State) : Except StateBackendError ℚ := do
  let date ← validateLedgerDate date
  if InvalidId scope then throw .unavailable
  let period ← budgetPeriod date window
  return ((s.accounts ⟨period, scope⟩).live now).counters.realizedMicros / sharedCostScale

/-- No key exists. -/
def initial : State := {}

/-- A cap of ten units a day on the scope `global`. -/
def globalDay : SharedBudgetScope := ⟨"global", "day", .finite 10, true⟩

/-- The ledger of that cap on one day. -/
def globalLedger : LedgerId := ⟨.day "2026-01-01", "global"⟩

/-- A reservation on that day. -/
def reservation (requestId : String) (amount : ℚ) (scopes : List SharedBudgetScope) :
    SharedBudgetReservation := ⟨requestId, "2026-01-01", .finite amount, scopes⟩

end WayfinderRouter.Budget
