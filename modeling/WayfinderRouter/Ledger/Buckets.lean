import WayfinderRouter.Ledger.Date
import WayfinderRouter.Unsigned

/-!
# The day buckets of the savings ledger

The ledger sums what the turns of a day cost, what they would have cost on the baseline route and
how many tokens they used, in total and for each route, virtual key and workspace. Reports merge
the buckets of several days.

The maps of the source are ordered; here they are the lists of their entries in that order. The
amounts are doubles in the source. The ledger never looks into them, so the arithmetic is a
parameter. The lock of the ledger is left out: nothing that runs under it can fail.

## Main definitions

- `LedgerStats`, `WorkspaceBucket`, `DayBucket` — what is summed
- `SavingsLedger.recordAttributed` — record a turn
- `SavingsLedger.period`, `SavingsLedger.periodForWorkspace`, `SavingsLedger.totals`,
  `SavingsLedger.spent` — the queries
-/

namespace WayfinderRouter.Ledger

open Pricing (UtcDate)

/-- The arithmetic of amounts. -/
class Amount (A : Type) where
  [toZero : Zero A]
  [toAdd : Add A]
  [toSub : Sub A]
  /-- `python_round`. -/
  pythonRound : A → ℕ → A
  /-- The percentage that the first amount is of the second. -/
  percent : A → A → A
  isZero : A → Bool

-- The types that amounts are taken from have their own arithmetic, which comes first.
instance (priority := low) {A : Type} [Amount A] : Zero A := Amount.toZero
instance (priority := low) {A : Type} [Amount A] : Add A := Amount.toAdd
instance (priority := low) {A : Type} [Amount A] : Sub A := Amount.toSub

/-- `TurnCost`. -/
structure TurnCost (A : Type) where
  route : String
  realized : A
  baseline : A
  savings : A
  promptTokens : ℕ
  completionTokens : ℕ
  estimated : Bool

structure LedgerStats (A : Type) where
  n : ℕ
  realized : A
  baseline : A
  savings : A
  tokens : ℕ
deriving DecidableEq

structure WorkspaceBucket (A : Type) extends LedgerStats A where
  estimatedN : ℕ
  byRoute : List (String × LedgerStats A)
deriving DecidableEq

structure DayBucket (A : Type) extends LedgerStats A where
  estimatedN : ℕ
  byRoute : List (String × LedgerStats A)
  byKey : List (String × LedgerStats A)
  byWorkspace : List (String × WorkspaceBucket A)
deriving DecidableEq

variable {A : Type} [Amount A]

/-- Two amounts summed and rounded. -/
def plus (a b : A) : A := Amount.pythonRound (a + b) 6

def LedgerStats.empty : LedgerStats A := ⟨0, 0, 0, 0, 0⟩

def WorkspaceBucket.empty : WorkspaceBucket A := ⟨.empty, 0, []⟩

def DayBucket.empty : DayBucket A := ⟨.empty, 0, [], [], []⟩

/-- The tokens of a turn. -/
def TurnCost.tokens (cost : TurnCost A) : ℕ :=
  U64.saturatingAdd cost.promptTokens cost.completionTokens

/-- `LedgerStats::add_turn`. -/
def LedgerStats.addTurn (cost : TurnCost A) (stats : LedgerStats A) : LedgerStats A :=
  { n := U64.saturatingAdd stats.n 1
    realized := plus stats.realized cost.realized
    baseline := plus stats.baseline cost.baseline
    savings := plus stats.savings cost.savings
    tokens := U64.saturatingAdd stats.tokens cost.tokens }

/-- `LedgerStats::add_stats`. -/
def LedgerStats.addStats (stats other : LedgerStats A) : LedgerStats A :=
  { n := U64.saturatingAdd stats.n other.n
    realized := plus stats.realized other.realized
    baseline := plus stats.baseline other.baseline
    savings := plus stats.savings other.savings
    tokens := U64.saturatingAdd stats.tokens other.tokens }

/-- `BTreeMap::entry(..).or_default()`, changed. -/
def orDefault {V : Type} (name : String) (default : V) (f : V → V) (m : List (String × V)) :
    List (String × V) :=
  Ordered.upsert name (fun v => f (v.getD default)) m

/-- `merge_stat_maps`. -/
def mergeStatMaps (target source : List (String × LedgerStats A)) :
    List (String × LedgerStats A) :=
  source.foldl (fun target e => orDefault e.1 .empty (·.addStats e.2) target) target

/-- One more estimated turn. -/
def addEstimated (cost : TurnCost A) (n : ℕ) : ℕ :=
  if cost.estimated then U64.saturatingAdd n 1 else n

/-- `WorkspaceBucket::add_turn`. -/
def WorkspaceBucket.addTurn (cost : TurnCost A) (bucket : WorkspaceBucket A) : WorkspaceBucket A :=
  { toLedgerStats := bucket.toLedgerStats.addTurn cost
    estimatedN := addEstimated cost bucket.estimatedN
    byRoute := orDefault cost.route .empty (LedgerStats.addTurn cost) bucket.byRoute }

/-- `WorkspaceBucket::add_bucket`. -/
def WorkspaceBucket.addBucket (bucket other : WorkspaceBucket A) : WorkspaceBucket A :=
  { toLedgerStats := bucket.toLedgerStats.addStats other.toLedgerStats
    estimatedN := U64.saturatingAdd bucket.estimatedN other.estimatedN
    byRoute := mergeStatMaps bucket.byRoute other.byRoute }

/-- `DayBucket::add_bucket`. -/
def DayBucket.addBucket (bucket other : DayBucket A) : DayBucket A :=
  { toLedgerStats := bucket.toLedgerStats.addStats other.toLedgerStats
    estimatedN := U64.saturatingAdd bucket.estimatedN other.estimatedN
    byRoute := mergeStatMaps bucket.byRoute other.byRoute
    byKey := mergeStatMaps bucket.byKey other.byKey
    byWorkspace := other.byWorkspace.foldl (fun target e =>
      orDefault e.1 .empty (·.addBucket e.2) target) bucket.byWorkspace }

/-- The bucket of a day with one more turn, as `record_attributed` changes it. -/
def DayBucket.addAttributed (cost : TurnCost A) (virtualKey workspace : Option String)
    (bucket : DayBucket A) : DayBucket A :=
  { toLedgerStats := bucket.toLedgerStats.addTurn cost
    estimatedN := addEstimated cost bucket.estimatedN
    byRoute := orDefault cost.route .empty (LedgerStats.addTurn cost) bucket.byRoute
    byKey := virtualKey.elim bucket.byKey fun key =>
      orDefault key .empty (LedgerStats.addTurn cost) bucket.byKey
    byWorkspace := workspace.elim bucket.byWorkspace fun name =>
      orDefault name .empty (WorkspaceBucket.addTurn cost) bucket.byWorkspace }

/-- `SavingsLedger`. -/
structure SavingsLedger (A : Type) where
  maxDays : ℕ
  priced : Bool
  days : List (String × DayBucket A)
deriving DecidableEq

structure SavingsBreakdown (A : Type) where
  requests : ℕ
  realized : A
  baseline : A
  saved : A
  tokens : ℕ

structure SavingsReport (A : Type) where
  periodDays : Option ℕ
  unit : String
  priced : Bool
  requests : ℕ
  estimatedRequests : ℕ
  tokens : ℕ
  realized : A
  baseline : A
  saved : A
  savedPct : A
  byRoute : List (String × SavingsBreakdown A)
  byKey : List (String × SavingsBreakdown A)

structure WorkspaceSavingsReport (A : Type) where
  report : SavingsReport A
  firstObservedUtc : Option String
  lastObservedUtc : Option String

structure SavingsTotals (A : Type) where
  realized : A
  baseline : A
  saved : A

/-- `SavingsBreakdown::from`. -/
def SavingsBreakdown.ofStats (stats : LedgerStats A) : SavingsBreakdown A :=
  { requests := stats.n
    realized := Amount.pythonRound stats.realized 6
    baseline := Amount.pythonRound stats.baseline 6
    saved := Amount.pythonRound stats.savings 6
    tokens := stats.tokens }

def breakdown (m : List (String × LedgerStats A)) : List (String × SavingsBreakdown A) :=
  m.map fun e => (e.1, .ofStats e.2)

namespace SavingsLedger

/-- `SavingsLedger::new`. -/
def new (maxDays : ℕ) (priced : Bool) : SavingsLedger A := ⟨maxDays, priced, []⟩

/-- `SavingsLedger::set_priced`. -/
def setPriced (priced : Bool) (ledger : SavingsLedger A) : SavingsLedger A :=
  { ledger with priced := priced }

/-- `SavingsLedger::record_attributed`. -/
def recordAttributed (cost : TurnCost A) (date : UtcDate) (virtualKey workspace : Option String)
    (ledger : SavingsLedger A) : SavingsLedger A :=
  { ledger with
    days := Ordered.record ledger.maxDays date.display
      (fun bucket => (bucket.getD .empty).addAttributed cost virtualKey workspace) ledger.days }

/-- The first day number of a period. -/
def cutoff (periodDays : Option ℕ) (today : UtcDate) : Option ℤ :=
  periodDays.map fun days => today.ordinal - ((days : ℤ) - 1)

/-- The day is in the period. -/
def included (cutoff : Option ℤ) (date : String) : Bool :=
  match cutoff with
  | none => true
  | some cutoff =>
    match UtcDate.parse date with
    | .ok date => cutoff ≤ date.ordinal
    | .error _ => false

/-- The report of summed stats. -/
def report (periodDays : Option ℕ) (priced : Bool) (stats : LedgerStats A) (estimatedN : ℕ)
    (byRoute byKey : List (String × LedgerStats A)) : SavingsReport A :=
  let baseline := Amount.pythonRound stats.baseline 6
  let saved := Amount.pythonRound stats.savings 6
  { periodDays := periodDays
    unit := if priced then "usd" else "relative"
    priced := priced
    requests := stats.n
    estimatedRequests := estimatedN
    tokens := stats.tokens
    realized := Amount.pythonRound stats.realized 6
    baseline := baseline
    saved := saved
    savedPct := if Amount.isZero baseline then 0
      else Amount.pythonRound (Amount.percent saved baseline) 1
    byRoute := breakdown byRoute
    byKey := breakdown byKey }

/-- The days of a period merged into one bucket. -/
def aggregate (ledger : SavingsLedger A) (periodDays : Option ℕ) (today : UtcDate) : DayBucket A :=
  (ledger.days.filter fun e => included (cutoff periodDays today) e.1).foldl
    (fun bucket e => bucket.addBucket e.2) .empty

/-- `SavingsLedger::period`. -/
def period (ledger : SavingsLedger A) (periodDays : Option ℕ) (today : UtcDate) :
    SavingsReport A :=
  let bucket := ledger.aggregate periodDays today
  report periodDays ledger.priced bucket.toLedgerStats bucket.estimatedN bucket.byRoute
    bucket.byKey

/-- The buckets of a workspace on the days of a period. -/
def observed (ledger : SavingsLedger A) (workspace : String) (periodDays : Option ℕ)
    (today : UtcDate) : List (String × WorkspaceBucket A) :=
  (ledger.days.filter fun e => included (cutoff periodDays today) e.1).filterMap fun e =>
    ((Ordered.lookup workspace e.2.byWorkspace).filter fun bucket => bucket.n ≠ 0).map (e.1, ·)

/-- `SavingsLedger::period_for_workspace`. -/
def periodForWorkspace (ledger : SavingsLedger A) (workspace : String) (periodDays : Option ℕ)
    (today : UtcDate) : WorkspaceSavingsReport A :=
  let days := ledger.observed workspace periodDays today
  let bucket := days.foldl (fun bucket e => bucket.addBucket e.2) WorkspaceBucket.empty
  { report := report periodDays ledger.priced bucket.toLedgerStats bucket.estimatedN
      bucket.byRoute []
    firstObservedUtc := days.head?.map Prod.fst
    lastObservedUtc := days.getLast?.map Prod.fst }

/-- The sum of a list of amounts, from the first on. -/
def sum (amounts : List A) : A := amounts.foldl (· + ·) 0

/-- `SavingsLedger::totals`. -/
def totals (ledger : SavingsLedger A) : SavingsTotals A :=
  let realized := sum (ledger.days.map fun e => e.2.realized)
  let baseline := sum (ledger.days.map fun e => e.2.baseline)
  { realized := Amount.pythonRound realized 6
    baseline := Amount.pythonRound baseline 6
    saved := Amount.pythonRound (baseline - realized) 6 }

/-- The realized cost of a day, or that of a key. -/
def realized (virtualKey : Option String) (bucket : DayBucket A) : A :=
  match virtualKey with
  | none => bucket.realized
  | some key => ((Ordered.lookup key bucket.byKey).map LedgerStats.realized).getD 0

/-- `SavingsLedger::spent`. -/
def spent (ledger : SavingsLedger A) (window : String) (virtualKey : Option String)
    (today : UtcDate) : A :=
  let amount :=
    match window with
    | "day" => ((Ordered.lookup today.display ledger.days).map (realized virtualKey)).getD 0
    | "month" => sum ((ledger.days.filter fun e =>
        today.monthPrefix.toList.isPrefixOf e.1.toList).map fun e => realized virtualKey e.2)
    | _ => sum (ledger.days.map fun e => realized virtualKey e.2)
  Amount.pythonRound amount 6

end SavingsLedger

end WayfinderRouter.Ledger
