import WayfinderRouter.Json
import WayfinderRouter.Ledger.Buckets

/-!
# The persisted form of the savings ledger

The ledger is written as a JSON value. Reading is tolerant: a field that is missing or of another
kind reads as zero or empty, and a day whose key is not a date is left out.

## Main definitions

- `Decimal` — how amounts are written as numbers
- `SavingsLedger.toValue`, `SavingsLedger.fromValue` — the persisted form
- `SavingsLedger.Reachable` — the ledgers that recording leads to
- `SavingsLedger.Finite` — all amounts of a ledger are finite
-/

namespace WayfinderRouter.Ledger

open Pricing (UtcDate DateError)

variable {A : Type} [Amount A]

/-! ## The ledgers that recording leads to -/

/-- The counters fit 64 bits. -/
def LedgerStats.Counted (stats : LedgerStats A) : Prop := stats.n ≤ U64.max ∧ stats.tokens ≤ U64.max

/-- The entries of a table are in order and have a property. -/
def Table {V : Type} (P : V → Prop) (m : List (String × V)) : Prop :=
  Ordered.Sorted m ∧ ∀ e ∈ m, P e.2

structure WorkspaceBucket.Counted (bucket : WorkspaceBucket A) : Prop where
  stats : bucket.toLedgerStats.Counted
  estimatedN : bucket.estimatedN ≤ U64.max
  byRoute : Table LedgerStats.Counted bucket.byRoute

structure DayBucket.Counted (bucket : DayBucket A) : Prop where
  stats : bucket.toLedgerStats.Counted
  estimatedN : bucket.estimatedN ≤ U64.max
  byRoute : Table LedgerStats.Counted bucket.byRoute
  byKey : Table LedgerStats.Counted bucket.byKey
  byWorkspace : Table WorkspaceBucket.Counted bucket.byWorkspace

/-- What holds of every ledger that recording leads to. -/
structure SavingsLedger.Storable (ledger : SavingsLedger A) : Prop where
  maxDays : ledger.maxDays ≤ U64.max
  size : ledger.days.length ≤ ledger.maxDays
  days : Table DayBucket.Counted ledger.days
  dates : ∀ e ∈ ledger.days, ∃ date : UtcDate, e.1 = date.display

theorem Table.nil {V : Type} {P : V → Prop} : Table P [] :=
  ⟨List.Pairwise.nil, fun _ he => absurd he List.not_mem_nil⟩

/-- Changing an entry keeps what holds of the default and of changed values. -/
theorem Table.orDefault {V : Type} {P : V → Prop} {m : List (String × V)} (h : Table P m)
    {default : V} {f : V → V} (hdefault : P default) (hf : ∀ v, P v → P (f v)) (name : String) :
    Table P (Ledger.orDefault name default f m) := by
  refine ⟨h.1.upsert, fun e he => ?_⟩
  rcases Ordered.mem_upsert he with hold | rfl | ⟨v, hv, rfl⟩
  · exact h.2 e hold
  · exact hf _ hdefault
  · exact hf _ (h.2 _ hv)

theorem LedgerStats.counted_empty : (LedgerStats.empty : LedgerStats A).Counted :=
  ⟨Nat.zero_le _, Nat.zero_le _⟩

theorem LedgerStats.Counted.addTurn (cost : TurnCost A) (stats : LedgerStats A) :
    (stats.addTurn cost).Counted :=
  ⟨min_le_right _ _, min_le_right _ _⟩

omit [Amount A] in
theorem addEstimated_le (cost : TurnCost A) {n : ℕ} (h : n ≤ U64.max) :
    addEstimated cost n ≤ U64.max := by
  rw [addEstimated]
  split_ifs
  · exact min_le_right _ _
  · exact h

theorem WorkspaceBucket.Counted.addTurn (cost : TurnCost A) {bucket : WorkspaceBucket A}
    (h : bucket.Counted) : (bucket.addTurn cost).Counted :=
  ⟨LedgerStats.Counted.addTurn cost _, addEstimated_le cost h.estimatedN,
    h.byRoute.orDefault LedgerStats.counted_empty
      (fun stats _ => LedgerStats.Counted.addTurn cost stats) _⟩

theorem DayBucket.Counted.addAttributed (cost : TurnCost A) (virtualKey workspace : Option String)
    {bucket : DayBucket A} (h : bucket.Counted) :
    (bucket.addAttributed cost virtualKey workspace).Counted := by
  have hstats : ∀ m : List (String × LedgerStats A), Table LedgerStats.Counted m →
      ∀ name, Table LedgerStats.Counted
        (Ledger.orDefault name .empty (LedgerStats.addTurn cost) m) :=
    fun m hm name => hm.orDefault LedgerStats.counted_empty
      (fun stats _ => LedgerStats.Counted.addTurn cost stats) name
  refine ⟨LedgerStats.Counted.addTurn cost _, addEstimated_le cost h.estimatedN,
    hstats _ h.byRoute _, ?_, ?_⟩
  · cases virtualKey with
    | none => exact h.byKey
    | some key => exact hstats _ h.byKey key
  · cases workspace with
    | none => exact h.byWorkspace
    | some name =>
      exact h.byWorkspace.orDefault ⟨LedgerStats.counted_empty, Nat.zero_le _, Table.nil⟩
        (fun _ hb => hb.addTurn cost) name

theorem DayBucket.counted_empty : (DayBucket.empty : DayBucket A).Counted :=
  ⟨LedgerStats.counted_empty, Nat.zero_le _, Table.nil, Table.nil, Table.nil⟩

theorem SavingsLedger.Storable.recordAttributed {ledger : SavingsLedger A} (h : ledger.Storable)
    (cost : TurnCost A) (date : UtcDate) (virtualKey workspace : Option String) :
    (ledger.recordAttributed cost date virtualKey workspace).Storable := by
  have htable : Table (fun bucket => DayBucket.Counted bucket)
      (Ordered.upsert date.display (fun bucket =>
        (bucket.getD .empty).addAttributed cost virtualKey workspace) ledger.days) :=
    h.days.orDefault DayBucket.counted_empty
      (fun _ hb => hb.addAttributed cost virtualKey workspace) date.display
  refine ⟨h.maxDays, ?_, ⟨?_, fun e he => htable.2 e (List.mem_of_mem_drop he)⟩, ?_⟩
  · show (List.drop _ _).length ≤ ledger.maxDays
    rw [List.length_drop]
    omega
  · show ((List.drop _ _).map Prod.fst).Pairwise _
    rw [List.map_drop]
    exact List.Pairwise.drop htable.1
  · intro e he
    rcases Ordered.mem_upsert (List.mem_of_mem_drop he) with hold | rfl | ⟨v, hv, rfl⟩
    · exact h.dates e hold
    · exact ⟨date, rfl⟩
    · exact ⟨date, rfl⟩

/-- The ledgers that recording and `set_priced` lead to. -/
inductive SavingsLedger.Reachable : SavingsLedger A → Prop
  | new {maxDays : ℕ} (h : maxDays ≤ U64.max) (priced : Bool) :
    Reachable (.new maxDays priced)
  | recordAttributed {ledger : SavingsLedger A} (h : Reachable ledger) (cost : TurnCost A)
    (date : UtcDate) (virtualKey workspace : Option String) :
    Reachable (ledger.recordAttributed cost date virtualKey workspace)
  | setPriced {ledger : SavingsLedger A} (h : Reachable ledger) (priced : Bool) :
    Reachable (ledger.setPriced priced)

theorem SavingsLedger.Reachable.storable {ledger : SavingsLedger A} (h : ledger.Reachable) :
    ledger.Storable := by
  induction h with
  | new h priced =>
    exact ⟨h, Nat.zero_le _, Table.nil, fun e he => absurd he List.not_mem_nil⟩
  | recordAttributed _ cost date virtualKey workspace ih =>
    exact ih.recordAttributed cost date virtualKey workspace
  | setPriced _ priced ih => exact ⟨ih.maxDays, ih.size, ih.days, ih.dates⟩

/-! ## Writing -/

/-- How amounts are written as numbers and read back. -/
class Decimal (A : Type) [Zero A] where
  isFinite : A → Bool
  /-- The text of a finite amount. -/
  text : A → String
  /-- `str::parse::<f64>`. -/
  ofText : String → Option A
  isFinite_zero : isFinite 0 = true
  ofText_text : ∀ a, isFinite a = true → ofText (text a) = some a

variable [Decimal A]

/-- `Value::from(f64)`. -/
def ofF64 (a : A) : Json := if Decimal.isFinite a then .number (Decimal.text a) else .null

/-- An ordered map as an object. -/
def ofMap {V : Type} (f : V → Json) (m : List (String × V)) : Json :=
  .object (m.map fun e => (e.1, f e.2))

/-- The fields that all buckets have. -/
def LedgerStats.fields (stats : LedgerStats A) : List (String × Json) :=
  [("n", .nat stats.n), ("realized", ofF64 stats.realized), ("baseline", ofF64 stats.baseline),
    ("savings", ofF64 stats.savings), ("tokens", .nat stats.tokens)]

def LedgerStats.toValue (stats : LedgerStats A) : Json := .object stats.fields

def WorkspaceBucket.entries (bucket : WorkspaceBucket A) : List (String × Json) :=
  bucket.fields ++ [("estimated_n", .nat bucket.estimatedN),
    ("by_route", ofMap LedgerStats.toValue bucket.byRoute)]

def WorkspaceBucket.toValue (bucket : WorkspaceBucket A) : Json := .object bucket.entries

def DayBucket.entries (bucket : DayBucket A) : List (String × Json) :=
  bucket.fields ++ [("estimated_n", .nat bucket.estimatedN),
    ("by_route", ofMap LedgerStats.toValue bucket.byRoute),
    ("by_key", ofMap LedgerStats.toValue bucket.byKey),
    ("by_workspace", ofMap WorkspaceBucket.toValue bucket.byWorkspace)]

def DayBucket.toValue (bucket : DayBucket A) : Json := .object bucket.entries

/-- `SavingsLedger::to_value`. -/
def SavingsLedger.toValue (ledger : SavingsLedger A) : Json :=
  .object [("max_days", .nat ledger.maxDays), ("priced", .bool ledger.priced),
    ("days", ofMap DayBucket.toValue ledger.days)]

/-! ## Reading -/

/-- `Value::as_f64`. -/
def asF64 : Json → Option A
  | .number text => (Decimal.ofText text).filter Decimal.isFinite
  | _ => none

/-- `compatible_u64`. -/
def compatibleU64 (value : Option Json) : ℕ := (value.bind Json.asU64).getD 0

/-- `compatible_f64`. -/
def compatibleF64 (value : Option Json) : A :=
  ((value.bind asF64).filter Decimal.isFinite).getD 0

/-- The fields that all buckets have. -/
def coerceStats (raw : List (String × Json)) : LedgerStats A where
  n := compatibleU64 (Ordered.lookup "n" raw)
  realized := compatibleF64 (Ordered.lookup "realized" raw)
  baseline := compatibleF64 (Ordered.lookup "baseline" raw)
  savings := compatibleF64 (Ordered.lookup "savings" raw)
  tokens := compatibleU64 (Ordered.lookup "tokens" raw)

/-- The objects among the values of an object. -/
def coerceMap {V : Type} (coerce : List (String × Json) → V) (value : Option Json) :
    List (String × V) :=
  ((value.bind Json.asObject).map fun values =>
    Ordered.collect (values.filterMap fun e => e.2.asObject.map fun raw =>
      (e.1, coerce raw))).getD []

/-- `coerce_stat_map`. -/
def coerceStatMap : Option Json → List (String × LedgerStats A) := coerceMap coerceStats

/-- The bucket of a workspace, as `coerce_workspace_map` reads it. -/
def coerceWorkspace (raw : List (String × Json)) : WorkspaceBucket A where
  toLedgerStats := coerceStats raw
  estimatedN := compatibleU64 (Ordered.lookup "estimated_n" raw)
  byRoute := coerceStatMap (Ordered.lookup "by_route" raw)

/-- `coerce_workspace_map`. -/
def coerceWorkspaceMap : Option Json → List (String × WorkspaceBucket A) :=
  coerceMap coerceWorkspace

/-- `coerce_bucket`. -/
def coerceBucket (raw : List (String × Json)) : DayBucket A where
  toLedgerStats := coerceStats raw
  estimatedN := compatibleU64 (Ordered.lookup "estimated_n" raw)
  byRoute := coerceStatMap (Ordered.lookup "by_route" raw)
  byKey := coerceStatMap (Ordered.lookup "by_key" raw)
  byWorkspace := coerceWorkspaceMap (Ordered.lookup "by_workspace" raw)

/-- The text parses as a date. -/
def isDate (key : String) : Bool :=
  match UtcDate.parse key with
  | .ok _ => true
  | .error _ => false

/-- The days that are read: the key is a date and the value an object. -/
def accepted (days : List (String × Json)) : List (String × List (String × Json)) :=
  days.filterMap fun e => if isDate e.1 then e.2.asObject.map (e.1, ·) else none

/-- The number of days of a persisted ledger. -/
def readMaxDays (root : List (String × Json)) : ℕ :=
  ((Ordered.lookup "max_days" root).bind Json.asU64).getD 400

/-- The days of a persisted ledger that are read. -/
def readDays (root : List (String × Json)) : List (String × List (String × Json)) :=
  accepted (((Ordered.lookup "days" root).bind Json.asObject).getD [])

/-- `SavingsLedger::from_value`. -/
def SavingsLedger.fromValue (value : Json) : Except DateError (SavingsLedger A) :=
  match value.asObject with
  | none => .error (.invalidDate "ledger root must be a JSON object")
  | some root =>
    let days := Ordered.collect ((readDays root).map fun e => (e.1, coerceBucket e.2))
    .ok
      { maxDays := readMaxDays root
        priced := ((Ordered.lookup "priced" root).bind Json.asBool).getD true
        days := days.drop (days.length - readMaxDays root) }

/-! ## What is read back -/

/-- The amounts are finite. -/
structure LedgerStats.Finite (stats : LedgerStats A) : Prop where
  realized : Decimal.isFinite stats.realized = true
  baseline : Decimal.isFinite stats.baseline = true
  savings : Decimal.isFinite stats.savings = true

structure WorkspaceBucket.Finite (bucket : WorkspaceBucket A) : Prop where
  stats : bucket.toLedgerStats.Finite
  byRoute : ∀ e ∈ bucket.byRoute, e.2.Finite

structure DayBucket.Finite (bucket : DayBucket A) : Prop where
  stats : bucket.toLedgerStats.Finite
  byRoute : ∀ e ∈ bucket.byRoute, e.2.Finite
  byKey : ∀ e ∈ bucket.byKey, e.2.Finite
  byWorkspace : ∀ e ∈ bucket.byWorkspace, e.2.Finite

/-- All amounts of the ledger are finite. -/
def SavingsLedger.Finite (ledger : SavingsLedger A) : Prop := ∀ e ∈ ledger.days, e.2.Finite

theorem compatibleU64_nat {n : ℕ} (h : n ≤ U64.max) : compatibleU64 (some (.nat n)) = n := by
  rw [compatibleU64, Option.bind_some, Json.asU64_nat h, Option.getD_some]

/-- An amount is read back unless it is not finite. -/
theorem compatibleF64_ofF64 (a : A) :
    compatibleF64 (some (ofF64 a)) = a ↔ Decimal.isFinite a = true := by
  by_cases hfinite : Decimal.isFinite a = true
  · have hread : asF64 (ofF64 a) = some a := by
      rw [ofF64, if_pos hfinite, asF64, Decimal.ofText_text a hfinite, Option.filter_some_pos]
      exact hfinite
    rw [compatibleF64, Option.bind_some, hread, Option.filter_some_pos hfinite]
    exact ⟨fun _ => hfinite, fun _ => rfl⟩
  · have hread : compatibleF64 (some (ofF64 a)) = (0 : A) := by
      rw [ofF64, if_neg hfinite]
      rfl
    rw [hread]
    exact ⟨fun hzero => hzero ▸ Decimal.isFinite_zero, fun h => absurd h hfinite⟩

/-- The common fields are read back when their amounts are finite. -/
theorem coerceStats_fields {stats : LedgerStats A} (h : stats.Counted)
    (rest : List (String × Json)) :
    coerceStats (stats.fields ++ rest) = stats ↔ stats.Finite := by
  have hcoerce : (coerceStats (stats.fields ++ rest) : LedgerStats A) =
      ⟨stats.n, compatibleF64 (some (ofF64 stats.realized)),
        compatibleF64 (some (ofF64 stats.baseline)), compatibleF64 (some (ofF64 stats.savings)),
        stats.tokens⟩ := by
    simp [coerceStats, LedgerStats.fields, Ordered.lookup, compatibleU64_nat h.1,
      compatibleU64_nat h.2]
  obtain ⟨n, realized, baseline, savings, tokens⟩ := stats
  rw [hcoerce, LedgerStats.mk.injEq]
  simp only [compatibleF64_ofF64, true_and, and_true]
  exact ⟨fun h => ⟨h.1, h.2.1, h.2.2⟩, fun h => ⟨h.realized, h.baseline, h.savings⟩⟩

/-- A table is read back when each of its entries is. -/
theorem coerceMap_ofMap {V : Type} {coerce : List (String × Json) → V}
    {raw : V → List (String × Json)} {m : List (String × V)} (h : Ordered.Sorted m) :
    coerceMap coerce (some (ofMap (fun v => .object (raw v)) m)) = m ↔
      ∀ e ∈ m, coerce (raw e.2) = e.2 := by
  have hentries : (m.map fun e => (e.1, Json.object (raw e.2))).filterMap (fun e =>
      e.2.asObject.map fun raw => (e.1, coerce raw)) = m.map fun e => (e.1, coerce (raw e.2)) := by
    rw [List.filterMap_map]
    exact congrFun List.filterMap_eq_map m
  have hread : coerceMap coerce (some (ofMap (fun v => .object (raw v)) m)) =
      m.map fun e => (e.1, coerce (raw e.2)) := by
    show Ordered.collect ((m.map fun e => (e.1, Json.object (raw e.2))).filterMap _) = _
    rw [hentries, (h.map fun v => coerce (raw v)).collect_eq]
  rw [hread]
  constructor
  · intro heq e he
    have hmap := List.map_eq_map_iff (f := fun e : String × V => (e.1, coerce (raw e.2)))
      (g := id) (l := m)
    rw [List.map_id] at hmap
    exact congrArg Prod.snd (hmap.mp heq e he)
  · intro hall
    refine (List.map_congr_left fun e he => ?_).trans (List.map_id m)
    rw [hall e he]
    rfl

theorem coerceStats_toValue {stats : LedgerStats A} (h : stats.Counted) :
    coerceStats stats.fields = stats ↔ stats.Finite := by
  have hfields := coerceStats_fields h []
  rwa [List.append_nil] at hfields

theorem coerceStatMap_ofMap {m : List (String × LedgerStats A)}
    (h : Table LedgerStats.Counted m) :
    coerceStatMap (some (ofMap LedgerStats.toValue m)) = m ↔ ∀ e ∈ m, e.2.Finite :=
  (coerceMap_ofMap h.1).trans
    (forall₂_congr fun e he => coerceStats_toValue (h.2 e he))

theorem coerceWorkspace_entries {bucket : WorkspaceBucket A} (h : bucket.Counted) :
    coerceWorkspace bucket.entries = bucket ↔ bucket.Finite := by
  have hestimated : compatibleU64 (Ordered.lookup "estimated_n" bucket.entries) =
      bucket.estimatedN := by
    simp [WorkspaceBucket.entries, LedgerStats.fields, Ordered.lookup,
      compatibleU64_nat h.estimatedN]
  have hroute : Ordered.lookup "by_route" bucket.entries =
      some (ofMap LedgerStats.toValue bucket.byRoute) := by
    simp [WorkspaceBucket.entries, LedgerStats.fields, Ordered.lookup]
  have heq : coerceWorkspace bucket.entries = bucket ↔
      coerceStats bucket.entries = bucket.toLedgerStats ∧
        coerceStatMap (some (ofMap LedgerStats.toValue bucket.byRoute)) = bucket.byRoute := by
    rw [coerceWorkspace, hestimated, hroute]
    exact ⟨fun heq => ⟨congrArg WorkspaceBucket.toLedgerStats heq,
      congrArg WorkspaceBucket.byRoute heq⟩, fun heq => by rw [heq.1, heq.2]⟩
  rw [heq, coerceStatMap_ofMap h.byRoute, WorkspaceBucket.entries, coerceStats_fields h.stats]
  exact ⟨fun h => ⟨h.1, h.2⟩, fun h => ⟨h.stats, h.byRoute⟩⟩

theorem coerceBucket_entries {bucket : DayBucket A} (h : bucket.Counted) :
    coerceBucket bucket.entries = bucket ↔ bucket.Finite := by
  have hestimated : compatibleU64 (Ordered.lookup "estimated_n" bucket.entries) =
      bucket.estimatedN := by
    simp [DayBucket.entries, LedgerStats.fields, Ordered.lookup, compatibleU64_nat h.estimatedN]
  have hroute : Ordered.lookup "by_route" bucket.entries =
      some (ofMap LedgerStats.toValue bucket.byRoute) := by
    simp [DayBucket.entries, LedgerStats.fields, Ordered.lookup]
  have hkey : Ordered.lookup "by_key" bucket.entries =
      some (ofMap LedgerStats.toValue bucket.byKey) := by
    simp [DayBucket.entries, LedgerStats.fields, Ordered.lookup]
  have hworkspace : Ordered.lookup "by_workspace" bucket.entries =
      some (ofMap WorkspaceBucket.toValue bucket.byWorkspace) := by
    simp [DayBucket.entries, LedgerStats.fields, Ordered.lookup]
  have hworkspaces : coerceWorkspaceMap (some (ofMap WorkspaceBucket.toValue bucket.byWorkspace)) =
      bucket.byWorkspace ↔ ∀ e ∈ bucket.byWorkspace, e.2.Finite :=
    (coerceMap_ofMap h.byWorkspace.1).trans
      (forall₂_congr fun e he => coerceWorkspace_entries (h.byWorkspace.2 e he))
  have heq : coerceBucket bucket.entries = bucket ↔
      coerceStats bucket.entries = bucket.toLedgerStats ∧
        coerceStatMap (some (ofMap LedgerStats.toValue bucket.byRoute)) = bucket.byRoute ∧
        coerceStatMap (some (ofMap LedgerStats.toValue bucket.byKey)) = bucket.byKey ∧
        coerceWorkspaceMap (some (ofMap WorkspaceBucket.toValue bucket.byWorkspace)) =
          bucket.byWorkspace := by
    rw [coerceBucket, hestimated, hroute, hkey, hworkspace]
    constructor
    · intro heq
      exact ⟨congrArg DayBucket.toLedgerStats heq, congrArg DayBucket.byRoute heq,
        congrArg DayBucket.byKey heq, congrArg DayBucket.byWorkspace heq⟩
    · rintro ⟨hstats, hroute, hkey, hworkspace⟩
      rw [hstats, hroute, hkey, hworkspace]
  rw [heq, coerceStatMap_ofMap h.byRoute, coerceStatMap_ofMap h.byKey, hworkspaces,
    DayBucket.entries, coerceStats_fields h.stats]
  exact ⟨fun h => ⟨h.1, h.2.1, h.2.2.1, h.2.2.2⟩,
    fun h => ⟨h.stats, h.byRoute, h.byKey, h.byWorkspace⟩⟩

/-! ## The round trip -/

theorem isDate_display (date : UtcDate) : isDate date.display = true := by
  rw [isDate, UtcDate.parse_display]

/-- The days of a stored ledger are all read. -/
theorem readDays_toValue {ledger : SavingsLedger A} (h : ledger.Storable) :
    accepted (ledger.days.map fun e => (e.1, e.2.toValue)) =
      ledger.days.map fun e => (e.1, e.2.entries) := by
  rw [accepted, List.filterMap_map]
  have hdates := h.dates
  generalize ledger.days = days at hdates ⊢
  induction days with
  | nil => rfl
  | cons e days ih =>
    obtain ⟨⟨date, hdate⟩, hrest⟩ := List.forall_mem_cons.mp hdates
    have hfirst : isDate e.1 = true := hdate ▸ isDate_display date
    rw [List.filterMap_cons_some (b := (e.1, e.2.entries)), ih hrest, List.map_cons]
    show (if isDate e.1 then _ else none) = _
    rw [if_pos hfirst]
    rfl

/-- A ledger is read back when its amounts are finite. -/
theorem fromValue_toValue {ledger : SavingsLedger A} (h : ledger.Storable) :
    SavingsLedger.fromValue ledger.toValue = .ok ledger ↔ ledger.Finite := by
  have hmaxDays : readMaxDays [("max_days", .nat ledger.maxDays), ("priced", .bool ledger.priced),
      ("days", ofMap DayBucket.toValue ledger.days)] = ledger.maxDays := by
    simp [readMaxDays, Ordered.lookup, Json.asU64_nat h.maxDays]
  have hdays : readDays [("max_days", .nat ledger.maxDays), ("priced", .bool ledger.priced),
      ("days", ofMap DayBucket.toValue ledger.days)] =
        ledger.days.map fun e => (e.1, e.2.entries) := by
    rw [← readDays_toValue h]
    simp [readDays, Ordered.lookup, ofMap, Json.asObject]
  have hread : SavingsLedger.fromValue ledger.toValue = .ok
      ⟨ledger.maxDays, ledger.priced,
        ledger.days.map fun e => (e.1, (coerceBucket e.2.entries : DayBucket A))⟩ := by
    rw [SavingsLedger.toValue, SavingsLedger.fromValue]
    simp only [Json.asObject]
    rw [hmaxDays, hdays, List.map_map]
    show Except.ok _ = _
    have hcollect : Ordered.collect (ledger.days.map
        ((fun e => (e.1, (coerceBucket e.2 : DayBucket A))) ∘
          fun e : String × DayBucket A => (e.1, e.2.entries))) =
        ledger.days.map fun e => (e.1, coerceBucket e.2.entries) :=
      (h.days.1.map fun bucket => coerceBucket bucket.entries).collect_eq
    rw [hcollect, List.length_map, Nat.sub_eq_zero_of_le h.size, List.drop_zero]
    simp [Ordered.lookup, Json.asBool]
  rw [hread, Except.ok.injEq]
  have hentries : ∀ e ∈ ledger.days,
      coerceBucket e.2.entries = e.2 ↔ e.2.Finite :=
    fun e he => coerceBucket_entries (h.days.2 e he)
  constructor
  · intro heq e he
    have hmap := List.map_eq_map_iff
      (f := fun e : String × DayBucket A => (e.1, coerceBucket e.2.entries)) (g := id)
      (l := ledger.days)
    rw [List.map_id] at hmap
    have hdays := congrArg SavingsLedger.days heq
    exact (hentries e he).mp (congrArg Prod.snd (hmap.mp hdays e he))
  · intro hfinite
    have hsame : (ledger.days.map fun e => (e.1, coerceBucket e.2.entries)) = ledger.days := by
      refine (List.map_congr_left fun e he => ?_).trans (List.map_id ledger.days)
      rw [(hentries e he).mpr (hfinite e he)]
      rfl
    rw [hsame]

/-! ## Canonical keys -/

/-- The key is the text of the date it parses to. -/
def Canonical (key : String) : Prop := ∃ date, UtcDate.parse key = .ok date ∧ date.display = key

/-- A date is canonical unless it has a plus sign. -/
theorem canonical_iff {key : String} (h : isDate key = true) :
    Canonical key ↔ '+' ∉ key.toList := by
  constructor
  · rintro ⟨date, -, rfl⟩
    exact UtcDate.plus_notMem_display date
  · intro hplus
    rw [isDate] at h
    cases hparse : UtcDate.parse key with
    | error e =>
      rw [hparse] at h
      exact absurd h Bool.false_ne_true
    | ok date => exact ⟨date, hparse, UtcDate.display_of_parse hparse hplus⟩

/-- The value is read as a ledger of at most `max_days` buckets under canonical keys. -/
def ReadsCanonically (A : Type) [Amount A] [Decimal A] (value : Json) : Prop :=
  ∃ ledger : SavingsLedger A, SavingsLedger.fromValue value = .ok ledger ∧
    ledger.days.length ≤ ledger.maxDays ∧ ∀ e ∈ ledger.days, Canonical e.1

theorem mem_accepted {days : List (String × Json)} {e : String × List (String × Json)}
    (h : e ∈ accepted days) : isDate e.1 = true := by
  obtain ⟨day, -, hday⟩ := List.mem_filterMap.mp h
  split_ifs at hday with hdate
  obtain ⟨raw, -, rfl⟩ := Option.map_eq_some_iff.mp hday
  exact hdate

/-- Which keys an object is read under. -/
theorem readsCanonically_iff (root : List (String × Json)) :
    ReadsCanonically A (.object root) ↔
      ∀ key, Ordered.Retained (readMaxDays root) (readDays root) key → '+' ∉ key.toList := by
  let days : List (String × DayBucket A) :=
    Ordered.collect ((readDays root).map fun e => (e.1, coerceBucket e.2))
  have hrecorded : Ordered.recorded days = Ordered.recorded (readDays root) := by
    ext key
    rw [Ordered.recorded, Ordered.recorded, List.mem_toFinset, List.mem_toFinset,
      Ordered.mem_keys_collect, List.map_map]
    rfl
  have hkeys : ∀ key, key ∈ (days.drop (days.length - readMaxDays root)).map Prod.fst ↔
      Ordered.Retained (readMaxDays root) (readDays root) key := by
    intro key
    rw [(Ordered.sorted_collect _).mem_drop_iff, Ordered.Retained, Ordered.Retained, hrecorded]
  have hdate : ∀ key, Ordered.Retained (readMaxDays root) (readDays root) key →
      isDate key = true := by
    rintro key ⟨hmem, -⟩
    obtain ⟨e, he, rfl⟩ := List.mem_map.mp (List.mem_toFinset.mp hmem)
    exact mem_accepted he
  constructor
  · rintro ⟨ledger, hread, -, hcanonical⟩ key hkey
    obtain rfl := Except.ok.inj hread
    obtain ⟨e, he, rfl⟩ := List.mem_map.mp ((hkeys key).mpr hkey)
    exact (canonical_iff (hdate e.1 hkey)).mp (hcanonical e he)
  · intro hplus
    refine ⟨_, rfl, ?_, fun e he => ?_⟩
    · show (days.drop (days.length - readMaxDays root)).length ≤ readMaxDays root
      rw [List.length_drop]
      omega
    · have hkey := (hkeys e.1).mp (List.mem_map_of_mem he)
      exact (canonical_iff (hdate e.1 hkey)).mpr (hplus e.1 hkey)

/-- **Persistence**: a ledger is read back exactly when its amounts are finite, and an object is
read under canonical keys exactly when no key that is kept has a plus sign. -/
theorem persistence_iff :
    (∀ ledger : SavingsLedger A, ledger.Reachable →
      (SavingsLedger.fromValue ledger.toValue = .ok ledger ↔ ledger.Finite)) ∧
    ∀ root, ReadsCanonically A (.object root) ↔
      ∀ key, Ordered.Retained (readMaxDays root) (readDays root) key → '+' ∉ key.toList :=
  ⟨fun _ h => fromValue_toValue h.storable, readsCanonically_iff⟩

/-- Whole amounts. -/
instance wholeAmount : Amount ℕ where
  pythonRound value _ := value
  percent saved baseline := 100 * saved / baseline
  isZero value := value = 0

/-- Whole amounts are written with an empty fraction. -/
instance wholeDecimal : Decimal ℕ where
  isFinite _ := true
  text n := n.repr ++ ".0"
  ofText text := Json.natOfText (String.ofList (text.toList.takeWhile (· ≠ '.')))
  isFinite_zero := rfl
  ofText_text n _ := by
    have hdigits : ∀ c ∈ Nat.toDigits 10 n, decide (c ≠ '.') = true := by
      intro c hc
      have hdigit : c.isDigit = true := Nat.isDigit_of_mem_toDigits (by decide) (by decide) hc
      refine decide_eq_true fun hdot => ?_
      rw [hdot] at hdigit
      exact absurd hdigit (by decide)
    have hwhole : (n.repr ++ ".0").toList.takeWhile (fun c => decide (c ≠ '.')) =
        n.repr.toList := by
      rw [String.toList_append, Nat.toList_repr, List.takeWhile_append_of_pos hdigits]
      simp
    rw [hwhole, String.ofList_toList, Json.natOfText_repr]

lemma year_2026 : 1 ≤ 2026 ∧ 2026 ≤ 9999 := by decide

lemma month_january : 1 ≤ 1 ∧ 1 ≤ 12 := by decide

lemma day_31_january : 1 ≤ 31 ∧ 31 ≤ Pricing.daysInMonth 2026 1 := by decide

def lastOfJanuary : UtcDate := ⟨2026, 1, 31, year_2026, month_january, day_31_january⟩

/-- One turn, recorded and read back. -/
theorem persistence_one_turn :
    SavingsLedger.fromValue ((SavingsLedger.new 7 true : SavingsLedger ℕ).recordAttributed
        ⟨"fast", 2, 5, 3, 10, 20, false⟩ lastOfJanuary (some "team") none).toValue =
      .ok ((SavingsLedger.new 7 true : SavingsLedger ℕ).recordAttributed
        ⟨"fast", 2, 5, 3, 10, 20, false⟩ lastOfJanuary (some "team") none) := by
  refine (persistence_iff.1 _ (.recordAttributed (.new (by decide) true) _ _ _ _)).mpr ?_
  have hfinite : ∀ stats : LedgerStats ℕ, stats.Finite := fun _ => ⟨rfl, rfl, rfl⟩
  exact fun e _ => ⟨hfinite _, fun e _ => hfinite _, fun e _ => hfinite _,
    fun e _ => ⟨hfinite _, fun e _ => hfinite _⟩⟩

/-- A year with a plus sign is kept as a key that no date has. -/
theorem plus_year_is_read :
    ¬ ReadsCanonically ℕ (.object [("days", .object [("+202-01-01", .object [])])]) := by
  rw [readsCanonically_iff]
  intro h
  exact h "+202-01-01" (by decide +kernel) (by decide +kernel)

end WayfinderRouter.Ledger
