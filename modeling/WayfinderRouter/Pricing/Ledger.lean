import Mathlib.Algebra.BigOperators.Group.Finset.Piecewise
import Mathlib.Algebra.Order.Floor.Ring
import Mathlib.Data.Rat.Floor
import Mathlib.Order.Lattice
import Mathlib.Tactic.FieldSimp
import WayfinderRouter.Binary64
import WayfinderRouter.Ordered.BoundedMap

/-!
# The savings ledger

The ledger sums the realized cost of served turns in a bucket per UTC day, together with the
cost of each virtual key and each workspace. Only the latest `maxDays` days are kept.

The days are keyed by their ISO text in the source. The text has a fixed width, so its order is
the order of the dates. Costs are exact multiples of a millionth, as `turn_cost` rounds them, and
rounding a sum of such costs changes nothing.

## Main definitions

- `SavingsLedger.recordAttributed`, `SavingsLedger.spent` — the two operations
- `total` — the cost of the turns that meet a condition
- `spent_eq_total` — what `spent` reads is the cost of the turns on the kept days
-/

namespace WayfinderRouter.Pricing

/-- `python_round` with six places. -/
def pythonRound (value : ℚ) : ℚ := roundHalfEven (value * 10 ^ 6) / 10 ^ 6

/-- A whole number of millionths. -/
def Exact (value : ℚ) : Prop := ∃ n : ℤ, value = n / 10 ^ 6

theorem exact_zero : Exact 0 := ⟨0, by simp⟩

theorem Exact.add {x y : ℚ} (hx : Exact x) (hy : Exact y) : Exact (x + y) := by
  obtain ⟨m, rfl⟩ := hx
  obtain ⟨n, rfl⟩ := hy
  exact ⟨m + n, by push_cast; ring⟩

theorem Exact.pythonRound {x : ℚ} (hx : Exact x) : pythonRound x = x := by
  obtain ⟨n, rfl⟩ := hx
  have hmul : (n : ℚ) / 10 ^ 6 * 10 ^ 6 = n := by field_simp
  rw [Pricing.pythonRound, hmul, roundHalfEven_intCast]

/-- The days of a month. -/
def daysInMonth (year month : ℕ) : ℕ :=
  match month with
  | 1 | 3 | 5 | 7 | 8 | 10 | 12 => 31
  | 4 | 6 | 9 | 11 => 30
  | 2 => if year % 4 = 0 ∧ (year % 100 ≠ 0 ∨ year % 400 = 0) then 29 else 28
  | _ => 0

theorem daysInMonth_le (year month : ℕ) : daysInMonth year month ≤ 31 := by
  unfold daysInMonth
  split <;> try omega
  split <;> omega

/-- `UtcDate`. -/
structure UtcDate where
  year : ℕ
  month : ℕ
  day : ℕ
  year_valid : 1 ≤ year ∧ year ≤ 9999
  month_valid : 1 ≤ month ∧ month ≤ 12
  day_valid : 1 ≤ day ∧ day ≤ daysInMonth year month
deriving DecidableEq

/-- The digits of the ISO text. -/
def UtcDate.digits (d : UtcDate) : ℕ := d.year * 10000 + d.month * 100 + d.day

theorem UtcDate.digits_injective : Function.Injective UtcDate.digits := by
  rintro ⟨y, m, d, hy, hm, hd⟩ ⟨y', m', d', hy', hm', hd'⟩ h
  have := daysInMonth_le y m
  have := daysInMonth_le y' m'
  simp only [UtcDate.digits] at h
  simp only [UtcDate.mk.injEq]
  omega

instance : LinearOrder UtcDate := LinearOrder.lift' UtcDate.digits UtcDate.digits_injective

/-- The cost of a turn and whom it is attributed to. -/
structure Turn where
  realized : ℚ
  exact : Exact realized
  virtualKey : Option String
  workspace : Option String

/-- The costs of a day. A key or a workspace without an entry has none. -/
structure DayBucket where
  realized : ℚ
  byKey : String → ℚ
  byWorkspace : String → ℚ

def DayBucket.empty : DayBucket := ⟨0, fun _ => 0, fun _ => 0⟩

/-- Add a cost under an optional name. -/
def addTo (name : Option String) (cost : ℚ) (costs : String → ℚ) : String → ℚ :=
  match name with
  | none => costs
  | some name => Function.update costs name (pythonRound (costs name + cost))

/-- The bucket of a day with one more turn. -/
def DayBucket.addTurn (turn : Turn) (bucket : Option DayBucket) : DayBucket :=
  let bucket := bucket.getD .empty
  { realized := pythonRound (bucket.realized + turn.realized)
    byKey := addTo turn.virtualKey turn.realized bucket.byKey
    byWorkspace := addTo turn.workspace turn.realized bucket.byWorkspace }

structure SavingsLedger where
  maxDays : ℕ
  days : List (UtcDate × DayBucket)

inductive BudgetWindow where
  | day
  | month
  | all
deriving DecidableEq

namespace SavingsLedger

/-- `SavingsLedger::new`. -/
def new (maxDays : ℕ) : SavingsLedger := ⟨maxDays, []⟩

/-- `SavingsLedger::record_attributed`. -/
def recordAttributed (date : UtcDate) (turn : Turn) (ledger : SavingsLedger) : SavingsLedger :=
  { ledger with days := Ordered.record ledger.maxDays date (DayBucket.addTurn turn) ledger.days }

/-- The ledger after the given turns, newest first. -/
def recordAll (maxDays : ℕ) : List (UtcDate × Turn) → SavingsLedger
  | [] => new maxDays
  | (date, turn) :: turns => (recordAll maxDays turns).recordAttributed date turn

end SavingsLedger

/-- The cost that `spent` reads from a bucket. -/
def DayBucket.cost (virtualKey : Option String) (bucket : DayBucket) : ℚ :=
  match virtualKey with
  | none => bucket.realized
  | some key => bucket.byKey key

/-- The two dates are in the same month. -/
def UtcDate.SameMonth (d d' : UtcDate) : Prop := d.year = d'.year ∧ d.month = d'.month

instance (d d' : UtcDate) : Decidable (d.SameMonth d') := inferInstanceAs (Decidable (_ ∧ _))

/-- `SavingsLedger::spent`. -/
def SavingsLedger.spent (ledger : SavingsLedger) (window : BudgetWindow)
    (virtualKey : Option String) (today : UtcDate) : ℚ :=
  pythonRound (match window with
    | .day => ((Ordered.lookup today ledger.days).map (DayBucket.cost virtualKey)).getD 0
    | .month => ((ledger.days.filter fun e => e.1.SameMonth today).map fun e =>
        e.2.cost virtualKey).sum
    | .all => (ledger.days.map fun e => e.2.cost virtualKey).sum)

/-! ## What the ledger reads -/

/-- The turn counts for the key. Every turn counts when no key is given. -/
def Turn.By (virtualKey : Option String) (turn : Turn) : Prop :=
  virtualKey = none ∨ turn.virtualKey = virtualKey

instance (virtualKey : Option String) (turn : Turn) : Decidable (turn.By virtualKey) :=
  inferInstanceAs (Decidable (_ ∨ _))

/-- The date is in the window of today. -/
def BudgetWindow.Covers (window : BudgetWindow) (today date : UtcDate) : Prop :=
  match window with
  | .day => date = today
  | .month => date.SameMonth today
  | .all => True

instance (window : BudgetWindow) (today date : UtcDate) : Decidable (window.Covers today date) :=
  match window with
  | .day => inferInstanceAs (Decidable (date = today))
  | .month => inferInstanceAs (Decidable (date.SameMonth today))
  | .all => inferInstanceAs (Decidable True)

/-- The cost of the turns that meet a condition. -/
def total (p : UtcDate × Turn → Prop) [DecidablePred p] (turns : List (UtcDate × Turn)) : ℚ :=
  ((turns.filter p).map fun e => e.2.realized).sum

section Total

variable (p : UtcDate × Turn → Prop) [DecidablePred p]

@[simp] theorem total_nil : total p [] = 0 := rfl

theorem total_cons (e : UtcDate × Turn) (turns : List (UtcDate × Turn)) :
    total p (e :: turns) = (if p e then e.2.realized else 0) + total p turns := by
  unfold total
  by_cases h : p e
  · simp [h]
  · simp [h]

theorem exact_total (turns : List (UtcDate × Turn)) : Exact (total p turns) := by
  induction turns with
  | nil => exact exact_zero
  | cons e turns ih =>
    rw [total_cons]
    split
    · exact e.2.exact.add ih
    · exact exact_zero.add ih

/-- The cost of the turns of several dates is the sum of the costs of the dates. -/
theorem sum_total (dates : Finset UtcDate) (turns : List (UtcDate × Turn)) :
    ∑ date ∈ dates, total (fun e => e.1 = date ∧ p e) turns =
      total (fun e => e.1 ∈ dates ∧ p e) turns := by
  induction turns with
  | nil => simp
  | cons e turns ih =>
    have hfirst : ∑ date ∈ dates, (if e.1 = date ∧ p e then e.2.realized else 0) =
        if e.1 ∈ dates ∧ p e then e.2.realized else 0 := by
      by_cases hp : p e
      · simp only [hp, and_true]
        exact Finset.sum_ite_eq dates e.1 fun _ => e.2.realized
      · simp [hp]
    simp only [total_cons, Finset.sum_add_distrib, ih, hfirst]

theorem total_congr {q : UtcDate × Turn → Prop} [DecidablePred q]
    {turns : List (UtcDate × Turn)} (h : ∀ e ∈ turns, p e ↔ q e) :
    total p turns = total q turns := by
  have hfilter : turns.filter p = turns.filter q :=
    List.filter_congr fun e he => decide_eq_decide.mpr (h e he)
  rw [total, total, hfilter]

end Total

/-- The cost in a bucket after one more turn. -/
theorem DayBucket.cost_addTurn (turn : Turn) (bucket : Option DayBucket)
    (virtualKey : Option String) (h : Exact ((bucket.getD .empty).cost virtualKey)) :
    (DayBucket.addTurn turn bucket).cost virtualKey =
      (if turn.By virtualKey then turn.realized else 0) +
        (bucket.getD .empty).cost virtualKey := by
  cases virtualKey with
  | none =>
    simp only [Turn.By, true_or, if_true]
    rw [add_comm]
    exact Exact.pythonRound (h.add turn.exact)
  | some key =>
    show addTo turn.virtualKey turn.realized (bucket.getD .empty).byKey key = _
    rcases hname : turn.virtualKey with _ | name
    · simp [addTo, Turn.By, hname, DayBucket.cost]
    · by_cases hkey : name = key
      · subst hkey
        have hby : turn.By (some name) := Or.inr hname
        rw [addTo, Function.update_self, if_pos hby, add_comm turn.realized]
        exact Exact.pythonRound (h.add turn.exact)
      · have hnot : ¬ turn.By (some key) := by
          simp [Turn.By, hname, hkey]
        rw [addTo, Function.update_of_ne (Ne.symm hkey), if_neg hnot, zero_add]
        rfl

/-- The bucket of a date has the cost of the turns on that date. -/
theorem cost_folded (date : UtcDate) (virtualKey : Option String)
    (turns : List (UtcDate × Turn)) :
    ((Ordered.folded DayBucket.addTurn date turns).getD .empty).cost virtualKey =
      total (fun e => e.1 = date ∧ e.2.By virtualKey) turns := by
  induction turns with
  | nil => cases virtualKey <;> rfl
  | cons e turns ih =>
    obtain ⟨date', turn⟩ := e
    rw [Ordered.folded, total_cons]
    by_cases hdate : date' = date
    · rw [if_pos hdate, Option.getD_some, DayBucket.cost_addTurn, ih]
      · simp [hdate]
      · rw [ih]
        exact exact_total _ turns
    · simp [hdate, ih]

theorem SavingsLedger.maxDays_recordAll (maxDays : ℕ) (turns : List (UtcDate × Turn)) :
    (recordAll maxDays turns).maxDays = maxDays := by
  induction turns with
  | nil => rfl
  | cons e turns ih => exact ih

theorem SavingsLedger.bounded_recordAll (maxDays : ℕ) (turns : List (UtcDate × Turn)) :
    Ordered.Bounded DayBucket.addTurn maxDays turns (recordAll maxDays turns).days := by
  induction turns with
  | nil => exact Ordered.bounded_nil _ maxDays
  | cons e turns ih =>
    obtain ⟨date, turn⟩ := e
    show Ordered.Bounded _ _ _ (Ordered.record (recordAll maxDays turns).maxDays _ _ _)
    rw [maxDays_recordAll]
    exact ih.record date turn

/-- `spent` sums the kept days of the window. -/
theorem SavingsLedger.spent_eq_sum (ledger : SavingsLedger) (window : BudgetWindow)
    (virtualKey : Option String) (today : UtcDate) (h : Ordered.Sorted ledger.days) :
    ledger.spent window virtualKey today =
      pythonRound ((ledger.days.filter fun e => window.Covers today e.1).map fun e =>
        e.2.cost virtualKey).sum := by
  cases window with
  | day =>
    rw [spent, h.lookup_getD_eq_sum]
    refine congrArg (fun days => pythonRound (List.map _ days).sum) ?_
    exact List.filter_congr fun e _ => decide_eq_decide.mpr Iff.rfl
  | month => rfl
  | all =>
    have hall : ledger.days.filter (fun e => BudgetWindow.all.Covers today e.1) = ledger.days :=
      List.filter_eq_self.mpr fun e _ => decide_eq_true trivial
    rw [hall]
    rfl

/-- **Spend rule**: the ledger reads the cost of the turns of the window on the kept days. -/
theorem SavingsLedger.spent_eq_total (maxDays : ℕ) (turns : List (UtcDate × Turn))
    (window : BudgetWindow) (virtualKey : Option String) (today : UtcDate) :
    (recordAll maxDays turns).spent window virtualKey today =
      total (fun e => window.Covers today e.1 ∧ Ordered.Retained maxDays turns e.1 ∧
        e.2.By virtualKey) turns := by
  have hbounded := bounded_recordAll maxDays turns
  let kept := (recordAll maxDays turns).days.filter fun e => window.Covers today e.1
  let cost := fun date => total (fun e => e.1 = date ∧ e.2.By virtualKey) turns
  have hnodup : (kept.map Prod.fst).Nodup :=
    List.Nodup.sublist (List.filter_sublist.map Prod.fst) (hbounded.sorted.imp ne_of_lt)
  have hcosts : (kept.map fun e => e.2.cost virtualKey) = (kept.map Prod.fst).map cost := by
    rw [List.map_map]
    apply List.map_congr_left
    intro e he
    have hlookup := hbounded.sorted.lookup_of_mem (List.mem_of_mem_filter he)
    have hcost := cost_folded e.1 virtualKey turns
    rw [hbounded.values _ _ hlookup] at hcost
    exact hcost
  have hmem : ∀ date, date ∈ (kept.map Prod.fst).toFinset ↔
      window.Covers today date ∧ Ordered.Retained maxDays turns date := by
    intro date
    rw [← hbounded.mem_iff]
    simp [kept, and_comm]
  rw [spent_eq_sum _ _ _ _ hbounded.sorted]
  show pythonRound (kept.map fun e => e.2.cost virtualKey).sum = _
  rw [hcosts, ← List.sum_toFinset _ hnodup, sum_total, (exact_total _ turns).pythonRound]
  apply total_congr
  intro e _
  rw [hmem, and_assoc]

end WayfinderRouter.Pricing
