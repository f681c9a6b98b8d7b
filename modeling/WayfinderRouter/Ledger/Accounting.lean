import Mathlib.Algebra.Order.BigOperators.Group.Multiset
import WayfinderRouter.Ledger.Buckets

/-!
# What the savings ledger sums

With exact amounts, every sum of the ledger is the sum over turns: a bucket over the turns of its
day, an entry of a table over those turns that carry its name, and a report over the turns of the
retained days in its period.

## Main definitions

- `Turn` — a turn as it is recorded
- `sums`, `Tabulates` — the sums over turns, in total and for each name
- `IsWorkspace`, `IsDay` — a bucket holds the sums over given turns
- `Accounts` — what the ledger and its queries say about the recorded turns
-/

namespace WayfinderRouter.Ledger

open Pricing (UtcDate Exact)

/-- Exact amounts. -/
instance exactAmount : Amount ℚ where
  pythonRound value places := roundHalfEven (value * 10 ^ places) / 10 ^ places
  percent saved baseline := 100 * saved / baseline
  isZero value := value = 0

/-- The amounts of a cost are whole numbers of millionths. -/
structure TurnCost.Exact (cost : TurnCost ℚ) : Prop where
  realized : Pricing.Exact cost.realized
  baseline : Pricing.Exact cost.baseline
  savings : Pricing.Exact cost.savings

/-- A turn as it is recorded. -/
structure Turn where
  date : UtcDate
  cost : TurnCost ℚ
  exact : cost.Exact
  virtualKey : Option String
  workspace : Option String

namespace Turn

def route (turn : Turn) : Option String := some turn.cost.route

/-- The key of the day of the turn. -/
def day (turn : Turn) : Option String := some turn.date.display

def tokens (turn : Turn) : ℕ := turn.cost.promptTokens + turn.cost.completionTokens

end Turn

theorem plus_exact {x y : ℚ} (hx : Exact x) (hy : Exact y) : plus x y = x + y :=
  (hx.add hy).pythonRound

/-- The sums over the given turns. -/
def sums (s : Multiset Turn) : LedgerStats ℚ where
  n := s.card
  realized := (s.map fun t => t.cost.realized).sum
  baseline := (s.map fun t => t.cost.baseline).sum
  savings := (s.map fun t => t.cost.savings).sum
  tokens := (s.map Turn.tokens).sum

/-- The counters of the turns fit 64 bits. -/
structure Fits (s : Multiset Turn) : Prop where
  turns : s.card ≤ U64.max
  tokens : (s.map Turn.tokens).sum ≤ U64.max

theorem Fits.mono {s s' : Multiset Turn} (fits : Fits s') (h : s ≤ s') : Fits s := by
  refine ⟨(Multiset.card_le_card h).trans fits.turns, le_trans ?_ fits.tokens⟩
  obtain ⟨rest, rfl⟩ := Multiset.le_iff_exists_add.mp h
  rw [Multiset.map_add, Multiset.sum_add]
  exact Nat.le_add_right _ _

theorem exact_sum (f : Turn → ℚ) (hf : ∀ t, Exact (f t)) (s : Multiset Turn) :
    Exact (s.map f).sum := by
  induction s using Multiset.induction_on with
  | empty => exact Pricing.exact_zero
  | cons t s ih =>
    rw [Multiset.map_cons, Multiset.sum_cons]
    exact (hf t).add ih

theorem exact_realized (s : Multiset Turn) : Exact (sums s).realized :=
  exact_sum _ (fun t => t.exact.realized) s

theorem exact_baseline (s : Multiset Turn) : Exact (sums s).baseline :=
  exact_sum _ (fun t => t.exact.baseline) s

theorem exact_savings (s : Multiset Turn) : Exact (sums s).savings :=
  exact_sum _ (fun t => t.exact.savings) s

/-- Merging sums gives the sums over all turns. -/
theorem addStats_sums {s s' : Multiset Turn} (fits : Fits (s + s')) :
    (sums s).addStats (sums s') = sums (s + s') := by
  obtain ⟨hcard, htokens⟩ := fits
  rw [Multiset.card_add] at hcard
  rw [Multiset.map_add, Multiset.sum_add] at htokens
  have hn : U64.saturatingAdd (sums s).n (sums s').n = (sums s).n + (sums s').n :=
    U64.saturatingAdd_eq hcard
  have htotal : U64.saturatingAdd (sums s).tokens (sums s').tokens =
      (sums s).tokens + (sums s').tokens := U64.saturatingAdd_eq htokens
  simp only [LedgerStats.addStats, hn, htotal, plus_exact (exact_realized s) (exact_realized s'),
    plus_exact (exact_baseline s) (exact_baseline s'),
    plus_exact (exact_savings s) (exact_savings s')]
  simp only [sums, Multiset.card_add, Multiset.map_add, Multiset.sum_add]

/-- One more turn is added to the sums. -/
theorem addTurn_sums {t : Turn} {s : Multiset Turn} (fits : Fits (t ::ₘ s)) :
    (sums s).addTurn t.cost = sums (t ::ₘ s) := by
  have hfit : t.tokens ≤ U64.max := by
    have htokens := fits.tokens
    rw [Multiset.map_cons, Multiset.sum_cons] at htokens
    omega
  have htokens : t.cost.tokens = t.tokens := U64.saturatingAdd_eq hfit
  have hone : sums {t} = ⟨1, t.cost.realized, t.cost.baseline, t.cost.savings, t.cost.tokens⟩ := by
    simp only [sums, Multiset.card_singleton, Multiset.map_singleton, Multiset.sum_singleton,
      htokens]
  rw [← Multiset.singleton_add, add_comm] at fits ⊢
  rw [← addStats_sums fits, hone]
  rfl

/-! ### Tables of named sums -/

/-- The turns that carry a name. -/
def named (label : Turn → Option String) (name : String) (s : Multiset Turn) : Multiset Turn :=
  s.filter fun t => label t = some name

theorem named_cons_of_eq {label : Turn → Option String} {name : String} {t : Turn}
    (h : label t = some name) (s : Multiset Turn) :
    named label name (t ::ₘ s) = t ::ₘ named label name s :=
  Multiset.filter_cons_of_pos (p := fun t => label t = some name) s h

theorem named_cons_of_ne {label : Turn → Option String} {name : String} {t : Turn}
    (h : label t ≠ some name) (s : Multiset Turn) :
    named label name (t ::ₘ s) = named label name s :=
  Multiset.filter_cons_of_neg (p := fun t => label t = some name) s h

/-- The sums for the names that the turns carry make up the sum over all turns. -/
theorem sum_named {M : Type} [AddCommMonoid M] {label : Turn → Option String} {w : Turn → M}
    {names : List String} {s : Multiset Turn}
    (h : ∀ t ∈ s, ∃ name ∈ names, label t = some name) :
    ∑ name ∈ names.toFinset, ((named label name s).map w).sum = (s.map w).sum := by
  induction s using Multiset.induction_on with
  | empty => exact Finset.sum_eq_zero fun _ _ => rfl
  | cons t s ih =>
    obtain ⟨name, hname, hlabel⟩ := h t (Multiset.mem_cons_self t s)
    have hterm : ∀ name', ((named label name' (t ::ₘ s)).map w).sum =
        (if name = name' then w t else 0) + ((named label name' s).map w).sum := by
      intro name'
      by_cases heq : name = name'
      · subst heq
        rw [named_cons_of_eq hlabel, Multiset.map_cons, Multiset.sum_cons, if_pos rfl]
      · have hne : label t ≠ some name' := fun h => heq (Option.some.inj (hlabel.symm.trans h))
        rw [named_cons_of_ne hne, if_neg heq, zero_add]
    simp only [hterm, Finset.sum_add_distrib, Finset.sum_ite_eq, List.mem_toFinset, hname, if_true]
    rw [ih fun t' ht' => h t' (Multiset.mem_cons_of_mem ht'), Multiset.map_cons,
      Multiset.sum_cons]

/-- The table has an entry for each name that a turn carries, with a value for these turns. -/
structure Tabulates {V : Type} (label : Turn → Option String) (P : Multiset Turn → V → Prop)
    (s : Multiset Turn) (m : List (String × V)) : Prop where
  sorted : Ordered.Sorted m
  absent : ∀ name, Ordered.lookup name m = none ↔ named label name s = 0
  value : ∀ name v, Ordered.lookup name m = some v → P (named label name s) v

namespace Tabulates

variable {V : Type} {label : Turn → Option String} {P : Multiset Turn → V → Prop}
  {s s' : Multiset Turn} {m m' : List (String × V)}

theorem nil : Tabulates label P 0 [] :=
  ⟨List.Pairwise.nil, fun _ => ⟨fun _ => rfl, fun _ => rfl⟩, fun _ _ h => nomatch h⟩

/-- The value of a name, or that of no turns. -/
theorem getD (h : Tabulates label P s m) {default : V} (hdefault : P 0 default) (name : String) :
    P (named label name s) ((Ordered.lookup name m).getD default) := by
  cases hlookup : Ordered.lookup name m with
  | none =>
    rw [(h.absent name).mp hlookup]
    exact hdefault
  | some v => exact h.value name v hlookup

/-- A turn without a name changes nothing. -/
theorem skip (h : Tabulates label P s m) {t : Turn} (ht : label t = none) :
    Tabulates label P (t ::ₘ s) m := by
  have hnamed : ∀ name, named label name (t ::ₘ s) = named label name s := fun name =>
    named_cons_of_ne (by simp [ht]) s
  refine ⟨h.sorted, fun name => ?_, fun name v hv => ?_⟩
  · rw [hnamed]
    exact h.absent name
  · rw [hnamed]
    exact h.value name v hv

/-- A turn changes the entry of its name. -/
theorem insert (h : Tabulates label P s m) {t : Turn} {name : String} (ht : label t = some name)
    {default : V} {f : V → V} (hdefault : P 0 default)
    (hf : ∀ s v, P s v → P (t ::ₘ s) (f v)) :
    Tabulates label P (t ::ₘ s) (orDefault name default f m) := by
  have hself := named_cons_of_eq ht s
  have hother : ∀ name' ≠ name, named label name' (t ::ₘ s) = named label name' s :=
    fun name' hne => named_cons_of_ne (fun h => hne (Option.some.inj (h.symm.trans ht))) s
  refine ⟨h.sorted.upsert, fun name' => ?_, fun name' v hv => ?_⟩
  · rw [orDefault, Ordered.lookup_upsert h.sorted]
    by_cases hname : name' = name
    · subst hname
      rw [if_pos rfl, hself]
      exact ⟨fun h => (nomatch h), fun h => absurd h (Multiset.cons_ne_zero)⟩
    · rw [if_neg hname, hother name' hname]
      exact h.absent name'
  · rw [orDefault, Ordered.lookup_upsert h.sorted] at hv
    by_cases hname : name' = name
    · subst hname
      rw [if_pos rfl, Option.some.injEq] at hv
      rw [hself, ← hv]
      exact hf _ _ (h.getD hdefault name')
    · rw [if_neg hname] at hv
      rw [hother name' hname]
      exact h.value name' v hv

/-- A turn changes the entry of its name, if it has one. -/
theorem elim (h : Tabulates label P s m) (t : Turn) {default : V} {f : V → V}
    (hdefault : P 0 default) (hf : ∀ s v, P s v → P (t ::ₘ s) (f v)) :
    Tabulates label P (t ::ₘ s) ((label t).elim m fun name => orDefault name default f m) := by
  cases ht : label t with
  | none => exact h.skip ht
  | some name => exact h.insert ht hdefault hf

/-- Merging the tables of some turns and of others gives the table of all. -/
theorem merge (h : Tabulates label P s m) (h' : Tabulates label P s' m') {default : V}
    {add : V → V → V} (hdefault : P 0 default)
    (hadd : ∀ s v s' v', P s v → P s' v' → P (s + s') (add v v')) :
    Tabulates label P (s + s')
      (m'.foldl (fun target e => orDefault e.1 default (add · e.2) target) m) := by
  have hnodup : (m'.map Prod.fst).Nodup := h'.sorted.imp fun hlt => ne_of_lt hlt
  have hnamed : ∀ name, named label name (s + s') = named label name s + named label name s' :=
    fun name => Multiset.filter_add _ _ _
  obtain ⟨hsorted, hlookup⟩ := Ordered.lookup_foldl_upsert
    (fun v' v => add (v.getD default) v') m' hnodup h.sorted
  have hmerged : ∀ name, Ordered.lookup name
      (m'.foldl (fun target e => orDefault e.1 default (add · e.2) target) m) =
        (Ordered.lookup name m').elim (Ordered.lookup name m) fun v' =>
          some (add ((Ordered.lookup name m).getD default) v') := hlookup
  refine ⟨hsorted, fun name => ?_, fun name v hv => ?_⟩
  · rw [hmerged, hnamed, ← Multiset.card_eq_zero, Multiset.card_add, Nat.add_eq_zero_iff,
      Multiset.card_eq_zero, Multiset.card_eq_zero, ← h.absent, ← h'.absent]
    cases Ordered.lookup name m' with
    | none => exact ⟨fun hnone => ⟨hnone, rfl⟩, fun hnone => hnone.1⟩
    | some v' => exact ⟨fun hnone => (nomatch hnone), fun hnone => nomatch hnone.2⟩
  · rw [hmerged] at hv
    rw [hnamed]
    cases hv' : Ordered.lookup name m' with
    | none =>
      rw [hv'] at hv
      rw [(h'.absent name).mp hv', add_zero]
      exact h.value name v hv
    | some v' =>
      rw [hv'] at hv
      rw [← Option.some.inj hv]
      exact hadd _ _ _ _ (h.getD hdefault name) (h'.value name v' hv')

theorem map {W : Type} {Q : Multiset Turn → W → Prop} (h : Tabulates label P s m) (g : V → W)
    (hg : ∀ s v, P s v → Q s (g v)) : Tabulates label Q s (m.map fun e => (e.1, g e.2)) := by
  refine ⟨h.sorted.map g, fun name => ?_, fun name w hw => ?_⟩
  · rw [Ordered.lookup_map, Option.map_eq_none_iff]
    exact h.absent name
  · rw [Ordered.lookup_map] at hw
    obtain ⟨v, hv, rfl⟩ := Option.map_eq_some_iff.mp hw
    exact hg _ _ (h.value name v hv)

/-- When every turn has a name, the values of the table sum up to the sum over all turns. -/
theorem sum_eq {M : Type} [AddCommMonoid M] (h : Tabulates label P s m) (w : Turn → M) (g : V → M)
    (hg : ∀ s' ≤ s, ∀ v, P s' v → g v = (s'.map w).sum) (hlabel : ∀ t ∈ s, (label t).isSome) :
    (m.map fun e => g e.2).sum = (s.map w).sum := by
  have hnodup : (m.map Prod.fst).Nodup := h.sorted.imp fun hlt => ne_of_lt hlt
  have hentries : (m.map fun e => g e.2) =
      (m.map Prod.fst).map fun name => ((named label name s).map w).sum := by
    rw [List.map_map]
    refine List.map_congr_left fun e he => hg _ (Multiset.filter_le _ _) _ ?_
    exact h.value e.1 e.2 (h.sorted.lookup_of_mem he)
  have hnames : ∀ t ∈ s, ∃ name ∈ m.map Prod.fst, label t = some name := by
    intro t ht
    obtain ⟨name, hname⟩ := Option.isSome_iff_exists.mp (hlabel t ht)
    refine ⟨name, ?_, hname⟩
    by_contra hmem
    have hzero := (h.absent name).mp (Ordered.lookup_eq_none_iff.mpr hmem)
    exact Multiset.notMem_zero t (hzero ▸ Multiset.mem_filter.mpr ⟨ht, hname⟩)
  rw [hentries, ← List.sum_toFinset _ hnodup]
  exact sum_named hnames

end Tabulates

/-! ### Buckets -/

/-- The sums over the turns, while the counters fit. -/
def IsStats (s : Multiset Turn) (stats : LedgerStats ℚ) : Prop := Fits s → stats = sums s

theorem isStats_empty : IsStats 0 .empty := fun _ => rfl

theorem IsStats.addTurn (t : Turn) (s : Multiset Turn) (stats : LedgerStats ℚ)
    (h : IsStats s stats) : IsStats (t ::ₘ s) (stats.addTurn t.cost) := by
  intro fits
  rw [h (fits.mono (Multiset.le_cons_self s t)), addTurn_sums fits]

theorem IsStats.addStats (s : Multiset Turn) (stats : LedgerStats ℚ) (s' : Multiset Turn)
    (stats' : LedgerStats ℚ) (h : IsStats s stats) (h' : IsStats s' stats') :
    IsStats (s + s') (stats.addStats stats') := by
  intro fits
  rw [h (fits.mono (Multiset.le_add_right s s')), h' (fits.mono (Multiset.le_add_left s' s)),
    addStats_sums fits]

/-- The number of estimated turns, while the counters fit. -/
def IsEstimated (s : Multiset Turn) (n : ℕ) : Prop :=
  Fits s → n = s.countP fun t => t.cost.estimated = true

theorem isEstimated_empty : IsEstimated 0 0 := fun _ => rfl

theorem IsEstimated.addTurn {s : Multiset Turn} {n : ℕ} (h : IsEstimated s n) (t : Turn) :
    IsEstimated (t ::ₘ s) (addEstimated t.cost n) := by
  intro fits
  have hn := h (fits.mono (Multiset.le_cons_self s t))
  have hle := Multiset.countP_le_card (fun t : Turn => t.cost.estimated = true) s
  have hcard := fits.turns
  rw [Multiset.card_cons] at hcard
  rw [Multiset.countP_cons, addEstimated]
  split_ifs
  · rw [U64.saturatingAdd_eq (by omega), hn]
  · exact hn

theorem IsEstimated.add {s s' : Multiset Turn} {n n' : ℕ} (h : IsEstimated s n)
    (h' : IsEstimated s' n') : IsEstimated (s + s') (U64.saturatingAdd n n') := by
  intro fits
  have hn := h (fits.mono (Multiset.le_add_right s s'))
  have hn' := h' (fits.mono (Multiset.le_add_left s' s))
  have hle := Multiset.countP_le_card (fun t : Turn => t.cost.estimated = true) s
  have hle' := Multiset.countP_le_card (fun t : Turn => t.cost.estimated = true) s'
  have hcard := fits.turns
  rw [Multiset.card_add] at hcard
  rw [U64.saturatingAdd_eq (by omega), Multiset.countP_add, hn, hn']

/-- The bucket of a workspace holds the sums over the turns. -/
structure IsWorkspace (s : Multiset Turn) (bucket : WorkspaceBucket ℚ) : Prop where
  stats : IsStats s bucket.toLedgerStats
  counted : bucket.n = 0 ↔ s = 0
  estimatedN : IsEstimated s bucket.estimatedN
  byRoute : Tabulates Turn.route IsStats s bucket.byRoute

theorem isWorkspace_empty : IsWorkspace 0 .empty :=
  ⟨isStats_empty, ⟨fun _ => rfl, fun _ => rfl⟩, isEstimated_empty, .nil⟩

theorem IsWorkspace.addTurn (t : Turn) (s : Multiset Turn) (bucket : WorkspaceBucket ℚ)
    (h : IsWorkspace s bucket) : IsWorkspace (t ::ₘ s) (bucket.addTurn t.cost) := by
  refine ⟨h.stats.addTurn t s _, ?_, h.estimatedN.addTurn t,
    h.byRoute.elim t isStats_empty (IsStats.addTurn t)⟩
  have hpos : 1 ≤ U64.saturatingAdd bucket.n 1 := U64.le_saturatingAdd (by decide) (by omega)
  exact ⟨fun hzero => absurd hzero (Nat.one_le_iff_ne_zero.mp hpos),
    fun hzero => absurd hzero Multiset.cons_ne_zero⟩

theorem IsWorkspace.addBucket (s : Multiset Turn) (bucket : WorkspaceBucket ℚ)
    (s' : Multiset Turn) (bucket' : WorkspaceBucket ℚ) (h : IsWorkspace s bucket)
    (h' : IsWorkspace s' bucket') : IsWorkspace (s + s') (bucket.addBucket bucket') := by
  refine ⟨h.stats.addStats _ _ _ _ h'.stats, ?_, h.estimatedN.add h'.estimatedN,
    h.byRoute.merge h'.byRoute isStats_empty IsStats.addStats⟩
  have hzero : U64.saturatingAdd bucket.n bucket'.n = 0 ↔ bucket.n = 0 ∧ bucket'.n = 0 := by
    have hmax : 0 < U64.max := by decide
    rw [U64.saturatingAdd]
    omega
  rw [← Multiset.card_eq_zero, Multiset.card_add, Nat.add_eq_zero_iff, Multiset.card_eq_zero,
    Multiset.card_eq_zero, ← h.counted, ← h'.counted]
  exact hzero

/-- The bucket of a day holds the sums over the turns. -/
structure IsDay (s : Multiset Turn) (bucket : DayBucket ℚ) : Prop where
  stats : IsStats s bucket.toLedgerStats
  estimatedN : IsEstimated s bucket.estimatedN
  byRoute : Tabulates Turn.route IsStats s bucket.byRoute
  byKey : Tabulates Turn.virtualKey IsStats s bucket.byKey
  byWorkspace : Tabulates Turn.workspace IsWorkspace s bucket.byWorkspace

theorem isDay_empty : IsDay 0 .empty := ⟨isStats_empty, isEstimated_empty, .nil, .nil, .nil⟩

theorem IsDay.addAttributed (t : Turn) {s : Multiset Turn} {bucket : DayBucket ℚ}
    (h : IsDay s bucket) :
    IsDay (t ::ₘ s) (bucket.addAttributed t.cost t.virtualKey t.workspace) :=
  ⟨h.stats.addTurn t s _, h.estimatedN.addTurn t,
    h.byRoute.elim t isStats_empty (IsStats.addTurn t),
    h.byKey.elim t isStats_empty (IsStats.addTurn t),
    h.byWorkspace.elim t isWorkspace_empty (IsWorkspace.addTurn t)⟩

theorem IsDay.addBucket {s s' : Multiset Turn} {bucket bucket' : DayBucket ℚ}
    (h : IsDay s bucket) (h' : IsDay s' bucket') : IsDay (s + s') (bucket.addBucket bucket') :=
  ⟨h.stats.addStats _ _ _ _ h'.stats, h.estimatedN.add h'.estimatedN,
    h.byRoute.merge h'.byRoute isStats_empty IsStats.addStats,
    h.byKey.merge h'.byKey isStats_empty IsStats.addStats,
    h.byWorkspace.merge h'.byWorkspace isWorkspace_empty IsWorkspace.addBucket⟩

/-! ### The ledger -/

/-- The ledger after the given turns, newest first. -/
def recordAll (maxDays : ℕ) (priced : Bool) : List Turn → SavingsLedger ℚ
  | [] => .new maxDays priced
  | turn :: turns =>
    (recordAll maxDays priced turns).recordAttributed turn.cost turn.date turn.virtualKey
      turn.workspace

/-- The turns under the keys of their days. -/
def dated (turns : List Turn) : List (UtcDate × Turn) := turns.map fun t => (t.date, t)

/-- The turns of a day. -/
def turnsOn (turns : List Turn) (key : String) : Multiset Turn :=
  named Turn.day key turns

/-- How a turn changes the bucket of its day. -/
def addTurn (turn : Turn) (bucket : Option (DayBucket ℚ)) : DayBucket ℚ :=
  (bucket.getD .empty).addAttributed turn.cost turn.virtualKey turn.workspace

section Recorded

variable (maxDays : ℕ) (priced : Bool) (turns : List Turn)

/-- The turns under the keys of their days, as the ledger has them. -/
def keyed : List (String × Turn) := (dated turns).map (Prod.map UtcDate.display id)

theorem maxDays_recordAll : (recordAll maxDays priced turns).maxDays = maxDays := by
  induction turns with
  | nil => rfl
  | cons turn turns ih => exact ih

theorem bounded_recordAll :
    Ordered.Bounded addTurn maxDays (keyed turns) (recordAll maxDays priced turns).days := by
  induction turns with
  | nil => exact Ordered.bounded_nil _ maxDays
  | cons turn turns ih =>
    show Ordered.Bounded _ _ _ (Ordered.record (recordAll maxDays priced turns).maxDays _ _ _)
    rw [maxDays_recordAll]
    exact ih.record turn.date.display turn

/-- What the turns of a day make of its bucket. -/
theorem isDay_folded (key : String) :
    IsDay (turnsOn turns key) ((Ordered.folded addTurn key (keyed turns)).getD .empty) := by
  induction turns with
  | nil => exact isDay_empty
  | cons turn turns ih =>
    show IsDay _ ((Ordered.folded addTurn key ((turn.date.display, turn) :: keyed turns)).getD _)
    rw [Ordered.folded]
    by_cases hkey : turn.date.display = key
    · have hturns : turnsOn (turn :: turns) key = turn ::ₘ turnsOn turns key :=
        named_cons_of_eq (congrArg some hkey) turns
      rw [if_pos hkey, hturns]
      exact ih.addAttributed turn
    · have hturns : turnsOn (turn :: turns) key = turnsOn turns key :=
        named_cons_of_ne (fun h => hkey (Option.some.inj h)) turns
      rw [if_neg hkey, hturns]
      exact ih

/-- The bucket of a retained day holds the sums over the turns of the day. -/
theorem isDay_of_lookup {key : String} {bucket : DayBucket ℚ}
    (h : Ordered.lookup key (recordAll maxDays priced turns).days = some bucket) :
    IsDay (turnsOn turns key) bucket := by
  have hday := isDay_folded turns key
  rw [(bounded_recordAll maxDays priced turns).values _ _ h] at hday
  exact hday

/-- The retained days are the latest ones. -/
theorem mem_days_iff (key : String) : key ∈ (recordAll maxDays priced turns).days.map Prod.fst ↔
    ∃ date, key = date.display ∧ Ordered.Retained maxDays (dated turns) date := by
  rw [(bounded_recordAll maxDays priced turns).mem_iff]
  constructor
  · intro h
    obtain ⟨e, he, rfl⟩ := List.mem_map.mp (List.mem_toFinset.mp h.1)
    obtain ⟨e, he', rfl⟩ := List.mem_map.mp he
    exact ⟨e.1, rfl, (Ordered.retained_map UtcDate.display_strictMono _ _ _).mp h⟩
  · rintro ⟨date, rfl, h⟩
    exact (Ordered.retained_map UtcDate.display_strictMono _ _ _).mpr h

/-! ### The queries -/

/-- The recorded turns on the retained days that meet a condition. -/
def kept (p : UtcDate → Prop) [DecidablePred p] : Multiset Turn :=
  (turns : Multiset Turn).filter fun t => Ordered.Retained maxDays (dated turns) t.date ∧ p t.date

/-- The turns of several days. -/
theorem sum_map_named {label : Turn → Option String} {s : Multiset Turn} {keys : List String}
    (hkeys : keys.Nodup) : (keys.map fun key => named label key s).sum =
      s.filter fun t => label t ∈ keys.map some := by
  induction keys with
  | nil => exact (Multiset.filter_eq_nil.mpr fun _ _ => List.not_mem_nil).symm
  | cons key keys ih =>
    obtain ⟨hnew, hrest⟩ := List.nodup_cons.mp hkeys
    have hdisjoint : s.filter (fun t => label t = some key ∧ label t ∈ keys.map some) = 0 := by
      rw [Multiset.filter_eq_nil]
      rintro t - ⟨hkey, hmem⟩
      rw [hkey, List.mem_map_of_injective (Option.some_injective _)] at hmem
      exact hnew hmem
    rw [List.map_cons, List.sum_cons, ih hrest, named, Multiset.filter_add_filter, hdisjoint,
      add_zero]
    exact Multiset.filter_congr fun t _ => List.mem_cons.symm

/-- The turns of the retained days whose key meets a condition. -/
theorem sum_turnsOn {p : UtcDate → Prop} [DecidablePred p] {q : String → Bool}
    (hq : ∀ date : UtcDate, q date.display = true ↔ p date) :
    (((recordAll maxDays priced turns).days.filter fun e => q e.1).map fun e =>
      turnsOn turns e.1).sum = kept maxDays turns p := by
  have hnodup : (((recordAll maxDays priced turns).days.filter fun e => q e.1).map
      Prod.fst).Nodup :=
    List.Nodup.sublist (List.filter_sublist.map Prod.fst)
      ((bounded_recordAll maxDays priced turns).sorted.imp ne_of_lt)
  have hmap : ((recordAll maxDays priced turns).days.filter fun e => q e.1).map (fun e =>
      turnsOn turns e.1) = (((recordAll maxDays priced turns).days.filter fun e => q e.1).map
        Prod.fst).map fun key => named Turn.day key turns := by
    rw [List.map_map]
    rfl
  rw [hmap, sum_map_named hnodup]
  refine Multiset.filter_congr fun t _ => ?_
  have hmem : t.date.display ∈ ((recordAll maxDays priced turns).days.filter fun e =>
      q e.1).map Prod.fst ↔ t.date.display ∈ (recordAll maxDays priced turns).days.map Prod.fst ∧
        q t.date.display = true := by
    simp only [List.mem_map, List.mem_filter]
    constructor
    · rintro ⟨e, ⟨he, hqe⟩, heq⟩
      exact ⟨⟨e, he, heq⟩, heq ▸ hqe⟩
    · rintro ⟨⟨e, he, heq⟩, hqe⟩
      exact ⟨e, ⟨he, heq ▸ hqe⟩, heq⟩
  rw [Turn.day, List.mem_map_of_injective (Option.some_injective _), hmem, hq, mem_days_iff]
  constructor
  · rintro ⟨⟨date, heq, hretained⟩, hp⟩
    rw [UtcDate.display_injective heq]
    exact ⟨hretained, UtcDate.display_injective heq ▸ hp⟩
  · rintro ⟨hretained, hp⟩
    exact ⟨⟨t.date, rfl, hretained⟩, hp⟩

theorem kept_le (p : UtcDate → Prop) [DecidablePred p] : kept maxDays turns p ≤ turns :=
  Multiset.filter_le _ _

end Recorded

/-- The date is in the period of the given number of days that ends today. -/
def InPeriod (periodDays : Option ℕ) (today date : UtcDate) : Prop :=
  match periodDays with
  | none => True
  | some days => (today.dayNumber : ℤ) - ((days : ℤ) - 1) ≤ date.dayNumber

instance (periodDays : Option ℕ) (today : UtcDate) : DecidablePred (InPeriod periodDays today) :=
  fun _ =>
    match periodDays with
    | none => inferInstanceAs (Decidable True)
    | some _ => inferInstanceAs (Decidable (_ ≤ _))

theorem included_display (periodDays : Option ℕ) (today date : UtcDate) :
    SavingsLedger.included (SavingsLedger.cutoff periodDays today) date.display = true ↔
      InPeriod periodDays today date := by
  cases periodDays with
  | none => exact ⟨fun _ => trivial, fun _ => rfl⟩
  | some days =>
    have hincluded : SavingsLedger.included (SavingsLedger.cutoff (some days) today)
        date.display = decide (today.ordinal - ((days : ℤ) - 1) ≤ date.ordinal) := by
      have hcutoff : SavingsLedger.cutoff (some days) today =
          some (today.ordinal - ((days : ℤ) - 1)) := rfl
      rw [hcutoff]
      simp only [SavingsLedger.included, UtcDate.parse_display]
    rw [hincluded, decide_eq_true_eq, UtcDate.ordinal_eq, UtcDate.ordinal_eq, InPeriod]
    omega

/-- The line of a report for the given turns. -/
def lineOf (s : Multiset Turn) : SavingsBreakdown ℚ :=
  ⟨(sums s).n, (sums s).realized, (sums s).baseline, (sums s).savings, (sums s).tokens⟩

/-- The line of a report is that of the turns, while the counters fit. -/
def IsLine (s : Multiset Turn) (line : SavingsBreakdown ℚ) : Prop := Fits s → line = lineOf s

theorem ofStats_sums (s : Multiset Turn) : SavingsBreakdown.ofStats (sums s) = lineOf s := by
  have hrealized : Amount.pythonRound (sums s).realized 6 = (sums s).realized :=
    (exact_realized s).pythonRound
  have hbaseline : Amount.pythonRound (sums s).baseline 6 = (sums s).baseline :=
    (exact_baseline s).pythonRound
  have hsavings : Amount.pythonRound (sums s).savings 6 = (sums s).savings :=
    (exact_savings s).pythonRound
  rw [SavingsBreakdown.ofStats, hrealized, hbaseline, hsavings, lineOf]

theorem IsStats.isLine (s : Multiset Turn) (stats : LedgerStats ℚ) (h : IsStats s stats) :
    IsLine s (.ofStats stats) := by
  intro fits
  rw [h fits, ofStats_sums]

/-- The report is about the given turns. -/
structure Reports (s : Multiset Turn) (report : SavingsReport ℚ) : Prop where
  total : IsLine s ⟨report.requests, report.realized, report.baseline, report.saved,
    report.tokens⟩
  estimated : IsEstimated s report.estimatedRequests
  byRoute : Tabulates Turn.route IsLine s report.byRoute

theorem reports_report {s : Multiset Turn} {stats : LedgerStats ℚ} {estimatedN : ℕ}
    {byRoute : List (String × LedgerStats ℚ)} (hstats : IsStats s stats)
    (hestimated : IsEstimated s estimatedN) (hroute : Tabulates Turn.route IsStats s byRoute)
    (periodDays : Option ℕ) (priced : Bool) (byKey : List (String × LedgerStats ℚ)) :
    Reports s (SavingsLedger.report periodDays priced stats estimatedN byRoute byKey) :=
  ⟨hstats.isLine, hestimated, hroute.map _ IsStats.isLine⟩

/-- Merged buckets hold the sums over the turns of all. -/
theorem isDay_foldl {entries : List (String × DayBucket ℚ)} {g : String → Multiset Turn}
    (hentries : ∀ e ∈ entries, IsDay (g e.1) e.2) {s : Multiset Turn} {bucket : DayBucket ℚ}
    (h : IsDay s bucket) : IsDay (s + (entries.map fun e => g e.1).sum)
      (entries.foldl (fun bucket e => bucket.addBucket e.2) bucket) := by
  induction entries generalizing s bucket with
  | nil =>
    rw [List.map_nil, List.sum_nil, add_zero]
    exact h
  | cons e entries ih =>
    obtain ⟨hfirst, hrest⟩ := List.forall_mem_cons.mp hentries
    rw [List.map_cons, List.sum_cons, ← add_assoc]
    exact ih hrest (h.addBucket hfirst)

theorem isWorkspace_foldl {entries : List (String × WorkspaceBucket ℚ)}
    {g : String → Multiset Turn} (hentries : ∀ e ∈ entries, IsWorkspace (g e.1) e.2)
    {s : Multiset Turn} {bucket : WorkspaceBucket ℚ} (h : IsWorkspace s bucket) :
    IsWorkspace (s + (entries.map fun e => g e.1).sum)
      (entries.foldl (fun bucket e => bucket.addBucket e.2) bucket) := by
  induction entries generalizing s bucket with
  | nil =>
    rw [List.map_nil, List.sum_nil, add_zero]
    exact h
  | cons e entries ih =>
    obtain ⟨hfirst, hrest⟩ := List.forall_mem_cons.mp hentries
    rw [List.map_cons, List.sum_cons, ← add_assoc]
    exact ih hrest (h.addBucket _ _ _ _ hfirst)

section Queries

variable (maxDays : ℕ) (priced : Bool) (turns : List Turn)

theorem isDay_of_mem {e : String × DayBucket ℚ}
    (he : e ∈ (recordAll maxDays priced turns).days) : IsDay (turnsOn turns e.1) e.2 :=
  isDay_of_lookup maxDays priced turns
    ((bounded_recordAll maxDays priced turns).sorted.lookup_of_mem he)

/-- The merged days of a period hold the sums over the turns of the period. -/
theorem isDay_aggregate (periodDays : Option ℕ) (today : UtcDate) :
    IsDay (kept maxDays turns (InPeriod periodDays today))
      ((recordAll maxDays priced turns).aggregate periodDays today) := by
  have hall : ∀ e ∈ (recordAll maxDays priced turns).days.filter fun e =>
      SavingsLedger.included (SavingsLedger.cutoff periodDays today) e.1,
      IsDay (turnsOn turns e.1) e.2 := fun e he =>
    isDay_of_mem maxDays priced turns (List.mem_of_mem_filter he)
  have hdays := isDay_foldl hall isDay_empty
  rw [zero_add, sum_turnsOn maxDays priced turns (included_display periodDays today)] at hdays
  exact hdays

theorem named_add (label : Turn → Option String) (name : String) (s s' : Multiset Turn) :
    named label name (s + s') = named label name s + named label name s' :=
  Multiset.filter_add _ _ _

theorem named_sum {α : Type} (label : Turn → Option String) (name : String) (l : List α)
    (g : α → Multiset Turn) :
    (l.map fun a => named label name (g a)).sum = named label name (l.map g).sum := by
  induction l with
  | nil => rfl
  | cons a l ih =>
    rw [List.map_cons, List.sum_cons, ih, List.map_cons, List.sum_cons, named_add]

/-- The buckets of a workspace on the days of a period hold the turns of the workspace. -/
theorem observed_spec (workspace : String) (periodDays : Option ℕ) (today : UtcDate) :
    (∀ e ∈ (recordAll maxDays priced turns).observed workspace periodDays today,
      IsWorkspace (named Turn.workspace workspace (turnsOn turns e.1)) e.2) ∧
    (((recordAll maxDays priced turns).observed workspace periodDays today).map fun e =>
        named Turn.workspace workspace (turnsOn turns e.1)).sum =
      named Turn.workspace workspace (kept maxDays turns (InPeriod periodDays today)) := by
  have hdays : ∀ e ∈ (recordAll maxDays priced turns).days.filter fun e =>
      SavingsLedger.included (SavingsLedger.cutoff periodDays today) e.1,
      IsDay (turnsOn turns e.1) e.2 := fun e he =>
    isDay_of_mem maxDays priced turns (List.mem_of_mem_filter he)
  rw [← sum_turnsOn maxDays priced turns (included_display periodDays today), ← named_sum]
  unfold SavingsLedger.observed
  generalize (recordAll maxDays priced turns).days.filter (fun e =>
    SavingsLedger.included (SavingsLedger.cutoff periodDays today) e.1) = days at hdays ⊢
  induction days with
  | nil => exact ⟨fun e he => absurd he List.not_mem_nil, rfl⟩
  | cons e days ih =>
    obtain ⟨hfirst, hrest⟩ := List.forall_mem_cons.mp hdays
    obtain ⟨hall, hsum⟩ := ih hrest
    cases hlookup : Ordered.lookup workspace e.2.byWorkspace with
    | none =>
      have hzero := (hfirst.byWorkspace.absent workspace).mp hlookup
      rw [List.filterMap_cons_none (by rw [hlookup]; rfl), List.map_cons, List.sum_cons, hzero,
        zero_add]
      exact ⟨hall, hsum⟩
    | some bucket =>
      have hbucket := hfirst.byWorkspace.value workspace bucket hlookup
      have hne : named Turn.workspace workspace (turnsOn turns e.1) ≠ 0 := by
        rw [Ne, ← hfirst.byWorkspace.absent workspace, hlookup]
        exact Option.some_ne_none bucket
      have hn : bucket.n ≠ 0 := fun hzero => hne (hbucket.counted.mp hzero)
      rw [List.filterMap_cons_some (b := (e.1, bucket)) (by rw [hlookup]; simp [hn]),
        List.map_cons, List.sum_cons, List.map_cons, List.sum_cons, hsum]
      exact ⟨List.forall_mem_cons.mpr ⟨hbucket, hall⟩, rfl⟩

/-- The turns of a key, or all turns. -/
def attributed (virtualKey : Option String) (s : Multiset Turn) : Multiset Turn :=
  match virtualKey with
  | none => s
  | some key => named Turn.virtualKey key s

theorem attributed_le (virtualKey : Option String) (s : Multiset Turn) :
    attributed virtualKey s ≤ s := by
  cases virtualKey with
  | none => exact le_rfl
  | some key => exact Multiset.filter_le _ _

theorem attributed_sum {α : Type} (virtualKey : Option String) (l : List α)
    (g : α → Multiset Turn) :
    (l.map fun a => attributed virtualKey (g a)).sum = attributed virtualKey (l.map g).sum := by
  cases virtualKey with
  | none => rfl
  | some key => exact named_sum _ _ l g

/-- The realized cost that the ledger reads from the bucket of a day. -/
theorem realized_eq {s : Multiset Turn} {bucket : DayBucket ℚ} (h : IsDay s bucket)
    (fits : Fits s) (virtualKey : Option String) :
    SavingsLedger.realized virtualKey bucket = (sums (attributed virtualKey s)).realized := by
  cases virtualKey with
  | none => exact congrArg LedgerStats.realized (h.stats fits)
  | some key =>
    show ((Ordered.lookup key bucket.byKey).map LedgerStats.realized).getD 0 = _
    cases hlookup : Ordered.lookup key bucket.byKey with
    | none =>
      have hzero := (h.byKey.absent key).mp hlookup
      show (0 : ℚ) = (sums (named Turn.virtualKey key s)).realized
      rw [hzero]
      rfl
    | some stats =>
      have hstats := h.byKey.value key stats hlookup
      exact congrArg LedgerStats.realized (hstats (fits.mono (Multiset.filter_le _ _)))

theorem sum_eq_sum (amounts : List ℚ) : SavingsLedger.sum amounts = amounts.sum :=
  (List.sum_eq_foldl).symm

theorem realized_sum (l : List (Multiset Turn)) :
    (l.map fun s => (sums s).realized).sum = (sums l.sum).realized := by
  induction l with
  | nil => rfl
  | cons s l ih =>
    rw [List.map_cons, List.sum_cons, ih, List.sum_cons]
    simp only [sums, Multiset.map_add, Multiset.sum_add]

/-- The sum over the retained days whose key meets a condition. -/
theorem sum_realized (fits : Fits turns) {p : UtcDate → Prop} [DecidablePred p] {q : String → Bool}
    (hq : ∀ date : UtcDate, q date.display = true ↔ p date) (virtualKey : Option String) :
    (((recordAll maxDays priced turns).days.filter fun e => q e.1).map fun e =>
      SavingsLedger.realized virtualKey e.2).sum =
        (sums (attributed virtualKey (kept maxDays turns p))).realized := by
  rw [← sum_turnsOn maxDays priced turns hq, ← attributed_sum, ← realized_sum, List.map_map]
  refine congrArg List.sum (List.map_congr_left fun e he => ?_)
  have hday := isDay_of_mem maxDays priced turns (List.mem_of_mem_filter he)
  exact realized_eq hday (fits.mono (Multiset.filter_le _ _)) virtualKey

/-- The window of a `spent` query. -/
def windowOf : String → Pricing.BudgetWindow
  | "day" => .day
  | "month" => .month
  | _ => .all

theorem windowOf_eq_all {window : String} (hday : window ≠ "day") (hmonth : window ≠ "month") :
    windowOf window = .all := by
  unfold windowOf
  split
  · exact absurd rfl hday
  · exact absurd rfl hmonth
  · rfl

/-- `spent` reads the realized cost of the turns in the window. -/
theorem spent_eq (fits : Fits turns) (window : String) (virtualKey : Option String)
    (today : UtcDate) : (recordAll maxDays priced turns).spent window virtualKey today =
      (sums (attributed virtualKey
        (kept maxDays turns ((windowOf window).Covers today)))).realized := by
  have hround : ∀ p : UtcDate → Prop, ∀ _ : DecidablePred p, Amount.pythonRound
      (sums (attributed virtualKey (kept maxDays turns p))).realized 6 =
        (sums (attributed virtualKey (kept maxDays turns p))).realized := fun p _ =>
    (exact_realized _).pythonRound
  unfold SavingsLedger.spent
  split
  · have hday : ∀ date : UtcDate, decide (date.display = today.display) = true ↔
        Pricing.BudgetWindow.day.Covers today date := fun date => by
      rw [decide_eq_true_eq]
      exact UtcDate.display_injective.eq_iff
    have hsum := sum_realized maxDays priced turns fits
      (q := fun key => decide (key = today.display)) hday virtualKey
    rw [(bounded_recordAll maxDays priced turns).sorted.lookup_getD_eq_sum, hsum]
    exact hround _ _
  · have hmonth : ∀ date : UtcDate,
        today.monthPrefix.toList.isPrefixOf date.display.toList = true ↔
          Pricing.BudgetWindow.month.Covers today date := fun date => by
      rw [List.isPrefixOf_iff_prefix]
      exact UtcDate.monthPrefix_isPrefix_iff date today
    have hsum := sum_realized maxDays priced turns fits
      (q := fun key => today.monthPrefix.toList.isPrefixOf key.toList) hmonth virtualKey
    rw [sum_eq_sum, hsum]
    exact hround _ _
  · next hday hmonth =>
    have hsum := sum_realized maxDays priced turns fits (q := fun _ => true)
      (p := Pricing.BudgetWindow.all.Covers today) (fun _ => ⟨fun _ => trivial, fun _ => rfl⟩)
      virtualKey
    rw [List.filter_true] at hsum
    rw [sum_eq_sum, hsum, windowOf_eq_all hday hmonth]
    exact hround _ _

/-- The entries of a table of sums, summed. -/
def tableSum (m : List (String × LedgerStats ℚ)) : LedgerStats ℚ where
  n := (m.map fun e => e.2.n).sum
  realized := (m.map fun e => e.2.realized).sum
  baseline := (m.map fun e => e.2.baseline).sum
  savings := (m.map fun e => e.2.savings).sum
  tokens := (m.map fun e => e.2.tokens).sum

/-- Every turn has a route, so the routes of a bucket sum up to its totals. -/
theorem tableSum_byRoute {s : Multiset Turn} {m : List (String × LedgerStats ℚ)}
    (h : Tabulates Turn.route IsStats s m) (fits : Fits s) : tableSum m = sums s := by
  have hroute : ∀ t ∈ s, (Turn.route t).isSome := fun _ _ => rfl
  have hstats : ∀ s' ≤ s, ∀ stats, IsStats s' stats → stats = sums s' :=
    fun s' hle stats hs => hs (fits.mono hle)
  have hones : ∀ s : Multiset Turn, (s.map fun _ => 1).sum = s.card := by simp
  have hn : (m.map fun e => e.2.n).sum = s.card := by
    rw [h.sum_eq (fun _ => 1) LedgerStats.n ?_ hroute, hones]
    intro s' hle stats hs
    rw [hstats s' hle stats hs, hones]
    rfl
  have hrealized := h.sum_eq (fun t => t.cost.realized) LedgerStats.realized
    (fun s' hle stats hs => congrArg LedgerStats.realized (hstats s' hle stats hs)) hroute
  have hbaseline := h.sum_eq (fun t => t.cost.baseline) LedgerStats.baseline
    (fun s' hle stats hs => congrArg LedgerStats.baseline (hstats s' hle stats hs)) hroute
  have hsavings := h.sum_eq (fun t => t.cost.savings) LedgerStats.savings
    (fun s' hle stats hs => congrArg LedgerStats.savings (hstats s' hle stats hs)) hroute
  have htokens := h.sum_eq Turn.tokens LedgerStats.tokens
    (fun s' hle stats hs => congrArg LedgerStats.tokens (hstats s' hle stats hs)) hroute
  rw [tableSum, sums, hn, hrealized, hbaseline, hsavings, htokens]

/-- What the ledger and its queries say about the recorded turns. -/
structure Accounts (ledger : SavingsLedger ℚ) : Prop where
  /-- The retained days are the latest ones, in the order of the dates. -/
  days : Ordered.Sorted ledger.days ∧ ∀ key, key ∈ ledger.days.map Prod.fst ↔
    ∃ date, key = date.display ∧ Ordered.Retained maxDays (dated turns) date
  /-- The bucket of a day sums up the turns of the day. -/
  buckets : ∀ date : UtcDate, ∀ bucket, Ordered.lookup date.display ledger.days = some bucket →
    IsDay (named Turn.day date.display turns) bucket ∧
      (Fits (named Turn.day date.display turns) →
        bucket.toLedgerStats = tableSum bucket.byRoute)
  period : ∀ periodDays today,
    Reports (kept maxDays turns (InPeriod periodDays today)) (ledger.period periodDays today) ∧
      Tabulates Turn.virtualKey IsLine (kept maxDays turns (InPeriod periodDays today))
        (ledger.period periodDays today).byKey
  periodForWorkspace : ∀ workspace periodDays today,
    Reports (named Turn.workspace workspace (kept maxDays turns (InPeriod periodDays today)))
      (ledger.periodForWorkspace workspace periodDays today).report
  spent : Fits turns → ∀ window virtualKey today, ledger.spent window virtualKey today =
    (sums (attributed virtualKey (kept maxDays turns ((windowOf window).Covers today)))).realized

/-- **Ledger accounting**: every sum that the ledger keeps or reports is the sum over the recorded
turns it stands for. -/
theorem recordAll_accounts : Accounts maxDays turns (recordAll maxDays priced turns) := by
  have hbounded := bounded_recordAll maxDays priced turns
  refine ⟨⟨hbounded.sorted, mem_days_iff maxDays priced turns⟩, ?_, ?_, ?_,
    spent_eq maxDays priced turns⟩
  · intro date bucket hlookup
    have hday := isDay_of_lookup maxDays priced turns hlookup
    refine ⟨hday, fun fits => ?_⟩
    rw [hday.stats fits, tableSum_byRoute hday.byRoute fits]
  · intro periodDays today
    have hday := isDay_aggregate maxDays priced turns periodDays today
    exact ⟨reports_report hday.stats hday.estimatedN hday.byRoute periodDays _ _,
      hday.byKey.map _ IsStats.isLine⟩
  · intro workspace periodDays today
    obtain ⟨hentries, hsum⟩ := observed_spec maxDays priced turns workspace periodDays today
    have hworkspace := isWorkspace_foldl (g := fun key =>
      named Turn.workspace workspace (turnsOn turns key)) hentries isWorkspace_empty
    rw [zero_add, hsum] at hworkspace
    exact reports_report hworkspace.stats hworkspace.estimatedN hworkspace.byRoute periodDays _ _

/-- The turns as budgets see them. -/
def costs : List (UtcDate × Pricing.Turn) :=
  turns.map fun t => (t.date, ⟨t.cost.realized, t.exact.realized, t.virtualKey, t.workspace⟩)

theorem recorded_costs : Ordered.recorded (costs turns) = Ordered.recorded (dated turns) := by
  rw [Ordered.recorded, Ordered.recorded, costs, dated, List.map_map, List.map_map]
  rfl

theorem total_costs (p : UtcDate × Pricing.Turn → Prop) [DecidablePred p] {q : Turn → Prop}
    [DecidablePred q] (h : ∀ t : Turn,
      p (t.date, ⟨t.cost.realized, t.exact.realized, t.virtualKey, t.workspace⟩) ↔ q t) :
    Pricing.total p (costs turns) = (sums ((turns : Multiset Turn).filter q)).realized := by
  rw [Pricing.total, costs, List.filter_map, List.map_map]
  have hfilter : turns.filter ((fun e => decide (p e)) ∘ fun t : Turn => (t.date,
      ⟨t.cost.realized, t.exact.realized, t.virtualKey, t.workspace⟩)) = turns.filter q :=
    List.filter_congr fun t _ => decide_eq_decide.mpr (h t)
  rw [hfilter, sums, Multiset.filter_coe, Multiset.map_coe, Multiset.sum_coe]
  rfl

/-- What budgets read from the ledger is what they read from its costs alone. -/
theorem spent_eq_costs (fits : Fits turns) (window : String) (virtualKey : Option String)
    (today : UtcDate) : (recordAll maxDays priced turns).spent window virtualKey today =
      (Pricing.SavingsLedger.recordAll maxDays (costs turns)).spent (windowOf window) virtualKey
        today := by
  rw [spent_eq maxDays priced turns fits, Pricing.SavingsLedger.spent_eq_total]
  have hretained : ∀ date, Ordered.Retained maxDays (costs turns) date ↔
      Ordered.Retained maxDays (dated turns) date := by
    intro date
    rw [Ordered.Retained, Ordered.Retained, recorded_costs]
  cases virtualKey with
  | none =>
    rw [total_costs turns _ (q := fun t => Ordered.Retained maxDays (dated turns) t.date ∧
      (windowOf window).Covers today t.date)]
    · rfl
    · intro t
      rw [hretained]
      exact ⟨fun h => ⟨h.2.1, h.1⟩, fun h => ⟨h.2, h.1, .inl rfl⟩⟩
  | some key =>
    rw [total_costs turns _ (q := fun t => t.virtualKey = some key ∧
      Ordered.Retained maxDays (dated turns) t.date ∧ (windowOf window).Covers today t.date)]
    · rw [← Multiset.filter_filter]
      rfl
    · intro t
      rw [hretained]
      constructor
      · rintro ⟨hwindow, hday, hkey | hkey⟩
        · exact absurd hkey (Option.some_ne_none key)
        · exact ⟨hkey, hday, hwindow⟩
      · rintro ⟨hkey, hday, hwindow⟩
        exact ⟨hwindow, hday, .inr hkey⟩

end Queries

end WayfinderRouter.Ledger
