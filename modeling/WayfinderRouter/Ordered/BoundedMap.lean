import Mathlib.Algebra.BigOperators.Group.List.Basic
import Mathlib.Data.Finset.Card
import Mathlib.Data.Finset.Image
import Mathlib.Order.Basic

/-!
# Bounded ordered maps

A map with ordered keys that keeps a bounded number of entries: an update creates or changes
the entry of a key, and then the entries with the least keys are dropped. An entry that was
dropped never comes back, because all later maps are full of greater keys. So an entry of the
map has seen all updates of its key.

## Main definitions

- `upsert` — change or create the entry of a key
- `record` — an update of a bounded map
- `folded` — what all updates of a key make of it
- `Bounded` — the map after a sequence of updates
-/

namespace Ordered

variable {K V U : Type*} [LinearOrder K]

/-- Change the entry of a key, or create it in its place. -/
def upsert (k : K) (f : Option V → V) : List (K × V) → List (K × V)
  | [] => [(k, f none)]
  | (k', v) :: m =>
    if k < k' then (k, f none) :: (k', v) :: m
    else if k = k' then (k', f (some v)) :: m
    else (k', v) :: upsert k f m

/-- The value of a key. -/
def lookup (k : K) : List (K × V) → Option V
  | [] => none
  | (k', v) :: m => if k' = k then some v else lookup k m

/-- The map without the entry of a key. -/
def erase (k : K) (m : List (K × V)) : List (K × V) := m.filter fun e => e.1 ≠ k

/-- Change the entry of a key, then drop the least keys until `n` entries are left. -/
def record (n : ℕ) (k : K) (f : Option V → V) (m : List (K × V)) : List (K × V) :=
  (upsert k f m).drop ((upsert k f m).length - n)

/-- A map of the given entries, later ones instead of earlier ones. -/
def collect (entries : List (K × V)) : List (K × V) :=
  entries.foldl (fun m e => upsert e.1 (fun _ => e.2) m) []

/-- The keys ascend. -/
def Sorted (m : List (K × V)) : Prop := (m.map Prod.fst).Pairwise (· < ·)

variable {k k' : K} {f : Option V → V} {m : List (K × V)} {n : ℕ}

theorem mem_keys_upsert : k' ∈ (upsert k f m).map Prod.fst ↔ k' = k ∨ k' ∈ m.map Prod.fst := by
  induction m with
  | nil => simp [upsert]
  | cons e m ih =>
    obtain ⟨k₁, v⟩ := e
    rw [upsert]
    split_ifs with hlt heq
    · simp
    · subst heq
      simp
    · rw [List.map_cons, List.mem_cons, ih, List.map_cons, List.mem_cons]
      tauto

theorem Sorted.upsert (h : Sorted m) : Sorted (upsert k f m) := by
  induction m with
  | nil => simp [Ordered.upsert, Sorted]
  | cons e m ih =>
    obtain ⟨k₁, v⟩ := e
    obtain ⟨hfirst, hrest⟩ := List.pairwise_cons.mp h
    rw [Ordered.upsert]
    split_ifs with hlt heq
    · refine List.pairwise_cons.mpr ⟨?_, h⟩
      intro k₂ hk₂
      rcases List.mem_cons.mp hk₂ with rfl | hk₂
      · exact hlt
      · exact hlt.trans (hfirst k₂ hk₂)
    · exact h
    · refine List.pairwise_cons.mpr ⟨?_, ih hrest⟩
      intro k₂ hk₂
      rcases mem_keys_upsert.mp hk₂ with rfl | hk₂
      · exact lt_of_le_of_ne (not_lt.mp hlt) (Ne.symm heq)
      · exact hfirst k₂ hk₂

theorem lookup_eq_none_iff : lookup k m = none ↔ k ∉ m.map Prod.fst := by
  induction m with
  | nil => simp [lookup]
  | cons e m ih =>
    obtain ⟨k₁, v⟩ := e
    rw [lookup, List.map_cons, List.mem_cons, not_or]
    split_ifs with h
    · simp [h]
    · rw [ih]
      exact ⟨fun hk => ⟨Ne.symm h, hk⟩, fun hk => hk.2⟩

theorem mem_keys_of_lookup {v : V} (h : lookup k m = some v) : k ∈ m.map Prod.fst := by
  by_contra hk
  rw [lookup_eq_none_iff.mpr hk] at h
  exact absurd h (by simp)

theorem mem_of_lookup {v : V} (h : lookup k m = some v) : (k, v) ∈ m := by
  induction m with
  | nil => exact absurd h (Option.some_ne_none v).symm
  | cons e m ih =>
    rw [lookup] at h
    split_ifs at h with hk
    · rw [← hk, ← Option.some.inj h]
      exact List.mem_cons_self
    · exact List.mem_cons_of_mem _ (ih h)

theorem Sorted.lookup_of_mem (h : Sorted m) {v : V} (hmem : (k, v) ∈ m) :
    lookup k m = some v := by
  induction m with
  | nil => simp at hmem
  | cons e m ih =>
    obtain ⟨k₁, v₁⟩ := e
    obtain ⟨hfirst, hrest⟩ := List.pairwise_cons.mp h
    rw [lookup]
    rcases List.mem_cons.mp hmem with heq | hmem
    · obtain ⟨rfl, rfl⟩ := Prod.mk.inj heq
      rw [if_pos rfl]
    · have hlt := hfirst k (List.mem_map_of_mem hmem)
      rw [if_neg hlt.ne]
      exact ih hrest hmem

/-- The values of the changed map. -/
theorem lookup_upsert (h : Sorted m) :
    lookup k' (upsert k f m) = if k' = k then some (f (lookup k m)) else lookup k' m := by
  induction m with
  | nil =>
    by_cases hk : k' = k
    · simp [upsert, lookup, hk]
    · simp [upsert, lookup, hk, Ne.symm hk]
  | cons e m ih =>
    obtain ⟨k₁, v⟩ := e
    obtain ⟨hfirst, hrest⟩ := List.pairwise_cons.mp h
    by_cases hlt : k < k₁
    · have hnone : lookup k ((k₁, v) :: m) = none := by
        rw [lookup_eq_none_iff, List.map_cons, List.mem_cons, not_or]
        exact ⟨hlt.ne, fun hmem => lt_asymm hlt (hfirst k hmem)⟩
      rw [hnone, upsert, if_pos hlt, lookup]
      simp only [eq_comm]
    by_cases heq : k = k₁
    · subst heq
      rw [upsert, if_neg hlt, if_pos rfl, lookup, lookup, lookup]
      by_cases hk : k' = k
      · simp [hk]
      · simp [hk, Ne.symm hk]
    · rw [upsert, if_neg hlt, if_neg heq, lookup, lookup, lookup, ih hrest, if_neg (Ne.symm heq)]
      by_cases hk : k' = k
      · subst hk
        simp [Ne.symm heq]
      · simp [hk]

theorem lookup_map {W : Type*} (g : V → W) (m : List (K × V)) (k : K) :
    lookup k (m.map fun e => (e.1, g e.2)) = (lookup k m).map g := by
  induction m with
  | nil => rfl
  | cons e m ih =>
    obtain ⟨k₁, v⟩ := e
    rw [List.map_cons, lookup, lookup]
    split_ifs
    · rfl
    · exact ih

theorem Sorted.map {W : Type*} (h : Sorted m) (g : V → W) :
    Sorted (m.map fun e => (e.1, g e.2)) := by
  rw [Sorted, List.map_map]
  exact h

/-- The value of a key, as a sum over the entries of the key. -/
theorem Sorted.lookup_getD_eq_sum {M : Type*} [AddMonoid M] (h : Sorted m) (g : V → M) (k : K) :
    ((lookup k m).map g).getD 0 = ((m.filter fun e => e.1 = k).map fun e => g e.2).sum := by
  induction m with
  | nil => rfl
  | cons e m ih =>
    obtain ⟨k₁, v⟩ := e
    obtain ⟨hfirst, hrest⟩ := List.pairwise_cons.mp h
    rw [lookup]
    by_cases hk : k₁ = k
    · have hnone : m.filter (fun e => e.1 = k) = [] := by
        rw [List.filter_eq_nil_iff]
        intro e he
        have hlt := hfirst e.1 (List.mem_map_of_mem he)
        simpa using (hk ▸ hlt).ne'
      rw [if_pos hk, List.filter_cons_of_pos (by simpa using hk), hnone]
      simp
    · rw [if_neg hk, ih hrest, List.filter_cons_of_neg (by simpa using hk)]

/-- Entries changed one after the other, for keys that are all different. -/
theorem lookup_foldl_upsert {W : Type*} (F : W → Option V → V) (entries : List (K × W))
    (hentries : (entries.map Prod.fst).Nodup) (h : Sorted m) :
    Sorted (entries.foldl (fun m e => Ordered.upsert e.1 (F e.2) m) m) ∧
      ∀ k, lookup k (entries.foldl (fun m e => Ordered.upsert e.1 (F e.2) m) m) =
        (lookup k entries).elim (lookup k m) fun w => some (F w (lookup k m)) := by
  induction entries generalizing m with
  | nil => exact ⟨h, fun k => rfl⟩
  | cons e entries ih =>
    obtain ⟨k₁, w⟩ := e
    obtain ⟨hnew, hrest⟩ := List.nodup_cons.mp hentries
    obtain ⟨hsorted, hlookup⟩ := ih hrest (h.upsert (k := k₁) (f := F w))
    refine ⟨hsorted, fun k => ?_⟩
    rw [List.foldl_cons, hlookup, lookup_upsert h, lookup]
    by_cases hk : k₁ = k
    · subst hk
      rw [if_pos rfl, if_pos rfl, lookup_eq_none_iff.mpr hnew]
      rfl
    · rw [if_neg (Ne.symm hk), if_neg hk]

/-- A changed map has the old entries, except for that of the key. -/
theorem mem_upsert {e : K × V} (he : e ∈ upsert k f m) :
    e ∈ m ∨ e = (k, f none) ∨ ∃ v, (k, v) ∈ m ∧ e = (k, f (some v)) := by
  induction m with
  | nil => exact .inr (.inl (List.mem_singleton.mp he))
  | cons e₁ m ih =>
    obtain ⟨k₁, v₁⟩ := e₁
    rw [upsert] at he
    split_ifs at he with hlt heq
    · rcases List.mem_cons.mp he with rfl | he
      · exact .inr (.inl rfl)
      · exact .inl he
    · subst heq
      rcases List.mem_cons.mp he with rfl | he
      · exact .inr (.inr ⟨v₁, List.mem_cons_self, rfl⟩)
      · exact .inl (List.mem_cons_of_mem _ he)
    · rcases List.mem_cons.mp he with rfl | he
      · exact .inl List.mem_cons_self
      · rcases ih he with hold | hnew | ⟨v, hv, hchanged⟩
        · exact .inl (List.mem_cons_of_mem _ hold)
        · exact .inr (.inl hnew)
        · exact .inr (.inr ⟨v, List.mem_cons_of_mem _ hv, hchanged⟩)

/-- A key greater than all others comes last. -/
theorem upsert_of_lt (h : ∀ k' ∈ m.map Prod.fst, k' < k) : upsert k f m = m ++ [(k, f none)] := by
  induction m with
  | nil => rfl
  | cons e m ih =>
    obtain ⟨k₁, v⟩ := e
    have hlt := h k₁ List.mem_cons_self
    rw [upsert, if_neg (lt_asymm hlt), if_neg hlt.ne', ih fun k' hk' =>
      h k' (List.mem_cons_of_mem _ hk'), List.cons_append]

/-- The map of the entries of a map is that map. -/
theorem Sorted.collect_eq (h : Sorted m) : collect m = m := by
  have hfold : ∀ l : List (K × V), Sorted (l ++ m) →
      m.foldl (fun m e => Ordered.upsert e.1 (fun _ => e.2) m) l = l ++ m := by
    clear h
    induction m with
    | nil => exact fun l _ => (List.append_nil l).symm
    | cons e m ih =>
      intro l hl
      have hnext : l ++ e :: m = (l ++ [e]) ++ m := by simp
      have hless : ∀ k' ∈ l.map Prod.fst, k' < e.1 := by
        intro k' hk'
        rw [Sorted, List.map_append] at hl
        exact (List.pairwise_append.mp hl).2.2 k' hk' e.1 List.mem_cons_self
      rw [List.foldl_cons, upsert_of_lt hless, ih (l ++ [e]) (hnext ▸ hl), hnext]
  exact hfold [] h

theorem sorted_collect (entries : List (K × V)) : Sorted (collect entries) := by
  have hfold : ∀ l : List (K × V), Sorted l →
      Sorted (entries.foldl (fun m e => Ordered.upsert e.1 (fun _ => e.2) m) l) := by
    induction entries with
    | nil => exact fun l hl => hl
    | cons e entries ih => exact fun l hl => ih _ hl.upsert
  exact hfold [] List.Pairwise.nil

theorem mem_keys_collect (entries : List (K × V)) :
    k ∈ (collect entries).map Prod.fst ↔ k ∈ entries.map Prod.fst := by
  have hfold : ∀ l : List (K × V),
      k ∈ (entries.foldl (fun m e => Ordered.upsert e.1 (fun _ => e.2) m) l).map Prod.fst ↔
        k ∈ l.map Prod.fst ∨ k ∈ entries.map Prod.fst := by
    induction entries with
    | nil => simp
    | cons e entries ih =>
      intro l
      rw [List.foldl_cons, ih, mem_keys_upsert, List.map_cons, List.mem_cons]
      tauto
  exact (hfold []).trans (by simp)

theorem Sorted.erase (h : Sorted m) (k : K) : Sorted (erase k m) :=
  List.Pairwise.sublist (List.filter_sublist.map Prod.fst) h

theorem mem_keys_erase : k' ∈ (erase k m).map Prod.fst ↔ k' ≠ k ∧ k' ∈ m.map Prod.fst := by
  simp only [erase, List.mem_map, List.mem_filter, decide_eq_true_eq]
  constructor
  · rintro ⟨e, ⟨he, hne⟩, rfl⟩
    exact ⟨hne, e, he, rfl⟩
  · rintro ⟨hne, e, he, rfl⟩
    exact ⟨e, ⟨he, hne⟩, rfl⟩

theorem lookup_erase_of_ne (hne : k' ≠ k) : lookup k' (erase k m) = lookup k' m := by
  induction m with
  | nil => rfl
  | cons e m ih =>
    obtain ⟨k₁, v⟩ := e
    by_cases hk : k₁ = k
    · rw [erase, List.filter_cons_of_neg (by simpa using hk), lookup, if_neg (hk ▸ hne.symm)]
      exact ih
    · rw [erase, List.filter_cons_of_pos (by simpa using hk), lookup, lookup]
      split_ifs with h
      · rfl
      · exact ih

theorem length_upsert_of_mem (h : Sorted m) (hk : k ∈ m.map Prod.fst) :
    (upsert k f m).length = m.length := by
  induction m with
  | nil => simp at hk
  | cons e m ih =>
    obtain ⟨k₁, v⟩ := e
    obtain ⟨hfirst, hrest⟩ := List.pairwise_cons.mp h
    rw [List.map_cons, List.mem_cons] at hk
    rcases hk with rfl | hk
    · simp [upsert]
    · have hlt := hfirst k hk
      rw [upsert, if_neg (lt_asymm hlt), if_neg hlt.ne', List.length_cons, List.length_cons,
        ih hrest hk]

theorem length_upsert_of_not_mem (hk : k ∉ m.map Prod.fst) :
    (upsert k f m).length = m.length + 1 := by
  induction m with
  | nil => rfl
  | cons e m ih =>
    obtain ⟨k₁, v⟩ := e
    rw [List.map_cons, List.mem_cons, not_or] at hk
    rw [upsert]
    split_ifs with hlt heq
    · rfl
    · exact absurd heq hk.1
    · rw [List.length_cons, ih hk.2, List.length_cons]

/-- What the updates of a key make of it, newest update first. -/
def folded (step : U → Option V → V) (k : K) : List (K × U) → Option V
  | [] => none
  | (k', u) :: h => if k' = k then some (step u (folded step k h)) else folded step k h

/-- A map of at most `n` entries after the given updates, newest first. -/
structure Bounded (step : U → Option V → V) (n : ℕ) (h : List (K × U)) (m : List (K × V)) :
    Prop where
  sorted : Sorted m
  size : m.length ≤ n
  values : ∀ k v, lookup k m = some v → folded step k h = some v
  dropped : ∀ k, folded step k h ≠ none → lookup k m = none →
    m.length = n ∧ ∀ k' ∈ m.map Prod.fst, k < k'

theorem bounded_nil (step : U → Option V → V) (n : ℕ) :
    Bounded step n ([] : List (K × U)) [] where
  sorted := by simp [Sorted]
  size := Nat.zero_le n
  values := by simp [lookup]
  dropped := by simp [folded]

variable {step : U → Option V → V} {h : List (K × U)} {u : U}

/-- An update that finds room. -/
theorem Bounded.grow (b : Bounded step n h m) (hroom : (upsert k (step u) m).length ≤ n) :
    Bounded step n ((k, u) :: h) (upsert k (step u) m) := by
  have hknown : lookup k m = folded step k h := by
    cases hv : lookup k m with
    | some v => exact (b.values k v hv).symm
    | none =>
      by_contra hne
      have hfull := (b.dropped k (Ne.symm hne) hv).1
      rw [length_upsert_of_not_mem (lookup_eq_none_iff.mp hv)] at hroom
      omega
  refine ⟨b.sorted.upsert, hroom, ?_, ?_⟩
  · intro k' v hv
    rw [lookup_upsert b.sorted] at hv
    rw [folded]
    by_cases hk : k' = k
    · subst hk
      rw [if_pos rfl] at hv ⊢
      rw [← hknown]
      exact hv
    · rw [if_neg hk] at hv
      rw [if_neg (Ne.symm hk)]
      exact b.values k' v hv
  · intro k' hrecorded hnone
    have hnot := lookup_eq_none_iff.mp hnone
    rw [mem_keys_upsert, not_or] at hnot
    rw [folded, if_neg (Ne.symm hnot.1)] at hrecorded
    obtain ⟨hfull, hless⟩ := b.dropped k' hrecorded (lookup_eq_none_iff.mpr hnot.2)
    have hmem : k ∈ m.map Prod.fst := by
      by_contra hk
      rw [length_upsert_of_not_mem hk] at hroom
      omega
    refine ⟨(length_upsert_of_mem b.sorted hmem).trans hfull, ?_⟩
    intro k₁ hk₁
    rcases mem_keys_upsert.mp hk₁ with rfl | hk₁
    · exact hless _ hmem
    · exact hless k₁ hk₁

/-- An update that drops the least key. -/
theorem Bounded.shift (b : Bounded step n h m) {e : K × V} {rest : List (K × V)}
    (hcons : upsert k (step u) m = e :: rest) (hlen : rest.length = n) :
    Bounded step n ((k, u) :: h) rest := by
  have hsorted : Sorted (e :: rest) := hcons ▸ b.sorted.upsert
  obtain ⟨hfirst, hrest⟩ := List.pairwise_cons.mp hsorted
  have hnew : k ∉ m.map Prod.fst := by
    intro hmem
    have hsame := length_upsert_of_mem (f := step u) b.sorted hmem
    rw [hcons, List.length_cons] at hsame
    have := b.size
    omega
  have hkeys : ∀ k', k' ∈ (e :: rest).map Prod.fst ↔ k' = k ∨ k' ∈ m.map Prod.fst := by
    intro k'
    rw [← hcons, mem_keys_upsert]
  -- A key that is left is not the least one.
  have hleast : ∀ k' ∈ rest.map Prod.fst, e.1 < k' := hfirst
  have hlookup : ∀ k', k' ∈ rest.map Prod.fst → lookup k' rest =
      if k' = k then some (step u (lookup k m)) else lookup k' m := by
    intro k' hk'
    rw [← lookup_upsert b.sorted, hcons]
    rw [lookup, if_neg (hleast k' hk').ne]
  refine ⟨hrest, hlen.le, ?_, ?_⟩
  · intro k' v hv
    have hmem := mem_keys_of_lookup hv
    rw [hlookup k' hmem] at hv
    rw [folded]
    by_cases hk : k' = k
    · subst hk
      rw [if_pos rfl] at hv ⊢
      have hnone := lookup_eq_none_iff.mpr hnew
      have hfresh : folded step k' h = none := by
        by_contra hne
        have hless := (b.dropped k' hne hnone).2
        have hlt := hleast k' hmem
        rcases (hkeys e.1).mp (by simp) with heq | hin
        · exact hlt.ne heq
        · exact lt_asymm hlt (hless _ hin)
      rw [hfresh, ← hnone]
      exact hv
    · rw [if_neg hk] at hv
      rw [if_neg (Ne.symm hk)]
      exact b.values k' v hv
  · intro k' hrecorded hnone
    refine ⟨hlen, ?_⟩
    intro k'' hk''
    by_cases hek : k' = e.1
    · exact hek ▸ hleast k'' hk''
    have hnot : k' ∉ (e :: rest).map Prod.fst := by
      rw [List.map_cons, List.mem_cons, not_or]
      exact ⟨hek, lookup_eq_none_iff.mp hnone⟩
    rw [hkeys, not_or] at hnot
    rw [folded, if_neg (Ne.symm hnot.1)] at hrecorded
    have hless := (b.dropped k' hrecorded (lookup_eq_none_iff.mpr hnot.2)).2
    rcases (hkeys k'').mp (List.mem_cons_of_mem _ hk'') with rfl | hin
    · have hlt := hleast k'' hk''
      rcases (hkeys e.1).mp (by simp) with heq | hin
      · exact absurd heq hlt.ne
      · exact (hless _ hin).trans hlt
    · exact hless k'' hin

/-- **Update rule**: a bounded map stays one. -/
theorem Bounded.record (b : Bounded step n h m) (k : K) (u : U) :
    Bounded step n ((k, u) :: h) (record n k (step u) m) := by
  rw [Ordered.record]
  by_cases hroom : (upsert k (step u) m).length ≤ n
  · rw [Nat.sub_eq_zero_of_le hroom, List.drop_zero]
    exact b.grow hroom
  · have hsize := b.size
    have hnew : k ∉ m.map Prod.fst := by
      intro hmem
      rw [length_upsert_of_mem b.sorted hmem] at hroom
      exact hroom hsize
    have hlen := length_upsert_of_not_mem (f := step u) hnew
    rcases hcons : upsert k (step u) m with _ | ⟨e, rest⟩
    · simp [hcons] at hlen
    · rw [hcons, List.length_cons] at hlen hroom
      have hone : (e :: rest).length - n = 1 := by
        rw [List.length_cons]
        omega
      rw [hone, List.drop_one, List.tail_cons]
      exact b.shift hcons (by omega)

section Retained

/-- The keys with an update. -/
def recorded (h : List (K × U)) : Finset K := (h.map Prod.fst).toFinset

/-- The key has an update and fewer than `n` greater keys have one. -/
def Retained (n : ℕ) (h : List (K × U)) (k : K) : Prop :=
  k ∈ recorded h ∧ ((recorded h).filter (k < ·)).card < n

instance (n : ℕ) (h : List (K × U)) (k : K) : Decidable (Retained n h k) :=
  inferInstanceAs (Decidable (_ ∧ _))

theorem folded_eq_none_iff : folded step k h = none ↔ k ∉ recorded h := by
  rw [recorded, List.mem_toFinset]
  induction h with
  | nil => simp [folded]
  | cons e h ih =>
    obtain ⟨k₁, u⟩ := e
    rw [folded, List.map_cons, List.mem_cons, not_or]
    split_ifs with hk
    · simp [hk]
    · rw [ih]
      exact ⟨fun hmem => ⟨Ne.symm hk, hmem⟩, fun hmem => hmem.2⟩

theorem Sorted.card_keys (hm : Sorted m) : (m.map Prod.fst).toFinset.card = m.length := by
  have hnodup : (m.map Prod.fst).Nodup := hm.imp ne_of_lt
  rw [List.toFinset_card_of_nodup hnodup, List.length_map]

theorem Bounded.mem_recorded (b : Bounded step n h m) (hk : k ∈ m.map Prod.fst) :
    k ∈ recorded h := by
  by_contra hnot
  cases hv : lookup k m with
  | none => exact lookup_eq_none_iff.mp hv hk
  | some v =>
    have hfolded := b.values k v hv
    rw [folded_eq_none_iff.mpr hnot] at hfolded
    exact absurd hfolded (by simp)

/-- A bounded map has the entries of the `n` greatest keys. -/
theorem Bounded.mem_iff (b : Bounded step n h m) : k ∈ m.map Prod.fst ↔ Retained n h k := by
  have hcard := b.sorted.card_keys
  constructor
  · intro hk
    refine ⟨b.mem_recorded hk, ?_⟩
    have hsubset : (recorded h).filter (k < ·) ⊆ (m.map Prod.fst).toFinset.erase k := by
      intro k' hk'
      obtain ⟨hrecorded, hlt⟩ := Finset.mem_filter.mp hk'
      refine Finset.mem_erase.mpr ⟨hlt.ne', ?_⟩
      rw [List.mem_toFinset]
      by_contra hnot
      have hdropped := b.dropped k' (mt folded_eq_none_iff.mp (not_not.mpr hrecorded))
        (lookup_eq_none_iff.mpr hnot)
      exact lt_asymm hlt (hdropped.2 k hk)
    have hle := Finset.card_le_card hsubset
    rw [Finset.card_erase_of_mem (List.mem_toFinset.mpr hk), hcard] at hle
    have hpos : 0 < m.length := by
      rw [← List.length_map (f := Prod.fst)]
      exact List.length_pos_of_mem hk
    have := b.size
    omega
  · rintro ⟨hrecorded, hfew⟩
    by_contra hnot
    obtain ⟨hfull, hless⟩ := b.dropped k (mt folded_eq_none_iff.mp (not_not.mpr hrecorded))
      (lookup_eq_none_iff.mpr hnot)
    have hsubset : (m.map Prod.fst).toFinset ⊆ (recorded h).filter (k < ·) := by
      intro k' hk'
      rw [List.mem_toFinset] at hk'
      exact Finset.mem_filter.mpr ⟨b.mem_recorded hk', hless k' hk'⟩
    have hle := Finset.card_le_card hsubset
    omega

/-- What is left of a map when the least keys are dropped. -/
theorem Sorted.mem_drop_iff (hm : Sorted m) (n : ℕ) :
    k ∈ (m.drop (m.length - n)).map Prod.fst ↔ Retained n m k := by
  induction m with
  | nil => simp [Retained, recorded]
  | cons e m ih =>
    obtain ⟨hfirst, hrest⟩ := List.pairwise_cons.mp hm
    have hrecorded : recorded (e :: m) = insert e.1 (recorded m) := by
      rw [recorded, List.map_cons, List.toFinset_cons, recorded]
    have hcard : (recorded m).card = m.length := Sorted.card_keys hrest
    by_cases hroom : m.length + 1 ≤ n
    · -- Everything stays.
      rw [List.length_cons, Nat.sub_eq_zero_of_le hroom, List.drop_zero, Retained, recorded,
        List.mem_toFinset]
      refine ⟨fun hk => ⟨hk, lt_of_lt_of_le ?_ hroom⟩, fun hk => hk.1⟩
      have hall : ((e :: m).map Prod.fst).toFinset.card = m.length + 1 := hm.card_keys
      rw [← hall]
      exact Finset.card_lt_card (Finset.filter_ssubset.mpr
        ⟨k, List.mem_toFinset.mpr hk, lt_irrefl k⟩)
    · -- The first entry is dropped.
      have hdrop : (e :: m).length - n = (m.length - n) + 1 := by
        rw [List.length_cons]
        omega
      rw [hdrop, List.drop_succ_cons, ih hrest, Retained, Retained, hrecorded]
      by_cases hk : k ∈ recorded m
      · have hlt : e.1 < k := hfirst k (List.mem_toFinset.mp hk)
        rw [Finset.filter_insert, if_neg (lt_asymm hlt), Finset.mem_insert]
        exact ⟨fun h => ⟨.inr h.1, h.2⟩, fun h => ⟨hk, h.2⟩⟩
      · refine ⟨fun h => absurd h.1 hk, fun h => ?_⟩
        rcases Finset.mem_insert.mp h.1 with rfl | hmem
        · have hgreater : (insert e.1 (recorded m)).filter (e.1 < ·) = recorded m := by
            rw [Finset.filter_insert, if_neg (lt_irrefl e.1), Finset.filter_eq_self]
            exact fun k' hk' => hfirst k' (List.mem_toFinset.mp hk')
          rw [hgreater] at h
          omega
        · exact absurd hmem hk

end Retained

/-- Which keys are retained depends on their order alone. -/
theorem retained_map {K' : Type*} [LinearOrder K'] {g : K → K'} (hg : StrictMono g)
    (n : ℕ) (h : List (K × U)) (k : K) :
    Retained n (h.map (Prod.map g id)) (g k) ↔ Retained n h k := by
  have hrecorded : recorded (h.map (Prod.map g id)) = (recorded h).image g := by
    ext k'
    simp [recorded]
  have hgreater : ((recorded h).image g).filter (g k < ·) =
      ((recorded h).filter (k < ·)).image g := by
    rw [Finset.filter_image]
    simp only [hg.lt_iff_lt]
  rw [Retained, Retained, hrecorded, hgreater, Finset.card_image_of_injective _ hg.injective,
    hg.injective.mem_finset_image]

end Ordered
