import Mathlib.Algebra.BigOperators.Group.List.Basic
import Mathlib.Algebra.GroupWithZero.Nat
import Mathlib.Algebra.Order.Group.Nat
import Mathlib.Data.List.Nodup

/-!
# Entries in the order of their use

A list of entries with keys, the one that was used last at the end. A use moves an entry to the
end. Entries are dropped from the front, one by one, until there are few enough and their total
size is small enough.

## Main definitions

- `use` — a new entry, or the entry of a key again, at the end
- `evict` — the entries that are dropped and those that are kept
- `Ascending` — each entry was used before the entries behind it

## Main results

- `evict_append` — an eviction drops a first part of the list
- `Ascending.use` — a list stays in the order of use
-/

namespace Recency

variable {K V : Type*} {k : K} {v : V} {e : K × V} {l : List (K × V)}

/-- The sum of the sizes of the values. -/
def total (size : V → ℕ) (l : List (K × V)) : ℕ := (l.map fun e => size e.2).sum

/-- What an eviction drops, in this order, what it keeps, and the sum of the sizes that it
arrives at. -/
structure Eviction (K V : Type*) where
  dropped : List (K × V)
  kept : List (K × V)
  sum : ℕ

/-- Drop entries from the front until at most `maxEntries` are left and `sum`, less the sizes of
the dropped ones, is at most `maxTotal`. -/
def evict (size : V → ℕ) (maxEntries maxTotal : ℕ) : List (K × V) → ℕ → Eviction K V
  | [], sum => ⟨[], [], sum⟩
  | e :: l, sum =>
    if maxEntries < (e :: l).length ∨ maxTotal < sum then
      let rest := evict size maxEntries maxTotal l (sum - size e.2)
      ⟨e :: rest.dropped, rest.kept, rest.sum⟩
    else ⟨[], e :: l, sum⟩

variable {size : V → ℕ} {maxEntries maxTotal sum : ℕ}

theorem total_append (l l' : List (K × V)) :
    total size (l ++ l') = total size l + total size l' := by
  rw [total, List.map_append, List.sum_append]
  rfl

/-- An eviction drops a first part of the list. -/
theorem evict_append (l : List (K × V)) (sum : ℕ) :
    (evict size maxEntries maxTotal l sum).dropped ++ (evict size maxEntries maxTotal l sum).kept =
      l := by
  induction l generalizing sum with
  | nil => rfl
  | cons e l ih =>
    rw [evict]
    split_ifs
    · exact congrArg (e :: ·) (ih _)
    · rfl

/-- The sum stays the sum of the sizes, and both bounds hold. -/
theorem evict_spec (h : sum = total size l) :
    (evict size maxEntries maxTotal l sum).sum =
        total size (evict size maxEntries maxTotal l sum).kept ∧
      (evict size maxEntries maxTotal l sum).kept.length ≤ maxEntries ∧
      (evict size maxEntries maxTotal l sum).sum ≤ maxTotal := by
  induction l generalizing sum with
  | nil => exact ⟨h, Nat.zero_le _, h.trans_le (Nat.zero_le _)⟩
  | cons e l ih =>
    rw [evict]
    split_ifs with hbounds
    · apply ih
      rw [h]
      show size e.2 + total size l - size e.2 = total size l
      omega
    · rw [not_or, not_lt, not_lt] at hbounds
      exact ⟨h, hbounds⟩

/-- What is kept are the entries whose key is not dropped. -/
theorem mem_kept (h : (l.map Prod.fst).Nodup) :
    e ∈ (evict size maxEntries maxTotal l sum).kept ↔
      e ∈ l ∧ e.1 ∉ (evict size maxEntries maxTotal l sum).dropped.map Prod.fst := by
  have happend : (evict size maxEntries maxTotal l sum).dropped ++ _ = l := evict_append l sum
  rw [← happend, List.map_append, List.nodup_append] at h
  constructor
  · intro he
    refine ⟨happend ▸ List.mem_append_right _ he, fun hdropped => ?_⟩
    exact h.2.2 _ hdropped _ (List.mem_map_of_mem he) rfl
  · rintro ⟨he, hkey⟩
    rw [← happend, List.mem_append] at he
    exact he.resolve_left fun hdropped => hkey (List.mem_map_of_mem hdropped)

/-! ### Uses -/

section

variable [DecidableEq K]

/-- The list without the entry of a key. -/
def remove (k : K) (l : List (K × V)) : List (K × V) := l.filter fun e => e.1 ≠ k

/-- The entry of a key, moved to the end or created there. -/
def use (k : K) (v : V) (l : List (K × V)) : List (K × V) := remove k l ++ [(k, v)]

theorem mem_remove : e ∈ remove k l ↔ e ∈ l ∧ e.1 ≠ k := by
  rw [remove, List.mem_filter, decide_eq_true_eq]

theorem mem_use : e ∈ use k v l ↔ e ∈ l ∧ e.1 ≠ k ∨ e = (k, v) := by
  rw [use, List.mem_append, mem_remove, List.mem_singleton]

theorem nodup_remove (h : (l.map Prod.fst).Nodup) : ((remove k l).map Prod.fst).Nodup :=
  h.sublist (List.filter_sublist.map _)

theorem notMem_keys_remove : k ∉ (remove k l).map Prod.fst := by
  intro hmem
  obtain ⟨e, he, heq⟩ := List.mem_map.mp hmem
  exact (mem_remove.mp he).2 heq

/-- A further use of a key makes the list no longer. -/
theorem length_use_le {v' : V} (h : (k, v') ∈ l) : (use k v l).length ≤ l.length := by
  have hlt : (remove k l).length < l.length :=
    List.length_filter_lt_length_iff_exists.mpr ⟨_, h, by simp⟩
  rw [use, List.length_append]
  exact hlt

theorem total_use : total size (use k v l) = total size (remove k l) + size v := by
  rw [use, total_append]
  rfl

/-- Without the entry of a key, its size is missing. -/
theorem total_remove (h : (l.map Prod.fst).Nodup) (hmem : (k, v) ∈ l) :
    total size (remove k l) + size v = total size l := by
  obtain ⟨l₁, l₂, rfl⟩ := List.append_of_mem hmem
  rw [List.map_append, List.map_cons, List.nodup_middle, List.nodup_cons, ← List.map_append] at h
  have hkeep : ∀ e ∈ l₁ ++ l₂, decide (e.1 ≠ k) = true := by
    intro e he
    rw [decide_eq_true_eq]
    exact fun heq => h.1 (List.mem_map.mpr ⟨e, he, heq⟩)
  have hremove : remove k (l₁ ++ (k, v) :: l₂) = l₁ ++ l₂ := by
    rw [remove, List.filter_append, List.filter_cons_of_neg (by simp), ← List.filter_append,
      List.filter_eq_self.mpr hkeep]
  rw [hremove, total_append, total_append]
  show _ = _ + (size v + total size l₂)
  omega

end

/-! ### The order of the uses -/

/-- The keys stand in the order of their last uses. -/
def Ascending (lastUse : K → ℕ) (l : List (K × V)) : Prop :=
  l.Pairwise fun e e' => lastUse e.1 < lastUse e'.1

variable {lastUse lastUse' : K → ℕ} {n : ℕ}

theorem Ascending.remove [DecidableEq K] (h : Ascending lastUse l) :
    Ascending lastUse (remove k l) :=
  h.sublist List.filter_sublist

theorem Ascending.congr (h : Ascending lastUse l) (heq : ∀ k, lastUse' k = lastUse k) :
    Ascending lastUse' l := by
  rwa [funext heq]

/-- A use after all others moves its entry to the end. -/
theorem Ascending.use [DecidableEq K] (h : Ascending lastUse l) (hlast : ∀ k, lastUse k < n)
    (heq : lastUse' k = n) (hne : ∀ k', k' ≠ k → lastUse' k' = lastUse k') :
    Ascending lastUse' (use k v l) := by
  refine List.pairwise_append.mpr ⟨?_, List.pairwise_singleton _ _, ?_⟩
  · refine h.remove.imp_of_mem fun {e e'} he he' hlt => ?_
    rw [hne _ (mem_remove.mp he).2, hne _ (mem_remove.mp he').2]
    exact hlt
  · intro e he e' he'
    rw [List.mem_singleton.mp he', heq, hne _ (mem_remove.mp he).2]
    exact hlast e.1

end Recency
