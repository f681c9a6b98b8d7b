import Mathlib.Data.List.Sort
import WayfinderRouter.Redis.Hash

/-!
# Sorted sets

A sorted set maps members to scores. Ranges list the members by score, and members
of equal score in their own order.

## Main definitions

- `ZSet.ordered` — the members in the order of `ZRANGE`
- `Key.zadd`, `Key.zrem`, `Key.zscore`, `Key.zcard` — single members
- `Key.zrangebyscore`, `Key.zremrangebyscore` — ranges
-/

namespace Redis

/-- A sorted set: each member with its score. -/
abbrev ZSet (M : Type*) := Hash M ℕ

namespace ZSet

variable {M : Type*} [LE M] [DecidableLE M]

/-- `ZRANGE` order: by score, then by member. -/
def before (a b : Σ _ : M, ℕ) : Prop := a.2 < b.2 ∨ a.2 = b.2 ∧ a.1 ≤ b.1

instance : DecidableRel (before (M := M)) := fun a b =>
  inferInstanceAs (Decidable (a.2 < b.2 ∨ a.2 = b.2 ∧ a.1 ≤ b.1))

/-- The members from the lowest score to the highest. -/
def ordered (z : ZSet M) : List M := (z.entries.insertionSort before).map Sigma.fst

theorem ordered_perm (z : ZSet M) : (z.ordered).Perm z.keys :=
  (List.perm_insertionSort before z.entries).map Sigma.fst

theorem nodup_ordered (z : ZSet M) : z.ordered.Nodup :=
  (ordered_perm z).nodup_iff.mpr z.keys_nodup

theorem mem_ordered [DecidableEq M] {m : M} {z : ZSet M} : m ∈ z.ordered ↔ z.get m ≠ none := by
  rw [(ordered_perm z).mem_iff, Hash.mem_keys_iff]

end ZSet

namespace Key

variable {M : Type*} [DecidableEq M]

/-- `ZADD`. -/
def zadd (score : ℕ) (m : M) (k : Key (ZSet M)) : Key (ZSet M) := k.hset m score

/-- `ZREM`. -/
def zrem (m : M) (k : Key (ZSet M)) : Key (ZSet M) := k.hdel m

/-- `ZSCORE`. -/
def zscore (m : M) (k : Key (ZSet M)) : Option ℕ := k.hget m

/-- `ZCARD`. -/
def zcard (k : Key (ZSet M)) : ℕ := k.hash.keys.length

/-- `ZREMRANGEBYSCORE key -inf max`. -/
def zremrangebyscore (max : ℕ) (k : Key (ZSet M)) : Key (ZSet M) :=
  k.shrink (Hash.filter fun score => decide (max < score)) Hash.isEmpty

section Ranges

variable [LE M] [DecidableLE M]

/-- `ZRANGEBYSCORE key -inf max`. -/
def zrangebyscore (max : ℕ) (k : Key (ZSet M)) : List M :=
  ZSet.ordered (k.hash.filter fun score => decide (score ≤ max))

theorem mem_zrangebyscore {max : ℕ} {m : M} {k : Key (ZSet M)} :
    m ∈ k.zrangebyscore max ↔ ∃ score ≤ max, k.zscore m = some score := by
  rw [zrangebyscore, ZSet.mem_ordered, Hash.get_filter, zscore, hget]
  cases k.hash.get m with
  | none => simp
  | some score => by_cases hs : score ≤ max <;> simp [Option.filter, hs]

end Ranges

omit [DecidableEq M] in
@[simp] theorem hash_zremrangebyscore (max : ℕ) (k : Key (ZSet M)) :
    (k.zremrangebyscore max).hash = k.hash.filter fun score => decide (max < score) := by
  cases k with
  | none => rfl
  | some s =>
    by_cases he : Hash.isEmpty (Hash.filter (fun score => decide (max < score)) s.value)
    · have hk : Key.zremrangebyscore max (some s) = none := if_pos he
      rw [hk, hash_none]
      exact (Hash.eq_empty_of_isEmpty he).symm
    · have hk : Key.zremrangebyscore max (some s) =
          some { s with value := Hash.filter (fun score => decide (max < score)) s.value } :=
        if_neg he
      rw [hk]
      rfl

@[simp] theorem zscore_none (m : M) : Key.zscore m (none : Key (ZSet M)) = none := rfl

theorem zscore_zremrangebyscore (max : ℕ) (m : M) (k : Key (ZSet M)) :
    (k.zremrangebyscore max).zscore m = (k.zscore m).filter fun score => decide (max < score) := by
  rw [zscore, hget, hash_zremrangebyscore, Hash.get_filter]
  rfl

omit [DecidableEq M] in
theorem zcard_eq_sumBy (k : Key (ZSet M)) : (k.zcard : ℤ) = k.hash.sumBy fun _ => 1 :=
  (Hash.sumBy_one k.hash).symm

omit [DecidableEq M] in
theorem zcard_zremrangebyscore_le (max : ℕ) (k : Key (ZSet M)) :
    (k.zremrangebyscore max).zcard ≤ k.zcard := by
  rw [zcard, hash_zremrangebyscore]
  exact (List.filter_sublist.map Sigma.fst).length_le

theorem zcard_zadd_of_zscore_eq_none {score : ℕ} {m : M} {k : Key (ZSet M)}
    (h : k.zscore m = none) : (k.zadd score m).zcard = k.zcard + 1 := by
  have hs := Hash.sumBy_set (fun _ => 1) m score k.hash
  rw [show k.hash.get m = none from h, Option.elim_none, sub_zero, ← hash_hset,
    ← zcard_eq_sumBy, ← zcard_eq_sumBy] at hs
  exact_mod_cast hs

theorem zscore_eq_none_of_zcard_eq_zero {k : Key (ZSet M)} (h : k.zcard = 0) (m : M) :
    k.zscore m = none :=
  Hash.get_eq_none_of_length_keys h m

theorem zscore_of_live {now score : ℕ} {m : M} {k : Key (ZSet M)}
    (h : (k.live now).zscore m = some score) : k.zscore m = some score ∧ ¬k.Lapsed now := by
  by_cases hl : k.Lapsed now
  · rw [live_of_lapsed hl] at h
    simp [zscore] at h
  · rw [live_of_not_lapsed hl] at h
    exact ⟨h, hl⟩

/-- A member that is left in the range keeps its key and the key's deadline. -/
theorem deadline?_zremrangebyscore_of_zscore {max : ℕ} {m : M} {k : Key (ZSet M)}
    (h : (k.zremrangebyscore max).zscore m ≠ none) :
    (k.zremrangebyscore max).deadline? = k.deadline? := by
  apply deadline?_shrink_of_value?
  intro hv
  apply h
  rw [zscore, hget, hash, zremrangebyscore, hv]
  rfl

theorem zcard_zrem_le (m : M) (k : Key (ZSet M)) : (k.zrem m).zcard ≤ k.zcard := by
  rw [zcard, zrem, hash_hdel]
  exact ((List.kerase_sublist m k.hash.entries).map Sigma.fst).length_le

omit [DecidableEq M] in
theorem zcard_live_le (now : ℕ) (k : Key (ZSet M)) : (k.live now).zcard ≤ k.zcard := by
  by_cases h : k.Lapsed now
  · rw [live_of_lapsed h]
    exact Nat.zero_le _
  · rw [live_of_not_lapsed h]

end Key

end Redis
