import Mathlib.Data.List.DropRight
import WayfinderRouter.Ordered.BoundedMap

/-!
# Maps with room for a number of keys

A map takes in new keys as long as it has fewer than `n`. What comes for other keys later is left
out. A key that has been taken in stays, and so the keys of the map are the first `n` keys that
came, and each of them has seen all its updates.

## Main definitions

- `admitted` — the first `n` keys that came
- `takeIn` — an update that is left out when there is no room for its key
- `updatesOf` — the updates of a key

## Main results

- `Admits.takeIn` — the map has all updates of the first keys
- `folded_eq` — a value that is a function of the updates of its key
-/

namespace Ordered

variable {K V U : Type*} [LinearOrder K] {n : ℕ}

/-! ## The first keys -/

/-- The first `n` keys of a history, which starts with the newest. -/
def admitted (n : ℕ) : List K → List K
  | [] => []
  | k :: keys =>
    if k ∈ admitted n keys ∨ n ≤ (admitted n keys).length then admitted n keys
    else k :: admitted n keys

theorem length_admitted_le (n : ℕ) (keys : List K) : (admitted n keys).length ≤ n := by
  induction keys with
  | nil => exact Nat.zero_le n
  | cons k keys ih =>
    rw [admitted]
    split_ifs with h
    · exact ih
    · rw [not_or, not_le] at h
      exact h.2

theorem nodup_admitted (n : ℕ) (keys : List K) : (admitted n keys).Nodup := by
  induction keys with
  | nil => exact List.nodup_nil
  | cons k keys ih =>
    rw [admitted]
    split_ifs with h
    · exact ih
    · exact List.nodup_cons.mpr ⟨fun hk => h (.inl hk), ih⟩

theorem admitted_subset (n : ℕ) (keys : List K) : admitted n keys ⊆ keys := by
  induction keys with
  | nil => exact List.Subset.refl _
  | cons k keys ih =>
    rw [admitted]
    split_ifs with h
    · exact List.subset_cons_of_subset k ih
    · exact List.cons_subset_cons k ih

/-- While there is room every key is admitted. -/
theorem mem_admitted_of_room {k : K} {keys : List K} (hroom : (admitted n keys).length < n)
    (hk : k ∈ keys) : k ∈ admitted n keys := by
  induction keys with
  | nil => exact absurd hk List.not_mem_nil
  | cons k' keys ih =>
    rw [admitted] at hroom ⊢
    split_ifs at hroom ⊢ with h
    · rcases List.mem_cons.mp hk with rfl | hk
      · exact h.resolve_right (by omega)
      · exact ih hroom hk
    · rw [not_or, not_le] at h
      rcases List.mem_cons.mp hk with rfl | hk
      · exact List.mem_cons_self
      · exact List.mem_cons_of_mem k' (ih h.2 hk)

/-! ## Updates that are left out -/

/-- An update, if its key is known or there is room for it. -/
def takeIn (n : ℕ) (k : K) (f : Option V → V) (m : List (K × V)) : List (K × V) :=
  if (lookup k m).isSome ∨ m.length < n then upsert k f m else m

variable {step : U → Option V → V} {h : List (K × U)} {m : List (K × V)}

/-- The map has all updates of the first `n` keys. -/
structure Admits (step : U → Option V → V) (n : ℕ) (h : List (K × U)) (m : List (K × V)) :
    Prop where
  sorted : Sorted m
  values : ∀ k, lookup k m =
    if k ∈ admitted n (h.map Prod.fst) then folded step k h else none

theorem admits_nil (step : U → Option V → V) (n : ℕ) : Admits step n ([] : List (K × U)) [] :=
  ⟨List.Pairwise.nil, fun _ => rfl⟩

theorem isSome_folded_of_mem (step : U → Option V → V) {k : K} (hk : k ∈ h.map Prod.fst) :
    (folded step k h).isSome := by
  rw [Option.isSome_iff_ne_none, ne_eq, folded_eq_none_iff, not_not, recorded, List.mem_toFinset]
  exact hk

theorem Admits.mem_keys (hm : Admits step n h m) {k : K} :
    k ∈ m.map Prod.fst ↔ k ∈ admitted n (h.map Prod.fst) := by
  rw [← not_iff_not, ← lookup_eq_none_iff, hm.values]
  split_ifs with hk
  · have hfolded := isSome_folded_of_mem step (admitted_subset n _ hk)
    exact iff_of_false (Option.isSome_iff_ne_none.mp hfolded) (not_not.mpr hk)
  · exact iff_of_true rfl hk

theorem Admits.length_eq (hm : Admits step n h m) :
    m.length = (admitted n (h.map Prod.fst)).length := by
  have hperm : List.Perm (m.map Prod.fst) (admitted n (h.map Prod.fst)) :=
    (List.perm_ext_iff_of_nodup (hm.sorted.imp ne_of_lt) (nodup_admitted n _)).mpr
      fun k => hm.mem_keys
  rw [← hperm.length_eq, List.length_map]

theorem Admits.room_iff (hm : Admits step n h m) {k : K} :
    (lookup k m).isSome ∨ m.length < n ↔
      k ∈ admitted n (h.map Prod.fst) ∨ (admitted n (h.map Prod.fst)).length < n := by
  rw [hm.length_eq, Option.isSome_iff_ne_none, ne_eq, lookup_eq_none_iff, not_not, hm.mem_keys]

/-- The admitted keys after one more key. -/
theorem mem_admitted_iff {k k' : K} {keys : List K} : k' ∈ admitted n (k :: keys) ↔
    k' ∈ admitted n keys ∨ k' = k ∧ (admitted n keys).length < n := by
  rw [admitted]
  split_ifs with hk
  · refine ⟨.inl, fun hor => hor.elim id fun hk' => ?_⟩
    exact hk'.1 ▸ hk.resolve_right (not_le.mpr hk'.2)
  · rw [not_or, not_le] at hk
    rw [List.mem_cons, or_comm, and_iff_left hk.2]

/-- A key for which there is room has had all its updates. -/
theorem Admits.lookup_eq (hm : Admits step n h m) {k : K}
    (hroom : k ∈ admitted n (h.map Prod.fst) ∨ (admitted n (h.map Prod.fst)).length < n) :
    lookup k m = folded step k h := by
  rw [hm.values]
  split_ifs with hk
  · rfl
  · -- a key that came when there was room would have been admitted
    have hnew : k ∉ h.map Prod.fst :=
      fun hmem => hk (mem_admitted_of_room (hroom.resolve_left hk) hmem)
    rw [eq_comm, folded_eq_none_iff, recorded, List.mem_toFinset]
    exact hnew

/-- **Update rule**: an update with or without room. -/
theorem Admits.takeIn (hm : Admits step n h m) (k : K) (u : U) :
    Admits step n ((k, u) :: h) (Ordered.takeIn n k (step u) m) := by
  rw [Ordered.takeIn]
  split_ifs with hroom
  · rw [hm.room_iff] at hroom
    refine ⟨hm.sorted.upsert, fun k' => ?_⟩
    rw [lookup_upsert hm.sorted, hm.lookup_eq hroom, folded]
    simp only [List.map_cons, mem_admitted_iff]
    by_cases hk : k' = k
    · subst hk
      rw [if_pos rfl, if_pos rfl, if_pos (hroom.imp_right fun hlt => ⟨rfl, hlt⟩)]
    · rw [if_neg hk, if_neg (Ne.symm hk), hm.values]
      simp only [hk, false_and, or_false]
  · rw [hm.room_iff, not_or] at hroom
    refine ⟨hm.sorted, fun k' => ?_⟩
    rw [hm.values, folded]
    simp only [List.map_cons, mem_admitted_iff, hroom.2, and_false, or_false]
    by_cases hk : k' = k
    · rw [if_neg (hk ▸ hroom.1), if_neg (hk ▸ hroom.1)]
    · rw [if_neg (Ne.symm hk)]

/-! ## What the updates of a key make of it -/

/-- The updates of a key, oldest first. -/
def updatesOf (k : K) (h : List (K × U)) : List U :=
  ((h.filter fun e => e.1 = k).map Prod.snd).reverse

theorem updatesOf_cons (k k' : K) (u : U) (h : List (K × U)) :
    updatesOf k ((k', u) :: h) = if k' = k then updatesOf k h ++ [u] else updatesOf k h := by
  rw [updatesOf, updatesOf]
  split_ifs with hk
  · rw [List.filter_cons_of_pos (by simpa using hk), List.map_cons, List.reverse_cons]
  · rw [List.filter_cons_of_neg (by simpa using hk)]

/-- A value that is a function of the updates of its key. -/
theorem folded_eq {F : List U → V} (hfirst : ∀ u, step u none = F [u])
    (hnext : ∀ u us, step u (some (F us)) = F (us ++ [u])) (k : K) (h : List (K × U)) :
    folded step k h = if updatesOf k h = [] then none else some (F (updatesOf k h)) := by
  induction h with
  | nil => rfl
  | cons e h ih =>
    obtain ⟨k', u⟩ := e
    rw [folded, updatesOf_cons, ih]
    by_cases hk : k' = k
    · rw [if_pos hk, if_pos hk, if_neg (List.append_ne_nil_of_right_ne_nil _ (by simp))]
      by_cases hnone : updatesOf k h = []
      · rw [if_pos hnone, hfirst, hnone, List.nil_append]
      · rw [if_neg hnone, hnext]
    · rw [if_neg hk, if_neg hk]

/-- The last `n` of some values and one more are those of the last `n` of them and that one. -/
theorem rtake_rtake_concat {α : Type*} (l : List α) (x : α) (n : ℕ) :
    (l.rtake n ++ [x]).rtake n = (l ++ [x]).rtake n := by
  cases n with
  | zero => rw [List.rtake_zero, List.rtake_zero]
  | succ n =>
    rw [List.rtake_concat_succ, List.rtake_concat_succ]
    simp only [List.rtake_eq_reverse_take_reverse, List.reverse_reverse, List.take_take]
    rw [min_eq_left (Nat.le_succ n)]

end Ordered
