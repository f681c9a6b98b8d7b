import Mathlib.Algebra.Order.BigOperators.Group.List
import Mathlib.Data.List.AList
import Mathlib.Tactic.Ring
import WayfinderRouter.Redis.Key

/-!
# Hashes

A hash is a finite map from fields to values. `HSET`, `HGET` and `HDEL` act on a
key holding one; a hash that loses its last field is deleted with its key, and its
deadline with it.

Accounting over a hash goes through `Hash.sumBy`, the sum of a weight over the
stored values. `Hash.sumBy_congr` compares two such sums field by field, so an
invariant that ties a counter to a hash never speaks about the order of its entries.

## Main definitions

- `Hash` — finite maps
- `Hash.sumBy` — sums over the stored values
- `Key.hget`, `Key.hset`, `Key.hdel` — the commands
-/

namespace Redis

/-- A finite map from fields to values. -/
abbrev Hash (F V : Type*) := AList fun _ : F => V

namespace Hash

variable {F V W : Type*}

/-- The sum of `w` over the values of a hash. -/
def sumBy (w : V → ℤ) (h : Hash F V) : ℤ := (h.entries.map fun e => w e.2).sum

/-- No field is stored. -/
def isEmpty (h : Hash F V) : Bool := h.entries.isEmpty

/-- The entries whose value satisfies `p`. -/
def filter (p : V → Bool) (h : Hash F V) : Hash F V where
  entries := h.entries.filter fun e => p e.2
  nodupKeys := h.nodupKeys.sublist List.filter_sublist

instance : Inhabited (Hash F V) := ⟨∅⟩

@[simp] theorem sumBy_empty (w : V → ℤ) : sumBy w (∅ : Hash F V) = 0 := rfl

theorem sumBy_one (h : Hash F V) : h.sumBy (fun _ => 1) = h.keys.length := by
  simp [sumBy, AList.keys, List.keys]

theorem eq_empty_of_isEmpty {h : Hash F V} (he : h.isEmpty) : h = ∅ :=
  AList.ext (List.isEmpty_iff.mp he)

variable [DecidableEq F]

/-- The value of a field. -/
def get (f : F) (h : Hash F V) : Option V := h.lookup f

/-- Write a field. -/
def set (f : F) (v : V) (h : Hash F V) : Hash F V := h.insert f v

/-- Remove a field. -/
def del (f : F) (h : Hash F V) : Hash F V := h.erase f

@[simp] theorem get_empty (f : F) : get f (∅ : Hash F V) = none := rfl

@[simp] theorem get_default (f : F) : get f (default : Hash F V) = none := rfl

theorem get_set (f g : F) (v : V) (h : Hash F V) :
    (h.set f v).get g = if g = f then some v else h.get g := by
  by_cases hg : g = f
  · subst hg
    simp [get, set]
  · rw [if_neg hg]
    exact AList.lookup_insert_ne hg

theorem get_del (f g : F) (h : Hash F V) :
    (h.del f).get g = if g = f then none else h.get g := by
  by_cases hg : g = f
  · subst hg
    simp [get, del]
  · rw [if_neg hg]
    exact AList.lookup_erase_ne hg

theorem get_filter (p : V → Bool) (f : F) (h : Hash F V) :
    (h.filter p).get f = (h.get f).filter p := by
  have hiff : ∀ v, v ∈ (h.filter p).get f ↔ v ∈ (h.get f).filter p := by
    intro v
    rw [get, AList.mem_lookup_iff, Option.mem_filter_iff, get, AList.mem_lookup_iff]
    exact List.mem_filter
  exact Option.ext hiff

theorem mem_keys_iff {f : F} {h : Hash F V} : f ∈ h.keys ↔ h.get f ≠ none := by
  rw [get, Ne, AList.lookup_eq_none, not_not, AList.mem_keys]

private theorem sum_entries_kerase (w : V → ℤ) (f : F) (l : List (Σ _ : F, V)) :
    (l.map fun e => w e.2).sum =
      (l.dlookup f).elim 0 w + ((l.kerase f).map fun e => w e.2).sum := by
  induction l with
  | nil => rfl
  | cons e l ih =>
    obtain ⟨g, v⟩ := e
    by_cases hg : f = g
    · subst hg
      simp
    · rw [List.dlookup_cons_ne _ _ hg, List.kerase_cons_ne hg, List.map_cons, List.sum_cons,
        List.map_cons, List.sum_cons, ih]
      ring

/-- Removing a field takes its value out of the sum. -/
theorem sumBy_del (w : V → ℤ) (f : F) (h : Hash F V) :
    (h.del f).sumBy w = h.sumBy w - (h.get f).elim 0 w := by
  have hs := sum_entries_kerase w f h.entries
  change ((h.entries.kerase f).map fun e => w e.2).sum = (h.entries.map fun e => w e.2).sum -
    (h.entries.dlookup f).elim 0 w
  rw [hs]
  ring

/-- Writing a field replaces its value in the sum. -/
theorem sumBy_set (w : V → ℤ) (f : F) (v : V) (h : Hash F V) :
    (h.set f v).sumBy w = h.sumBy w - (h.get f).elim 0 w + w v := by
  rw [← sumBy_del]
  change w v + ((h.entries.kerase f).map fun e => w e.2).sum = _
  rw [add_comm]
  rfl

theorem sumBy_eq_zero {w : V → ℤ} {h : Hash F V} (hz : ∀ f, (h.get f).elim 0 w = 0) :
    h.sumBy w = 0 := by
  apply List.sum_eq_zero
  intro x hx
  obtain ⟨⟨f, v⟩, he, rfl⟩ := List.mem_map.mp hx
  have hl : h.get f = some v := List.mem_dlookup h.nodupKeys he
  simpa [hl] using hz f

theorem sumBy_nonneg_of_get {w : V → ℤ} {h : Hash F V} (hw : ∀ f, 0 ≤ (h.get f).elim 0 w) :
    0 ≤ h.sumBy w := by
  apply List.sum_nonneg
  intro x hx
  obtain ⟨⟨f, v⟩, he, rfl⟩ := List.mem_map.mp hx
  have hl : h.get f = some v := List.mem_dlookup h.nodupKeys he
  simpa [hl] using hw f

/-- A stored value is part of a sum of non-negative weights. -/
theorem le_sumBy_of_get {w : V → ℤ} {h : Hash F V} {f : F} {v : V} (hw : ∀ v, 0 ≤ w v)
    (hf : h.get f = some v) : w v ≤ h.sumBy w := by
  have hrest : 0 ≤ (h.del f).sumBy w := by
    apply sumBy_nonneg_of_get
    intro g
    cases (h.del f).get g with
    | none => exact le_rfl
    | some u => exact hw u
  rw [sumBy_del, hf, Option.elim_some] at hrest
  omega

/-- Two sums agree when they agree at every field. -/
theorem sumBy_congr {w : V → ℤ} {w' : W → ℤ} {h : Hash F V} {h' : Hash F W}
    (hw : ∀ f, (h.get f).elim 0 w = (h'.get f).elim 0 w') : h.sumBy w = h'.sumBy w' := by
  obtain ⟨l, hn⟩ := h
  induction l generalizing h' with
  | nil => exact (sumBy_eq_zero fun f => (hw f).symm).symm
  | cons e l ih =>
    obtain ⟨f, v⟩ := e
    obtain ⟨hf, hl⟩ := List.nodupKeys_cons.mp hn
    have hhead : w v = (h'.get f).elim 0 w' := by
      rw [← hw f]
      simp [get, AList.lookup]
    -- drop the head's field from the other hash and compare the rest
    have hrest : sumBy w ⟨l, hl⟩ = (h'.del f).sumBy w' := by
      apply ih hl
      intro g
      rw [get_del]
      by_cases hg : g = f
      · subst hg
        have hnone : List.dlookup g l = none := List.dlookup_eq_none.mpr hf
        simp [get, AList.lookup, hnone]
      · rw [if_neg hg, ← hw g]
        simp only [get, AList.lookup]
        rw [List.dlookup_cons_ne _ _ hg]
    calc sumBy w ⟨⟨f, v⟩ :: l, hn⟩ = w v + sumBy w ⟨l, hl⟩ := rfl
      _ = (h'.get f).elim 0 w' + (h'.sumBy w' - (h'.get f).elim 0 w') := by
          rw [hhead, hrest, sumBy_del]
      _ = h'.sumBy w' := by ring

/-- The sum over any list of fields that misses no stored one. -/
theorem sum_map_get {w : V → ℤ} {h : Hash F V} {l : List F} (hl : l.Nodup)
    (hsub : ∀ f, h.get f ≠ none → f ∈ l) :
    (l.map fun f => (h.get f).elim 0 w).sum = h.sumBy w := by
  induction l generalizing h with
  | nil =>
    refine (sumBy_eq_zero fun f => ?_).symm
    cases hf : h.get f with
    | none => rfl
    | some v => exact absurd (hsub f (by simp [hf])) (by simp)
  | cons g l ih =>
    obtain ⟨hg, hl⟩ := List.nodup_cons.mp hl
    have hrest : (l.map fun f => ((h.del g).get f).elim 0 w).sum = (h.del g).sumBy w := by
      refine ih hl fun f hf => ?_
      rw [get_del] at hf
      split at hf
      · exact absurd rfl hf
      · next hne => exact (List.mem_cons.mp (hsub f hf)).resolve_left hne
    have hsame : (l.map fun f => ((h.del g).get f).elim 0 w) =
        l.map fun f => (h.get f).elim 0 w := by
      refine List.map_congr_left fun f hf => ?_
      have hne : f ≠ g := by
        rintro rfl
        exact hg hf
      rw [get_del, if_neg hne]
    rw [List.map_cons, List.sum_cons, ← hsame, hrest, sumBy_del]
    ring

theorem length_keys_del {f : F} {h : Hash F V} (hf : h.get f ≠ none) :
    (h.del f).keys.length + 1 = h.keys.length := by
  have hs := sumBy_del (fun _ => 1) f h
  obtain ⟨v, hv⟩ := Option.ne_none_iff_exists'.mp hf
  rw [sumBy_one, sumBy_one, hv, Option.elim_some] at hs
  omega

theorem get_eq_none_of_length_keys {h : Hash F V} (hz : h.keys.length = 0) (f : F) :
    h.get f = none := by
  by_contra hf
  have hmem := mem_keys_iff.mpr hf
  rw [List.length_eq_zero_iff.mp hz] at hmem
  simp at hmem

/-- Two hashes with the same fields have the same size. -/
theorem length_keys_congr {h : Hash F V} {h' : Hash F W}
    (hf : ∀ f, (h.get f).isSome = (h'.get f).isSome) : h.keys.length = h'.keys.length := by
  have hs : h.sumBy (fun _ => 1) = h'.sumBy fun _ => 1 := sumBy_congr fun f => by
    have := hf f
    cases hg : h.get f <;> cases hg' : h'.get f <;> simp_all
  rw [sumBy_one, sumBy_one] at hs
  exact_mod_cast hs

end Hash

namespace Key

variable {F V : Type*}

/-- The hash of a key, empty when the key is absent. -/
def hash (k : Key (Hash F V)) : Hash F V := k.value?.getD ∅

@[simp] theorem hash_none : Key.hash (none : Key (Hash F V)) = ∅ := rfl

@[simp] theorem hash_pexpire (now ttl : ℕ) (k : Key (Hash F V)) :
    (k.pexpire now ttl).hash = k.hash := by
  simp [hash]

variable [DecidableEq F]

/-- `HGET`. -/
def hget (f : F) (k : Key (Hash F V)) : Option V := k.hash.get f

/-- `HSET`. -/
def hset (f : F) (v : V) (k : Key (Hash F V)) : Key (Hash F V) := k.write (Hash.set f v)

/-- `HDEL`. -/
def hdel (f : F) (k : Key (Hash F V)) : Key (Hash F V) := k.shrink (Hash.del f) Hash.isEmpty

@[simp] theorem hash_hset (f : F) (v : V) (k : Key (Hash F V)) :
    (k.hset f v).hash = k.hash.set f v := rfl

@[simp] theorem hash_hdel (f : F) (k : Key (Hash F V)) : (k.hdel f).hash = k.hash.del f := by
  cases k with
  | none => rfl
  | some s =>
    by_cases he : Hash.isEmpty (Hash.del f s.value)
    · have hdel' : Key.hdel f (some s) = none := if_pos he
      rw [hdel', hash_none]
      exact (Hash.eq_empty_of_isEmpty he).symm
    · have hdel' : Key.hdel f (some s) = some { s with value := Hash.del f s.value } := if_neg he
      rw [hdel']
      rfl

theorem hget_hset (f g : F) (v : V) (k : Key (Hash F V)) :
    (k.hset f v).hget g = if g = f then some v else k.hget g :=
  Hash.get_set f g v k.hash

theorem hget_hdel (f g : F) (k : Key (Hash F V)) :
    (k.hdel f).hget g = if g = f then none else k.hget g := by
  rw [hget, hash_hdel, Hash.get_del]
  rfl

@[simp] theorem hget_none (f : F) : Key.hget f (none : Key (Hash F V)) = none := rfl

@[simp] theorem hget_pexpire (now ttl : ℕ) (f : F) (k : Key (Hash F V)) :
    (k.pexpire now ttl).hget f = k.hget f := by
  simp [hget]

@[simp] theorem deadline?_hset (f : F) (v : V) (k : Key (Hash F V)) :
    (k.hset f v).deadline? = k.deadline? := rfl

/-- A key that still stores some field keeps its deadline. -/
theorem deadline?_hdel_of_hget {f g : F} {k : Key (Hash F V)} (h : (k.hdel f).hget g ≠ none) :
    (k.hdel f).deadline? = k.deadline? := by
  apply deadline?_shrink_of_value?
  intro hv
  apply h
  rw [hget, hash, hdel, hv]
  rfl

theorem deadline?_hset_pexpire (now ttl : ℕ) (f : F) (v : V) (k : Key (Hash F V)) :
    ((k.hset f v).pexpire now ttl).deadline? = some (now + ttl) :=
  deadline?_pexpire (by simp [hset])

end Key

end Redis
