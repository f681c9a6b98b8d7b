import Mathlib.Data.Finset.Card
import WayfinderRouter.Ordered.BoundedMap

/-!
# Insertions

Values are inserted under keys of their own, one after the other. The last value of a key stays.

## Main definitions

- `insertAll` — the map after the insertions

## Main results

- `lookup_insertAll` — the last value of a key, or the old one
- `length_insertAll` — the map grows by the keys that are new
-/

namespace Ordered

variable {K V : Type*} [LinearOrder K] {key : V → K} {values : List V} {m : List (K × V)}

/-- Insert values under their keys. -/
def insertAll (key : V → K) (values : List V) (m : List (K × V)) : List (K × V) :=
  values.foldl (fun m v => upsert (key v) (fun _ => v) m) m

theorem Sorted.insertAll (h : Sorted m) (values : List V) : Sorted (insertAll key values m) := by
  induction values generalizing m with
  | nil => exact h
  | cons v values ih => exact ih h.upsert

/-- The last value of a key stays, and other keys keep theirs. -/
theorem lookup_insertAll (h : Sorted m) (k : K) :
    lookup k (insertAll key values m) =
      (values.reverse.find? fun v => key v = k).or (lookup k m) := by
  induction values generalizing m with
  | nil => rfl
  | cons v values ih =>
    have hupsert : lookup k (upsert (key v) (fun _ => v) m) =
        ([v].find? fun v => key v = k).or (lookup k m) := by
      rw [lookup_upsert h]
      by_cases hk : k = key v
      · rw [if_pos hk, List.find?_cons_of_pos (by simpa using hk.symm)]
        rfl
      · rw [if_neg hk, List.find?_cons_of_neg (by simpa using Ne.symm hk)]
        rfl
    rw [List.reverse_cons, List.find?_append, Option.or_assoc, ← hupsert]
    exact ih h.upsert

/-- The value of a key is that of the first entry of the key. -/
theorem lookup_eq_find? (k : K) (m : List (K × V)) :
    lookup k m = (m.find? fun e => e.1 = k).map Prod.snd := by
  induction m with
  | nil => rfl
  | cons e m ih =>
    obtain ⟨k₁, v⟩ := e
    rw [lookup]
    by_cases hk : k₁ = k
    · rw [if_pos hk, List.find?_cons_of_pos (by simpa using hk)]
      rfl
    · rw [if_neg hk, List.find?_cons_of_neg (by simpa using hk), ih]

/-- An entry after the insertions is an old one or that of an inserted value. -/
theorem mem_insertAll {e : K × V} (he : e ∈ insertAll key values m) :
    e ∈ m ∨ ∃ v ∈ values, e = (key v, v) := by
  induction values generalizing m with
  | nil => exact .inl he
  | cons v values ih =>
    rcases ih he with hold | ⟨v', hv', rfl⟩
    · rcases mem_upsert hold with hold | rfl | ⟨_, _, rfl⟩
      · exact .inl hold
      · exact .inr ⟨v, List.mem_cons_self, rfl⟩
      · exact .inr ⟨v, List.mem_cons_self, rfl⟩
    · exact .inr ⟨v', List.mem_cons_of_mem _ hv', rfl⟩

theorem mem_keys_insertAll {k : K} :
    k ∈ (insertAll key values m).map Prod.fst ↔ k ∈ m.map Prod.fst ∨ k ∈ values.map key := by
  induction values generalizing m with
  | nil => simp [insertAll]
  | cons v values ih =>
    show k ∈ (insertAll key values (upsert (key v) (fun _ => v) m)).map Prod.fst ↔ _
    rw [ih, mem_keys_upsert, List.map_cons, List.mem_cons]
    tauto

/-- The keys of the values that are not in the map. -/
def newKeys (key : V → K) (values : List V) (m : List (K × V)) : Finset K :=
  ((values.map key).filter fun k => (lookup k m).isNone).toFinset

/-- The map grows by the new keys. -/
theorem length_insertAll (h : Sorted m) :
    (insertAll key values m).length = m.length + (newKeys key values m).card := by
  have hsplit : ((insertAll key values m).map Prod.fst).toFinset =
      (m.map Prod.fst).toFinset ∪ newKeys key values m := by
    ext k
    simp only [newKeys, List.mem_toFinset, Finset.mem_union, List.mem_filter,
      mem_keys_insertAll, Option.isNone_iff_eq_none, lookup_eq_none_iff]
    tauto
  have hdisjoint : Disjoint (m.map Prod.fst).toFinset (newKeys key values m) := by
    rw [Finset.disjoint_left]
    intro k hk hnew
    simp only [newKeys, List.mem_toFinset, List.mem_filter, Option.isNone_iff_eq_none,
      lookup_eq_none_iff] at hk hnew
    exact hnew.2 hk
  rw [← (h.insertAll values).card_keys, hsplit, Finset.card_union_of_disjoint hdisjoint,
    h.card_keys]

/-- Maps that hold the same values are equal. -/
theorem Sorted.ext_lookup {m' : List (K × V)} (h : Sorted m) (h' : Sorted m')
    (heq : ∀ k, lookup k m = lookup k m') : m = m' := by
  have hnodup : ∀ {m : List (K × V)}, Sorted m → m.Nodup := fun hm =>
    List.Nodup.of_map Prod.fst (hm.imp fun hlt => ne_of_lt hlt)
  have hmem : ∀ e, e ∈ m ↔ e ∈ m' := by
    rintro ⟨k, v⟩
    constructor
    · exact fun he => mem_of_lookup ((heq k).symm.trans (h.lookup_of_mem he))
    · exact fun he => mem_of_lookup ((heq k).trans (h'.lookup_of_mem he))
  have hperm := (List.perm_ext_iff_of_nodup (hnodup h) (hnodup h')).mpr hmem
  exact hperm.eq_of_pairwise (fun a b _ _ hab hba => absurd (hab.trans hba) (lt_irrefl _))
    (List.pairwise_map.mp h) (List.pairwise_map.mp h')

/-- Among different keys, every entry is the one of its key. -/
theorem lookup_of_mem (h : (m.map Prod.fst).Nodup) {k : K} {v : V} (hmem : (k, v) ∈ m) :
    lookup k m = some v := by
  induction m with
  | nil => exact absurd hmem List.not_mem_nil
  | cons e m ih =>
    obtain ⟨k₁, v₁⟩ := e
    obtain ⟨hnew, hrest⟩ := List.nodup_cons.mp h
    rw [lookup]
    rcases List.mem_cons.mp hmem with heq | hmem
    · cases heq
      exact if_pos rfl
    · have hne : k₁ ≠ k := by
        rintro rfl
        exact hnew (List.mem_map.mpr ⟨_, hmem, rfl⟩)
      rw [if_neg hne, ih hrest hmem]

/-- Entries with different keys are all collected. -/
theorem lookup_collect {entries : List (K × V)} (h : (entries.map Prod.fst).Nodup) (k : K) :
    lookup k (collect entries) = lookup k entries := by
  have hnil : Sorted ([] : List (K × V)) := List.Pairwise.nil
  have hfold := (lookup_foldl_upsert (fun v (_ : Option V) => v) entries h hnil).2 k
  rw [collect, hfold]
  cases lookup k entries with
  | none => rfl
  | some v => rfl

end Ordered
