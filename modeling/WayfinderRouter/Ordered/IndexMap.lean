import Mathlib.Data.List.Nodup
import WayfinderRouter.Fallible
import WayfinderRouter.Ordered.Recency

/-!
# Maps in insertion order

A map keeps its entries in the order in which their keys were first inserted.

## Main definitions

- `IndexMap` — entries with different keys
- `IndexMap.insert` — a new entry at the end, or a new value for a key
- `IndexMap.shiftRemove` — the entry of a key taken out
- `IndexMap.collect` — a map whose values are computed one by one
-/

namespace WayfinderRouter

/-- Entries with different keys, in the order of their insertion. -/
@[ext] structure IndexMap (α : Type) where
  entries : List (String × α)
  nodup : (entries.map Prod.fst).Nodup

namespace IndexMap

variable {α β γ ε : Type}

instance [DecidableEq α] : DecidableEq (IndexMap α) := fun m m' =>
  decidable_of_iff (m.entries = m'.entries) (IndexMap.ext_iff).symm

def empty : IndexMap α := ⟨[], List.nodup_nil⟩

def keys (m : IndexMap α) : List String := m.entries.map Prod.fst

def get (m : IndexMap α) (key : String) : Option α := m.entries.lookup key

/-- The entries with the value of a key changed, or with a new entry. -/
def insertEntry (key : String) (value : α) (l : List (String × α)) : List (String × α) :=
  if key ∈ l.map Prod.fst then l.map fun e => if e.1 = key then (key, value) else e
  else l ++ [(key, value)]

theorem map_fst_insertEntry (key : String) (value : α) (l : List (String × α)) :
    (insertEntry key value l).map Prod.fst =
      if key ∈ l.map Prod.fst then l.map Prod.fst else l.map Prod.fst ++ [key] := by
  unfold insertEntry
  split
  · rw [List.map_map]
    refine List.map_congr_left fun e _ => ?_
    by_cases h : e.1 = key
    · simp [h]
    · simp [h]
  · rw [List.map_append]
    rfl

def insert (m : IndexMap α) (key : String) (value : α) : IndexMap α where
  entries := insertEntry key value m.entries
  nodup := by
    rw [map_fst_insertEntry]
    split
    · exact m.nodup
    · next h =>
      rw [← List.concat_eq_append]
      exact m.nodup.concat h

/-- The map with the values changed. -/
def map (f : α → β) (m : IndexMap α) : IndexMap β where
  entries := m.entries.map fun e => (e.1, f e.2)
  nodup := by
    rw [List.map_map]
    exact m.nodup

/-- The map without the entry of a key; the others keep their order. -/
def shiftRemove (m : IndexMap α) (key : String) : IndexMap α where
  entries := Recency.remove key m.entries
  nodup := Recency.nodup_remove m.nodup

/-- An entry that is taken out and put back stands at the end. -/
theorem entries_insert_shiftRemove (m : IndexMap α) (key : String) (value : α) :
    ((m.shiftRemove key).insert key value).entries = Recency.use key value m.entries :=
  if_neg Recency.notMem_keys_remove

/-- The entries after an insertion. -/
theorem mem_insert {m : IndexMap α} {key : String} {value : α} {e : String × α} :
    e ∈ (m.insert key value).entries ↔ e = (key, value) ∨ e ∈ m.entries ∧ e.1 ≠ key := by
  simp only [insert, insertEntry]
  split
  · next hkey =>
    rw [List.mem_map]
    constructor
    · rintro ⟨old, hold, rfl⟩
      by_cases h : old.1 = key
      · exact .inl (if_pos h)
      · rw [if_neg h]
        exact .inr ⟨hold, h⟩
    · rintro (rfl | ⟨hold, h⟩)
      · obtain ⟨old, hold, hfst⟩ := List.mem_map.mp hkey
        exact ⟨old, hold, if_pos hfst⟩
      · exact ⟨e, hold, if_neg h⟩
  · next hkey =>
    rw [List.mem_append, List.mem_singleton, or_comm]
    refine or_congr_right ⟨fun hold => ⟨hold, ?_⟩, And.left⟩
    intro h
    exact hkey (List.mem_map.mpr ⟨e, hold, h⟩)

theorem mem_keys_insert {m : IndexMap α} {key key' : String} {value : α} :
    key' ∈ (m.insert key value).keys ↔ key' ∈ m.keys ∨ key' = key := by
  show key' ∈ (insertEntry key value m.entries).map Prod.fst ↔ key' ∈ m.entries.map Prod.fst ∨ _
  rw [map_fst_insertEntry]
  split
  · next hkey => exact ⟨.inl, fun h => h.elim id fun heq => heq ▸ hkey⟩
  · rw [List.mem_append, List.mem_singleton]

/-- The map whose values are computed from entries, one by one. -/
def collect (f : String → β → Except ε α) (l : List (String × β)) : Except ε (IndexMap α) :=
  l.foldlM (fun m e => m.insert e.1 <$> f e.1 e.2) empty

/-- A written map is read back when each value is. -/
theorem foldlM_insert_eq_ok {f : String → β → Except ε γ} {g : α → β} {h : α → γ}
    {p : String → γ → Prop} {l : List (String × α)}
    (hf : ∀ e ∈ l, ∀ c, f e.1 (g e.2) = .ok c ↔ c = h e.2 ∧ p e.1 (h e.2))
    (m m' : IndexMap γ) (hl : (l.map Prod.fst).Nodup) (hm : ∀ key ∈ l.map Prod.fst, key ∉ m.keys) :
    (l.map fun e => (e.1, g e.2)).foldlM (fun m e => m.insert e.1 <$> f e.1 e.2) m = .ok m' ↔
      m'.entries = m.entries ++ l.map (fun e => (e.1, h e.2)) ∧ ∀ e ∈ l, p e.1 (h e.2) := by
  induction l generalizing m with
  | nil =>
    rw [List.map_nil, List.foldlM_nil, List.map_nil, List.append_nil]
    constructor
    · intro heq
      cases heq
      exact ⟨rfl, fun e he => absurd he List.not_mem_nil⟩
    · rintro ⟨heq, -⟩
      exact congrArg Except.ok (IndexMap.ext heq.symm)
  | cons e l ih =>
    obtain ⟨hnew, htail⟩ := List.nodup_cons.mp hl
    have hfresh : e.1 ∉ m.entries.map Prod.fst := hm e.1 List.mem_cons_self
    have hinsert : ∀ c, (m.insert e.1 c).entries = m.entries ++ [(e.1, c)] :=
      fun c => if_neg hfresh
    have hkeys : ∀ c, ∀ key ∈ l.map Prod.fst, key ∉ (m.insert e.1 c).keys := by
      intro c key hkey hmem
      rw [keys, hinsert, List.map_append, List.mem_append] at hmem
      rcases hmem with hmem | hmem
      · exact hm key (List.mem_cons_of_mem _ hkey) hmem
      · rw [List.map_cons, List.map_nil, List.mem_singleton] at hmem
        exact hnew (hmem ▸ hkey)
    have hrest := fun c => ih (fun e' he' => hf e' (List.mem_cons_of_mem _ he')) (m.insert e.1 c)
      htail (hkeys c)
    rw [List.map_cons, List.foldlM_cons, bind_eq_ok, List.map_cons, List.forall_mem_cons]
    constructor
    · rintro ⟨m₁, hm₁, hfold⟩
      obtain ⟨c, hc, rfl⟩ := map_eq_ok.mp hm₁
      obtain ⟨rfl, hp⟩ := (hf e List.mem_cons_self c).mp hc
      obtain ⟨hentries, hps⟩ := (hrest _).mp hfold
      rw [hinsert, List.append_assoc] at hentries
      exact ⟨hentries, hp, hps⟩
    · rintro ⟨hentries, hp, hps⟩
      refine ⟨m.insert e.1 (h e.2), map_eq_ok.mpr ⟨_, (hf e List.mem_cons_self _).mpr ⟨rfl, hp⟩,
        rfl⟩, (hrest _).mpr ⟨?_, hps⟩⟩
      rw [hinsert, List.append_assoc]
      exact hentries

theorem collect_eq_ok {f : String → β → Except ε γ} {g : α → β} {h : α → γ}
    {p : String → γ → Prop} (m : IndexMap α)
    (hf : ∀ e ∈ m.entries, ∀ c, f e.1 (g e.2) = .ok c ↔ c = h e.2 ∧ p e.1 (h e.2))
    {m' : IndexMap γ} :
    collect f (m.entries.map fun e => (e.1, g e.2)) = .ok m' ↔
      m' = m.map h ∧ ∀ e ∈ m.entries, p e.1 (h e.2) := by
  rw [collect, foldlM_insert_eq_ok hf empty m' m.nodup fun _ _ => List.not_mem_nil,
    IndexMap.ext_iff]
  rfl

/-- Every value of a map that was read has been read under its key. -/
theorem of_collect {f : String → β → Except ε α} {l : List (String × β)} {m : IndexMap α}
    (h : collect f l = .ok m) : ∀ e ∈ m.entries, ∃ b, f e.1 b = .ok e.2 := by
  have hfold : ∀ (l : List (String × β)) (m₀ : IndexMap α),
      (∀ e ∈ m₀.entries, ∃ b, f e.1 b = .ok e.2) →
        l.foldlM (fun m e => m.insert e.1 <$> f e.1 e.2) m₀ = .ok m →
          ∀ e ∈ m.entries, ∃ b, f e.1 b = .ok e.2 := by
    intro l
    induction l with
    | nil =>
      intro m₀ hm₀ heq
      cases heq
      exact hm₀
    | cons e l ih =>
      intro m₀ hm₀ heq
      obtain ⟨m₁, hm₁, hrest⟩ := bind_eq_ok.mp heq
      obtain ⟨a, ha, rfl⟩ := map_eq_ok.mp hm₁
      refine ih _ (fun e' he' => ?_) hrest
      -- an entry of the new map is the new one or an old one
      rcases mem_insert.mp he' with rfl | ⟨hold, -⟩
      · exact ⟨e.2, ha⟩
      · exact hm₀ e' hold
  exact hfold l empty (fun e he => absurd he List.not_mem_nil) h

theorem mem_keys_iff {m : IndexMap α} {key : String} : key ∈ m.keys ↔ (m.get key).isSome := by
  unfold keys get
  induction m.entries with
  | nil => simp
  | cons e l ih =>
    rw [List.map_cons, List.mem_cons, List.lookup_cons, ih]
    by_cases h : key = e.1
    · simp [h]
    · rw [beq_false_of_ne h]
      simp [h]

theorem get_eq_some_iff {m : IndexMap α} {key : String} {value : α} :
    m.get key = some value ↔ (key, value) ∈ m.entries := by
  obtain ⟨l, hnodup⟩ := m
  show l.lookup key = some value ↔ (key, value) ∈ l
  induction l with
  | nil => simp
  | cons e l ih =>
    rw [List.map_cons, List.nodup_cons] at hnodup
    rw [List.lookup_cons, List.mem_cons]
    by_cases h : key = e.1
    · subst h
      have hnew : (e.1, value) ∉ l := fun hmem => hnodup.1 (List.mem_map.mpr ⟨_, hmem, rfl⟩)
      simp [hnew, Prod.ext_iff, eq_comm]
    · rw [beq_false_of_ne h, ih hnodup.2]
      simp [h, Prod.ext_iff]

theorem keys_map (f : α → β) (m : IndexMap α) : (m.map f).keys = m.keys := by
  unfold keys map
  rw [List.map_map]
  rfl

end IndexMap

end WayfinderRouter
