import WayfinderRouter.SharedState.Cache.Isolation

/-!
# Where the entries of the shared cache come from

A script takes entries away, makes them expire, or writes the one entry of its put. So every entry
is a value that was put under its digest, whatever happens to the index and to the generation.

## Main definitions

- `Descends` — the entries of a state are entries of an earlier one
- `Values` — every entry satisfies a property of its digest and its value

## Main results

- `Values.sharedCacheGet` — a get answers with such a value
- `Values.sharedCachePut` — a put adds its own value
-/

namespace WayfinderRouter.Cache

open Redis Timed

/-- Every entry of the later state has the value of an entry of the earlier one. -/
def Descends (s s' : State) : Prop :=
  ∀ d st', s'.entries d = some st' → ∃ st, s.entries d = some st ∧ st.value = st'.value

/-- Every entry satisfies `P`. -/
def Values (P : String → Body → Prop) (s : State) : Prop :=
  ∀ d st, s.entries d = some st → P d st.value

section

variable {P Q : String → Body → Prop} {s s' s'' : State} {now : ℕ} {a : PutArgs}

theorem Descends.of_entries (h : ∀ d st, s'.entries d = some st → s.entries d = some st) :
    Descends s s' :=
  fun d st hst => ⟨st, h d st hst, rfl⟩

theorem Descends.trans (h : Descends s s') (h' : Descends s' s'') : Descends s s'' := by
  intro d st'' hst''
  obtain ⟨st', hst', hvalue'⟩ := h' d st'' hst''
  obtain ⟨st, hst, hvalue⟩ := h d st' hst'
  exact ⟨st, hst, hvalue.trans hvalue'⟩

theorem Values.descends (values : Values P s) (h : Descends s s') : Values P s' := by
  intro d st' hst'
  obtain ⟨st, hst, hvalue⟩ := h d st' hst'
  rw [← hvalue]
  exact values d st hst

theorem Values.mono (values : Values P s) (h : ∀ d value, P d value → Q d value) : Values Q s :=
  fun d st hst => h d st.value (values d st hst)

theorem values_initial : Values P initial := fun d st hst => by simp [initial] at hst

/-! ### Scripts -/

theorem descends_live : Descends s (s.live now) := by
  refine .of_entries fun d st hst => ?_
  by_cases hl : (s.entries d).Lapsed now
  · simp [State.live, Key.live_of_lapsed hl] at hst
  · simpa [State.live, Key.live_of_not_lapsed hl] using hst

theorem descends_switchGeneration (generation : String) :
    Descends s (s.switchGeneration generation) := by
  refine .of_entries fun d st hst => ?_
  rw [State.switchGeneration] at hst
  split at hst
  · exact hst
  · change (if d ∈ s.index.ordered then none else s.entries d) = some st at hst
    split at hst
    · cases hst
    · exact hst

theorem descends_evictOne (victim : String) : Descends s (s.evictOne victim) := by
  refine .of_entries fun d st hst => ?_
  rw [entries_evictOne] at hst
  split at hst
  · cases hst
  · exact hst

theorem descends_evict (maxEntries maxBytes fuel : ℕ) :
    Descends s (evict maxEntries maxBytes fuel s) := by
  induction fuel generalizing s with
  | zero => exact .of_entries fun d st hst => hst
  | succ fuel ih =>
    simp only [evict]
    split
    · split
      · exact .of_entries fun d st hst => hst
      · next victim _ => exact (descends_evictOne victim).trans ih
    · exact .of_entries fun d st hst => hst

/-- What the opening of a script leaves. -/
theorem descends_open (generation : String) (now : ℕ) :
    Descends s ((s.live now).switchGeneration generation) :=
  descends_live.trans (descends_switchGeneration generation)

theorem Values.getScript (values : Values P s) (digest generation : String) :
    Values P (sharedCacheGetScript digest generation now s).2 ∧
      ∀ value, (sharedCacheGetScript digest generation now s).1 = some value → P digest value := by
  have hopen := values.descends (descends_open generation now)
  simp only [sharedCacheGetScript]
  split
  · refine ⟨?_, by split <;> simp⟩
    split
    · exact hopen
    · exact hopen
  · next entry hhit =>
    obtain ⟨st, hst, rfl⟩ := Option.map_eq_some_iff.mp hhit
    refine ⟨hopen, fun value hvalue => ?_⟩
    rw [← Option.some.inj hvalue]
    exact hopen digest st hst

theorem Values.setEntry (values : Values P s) :
    Values (fun d value => P d value ∨ d = a.digest ∧ value = a.value) (s.setEntry a) := by
  intro d st hst
  rw [entries_setEntry] at hst
  split at hst
  · next hd =>
    rw [← Option.some.inj hst]
    exact .inr ⟨hd, rfl⟩
  · exact .inl (values d st hst)

theorem Values.putScript (values : Values P s) :
    Values (fun d value => P d value ∨ d = a.digest ∧ value = a.value)
      (sharedCachePutScript a now s).2 := by
  have hopen := values.descends (descends_open a.generation now)
  simp only [sharedCachePutScript]
  split
  · exact hopen.mono fun _ _ => .inl
  · split
    · exact hopen.mono fun _ _ => .inl
    · split
      · exact hopen.setEntry
      · exact (hopen.setEntry.descends fun d st hst => entries_account hst).descends
          (descends_evict _ _ _)

/-! ### Operations -/

theorem Values.sharedCacheGet (values : Values P s) (generation key : String) (now : ℕ) :
    Values P (sharedCacheGet generation key now s).2 ∧
      ∀ value, (sharedCacheGet generation key now s).1 = .ok (some value) → P key value := by
  rw [Cache.sharedCacheGet]
  split
  · exact ⟨values, fun value h => by cases h⟩
  · exact (values.getScript key generation).imp_right fun h value hvalue =>
      h value (Except.ok.inj hvalue)

theorem Values.sharedCachePut (values : Values P s) (put : Put) :
    Values (fun d value => P d value ∨ d = put.key ∧ value = put.value)
      (sharedCachePut put now s).2 := by
  rw [Cache.sharedCachePut]
  split
  · exact values.mono fun _ _ => .inl
  · exact values.mono fun _ _ => .inl
  · next args hargs =>
    obtain ⟨hdigest, -, hvalue, -⟩ := putArgs_some hargs
    rw [← hdigest, ← hvalue]
    exact values.putScript

end

end WayfinderRouter.Cache
