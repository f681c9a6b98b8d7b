import WayfinderRouter.SharedState.Cache.Model

/-!
# Generation isolation of the shared cache

Replicas under different configuration generations share one cache, and a replica is served
a response only from its own generation. This rests on the index: a generation switch
deletes what the index lists, so every entry has to be listed.

A put whose expiry the server refuses ends between the write of the entry and the write of
the index. `Listed` leaves out the puts that would create an entry in that way.

## Main definitions

- `Latest` — the most recent put of a digest, read off the history
- `Indexed` — every entry is listed, and is the latest put of its digest
-/

namespace WayfinderRouter.Cache

open Redis Timed

/-- The call passes the checks of its operation and runs on the server. -/
def Call.Sent : Call → Prop
  | .get generation key => ¬InvalidInputs generation key
  | .put p => ∃ a, putArgs p = .ok (some a)
  | .clear generation => ¬InvalidGeneration generation

/-- An operation under the given generation that is no clear and no put of the digest. -/
def Call.Leaves (generation digest : String) : Call → Prop
  | .get generation' _ => generation' = generation
  | .put p => p.generation = generation ∧ p.key ≠ digest
  | .clear _ => False

/-- The most recent put of the digest was made under the generation with the value, and only
operations under the same generation, and no clear, ran since. -/
def Latest (generation digest : String) (value : Body) (h : List (Event ℕ Call Reply)) : Prop :=
  ∃ newer e older put, h = newer ++ e :: older ∧ e.call = .put put ∧ e.call.Sent ∧
    put.generation = generation ∧ put.key = digest ∧ put.value = value ∧
    ∀ e' ∈ newer, e'.call.Sent → e'.call.Leaves generation digest

/-- A put whose expiry is refused is for a digest that the index lists already. -/
def Listed (_ : List (Event ℕ Call Reply)) (s : State) (now : ℕ) : Call → Prop
  | .put put => ∀ a, putArgs put = .ok (some a) → TtlRefused a now →
    ((s.live now).switchGeneration a.generation).index.get a.digest ≠ none
  | _ => True

/-- Every entry is listed, and is the latest put of its digest under the current generation. -/
structure Indexed (h : List (Event ℕ Call Reply)) (s : State) : Prop where
  listed : ∀ d, s.entries d ≠ none → s.index.get d ≠ none
  latest : ∀ d st, s.entries d = some st →
    ∃ generation, s.generation = some generation ∧ Latest generation d st.value h

/-- The cache is under the given generation, every entry is listed and satisfies `P`. -/
structure Under (generation : String) (P : String → Body → Prop) (s : State) : Prop where
  current : s.generation = some generation
  listed : ∀ d, s.entries d ≠ none → s.index.get d ≠ none
  holds : ∀ d st, s.entries d = some st → P d st.value

section History

variable {generation digest : String} {value : Body} {h : List (Event ℕ Call Reply)}
  {e : Event ℕ Call Reply}

theorem Latest.cons (latest : Latest generation digest value h)
    (hleaves : e.call.Sent → e.call.Leaves generation digest) :
    Latest generation digest value (e :: h) := by
  obtain ⟨newer, p, older, put, rfl, hput⟩ := latest
  obtain ⟨hcall, hsent, hg, hk, hv, hnewer⟩ := hput
  refine ⟨e :: newer, p, older, put, rfl, hcall, hsent, hg, hk, hv, fun e' he' => ?_⟩
  rcases List.mem_cons.mp he' with rfl | he'
  · exact hleaves
  · exact hnewer e' he'

theorem latest_put {put : Put} (hcall : e.call = .put put) (hsent : e.call.Sent) :
    Latest put.generation put.key put.value (e :: h) :=
  ⟨[], e, h, put, rfl, hcall, hsent, rfl, rfl, rfl, by simp⟩

end History

section Scripts

variable {generation digest : String} {P : String → Body → Prop} {s : State} {now : ℕ}
  {a : PutArgs} {h : List (Event ℕ Call Reply)}

/-- Deleting what the index lists deletes every entry. -/
theorem Indexed.delEntries (ind : Indexed h s) (d : String) :
    delEntries s.index.ordered s.entries d = none := by
  rw [Cache.delEntries]
  split
  · rfl
  · next hd =>
    by_contra he
    exact hd (ZSet.mem_ordered.mpr (ind.listed d he))

theorem Indexed.live (ind : Indexed h s) : Indexed h (s.live now) := by
  have hentry : ∀ d st, (s.live now).entries d = some st → s.entries d = some st := by
    intro d st hst
    by_cases hl : (s.entries d).Lapsed now
    · simp [State.live, Key.live_of_lapsed hl] at hst
    · simpa [State.live, Key.live_of_not_lapsed hl] using hst
  refine ⟨fun d hd => ?_, fun d st hst => ind.latest d st (hentry d st hst)⟩
  obtain ⟨st, hst⟩ := Option.ne_none_iff_exists'.mp hd
  exact ind.listed d (by simp [hentry d st hst])

/-- **The generation switch**: what is left was put under the new generation. -/
theorem Indexed.switchGeneration (ind : Indexed h s) (generation : String) :
    Under generation (fun d value => Latest generation d value h)
      ((s.live now).switchGeneration generation) := by
  have live : Indexed h (s.live now) := ind.live
  rw [State.switchGeneration]
  split
  · next hcurrent =>
    refine ⟨hcurrent, live.listed, fun d st hst => ?_⟩
    obtain ⟨generation', hg, latest⟩ := live.latest d st hst
    obtain rfl : generation' = generation := Option.some.inj (hg.symm.trans hcurrent)
    exact latest
  · refine ⟨rfl, fun d hd => absurd (live.delEntries d) hd, fun d st hst => ?_⟩
    exact absurd (hst.symm.trans (live.delEntries d)) (by simp)

theorem Under.getScript
    (under : Under generation P ((s.live now).switchGeneration generation)) :
    Under generation P (sharedCacheGetScript digest generation now s).2 ∧
      ∀ value, (sharedCacheGetScript digest generation now s).1 = some value → P digest value := by
  simp only [sharedCacheGetScript]
  split
  · next hmiss =>
    refine ⟨?_, by split <;> simp⟩
    split
    · refine ⟨under.current, fun d hd => ?_, under.holds⟩
      have hne : d ≠ digest := by
        rintro rfl
        exact hd (Option.map_eq_none_iff.mp hmiss)
      rw [Hash.get_del, if_neg hne]
      exact under.listed d hd
    · exact under
  · next entry hhit =>
    obtain ⟨st, hst, rfl⟩ := Option.map_eq_some_iff.mp hhit
    refine ⟨⟨under.current, fun d hd => ?_, under.holds⟩, fun value hv => ?_⟩
    · rw [Hash.get_set]
      split
      · simp
      · exact under.listed d hd
    · obtain rfl := Option.some.inj hv
      exact under.holds digest st hst

theorem entries_evictOne (victim d : String) :
    (s.evictOne victim).entries d = if d = victim then none else s.entries d :=
  Function.update_apply s.entries victim none d

theorem Under.evictOne (under : Under generation P s) (victim : String) :
    Under generation P (s.evictOne victim) := by
  refine ⟨under.current, fun d hd => ?_, fun d st hst => ?_⟩
  · rw [entries_evictOne] at hd
    rw [State.evictOne, Hash.get_del]
    split at hd
    · exact absurd rfl hd
    · next hne =>
      rw [if_neg hne]
      exact under.listed d hd
  · rw [entries_evictOne] at hst
    split at hst
    · simp at hst
    · exact under.holds d st hst

theorem Under.evict (under : Under generation P s) (maxEntries maxBytes fuel : ℕ) :
    Under generation P (evict maxEntries maxBytes fuel s) := by
  induction fuel generalizing s with
  | zero => exact under
  | succ fuel ih =>
    simp only [Cache.evict]
    split
    · split
      · exact under
      · next victim _ => exact ih (under.evictOne victim)
    · exact under

theorem entries_setEntry (d : String) :
    (s.setEntry a).entries d = if d = a.digest then some ⟨a.value, none⟩ else s.entries d :=
  Function.update_apply s.entries a.digest _ d

/-- After the write of its entry the put stands for its digest. -/
theorem holds_setEntry (under : Under generation P s) (d : String) (st : Stored Body)
    (hst : (s.setEntry a).entries d = some st) :
    if d = a.digest then st.value = a.value else P d st.value := by
  rw [entries_setEntry] at hst
  split at hst
  · next hd =>
    rw [if_pos hd, ← Option.some.inj hst]
  · next hd =>
    rw [if_neg hd]
    exact under.holds d st hst

/-- The expiry of an entry does not change its value. -/
theorem entries_account {d : String} {st : Stored Body}
    (hst : (s.account a now).entries d = some st) :
    ∃ st', s.entries d = some st' ∧ st'.value = st.value := by
  simp only [State.account] at hst
  split at hst
  · by_cases hd : d = a.digest
    · subst hd
      rw [Function.update_self] at hst
      obtain ⟨st', hst', rfl⟩ := Option.map_eq_some_iff.mp hst
      exact ⟨st', hst', rfl⟩
    · rw [Function.update_of_ne hd] at hst
      exact ⟨st, hst, rfl⟩
  · exact ⟨st, hst, rfl⟩

theorem Under.setEntry (under : Under generation P s) (hlisted : s.index.get a.digest ≠ none) :
    Under generation (fun d value => if d = a.digest then value = a.value else P d value)
      (s.setEntry a) := by
  refine ⟨under.current, fun d hd => ?_, holds_setEntry under⟩
  rw [entries_setEntry] at hd
  split at hd
  · next hkey => rwa [hkey]
  · exact under.listed d hd

theorem Under.account (under : Under generation P s) :
    Under generation (fun d value => if d = a.digest then value = a.value else P d value)
      ((s.setEntry a).account a now) := by
  refine ⟨under.current, fun d hd => ?_, fun d st hst => ?_⟩
  · obtain ⟨st, hst⟩ := Option.ne_none_iff_exists'.mp hd
    obtain ⟨st', hst', _⟩ := entries_account hst
    rw [State.account, Hash.get_set]
    split
    · simp
    · next hne =>
      rw [entries_setEntry, if_neg hne] at hst'
      exact under.listed d (by simp [hst'])
  · obtain ⟨st', hst', hvalue⟩ := entries_account hst
    rw [← hvalue]
    exact holds_setEntry under d st' hst'

/-- A put whose bounds were checked stands for its digest, unless it was evicted again. -/
theorem Under.putScript
    (under : Under a.generation P ((s.live now).switchGeneration a.generation))
    (hbounds : ¬(a.maxEntries < 1 ∨ a.maxBytes < 1) ∧ ¬a.maxBytes < a.bodyBytes)
    (hlisted : TtlRefused a now →
      ((s.live now).switchGeneration a.generation).index.get a.digest ≠ none) :
    Under a.generation (fun d value => if d = a.digest then value = a.value else P d value)
      (sharedCachePutScript a now s).2 := by
  simp only [sharedCachePutScript, if_neg hbounds.1, if_neg hbounds.2]
  split
  · next hrefused => exact under.setEntry (hlisted hrefused)
  · exact under.account.evict _ _ _

end Scripts

section Runs

variable {s : State} {now : ℕ} {a : PutArgs} {h : List (Event ℕ Call Reply)}

/-- A call that is not sent changes nothing. -/
theorem serve_of_not_sent {call : Call} (hsent : ¬call.Sent) : (serve now call s).2 = s := by
  cases call with
  | get generation key =>
    rw [Call.Sent, not_not] at hsent
    simp [serve, sharedCacheGet, hsent]
  | put put =>
    simp only [serve, sharedCachePut]
    split
    · rfl
    · rfl
    · next a ha => exact absurd ⟨a, ha⟩ hsent
  | clear generation =>
    rw [Call.Sent, not_not] at hsent
    simp [serve, sharedCacheClear, hsent]

/-- Entries under a generation stay the latest after an operation that leaves them. -/
theorem Under.indexed {generation : String} {P : String → Body → Prop} {e : Event ℕ Call Reply}
    (under : Under generation P s)
    (latest : ∀ d value, P d value → Latest generation d value (e :: h)) : Indexed (e :: h) s :=
  ⟨under.listed, fun d st hst => ⟨generation, under.current, latest d _ (under.holds d st hst)⟩⟩

theorem Indexed.serve (ind : Indexed h s) (call : Call) (hok : Listed h s now call) :
    Indexed (Service.event serve now call s :: h) (serve now call s).2 := by
  by_cases hsent : call.Sent
  · cases call with
    | get generation key =>
      have under : Under generation (fun d value => Latest generation d value h)
          (sharedCacheGetScript key generation now s).2 :=
        (ind.switchGeneration generation).getScript.1
      have hstate : (Cache.serve now (.get generation key) s).2 =
          (sharedCacheGetScript key generation now s).2 := by
        simp [Cache.serve, sharedCacheGet, show ¬InvalidInputs generation key from hsent]
      rw [hstate]
      exact under.indexed fun d value latest => latest.cons fun _ => rfl
    | put put =>
      obtain ⟨a, ha⟩ := hsent
      obtain ⟨hdigest, hgeneration, hvalue, _, _, hbounds⟩ := putArgs_some ha
      have under := (ind.switchGeneration a.generation).putScript hbounds (hok a ha)
      have hstate : (Cache.serve now (.put put) s).2 = (sharedCachePutScript a now s).2 := by
        simp [Cache.serve, sharedCachePut, ha]
      rw [hstate]
      refine under.indexed fun d value hd => ?_
      split at hd
      · next hkey =>
        rw [hkey, hd, hdigest, hgeneration, hvalue]
        exact latest_put rfl ⟨a, ha⟩
      · next hkey =>
        refine hd.cons fun _ => ⟨hgeneration.symm, ?_⟩
        rw [← hdigest]
        exact Ne.symm hkey
    | clear generation =>
      have hstate : (Cache.serve now (.clear generation) s).2 =
          (sharedCacheClearScript now s).2 := by
        simp [Cache.serve, sharedCacheClear, show ¬InvalidGeneration generation from hsent]
      have live : Indexed h (s.live now) := ind.live
      rw [hstate]
      exact ⟨fun d hd => absurd (live.delEntries d) hd,
        fun d st hst => absurd (hst.symm.trans (live.delEntries d)) (by simp)⟩
  · rw [serve_of_not_sent hsent]
    refine ⟨ind.listed, fun d st hst => ?_⟩
    obtain ⟨generation, hg, latest⟩ := ind.latest d st hst
    exact ⟨generation, hg, latest.cons fun hs => absurd hs hsent⟩

end Runs

theorem indexed_of_run {h : List (Event ℕ Call Reply)} {s : State}
    (run : Service.Run serve Listed initial h s) : Indexed h s :=
  run.invariant ⟨fun _ hd => absurd rfl hd, fun _ _ hst => by simp [initial] at hst⟩
    fun _ _ _ call ind _ hok => ind.serve call hok

/-- **Generation isolation.** When no put creates an entry whose expiry is refused: every entry
is listed in the index, a switch to another generation leaves no entry, and a get returns a
value only if the most recent put of its digest was made with that value under the get's own
generation, with no clear and no operation of another generation since. -/
theorem generation_isolation {now : ℕ} {h : List (Event ℕ Call Reply)} {s : State}
    (run : Service.Run serve Listed initial h s) :
    (∀ d, s.entries d ≠ none → s.index.get d ≠ none) ∧
    (∀ generation, s.generation ≠ some generation →
      ∀ d, ((s.live now).switchGeneration generation).entries d = none) ∧
    ∀ generation key value,
      (serve now (.get generation key) s).1 = .got (.ok (some value)) →
        Latest generation key value h := by
  have ind := indexed_of_run run
  refine ⟨ind.listed, fun generation hother d => ?_, fun generation key value hgot => ?_⟩
  · have live : Indexed h (s.live now) := ind.live
    have hother' : ¬(s.live now).generation = some generation := hother
    rw [State.switchGeneration, if_neg hother']
    exact live.delEntries d
  · simp only [serve, sharedCacheGet] at hgot
    split at hgot
    · simp at hgot
    · exact (ind.switchGeneration generation).getScript.2 value
        (Except.ok.inj (Reply.got.inj hgot))

/-- A response that is to live for ten quadrillion seconds. -/
def longLived : Put where
  generation := "g1"
  key := digestA
  value := [1, 2, 3]
  bodyBytes := 3
  ttlSeconds := .finite 10000000000000000
  maxEntries := 8
  maxBytes := 10

def shortLived : Put := { longLived with ttlSeconds := .finite 300 }

/-- A response that lives for five minutes is served under its generation. -/
theorem generation_isolation_same_generation :
    (serve 1 (.get "g1" digestA) (serve 0 (.put shortLived) initial).2).1 =
      .got (.ok (some [1, 2, 3])) ∧
    Latest "g1" digestA [1, 2, 3] [Service.event serve 0 (.put shortLived) initial] := by
  have hargs : putArgs shortLived =
      .ok (some ⟨digestA, "g1", [1, 2, 3], 3, 300000, 8, 10⟩) := by decide +kernel
  have run : Service.Run serve Listed initial
      [Service.event serve 0 (.put shortLived) initial] (serve 0 (.put shortLived) initial).2 := by
    refine .cons 0 (Call.put shortLived) .nil (by simp) fun a ha hrefused => ?_
    obtain rfl := Option.some.inj (Except.ok.inj (hargs.symm.trans ha))
    exact absurd hrefused (by decide)
  have hgot : (serve 1 (.get "g1" digestA) (serve 0 (.put shortLived) initial).2).1 =
      .got (.ok (some [1, 2, 3])) := by decide +kernel
  exact ⟨hgot, (generation_isolation run).2.2 "g1" digestA [1, 2, 3] hgot⟩

/-- The expiry of a response that is to live too long is refused after its entry was written:
the entry is not listed, and a replica under another generation is served it. -/
theorem unlisted_entry_crosses_generations :
    ¬∀ h s, Service.Run serve Service.Any initial h s → ∀ now, (∀ e ∈ h, e.time ≤ now) →
      (∀ d, s.entries d ≠ none → s.index.get d ≠ none) ∧
      ∀ generation key value,
        (serve now (.get generation key) s).1 = .got (.ok (some value)) →
          Latest generation key value h := by
  intro hall
  have run : Service.Run serve Service.Any initial
      [Service.event serve 0 (.put longLived) initial] (serve 0 (.put longLived) initial).2 :=
    .cons 0 (Call.put longLived) .nil (by simp) trivial
  have hgot : (serve 1 (.get "g2" digestA) (serve 0 (.put longLived) initial).2).1 =
      .got (.ok (some [1, 2, 3])) := by decide +kernel
  obtain ⟨_, hlatest⟩ := hall _ _ run 1 (by simp [Service.event])
  obtain ⟨newer, e, older, put, hh, hcall, _, hg, _⟩ := hlatest "g2" digestA [1, 2, 3] hgot
  have he : e ∈ [Service.event serve 0 (.put longLived) initial] := by
    rw [hh]
    simp
  obtain rfl := List.mem_singleton.mp he
  obtain rfl := Call.put.inj hcall
  exact absurd hg (by decide)

end WayfinderRouter.Cache
