import WayfinderRouter.SharedState.Cache.Model

/-!
# Byte accounting of the shared cache

The total of the meta hash against the sizes recorded for the indexed digests, and the
bounds that an accepted put leaves behind.

The put script takes the size of an entry that it replaces out of the total twice, once
before it writes the entry and once with the new size. `NoOverwrite` leaves out the puts
that replace a recorded size.

## Main definitions

- `indexedBytes` — the recorded sizes of the indexed digests
- `Balanced` — the accounting invariant
-/

namespace WayfinderRouter.Cache

open Redis Timed

/-- The sum of the sizes recorded for the digests of the index. -/
def indexedBytes (s : State) : ℤ := (s.index.keys.map fun d => (s.sizes.get d).getD 0).sum

/-- A put replaces no digest whose recorded size, under its generation, is positive. -/
def NoOverwrite (_ : List (Event ℕ Call Reply)) (s : State) (now : ℕ) : Call → Prop
  | .put put => ∀ a, putArgs put = .ok (some a) →
    (((s.live now).switchGeneration a.generation).sizes.get a.digest).getD 0 ≤ 0
  | _ => True

/-- The total is the sum of the recorded sizes, and every recorded digest is indexed. -/
structure Balanced (s : State) : Prop where
  bytes : s.bytes = s.sizes.sumBy id
  nonneg : ∀ d, 0 ≤ (s.sizes.get d).getD 0
  listed : ∀ d, s.sizes.get d ≠ none → s.index.get d ≠ none

section Steps

variable {s : State} {now : ℕ} {a : PutArgs}

theorem elim_id_eq_getD (o : Option ℤ) : o.elim 0 id = o.getD 0 := by
  cases o <;> rfl

theorem Balanced.bytes_eq_indexedBytes (bal : Balanced s) : s.bytes = indexedBytes s := by
  have hsum := Hash.sum_map_get (w := id) s.index.keys_nodup
    fun d hd => Hash.mem_keys_iff.mpr (bal.listed d hd)
  simp only [elim_id_eq_getD] at hsum
  rw [bal.bytes, indexedBytes, hsum]

theorem Balanced.bytes_nonneg (bal : Balanced s) : 0 ≤ s.bytes := by
  rw [bal.bytes]
  refine Hash.sumBy_nonneg_of_get fun d => ?_
  rw [elim_id_eq_getD]
  exact bal.nonneg d

theorem Balanced.empty {s : State} (hbytes : s.bytes = 0) (hsizes : s.sizes = ∅) : Balanced s :=
  ⟨by rw [hbytes, hsizes, Hash.sumBy_empty], by simp [hsizes], by simp [hsizes]⟩

theorem Balanced.live (bal : Balanced s) : Balanced (s.live now) :=
  ⟨bal.bytes, bal.nonneg, bal.listed⟩

theorem Balanced.switchGeneration (bal : Balanced s) (generation : String) :
    Balanced (s.switchGeneration generation) := by
  rw [State.switchGeneration]
  split
  · exact bal
  · exact .empty rfl rfl

/-- A digest leaves the accounts: its size, its index entry and its part of the total. -/
theorem Balanced.drop (bal : Balanced s) (d : String) (entries : String → Key Body) :
    Balanced { s with
      bytes := s.bytes - (s.sizes.get d).getD 0
      sizes := s.sizes.del d
      index := s.index.del d
      entries := entries } := by
  refine ⟨?_, fun f => ?_, fun f hf => ?_⟩
  · rw [Hash.sumBy_del, elim_id_eq_getD, bal.bytes]
  · rw [Hash.get_del]
    split
    · exact le_rfl
    · exact bal.nonneg f
  · rw [Hash.get_del] at hf ⊢
    split at hf
    · exact absurd rfl hf
    · next hne =>
      rw [if_neg hne]
      exact bal.listed f hf

/-- An eviction never reaches the floor of the total. -/
theorem Balanced.evictOne (bal : Balanced s) (victim : String) :
    Balanced (s.evictOne victim) := by
  have dropped := bal.drop victim (Function.update s.entries victim none)
  have hpos : 0 ≤ s.bytes - (s.sizes.get victim).getD 0 := dropped.bytes_nonneg
  rw [State.evictOne, max_eq_right hpos]
  exact dropped

theorem Balanced.evict (bal : Balanced s) (maxEntries maxBytes fuel : ℕ) :
    Balanced (evict maxEntries maxBytes fuel s) := by
  induction fuel generalizing s with
  | zero => exact bal
  | succ fuel ih =>
    simp only [Cache.evict]
    split
    · split
      · exact bal
      · next victim _ => exact ih (bal.evictOne victim)
    · exact bal

/-- Without an indexed digest there are no bytes. -/
theorem Balanced.bytes_of_index (bal : Balanced s) (hindex : s.index.keys.length = 0) :
    s.bytes = 0 := by
  rw [bal.bytes_eq_indexedBytes, indexedBytes, List.length_eq_zero_iff.mp hindex]
  rfl

/-- **The eviction loop** ends within its fuel and within the bounds. -/
theorem Balanced.evict_bounded (bal : Balanced s) {maxEntries maxBytes fuel : ℕ}
    (hfuel : s.index.keys.length ≤ fuel) :
    (Cache.evict maxEntries maxBytes fuel s).index.keys.length ≤ maxEntries ∧
      (Cache.evict maxEntries maxBytes fuel s).bytes ≤ maxBytes := by
  induction fuel generalizing s with
  | zero =>
    have hindex : s.index.keys.length = 0 := Nat.le_zero.mp hfuel
    have hbytes := bal.bytes_of_index hindex
    simp only [Cache.evict]
    omega
  | succ fuel ih =>
    simp only [Cache.evict]
    split
    · split
      · next hnone =>
        have hindex : s.index.keys.length = 0 := by
          rw [← (ZSet.ordered_perm s.index).length_eq, List.head?_eq_none_iff.mp hnone]
          rfl
        have hbytes := bal.bytes_of_index hindex
        omega
      · next victim hsome =>
        refine ih (bal.evictOne victim) ?_
        have hmem : s.index.get victim ≠ none :=
          ZSet.mem_ordered.mp (List.mem_of_mem_head? hsome)
        have := Hash.length_keys_del hmem
        change (s.index.del victim).keys.length ≤ fuel
        omega
    · next hwithin =>
      rw [not_or] at hwithin
      omega

theorem Balanced.getScript (bal : Balanced s) (digest generation : String) :
    Balanced (sharedCacheGetScript digest generation now s).2 := by
  have opened : Balanced ((s.live now).switchGeneration generation) :=
    bal.live.switchGeneration generation
  simp only [sharedCacheGetScript]
  split
  · split
    · exact opened.drop digest _
    · exact opened
  · refine ⟨opened.bytes, opened.nonneg, fun d hd => ?_⟩
    rw [Hash.get_set]
    split
    · simp
    · exact opened.listed d hd

/-- Without an older size the first half of a put leaves the accounts alone. -/
theorem Balanced.setEntry (bal : Balanced s) (hnew : (s.sizes.get a.digest).getD 0 ≤ 0) :
    Balanced (s.setEntry a) := by
  refine ⟨?_, bal.nonneg, bal.listed⟩
  simp only [State.setEntry]
  rw [if_neg (not_lt.mpr hnew)]
  exact bal.bytes

theorem Balanced.account (bal : Balanced s) : Balanced (s.account a now) := by
  refine ⟨?_, fun d => ?_, fun d hd => ?_⟩
  · simp only [State.account]
    rw [Hash.sumBy_set, elim_id_eq_getD, bal.bytes, id]
    ring
  · simp only [State.account]
    rw [Hash.get_set]
    split
    · exact Int.natCast_nonneg a.bodyBytes
    · exact bal.nonneg d
  · simp only [State.account] at hd ⊢
    rw [Hash.get_set] at hd ⊢
    split
    · simp
    · next hne =>
      rw [if_neg hne] at hd
      exact bal.listed d hd

/-- A put without an overwrite keeps the accounts, and one that is accepted its bounds. -/
theorem Balanced.putScript (bal : Balanced s)
    (hnew : (((s.live now).switchGeneration a.generation).sizes.get a.digest).getD 0 ≤ 0) :
    Balanced (sharedCachePutScript a now s).2 ∧
      ((sharedCachePutScript a now s).1 = .integer 1 →
        (sharedCachePutScript a now s).2.index.keys.length ≤ a.maxEntries ∧
          (sharedCachePutScript a now s).2.bytes ≤ a.maxBytes) := by
  have opened : Balanced ((s.live now).switchGeneration a.generation) :=
    bal.live.switchGeneration a.generation
  simp only [sharedCachePutScript]
  split
  · exact ⟨opened, by simp⟩
  · split
    · exact ⟨opened, by simp⟩
    · have written := opened.setEntry hnew
      split
      · exact ⟨written, by simp⟩
      · exact ⟨written.account.evict _ _ _, fun _ => written.account.evict_bounded le_rfl⟩

theorem Balanced.serve {h : List (Event ℕ Call Reply)} (bal : Balanced s) (call : Call)
    (hok : NoOverwrite h s now call) : Balanced (serve now call s).2 := by
  cases call with
  | get generation key =>
    simp only [Cache.serve, sharedCacheGet]
    split
    · exact bal
    · exact bal.getScript key generation
  | put put =>
    simp only [Cache.serve, sharedCachePut]
    split
    · exact bal
    · exact bal
    · next a ha => exact (bal.putScript (hok a ha)).1
  | clear generation =>
    simp only [Cache.serve, sharedCacheClear]
    split
    · exact bal
    · exact .empty rfl rfl

end Steps

theorem balanced_of_run {h : List (Event ℕ Call Reply)} {s : State}
    (run : Service.Run serve NoOverwrite initial h s) : Balanced s :=
  run.invariant (I := fun _ s => Balanced s) (.empty rfl rfl)
    fun _ _ _ call bal _ hok => bal.serve call hok

/-- **Cache accounting.** Without overwrites the total is the sum of the sizes recorded for
the indexed digests, and after every accepted put the index is within both bounds. -/
theorem cache_accounting {h : List (Event ℕ Call Reply)} {s : State}
    (run : Service.Run serve NoOverwrite initial h s) :
    s.bytes = indexedBytes s ∧
    ∀ now put, NoOverwrite h s now (.put put) →
      (serve now (.put put) s).1 = .stored (.ok true) →
      (serve now (.put put) s).2.index.keys.length ≤ put.maxEntries ∧
        indexedBytes (serve now (.put put) s).2 ≤ put.maxBytes := by
  have bal := balanced_of_run run
  refine ⟨bal.bytes_eq_indexedBytes, fun now put hok hstored => ?_⟩
  have after := bal.serve (.put put) hok
  rw [← after.bytes_eq_indexedBytes]
  simp only [serve, sharedCachePut] at hstored ⊢
  split at hstored
  · simp at hstored
  · simp at hstored
  · next a ha =>
    obtain ⟨_, _, _, hentries, hbytes, _⟩ := putArgs_some ha
    rw [← hentries, ← hbytes]
    exact (bal.putScript (hok a ha)).2
      (ScriptReply.granted_eq_true.mp (Reply.stored.inj hstored))

/-- A response of six bytes for a cache of ten. -/
def sixBytes (key : String) : Put where
  generation := "g1"
  key := key
  value := [1, 2, 3]
  bodyBytes := 6
  ttlSeconds := .finite 300
  maxEntries := 8
  maxBytes := 10

/-- Two responses that do not fit together: the second put evicts the first and is accepted. -/
theorem cache_accounting_two_puts :
    (serve 0 (.put (sixBytes digestA)) initial).2.bytes =
      indexedBytes (serve 0 (.put (sixBytes digestA)) initial).2 ∧
    (serve 1 (.put (sixBytes digestB))
      (serve 0 (.put (sixBytes digestA)) initial).2).2.index.keys.length ≤ 8 ∧
    indexedBytes
      (serve 1 (.put (sixBytes digestB)) (serve 0 (.put (sixBytes digestA)) initial).2).2 ≤ 10 := by
  have hA : putArgs (sixBytes digestA) =
      .ok (some ⟨digestA, "g1", [1, 2, 3], 6, 300000, 8, 10⟩) := by decide +kernel
  have hB : putArgs (sixBytes digestB) =
      .ok (some ⟨digestB, "g1", [1, 2, 3], 6, 300000, 8, 10⟩) := by decide +kernel
  have run : Service.Run serve NoOverwrite initial
      [Service.event serve 0 (.put (sixBytes digestA)) initial]
      (serve 0 (.put (sixBytes digestA)) initial).2 := by
    refine .cons 0 (Call.put (sixBytes digestA)) .nil (by simp) fun a ha => ?_
    obtain rfl := Option.some.inj (Except.ok.inj (hA.symm.trans ha))
    decide +kernel
  obtain ⟨hbytes, hput⟩ := cache_accounting run
  refine ⟨hbytes, hput 1 (sixBytes digestB) (fun a ha => ?_) (by decide +kernel)⟩
  obtain rfl := Option.some.inj (Except.ok.inj (hB.symm.trans ha))
  decide +kernel

/-- A second put of one digest takes its size out of the total once more than it should, and
the next put is accepted with twelve recorded bytes under a bound of ten. -/
theorem overwrite_loses_bytes :
    (¬∀ h s, Service.Run serve Service.Any initial h s → s.bytes = indexedBytes s) ∧
    ¬∀ h s, Service.Run serve Service.Any initial h s → ∀ now put, (∀ e ∈ h, e.time ≤ now) →
      (serve now (.put put) s).1 = .stored (.ok true) →
      (serve now (.put put) s).2.index.keys.length ≤ put.maxEntries ∧
        indexedBytes (serve now (.put put) s).2 ≤ put.maxBytes := by
  have run : Service.Run serve Service.Any initial _ _ :=
    .cons 1 (Call.put (sixBytes digestA))
      (.cons 0 (Call.put (sixBytes digestA)) .nil (by simp) trivial) (by simp [Service.event])
      trivial
  refine ⟨fun hall => ?_, fun hall => ?_⟩
  · exact absurd (hall _ _ run) (by decide +kernel)
  · exact absurd (hall _ _ run 2 (sixBytes digestB) (by simp [Service.event]) (by decide +kernel)).2
      (by decide +kernel)

end WayfinderRouter.Cache
