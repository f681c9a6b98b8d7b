import WayfinderRouter.Double
import WayfinderRouter.Ordered.IndexMap
import WayfinderRouter.Timed.Service
import WayfinderRouter.Unsigned

/-!
# The local response cache

One gateway keeps exact responses in memory, within bounds on their number and on the bytes of
their bodies. The map is kept in the order of use: a hit or a put takes its entry out and inserts
it again at the end, and an eviction takes entries out at the front.

A time is a number of seconds, taken exactly. The bodies are in memory together, so the sum of
their lengths does not reach `usize::MAX` and is counted in `ℕ`.

## Main definitions

- `State.getAt`, `State.putAt`, `State.clear`, `State.reconfigure` — the operations
- `lastPut`, `Aged`, `Evicted`, `lastUse` — what an observer of the calls expects of a key

## Main results

- `lru_exact` — the cache is bounded, answers with the last put, and evicts what was used least
  recently
-/

namespace WayfinderRouter.Gateway.ResponseCache

structure CachedResponse where
  status : ℕ
  contentType : String
  body : List UInt8
  promptTokens : ℕ
  completionTokens : ℕ
  estimated : Bool
deriving DecidableEq

/-- `CacheError`. The lock is never poisoned here. -/
inductive CacheError where
  | invalidTtl
  | invalidTime
deriving DecidableEq

/-- `CacheSettings` as they are configured. -/
structure Configured where
  enabled : Bool
  ttlSeconds : Double
  maxEntries : ℕ
  maxBytes : ℕ
deriving DecidableEq

/-- `CacheSettings` in a cache: they are validated. -/
structure CacheSettings where
  enabled : Bool
  ttlSeconds : ℚ
  maxEntries : ℕ
  maxBytes : ℕ
  ttl_nonneg : 0 ≤ ttlSeconds
deriving DecidableEq

/-- `validate_settings`. -/
def validateSettings (configured : Configured) : Except CacheError CacheSettings :=
  match configured.ttlSeconds with
  | .finite ttl =>
    if h : 0 ≤ ttl then
      .ok ⟨configured.enabled, ttl, configured.maxEntries, configured.maxBytes, h⟩
    else .error .invalidTtl
  | .notFinite => .error .invalidTtl

structure StoredResponse where
  response : CachedResponse
  storedAt : ℚ
deriving DecidableEq

/-- The length of the body of a stored response. -/
def StoredResponse.size (stored : StoredResponse) : ℕ := stored.response.body.length

structure State where
  settings : CacheSettings
  store : IndexMap StoredResponse
  bytes : ℕ
  hits : ℕ
  misses : ℕ

structure CacheStats where
  entries : ℕ
  bytes : ℕ
  hits : ℕ
  misses : ℕ
deriving DecidableEq

/-- `ResponseCache::new`, with validated settings. -/
def State.new (settings : CacheSettings) : State := ⟨settings, .empty, 0, 0, 0⟩

/-- The entries that are evicted and the state after it. -/
abbrev Evicting := List (String × StoredResponse) × State

/-- The eviction of a state under its bounds. -/
def State.eviction (s : State) : Recency.Eviction String StoredResponse :=
  Recency.evict StoredResponse.size s.settings.maxEntries s.settings.maxBytes s.store.entries
    s.bytes

theorem State.nodup_kept (s : State) : (s.eviction.kept.map Prod.fst).Nodup := by
  have happend : s.eviction.dropped ++ s.eviction.kept = s.store.entries :=
    Recency.evict_append _ _
  have hnodup := s.store.nodup
  rw [← happend, List.map_append] at hnodup
  exact hnodup.of_append_right

namespace State

/-- `evict`. -/
def evict (s : State) : Evicting :=
  (s.eviction.dropped, { s with store := ⟨s.eviction.kept, s.nodup_kept⟩, bytes := s.eviction.sum })

/-- The response is as old as the settings allow, if they do. -/
def Expired (settings : CacheSettings) (storedAt now : ℚ) : Prop :=
  0 < settings.ttlSeconds ∧ settings.ttlSeconds ≤ now - storedAt

instance (settings : CacheSettings) (storedAt now : ℚ) :
    Decidable (Expired settings storedAt now) :=
  inferInstanceAs (Decidable (_ ∧ _))

/-- `ResponseCache::get_at`. -/
def getAt (key : String) (now : ℚ) (s : State) :
    Except CacheError (Option CachedResponse) × State :=
  if now < 0 then (.error .invalidTime, s)
  else if s.settings.enabled = false then (.ok none, s)
  else match s.store.get key with
    | none => (.ok none, { s with misses := U64.saturatingAdd s.misses 1 })
    | some entry =>
      let store := s.store.shiftRemove key
      let bytes := s.bytes - entry.response.body.length
      if Expired s.settings entry.storedAt now then
        (.ok none, { s with store, bytes, misses := U64.saturatingAdd s.misses 1 })
      else
        (.ok (some entry.response), { s with
          store := store.insert key entry
          bytes := bytes + entry.response.body.length
          hits := U64.saturatingAdd s.hits 1 })

/-- The settings allow to store a response. -/
def Accepts (settings : CacheSettings) (entry : CachedResponse) : Prop :=
  ¬(settings.enabled = false ∨ settings.maxEntries = 0 ∨ settings.maxBytes = 0 ∨
    settings.maxBytes < entry.body.length)

instance (settings : CacheSettings) (entry : CachedResponse) :
    Decidable (Accepts settings entry) :=
  inferInstanceAs (Decidable (¬_))

/-- `ResponseCache::put_at`. -/
def putAt (key : String) (entry : CachedResponse) (now : ℚ) (s : State) :
    Except CacheError Unit × Evicting :=
  if now < 0 then (.error .invalidTime, [], s)
  else if ¬Accepts s.settings entry then (.ok (), [], s)
  else
    let bytes := match s.store.get key with
      | some previous => s.bytes - previous.response.body.length
      | none => s.bytes
    (.ok (), evict { s with
      store := (s.store.shiftRemove key).insert key ⟨entry, now⟩
      bytes := bytes + entry.body.length })

/-- `ResponseCache::clear`. -/
def clear (s : State) : State := { s with store := .empty, bytes := 0 }

/-- `ResponseCache::reconfigure`. -/
def reconfigure (configured : Configured) (s : State) : Except CacheError Unit × Evicting :=
  match validateSettings configured with
  | .error e => (.error e, [], s)
  | .ok settings =>
    if settings.enabled = false then
      (.ok (), [], { s with settings, store := .empty, bytes := 0 })
    else (.ok (), evict { s with settings })

/-- `ResponseCache::stats`. -/
def stats (s : State) : CacheStats := ⟨s.store.entries.length, s.bytes, s.hits, s.misses⟩

end State

/-! ### Calls -/

inductive Call where
  | getAt (key : String)
  | putAt (key : String) (entry : CachedResponse)
  | clear
  | reconfigure (configured : Configured)
  | stats
deriving DecidableEq

/-- The result of a call. -/
inductive Reply where
  | found (result : Except CacheError (Option CachedResponse))
  | done (result : Except CacheError Unit)
  | stats (stats : CacheStats)

/-- The result of a call, and the entries that it evicted. -/
structure Outcome where
  reply : Reply
  evicted : List (String × StoredResponse)

/-- The cache as a service. -/
def serve : Timed.Service ℚ State Call Outcome := fun now call s =>
  match call with
  | .getAt key => (⟨.found (s.getAt key now).1, []⟩, (s.getAt key now).2)
  | .putAt key entry =>
    let result := s.putAt key entry now
    (⟨.done result.1, result.2.1⟩, result.2.2)
  | .clear => (⟨.done (.ok ()), []⟩, s.clear)
  | .reconfigure configured =>
    let result := s.reconfigure configured
    (⟨.done result.1, result.2.1⟩, result.2.2)
  | .stats => (⟨.stats s.stats, []⟩, s)

/-! ### What the calls say about a key -/

abbrev History := List (Timed.Event ℚ Call Outcome)

/-- The settings after a call. -/
def settingsAfter (settings : CacheSettings) : Call → CacheSettings
  | .reconfigure configured =>
    match validateSettings configured with
    | .ok settings => settings
    | .error _ => settings
  | _ => settings

/-- The settings in force after a history. -/
def inForce (init : CacheSettings) : History → CacheSettings
  | [] => init
  | e :: h => settingsAfter (inForce init h) e.call

/-- What a call means for the values of the keys. -/
inductive Effect where
  | stores (key : String) (entry : CachedResponse)
  | looks (key : String)
  | purges
  | nothing

/-- A put that is accepted stores, a get of an enabled cache looks, and a clear or a disabling
purges. -/
def effect (settings : CacheSettings) (now : ℚ) : Call → Effect
  | .getAt key => if now < 0 ∨ settings.enabled = false then .nothing else .looks key
  | .putAt key entry =>
    if now < 0 ∨ ¬State.Accepts settings entry then .nothing else .stores key entry
  | .clear => .purges
  | .reconfigure configured =>
    match validateSettings configured with
    | .ok settings => if settings.enabled = false then .purges else .nothing
    | .error _ => .nothing
  | .stats => .nothing

section

variable (init : CacheSettings) (key : String)

/-- The value of the last put of the key that was accepted since the last clear or disabling, and
the time of the put. -/
def lastPut : History → Option (CachedResponse × ℚ)
  | [] => none
  | e :: h =>
    match effect (inForce init h) e.time e.call with
    | .stores key' entry => if key' = key then some (entry, e.time) else lastPut h
    | .purges => none
    | _ => lastPut h

/-- A get of the key since that put found its value as old as the settings then in force allow. -/
def Aged : History → Prop
  | [] => False
  | e :: h =>
    match effect (inForce init h) e.time e.call with
    | .stores key' _ => key' ≠ key ∧ Aged h
    | .looks key' => Aged h ∨ key' = key ∧
      ∃ put, lastPut init key h = some put ∧ State.Expired (inForce init h) put.2 e.time
    | _ => Aged h

/-- An entry of the key was evicted since that put. -/
def Evicted : History → Prop
  | [] => False
  | e :: h => key ∈ e.reply.evicted.map Prod.fst ∨
    match effect (inForce init h) e.time e.call with
    | .stores key' _ => key' ≠ key ∧ Evicted h
    | _ => Evicted h

/-- The number of the last call that stored or found the key. -/
def lastUse : History → ℕ
  | [] => 0
  | e :: h =>
    match effect (inForce init h) e.time e.call, e.reply.reply with
    | .stores key' _, _ => if key' = key then h.length + 1 else lastUse h
    | .looks key', .found (.ok (some _)) => if key' = key then h.length + 1 else lastUse h
    | _, _ => lastUse h

end

/-! ### The entries of a state -/

/-- The entries are the last puts of the keys that are not gone, in the order of their uses. -/
structure Keeps (last : String → Option (CachedResponse × ℚ)) (gone : String → Prop)
    (lastUse : String → ℕ) (s : State) : Prop where
  bytes_eq : s.bytes = Recency.total StoredResponse.size s.store.entries
  mem_iff : ∀ key stored, (key, stored) ∈ s.store.entries ↔
    last key = some (stored.response, stored.storedAt) ∧ ¬gone key
  ascending : Recency.Ascending lastUse s.store.entries

/-- The bounds of a state. -/
structure Within (s : State) : Prop where
  entries_le : s.store.entries.length ≤ s.settings.maxEntries
  bytes_le : s.bytes ≤ s.settings.maxBytes
  disabled : s.settings.enabled = false → s.store.entries = []

section

variable {last last' : String → Option (CachedResponse × ℚ)} {gone gone' : String → Prop}
  {uses uses' : String → ℕ} {s : State} {key : String} {stored : StoredResponse} {n : ℕ}

/-- The entries stay, and no key of theirs is gone. -/
theorem Keeps.congr (h : Keeps last gone uses s) {s' : State} (hstore : s'.store = s.store)
    (hbytes : s'.bytes = s.bytes) (hlast : ∀ k, last' k = last k) (huses : ∀ k, uses' k = uses k)
    (hgone : ∀ k, gone k → gone' k) (hstay : ∀ k r, (k, r) ∈ s.store.entries → ¬gone' k) :
    Keeps last' gone' uses' s' where
  bytes_eq := by rw [hbytes, hstore, h.bytes_eq]
  mem_iff k r := by
    rw [hstore, hlast]
    constructor
    · exact fun hmem => ⟨((h.mem_iff k r).mp hmem).1, hstay k r hmem⟩
    · exact fun ⟨heq, hnot⟩ => (h.mem_iff k r).mpr ⟨heq, fun hk => hnot (hgone k hk)⟩
  ascending := by
    rw [hstore]
    exact h.ascending.congr huses

/-- What is dropped was used before what is kept. -/
theorem Keeps.ascending_evict (h : Keeps last gone uses s) :
    Recency.Ascending uses (s.evict.1 ++ s.evict.2.store.entries) := by
  have happend : s.evict.1 ++ s.evict.2.store.entries = s.store.entries :=
    Recency.evict_append _ _
  rw [happend]
  exact h.ascending

/-- An eviction keeps the entries whose key it does not drop. -/
theorem Keeps.evict (h : Keeps last gone uses s)
    (hgone : ∀ k, gone' k ↔ k ∈ s.evict.1.map Prod.fst ∨ gone k) :
    Keeps last gone' uses s.evict.2 where
  bytes_eq := (Recency.evict_spec h.bytes_eq).1
  mem_iff k r := by
    rw [hgone, not_or]
    have hmem := h.mem_iff k r
    have hkept : (k, r) ∈ s.evict.2.store.entries ↔
        (k, r) ∈ s.store.entries ∧ k ∉ s.evict.1.map Prod.fst := Recency.mem_kept s.store.nodup
    rw [hkept, hmem]
    tauto
  ascending := (List.pairwise_append.mp h.ascending_evict).2.1

theorem Within.evict (hbytes : s.bytes = Recency.total StoredResponse.size s.store.entries)
    (henabled : s.settings.enabled ≠ false) : Within s.evict.2 where
  entries_le := (Recency.evict_spec hbytes).2.1
  bytes_le := (Recency.evict_spec hbytes).2.2
  disabled h := absurd h henabled

/-- An entry is taken out. -/
theorem Keeps.shiftRemove (h : Keeps last gone uses s) (hmem : (key, stored) ∈ s.store.entries)
    (hlast : ∀ k, last' k = last k) (huses : ∀ k, uses' k = uses k)
    (hgone : ∀ k, gone' k ↔ k = key ∨ gone k) (misses : ℕ) :
    Keeps last' gone' uses' { s with
      store := s.store.shiftRemove key
      bytes := s.bytes - stored.response.body.length
      misses } where
  bytes_eq := by
    have htotal : Recency.total StoredResponse.size (Recency.remove key s.store.entries) +
        stored.size = Recency.total StoredResponse.size s.store.entries :=
      Recency.total_remove s.store.nodup hmem
    show s.bytes - stored.size = Recency.total StoredResponse.size (Recency.remove key _)
    rw [h.bytes_eq]
    omega
  mem_iff k r := by
    rw [hlast, hgone, not_or]
    show (k, r) ∈ Recency.remove key s.store.entries ↔ _
    rw [Recency.mem_remove, h.mem_iff]
    tauto
  ascending := h.ascending.remove.congr huses

/-- An entry is put at the end. -/
theorem Keeps.use (h : Keeps last gone uses s) {s' : State}
    (hentries : s'.store.entries = Recency.use key stored s.store.entries)
    (hbytes : s'.bytes =
      Recency.total StoredResponse.size (Recency.remove key s.store.entries) + stored.size)
    (huses : ∀ k, uses k < n) (hlast : last' key = some (stored.response, stored.storedAt))
    (hgone : ¬gone' key) (huse : uses' key = n)
    (hne : ∀ k, k ≠ key → last' k = last k ∧ (gone' k ↔ gone k) ∧ uses' k = uses k) :
    Keeps last' gone' uses' s' where
  bytes_eq := by rw [hentries, Recency.total_use, hbytes]
  mem_iff k r := by
    rw [hentries, Recency.mem_use, h.mem_iff]
    by_cases hk : k = key
    · subst hk
      rw [hlast]
      constructor
      · rintro (⟨-, hne⟩ | heq)
        · exact absurd rfl hne
        · cases heq
          exact ⟨rfl, hgone⟩
      · rintro ⟨heq, -⟩
        obtain ⟨response, storedAt⟩ := r
        cases heq
        exact .inr rfl
    · obtain ⟨hlast, hgone, -⟩ := hne k hk
      rw [hlast, hgone]
      constructor
      · rintro (⟨hmem, -⟩ | heq)
        · exact hmem
        · cases heq
          exact absurd rfl hk
      · exact fun hmem => .inl ⟨hmem, hk⟩
  ascending := by
    rw [hentries]
    exact h.ascending.use huses huse fun k hk => (hne k hk).2.2

end

/-! ### One call -/

/-- The state holds what its history says. -/
structure Sound (init : CacheSettings) (h : History) (s : State) : Prop where
  settings_eq : s.settings = inForce init h
  keeps : Keeps (fun key => lastPut init key h) (fun key => Aged init key h ∨ Evicted init key h)
    (fun key => lastUse init key h) s
  within : Within s

section

variable {init : CacheSettings} {h : History} {s : State} {e : Timed.Event ℚ Call Outcome}
  {key : String} {now : ℚ}

theorem lastUse_le (init : CacheSettings) (key : String) (h : History) :
    lastUse init key h ≤ h.length := by
  induction h with
  | nil => exact le_rfl
  | cons e h ih =>
    have hle : lastUse init key h ≤ h.length + 1 := ih.trans (Nat.le_succ _)
    rw [lastUse]
    split
    · split_ifs
      · exact le_rfl
      · exact hle
    · split_ifs
      · exact le_rfl
      · exact hle
    · exact hle

theorem get_eq_none_notMem {store : IndexMap StoredResponse} {stored : StoredResponse}
    (h : store.get key = none) : (key, stored) ∉ store.entries := by
  intro hmem
  rw [IndexMap.get_eq_some_iff.mpr hmem] at h
  cases h

/-- A call without effect leaves what its history says. -/
theorem Keeps.nothing {s' : State} (hs : Sound init h s)
    (heffect : effect (inForce init h) e.time e.call = .nothing) (hevicted : e.reply.evicted = [])
    (hstore : s'.store = s.store) (hbytes : s'.bytes = s.bytes) :
    Keeps (fun key => lastPut init key (e :: h))
      (fun key => Aged init key (e :: h) ∨ Evicted init key (e :: h))
      (fun key => lastUse init key (e :: h)) s' := by
  refine hs.keeps.congr hstore hbytes (fun k => ?_) (fun k => ?_) (fun k => ?_) fun k r hmem => ?_
  · simp only [lastPut, heffect]
  · simp only [lastUse, heffect]
  · simp only [Aged, Evicted, heffect, hevicted, List.map_nil, List.not_mem_nil, false_or]
    exact id
  · have hkept := ((hs.keeps.mem_iff k r).mp hmem).2
    simp only [Aged, Evicted, heffect, hevicted, List.map_nil, List.not_mem_nil, false_or]
    exact hkept

theorem Within.shiftRemove (hs : Within s) (key : String) (bytes misses : ℕ)
    (hbytes : bytes ≤ s.bytes) :
    Within { s with store := s.store.shiftRemove key, bytes, misses } where
  entries_le := (List.length_filter_le _ _).trans hs.entries_le
  bytes_le := hbytes.trans hs.bytes_le
  disabled hdisabled := by
    show Recency.remove key s.store.entries = []
    rw [hs.disabled hdisabled]
    rfl

/-- A get keeps the state what its history says. -/
theorem Sound.getAt (hs : Sound init h s) (now : ℚ) (key : String) :
    Sound init (serve.event now (.getAt key) s :: h) (s.getAt key now).2 := by
  obtain ⟨e, he⟩ : ∃ e, serve.event now (.getAt key) s = e := ⟨_, rfl⟩
  have htime : e.time = now := by rw [← he]; rfl
  have hcall : e.call = .getAt key := by rw [← he]; rfl
  have hreply : e.reply.reply = .found (s.getAt key now).1 := by rw [← he]; rfl
  have hevicted : e.reply.evicted = [] := by rw [← he]; rfl
  have hforce : inForce init (e :: h) = inForce init h := by rw [inForce, hcall]; rfl
  rw [he]
  by_cases hguard : now < 0 ∨ s.settings.enabled = false
  · have hstate : (s.getAt key now).2 = s := by
      rw [State.getAt]
      split_ifs with hnow hdisabled
      · rfl
      · rfl
      · exact absurd hguard (not_or.mpr ⟨hnow, hdisabled⟩)
    have heffect : effect (inForce init h) e.time e.call = .nothing := by
      rw [hcall, htime, ← hs.settings_eq]
      exact if_pos hguard
    rw [hstate]
    exact ⟨hs.settings_eq.trans hforce.symm, .nothing hs heffect hevicted rfl rfl, hs.within⟩
  · have heffect : effect (inForce init h) e.time e.call = .looks key := by
      rw [hcall, htime, ← hs.settings_eq]
      exact if_neg hguard
    obtain ⟨hnow, hdisabled⟩ := not_or.mp hguard
    have hgetAt := State.getAt.eq_1 key now s
    rw [if_neg hnow, if_neg hdisabled] at hgetAt
    cases hget : s.store.get key with
    | none =>
      rw [hget] at hgetAt
      rw [hgetAt] at hreply ⊢
      refine ⟨hs.settings_eq.trans hforce.symm, ?_, ⟨hs.within.1, hs.within.2, hs.within.3⟩⟩
      refine hs.keeps.congr rfl rfl (fun k => ?_) (fun k => ?_) (fun k => ?_) fun k r hmem => ?_
      · simp only [lastPut, heffect]
      · simp only [lastUse, heffect, hreply]
      · simp only [Aged, Evicted, heffect, hevicted, List.map_nil, List.not_mem_nil, false_or]
        tauto
      · have hkept := ((hs.keeps.mem_iff k r).mp hmem).2
        have hne : key ≠ k := by
          rintro rfl
          exact get_eq_none_notMem hget hmem
        simp only [Aged, Evicted, heffect, hevicted, List.map_nil, List.not_mem_nil, false_or]
        tauto
    | some stored =>
      have hmem := IndexMap.get_eq_some_iff.mp hget
      obtain ⟨hlast, hkept⟩ := (hs.keeps.mem_iff key stored).mp hmem
      rw [hget] at hgetAt
      by_cases hexpired : State.Expired s.settings stored.storedAt now
      · dsimp only at hgetAt
        rw [if_pos hexpired] at hgetAt
        rw [hgetAt] at hreply ⊢
        refine ⟨hs.settings_eq.trans hforce.symm, hs.keeps.shiftRemove hmem (fun k => ?_)
          (fun k => ?_) (fun k => ?_) _, hs.within.shiftRemove key _ _ (Nat.sub_le _ _)⟩
        · simp only [lastPut, heffect]
        · simp only [lastUse, heffect, hreply]
        · have haged : key = k → ∃ put, lastPut init k h = some put ∧
              State.Expired (inForce init h) put.2 e.time := by
            rintro rfl
            rw [htime, ← hs.settings_eq]
            exact ⟨_, hlast, hexpired⟩
          simp only [Aged, Evicted, heffect, hevicted, List.map_nil, List.not_mem_nil, false_or]
          constructor
          · rintro ((hk | ⟨rfl, -⟩) | hk)
            · exact .inr (.inl hk)
            · exact .inl rfl
            · exact .inr (.inr hk)
          · rintro (rfl | hk | hk)
            · exact .inl (.inr ⟨rfl, haged rfl⟩)
            · exact .inl (.inl hk)
            · exact .inr hk
      · dsimp only at hgetAt
        rw [if_neg hexpired] at hgetAt
        rw [hgetAt] at hreply ⊢
        have htotal : Recency.total StoredResponse.size (Recency.remove key s.store.entries) +
            stored.size = Recency.total StoredResponse.size s.store.entries :=
          Recency.total_remove s.store.nodup hmem
        have hbytes : s.bytes - stored.size + stored.size = s.bytes := by
          rw [hs.keeps.bytes_eq]
          omega
        have hfresh : ¬∃ put, lastPut init key h = some put ∧
            State.Expired (inForce init h) put.2 e.time := by
          rintro ⟨put, hput, hexp⟩
          rw [hlast] at hput
          cases hput
          rw [htime, ← hs.settings_eq] at hexp
          exact hexpired hexp
        refine ⟨hs.settings_eq.trans hforce.symm, ?_, ?_⟩
        · refine hs.keeps.use (IndexMap.entries_insert_shiftRemove _ _ _) ?_
            (fun k => Nat.lt_succ_of_le (lastUse_le init k h)) ?_ ?_ ?_ fun k hk => ⟨?_, ?_, ?_⟩
          · exact hbytes.trans (hs.keeps.bytes_eq.trans htotal.symm)
          · simp only [lastPut, heffect]
            exact hlast
          · simp only [Aged, Evicted, heffect, hevicted, List.map_nil, List.not_mem_nil, false_or]
            rintro ((haged | ⟨-, hold⟩) | hevicted)
            · exact hkept (.inl haged)
            · exact hfresh hold
            · exact hkept (.inr hevicted)
          · simp only [lastUse, heffect, hreply, if_true]
          · simp only [lastPut, heffect]
          · simp only [Aged, Evicted, heffect, hevicted, List.map_nil, List.not_mem_nil, false_or]
            tauto
          · simp only [lastUse, heffect, hreply]
            rw [if_neg (Ne.symm hk)]
        · refine ⟨?_, ?_, fun hoff => absurd hoff hdisabled⟩
          · show ((s.store.shiftRemove key).insert key stored).entries.length ≤ _
            rw [IndexMap.entries_insert_shiftRemove]
            exact (Recency.length_use_le hmem).trans hs.within.entries_le
          · show s.bytes - stored.size + stored.size ≤ s.settings.maxBytes
            rw [hbytes]
            exact hs.within.bytes_le

/-- The bytes that a put counts besides its own. -/
theorem bytes_before_put
    (hbytes : s.bytes = Recency.total StoredResponse.size s.store.entries) (key : String) :
    (match s.store.get key with
      | some previous => s.bytes - previous.response.body.length
      | none => s.bytes) =
    Recency.total StoredResponse.size (Recency.remove key s.store.entries) := by
  cases hget : s.store.get key with
  | none =>
    have hkeep : ∀ e ∈ s.store.entries, decide (e.1 ≠ key) = true := by
      rintro ⟨k, r⟩ he
      rw [decide_eq_true_eq]
      rintro rfl
      exact get_eq_none_notMem hget he
    rw [Recency.remove, List.filter_eq_self.mpr hkeep]
    exact hbytes
  | some previous =>
    have htotal : Recency.total StoredResponse.size (Recency.remove key s.store.entries) +
        previous.size = Recency.total StoredResponse.size s.store.entries :=
      Recency.total_remove s.store.nodup (IndexMap.get_eq_some_iff.mp hget)
    show s.bytes - previous.size = _
    rw [hbytes]
    omega

/-- The evicted entries were used before the ones that are left. -/
def EvictsOldest (init : CacheSettings) (h : History) (evicting : Evicting) : Prop :=
  Recency.Ascending (fun key => lastUse init key h) (evicting.1 ++ evicting.2.store.entries)

/-- A put keeps the state what its history says. -/
theorem Sound.putAt (hs : Sound init h s) (now : ℚ) (key : String) (entry : CachedResponse) :
    Sound init (serve.event now (.putAt key entry) s :: h) (s.putAt key entry now).2.2 ∧
      EvictsOldest init (serve.event now (.putAt key entry) s :: h) (s.putAt key entry now).2 := by
  obtain ⟨e, he⟩ : ∃ e, serve.event now (.putAt key entry) s = e := ⟨_, rfl⟩
  have htime : e.time = now := by rw [← he]; rfl
  have hcall : e.call = .putAt key entry := by rw [← he]; rfl
  have hevicted : e.reply.evicted = (s.putAt key entry now).2.1 := by rw [← he]; rfl
  have hforce : inForce init (e :: h) = inForce init h := by rw [inForce, hcall]; rfl
  rw [he]
  by_cases hguard : now < 0 ∨ ¬State.Accepts s.settings entry
  · have hresult : (s.putAt key entry now).2 = ([], s) := by
      rw [State.putAt]
      split_ifs with hnow haccepts
      · rfl
      · exact absurd hguard (not_or.mpr ⟨hnow, not_not.mpr haccepts⟩)
      · rfl
    have heffect : effect (inForce init h) e.time e.call = .nothing := by
      rw [hcall, htime, ← hs.settings_eq]
      exact if_pos hguard
    have hkeeps := Keeps.nothing hs heffect (hevicted.trans (by rw [hresult])) rfl rfl
    rw [hresult]
    exact ⟨⟨hs.settings_eq.trans hforce.symm, hkeeps, hs.within⟩, hkeeps.ascending⟩
  · have heffect : effect (inForce init h) e.time e.call = .stores key entry := by
      rw [hcall, htime, ← hs.settings_eq]
      exact if_neg hguard
    obtain ⟨hnow, haccepts⟩ := not_or.mp hguard
    have hputAt := State.putAt.eq_1 key entry now s
    rw [if_neg hnow, if_neg haccepts] at hputAt
    dsimp only at hputAt
    rw [bytes_before_put hs.keeps.bytes_eq key] at hputAt
    rw [hputAt] at hevicted ⊢
    have hput : Keeps (fun k => lastPut init k (e :: h))
        (fun k => k ≠ key ∧ (Aged init k h ∨ Evicted init k h)) (fun k => lastUse init k (e :: h))
        { s with
          store := (s.store.shiftRemove key).insert key ⟨entry, now⟩
          bytes := Recency.total StoredResponse.size (Recency.remove key s.store.entries) +
            entry.body.length } := by
      refine hs.keeps.use (IndexMap.entries_insert_shiftRemove _ _ _) rfl
        (fun k => Nat.lt_succ_of_le (lastUse_le init k h)) ?_ (fun hne => hne.1 rfl) ?_
        fun k hk => ⟨?_, and_iff_right hk, ?_⟩
      · simp only [lastPut, heffect, if_true]
        rw [htime]
      · simp only [lastUse, heffect, if_true]
      · simp only [lastPut, heffect]
        rw [if_neg (Ne.symm hk)]
      · simp only [lastUse, heffect]
        rw [if_neg (Ne.symm hk)]
    refine ⟨⟨hs.settings_eq.trans hforce.symm, hput.evict fun k => ?_, .evict hput.bytes_eq ?_⟩,
      hput.ascending_evict⟩
    · simp only [Aged, Evicted, heffect, hevicted]
      rw [ne_comm, and_or_left]
      tauto
    · exact fun hoff => haccepts fun hno => hno (.inl hoff)

/-- After a purge there is no value to keep. -/
theorem Sound.purged (heffect : effect (inForce init h) e.time e.call = .purges) {s' : State}
    (hsettings : s'.settings = inForce init (e :: h)) (hstore : s'.store = .empty)
    (hbytes : s'.bytes = 0) : Sound init (e :: h) s' where
  settings_eq := hsettings
  keeps := by
    refine ⟨by rw [hbytes, hstore]; rfl, fun k r => ?_, ?_⟩
    · simp only [hstore, lastPut, heffect]
      constructor
      · intro hmem
        cases hmem
      · rintro ⟨hnone, -⟩
        cases hnone
    · rw [hstore]
      exact List.Pairwise.nil
  within := by
    refine ⟨?_, by rw [hbytes]; exact Nat.zero_le _, fun _ => by rw [hstore]; rfl⟩
    rw [hstore]
    exact Nat.zero_le _

/-- A change of the settings keeps the state what its history says. -/
theorem Sound.reconfigure (hs : Sound init h s) (now : ℚ) (configured : Configured) :
    Sound init (serve.event now (.reconfigure configured) s :: h)
        (s.reconfigure configured).2.2 ∧
      EvictsOldest init (serve.event now (.reconfigure configured) s :: h)
        (s.reconfigure configured).2 := by
  obtain ⟨e, he⟩ : ∃ e, serve.event now (.reconfigure configured) s = e := ⟨_, rfl⟩
  have hcall : e.call = .reconfigure configured := by rw [← he]; rfl
  have hevicted : e.reply.evicted = (s.reconfigure configured).2.1 := by rw [← he]; rfl
  rw [he]
  cases hvalid : validateSettings configured with
  | error error =>
    have hresult : (s.reconfigure configured).2 = ([], s) := by rw [State.reconfigure, hvalid]
    have hforce : inForce init (e :: h) = inForce init h := by
      rw [inForce, hcall, settingsAfter, hvalid]
    have heffect : effect (inForce init h) e.time e.call = .nothing := by
      rw [hcall, effect, hvalid]
    have hkeeps := Keeps.nothing hs heffect (hevicted.trans (by rw [hresult])) rfl rfl
    rw [hresult]
    exact ⟨⟨hs.settings_eq.trans hforce.symm, hkeeps, hs.within⟩, hkeeps.ascending⟩
  | ok settings =>
    have hforce : inForce init (e :: h) = settings := by rw [inForce, hcall, settingsAfter, hvalid]
    by_cases hoff : settings.enabled = false
    · have hresult : s.reconfigure configured =
          (.ok (), [], { s with settings, store := .empty, bytes := 0 }) := by
        rw [State.reconfigure, hvalid]
        exact if_pos hoff
      have heffect : effect (inForce init h) e.time e.call = .purges := by
        rw [hcall, effect, hvalid]
        exact if_pos hoff
      rw [hresult]
      exact ⟨.purged heffect hforce.symm rfl rfl, List.Pairwise.nil⟩
    · have hresult : s.reconfigure configured =
          (.ok (), State.evict { s with settings }) := by
        rw [State.reconfigure, hvalid]
        exact if_neg hoff
      have heffect : effect (inForce init h) e.time e.call = .nothing := by
        rw [hcall, effect, hvalid]
        exact if_neg hoff
      rw [hresult] at hevicted ⊢
      have hkeeps : Keeps (fun k => lastPut init k (e :: h))
          (fun k => Aged init k h ∨ Evicted init k h) (fun k => lastUse init k (e :: h))
          { s with settings } := by
        refine hs.keeps.congr rfl rfl (fun k => ?_) (fun k => ?_) (fun k => id) fun k r hmem => ?_
        · simp only [lastPut, heffect]
        · simp only [lastUse, heffect]
        · exact ((hs.keeps.mem_iff k r).mp hmem).2
      refine ⟨⟨hforce.symm, hkeeps.evict fun k => ?_, .evict hkeeps.bytes_eq hoff⟩,
        hkeeps.ascending_evict⟩
      simp only [Aged, Evicted, heffect, hevicted]
      tauto

/-- Every call keeps the state what its history says. -/
theorem Sound.step (hs : Sound init h s) (now : ℚ) (call : Call) :
    Sound init (serve.event now call s :: h) (serve now call s).2 ∧
      EvictsOldest init (serve.event now call s :: h)
        ((serve now call s).1.evicted, (serve now call s).2) := by
  cases call with
  | getAt key => exact ⟨hs.getAt now key, (hs.getAt now key).keeps.ascending⟩
  | putAt key entry => exact hs.putAt now key entry
  | clear => exact ⟨.purged rfl hs.settings_eq rfl rfl, List.Pairwise.nil⟩
  | reconfigure configured => exact hs.reconfigure now configured
  | stats =>
    have hkeeps := @Keeps.nothing init h s (serve.event now .stats s) s hs rfl rfl rfl rfl
    exact ⟨⟨hs.settings_eq, hkeeps, hs.within⟩, hkeeps.ascending⟩

theorem Sound.new (init : CacheSettings) : Sound init [] (State.new init) where
  settings_eq := rfl
  keeps := by
    refine ⟨rfl, fun k r => ⟨fun hmem => ?_, fun hlast => ?_⟩, List.Pairwise.nil⟩
    · cases hmem
    · cases hlast.1
  within := ⟨Nat.zero_le _, Nat.zero_le _, fun _ => rfl⟩

theorem sound_run (run : serve.Run Timed.Service.Any (State.new init) h s) : Sound init h s :=
  run.invariant (.new init) fun _ _ now call hs _ _ => (hs.step now call).1

/-- A get leaves a key aged that was aged, or that it finds aged. -/
theorem Aged.of_get (hon : ¬(now < 0 ∨ (inForce init h).enabled = false))
    (haged : Aged init key h ∨ ∃ put, lastPut init key h = some put ∧
      State.Expired (inForce init h) put.2 now) :
    Aged init key (serve.event now (.getAt key) s :: h) := by
  have heffect : effect (inForce init h) now (.getAt key) = .looks key := if_neg hon
  show match effect (inForce init h) now (.getAt key) with
    | .stores key' _ => key' ≠ key ∧ Aged init key h
    | .looks key' => Aged init key h ∨ key' = key ∧
      ∃ put, lastPut init key h = some put ∧ State.Expired (inForce init h) put.2 now
    | _ => Aged init key h
  rw [heffect]
  exact haged.imp_right fun hold => ⟨rfl, hold⟩

/-- What a get answers: the last put, or nothing for one of the reasons. -/
theorem Sound.getAt_reply (hs : Sound init h s) (now : ℚ) (key : String) :
    (∀ response, (s.getAt key now).1 = .ok (some response) →
      ∃ time, lastPut init key h = some (response, time)) ∧
    ((s.getAt key now).1 = .ok none → (inForce init h).enabled = false ∨
      lastPut init key h = none ∨ Aged init key (serve.event now (.getAt key) s :: h) ∨
      Evicted init key h) := by
  rw [State.getAt]
  split_ifs with hnow hoff
  · exact ⟨fun response heq => (by cases heq), fun heq => (by cases heq)⟩
  · exact ⟨fun response heq => (by cases heq), fun _ => .inl (hs.settings_eq ▸ hoff)⟩
  · have hon : ¬(now < 0 ∨ (inForce init h).enabled = false) := by
      rw [← hs.settings_eq]
      exact not_or.mpr ⟨hnow, hoff⟩
    cases hget : s.store.get key with
    | none =>
      refine ⟨fun response heq => (by cases heq), fun _ => .inr ?_⟩
      cases hlast : lastPut init key h with
      | none => exact .inl rfl
      | some put =>
        right
        by_contra hnot
        rw [not_or] at hnot
        have hfresh : ¬Aged init key h := fun haged => hnot.1 (.of_get hon (.inl haged))
        exact get_eq_none_notMem hget
          ((hs.keeps.mem_iff key ⟨put.1, put.2⟩).mpr ⟨hlast, not_or.mpr ⟨hfresh, hnot.2⟩⟩)
    | some stored =>
      obtain ⟨hlast, -⟩ := (hs.keeps.mem_iff key stored).mp (IndexMap.get_eq_some_iff.mp hget)
      by_cases hexpired : State.Expired s.settings stored.storedAt now
      · dsimp only
        rw [if_pos hexpired]
        refine ⟨fun response heq => (by cases heq), fun _ => .inr (.inr (.inl ?_))⟩
        rw [hs.settings_eq] at hexpired
        exact .of_get hon (.inr ⟨_, hlast, hexpired⟩)
      · dsimp only
        rw [if_neg hexpired]
        refine ⟨fun response heq => ?_, fun heq => (by cases heq)⟩
        cases heq
        exact ⟨_, hlast⟩

end

/-- After every run the bytes are the sum of the retained bodies, both bounds of the settings in
force hold, and a disabled cache is empty. A get answers with the last put of its key, or with
nothing for one of the reasons, and whatever a call evicts was used before all that it leaves. -/
theorem lru_exact {init : CacheSettings} {h : History} {s : State}
    (run : serve.Run Timed.Service.Any (State.new init) h s) :
    (s.settings = inForce init h ∧
      s.bytes = (s.store.entries.map fun e => e.2.response.body.length).sum ∧
      s.store.entries.length ≤ s.settings.maxEntries ∧ s.bytes ≤ s.settings.maxBytes ∧
      (s.settings.enabled = false → s.store.entries = [])) ∧
    (∀ now key,
      (∀ response, (s.getAt key now).1 = .ok (some response) →
        ∃ time, lastPut init key h = some (response, time)) ∧
      ((s.getAt key now).1 = .ok none → s.settings.enabled = false ∨
        lastPut init key h = none ∨ Aged init key (serve.event now (.getAt key) s :: h) ∨
        Evicted init key h)) ∧
    ∀ now call, Recency.Ascending
      (fun key => lastUse init key (serve.event now call s :: h))
      ((serve now call s).1.evicted ++ (serve now call s).2.store.entries) := by
  have hs := sound_run run
  refine ⟨⟨hs.settings_eq, hs.keeps.bytes_eq, hs.within.entries_le, hs.within.bytes_le,
    hs.within.disabled⟩, fun now key => ?_, fun now call => (hs.step now call).2⟩
  rw [hs.settings_eq]
  exact hs.getAt_reply now key

/-- The settings of the example hold one response. -/
theorem minute_nonneg : (0 : ℚ) ≤ 60 := by norm_num

def oneEntry : CacheSettings := ⟨true, 60, 1, 16, minute_nonneg⟩

def pong : CachedResponse := ⟨200, "application/json", [123, 125], 1, 1, false⟩

/-- Two puts, newest first. -/
def twoPuts : List (ℚ × Call) := [(1, .putAt "b" pong), (0, .putAt "a" pong)]

theorem lru_exact_twoPuts :
    let h := (serve.replay (State.new oneEntry) twoPuts).1
    let s := (serve.replay (State.new oneEntry) twoPuts).2
    s.bytes = 2 ∧ s.bytes ≤ s.settings.maxBytes ∧
      (oneEntry.enabled = false ∨ lastPut oneEntry "a" h = none ∨
        Aged oneEntry "a" (serve.event 2 (.getAt "a") s :: h) ∨ Evicted oneEntry "a" h) := by
  have hrun : serve.Admissible Timed.Service.Any (State.new oneEntry) twoPuts := by
    refine ⟨fun e he => ?_, trivial, fun e he => ?_, trivial, trivial⟩
    · obtain rfl := List.mem_singleton.mp he
      show (0 : ℚ) ≤ 1
      norm_num
    · cases he
  have hexact := lru_exact (Timed.Service.run_replay hrun)
  refine ⟨by decide +kernel, hexact.1.2.2.2.1, ?_⟩
  exact (hexact.2.1 2 "a").2 (by decide +kernel)

end WayfinderRouter.Gateway.ResponseCache
