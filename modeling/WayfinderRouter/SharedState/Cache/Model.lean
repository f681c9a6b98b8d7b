import Mathlib.Logic.Function.Basic
import WayfinderRouter.Redis.SortedSet
import WayfinderRouter.SharedState.Backend
import WayfinderRouter.Timed.Service

/-!
# The shared response cache

All replicas of a namespace share one cache of exact responses. Each response is a key of
its own, named by its digest and expiring on its own. Beside them stand three keys without
expiry: a hash with the configuration generation and the total of body bytes, a hash with
the body size of each digest, and an index of the digests by last use.

A command that fails inside a script ends it, and what the script has written so far
stays. In the put script that command is the `PEXPIRE` of the entry, which stands between
the write of the entry and the write of its size and index.

## Main definitions

- `State` — the keys of the shared cache
- `State.switchGeneration` — the purge that opens get and put
- `evict` — the eviction loop of put
- `sharedCacheGetScript`, `sharedCachePutScript`, `sharedCacheClearScript` — the scripts
- `serve` — `shared_cache_get`, `shared_cache_put` and `shared_cache_clear`
-/

namespace WayfinderRouter.Cache

open Redis Timed

/-- A serialized response. -/
abbrev Body := List UInt8

/-- The keys of the shared cache. A hash that is absent is empty, and a total that is absent
reads as 0. -/
structure State where
  generation : Option String := none
  bytes : ℤ := 0
  sizes : Hash String ℤ := ∅
  index : ZSet String := ∅
  entries : String → Key Body := fun _ => none

/-- What a script at time `now` finds. -/
def State.live (now : ℕ) (s : State) : State :=
  { s with entries := fun digest => (s.entries digest).live now }

/-- `DEL` of the entries of the given digests. -/
def delEntries (digests : List String) (entries : String → Key Body) : String → Key Body :=
  fun digest => if digest ∈ digests then none else entries digest

/-- The generation check that opens the get and put scripts: under another generation every
indexed entry is deleted and the accounts start again. -/
def State.switchGeneration (generation : String) (s : State) : State :=
  if s.generation = some generation then s
  else
    { generation := some generation
      bytes := 0
      sizes := ∅
      index := ∅
      entries := delEntries s.index.ordered s.entries }

/-- `SHARED_CACHE_GET_SCRIPT`. -/
def sharedCacheGetScript (digest generation : String) (now : ℕ) (s : State) :
    Option Body × State :=
  let s := (s.live now).switchGeneration generation
  match (s.entries digest).value? with
  | none =>
    let prior := (s.sizes.get digest).getD 0
    if 0 < prior then
      (none, { s with
        bytes := s.bytes - prior, sizes := s.sizes.del digest, index := s.index.del digest })
    else (none, s)
  | some entry => (some entry, { s with index := s.index.set digest now })

/-- The arguments of the put script. -/
structure PutArgs where
  digest : String
  generation : String
  value : Body
  bodyBytes : ℕ
  ttlMs : ℕ
  maxEntries : ℕ
  maxBytes : ℕ
deriving DecidableEq

/-- The keys after one digest is evicted. -/
def State.evictOne (victim : String) (s : State) : State :=
  { s with
    bytes := max 0 (s.bytes - (s.sizes.get victim).getD 0)
    sizes := s.sizes.del victim
    index := s.index.del victim
    entries := Function.update s.entries victim none }

/-- The eviction loop of the put script. Every round takes one digest out of the index, so
the size of the index is enough fuel. -/
def evict (maxEntries maxBytes : ℕ) : ℕ → State → State
  | 0, s => s
  | fuel + 1, s =>
    if maxEntries < s.index.keys.length ∨ (maxBytes : ℤ) < s.bytes then
      match s.index.ordered.head? with
      | none => s
      | some victim => evict maxEntries maxBytes fuel (s.evictOne victim)
    else s

/-- The put script up to the write of the entry: the recorded size of an older entry is
taken out of the total. -/
def State.setEntry (a : PutArgs) (s : State) : State :=
  let previous := (s.sizes.get a.digest).getD 0
  { s with
    bytes := if 0 < previous then s.bytes - previous else s.bytes
    entries := Function.update s.entries a.digest (some ⟨a.value, none⟩) }

/-- The put script from the `PEXPIRE` of the entry to the eviction loop. -/
def State.account (a : PutArgs) (now : ℕ) (s : State) : State :=
  { s with
    bytes := s.bytes + (a.bodyBytes - (s.sizes.get a.digest).getD 0)
    sizes := s.sizes.set a.digest a.bodyBytes
    index := s.index.set a.digest now
    entries := if 0 < a.ttlMs then
        Function.update s.entries a.digest ((s.entries a.digest).pexpire now a.ttlMs)
      else s.entries }

/-- The expiry of an entry is refused. -/
def TtlRefused (a : PutArgs) (now : ℕ) : Prop := 0 < a.ttlMs ∧ ¬Key.Expirable now a.ttlMs

instance (a : PutArgs) (now : ℕ) : Decidable (TtlRefused a now) :=
  inferInstanceAs (Decidable (0 < a.ttlMs ∧ ¬Key.Expirable now a.ttlMs))

/-- `SHARED_CACHE_PUT_SCRIPT`. -/
def sharedCachePutScript (a : PutArgs) (now : ℕ) (s : State) : ScriptReply × State :=
  let s := (s.live now).switchGeneration a.generation
  if a.maxEntries < 1 ∨ a.maxBytes < 1 then (.integer 0, s)
  else if a.maxBytes < a.bodyBytes then (.integer 0, s)
  else
    let s := s.setEntry a
    if TtlRefused a now then (.errorReply "invalid expire time", s)
    else
      let s := s.account a now
      let s := evict a.maxEntries a.maxBytes s.index.keys.length s
      (.integer (if (s.entries a.digest).isSome then 1 else 0), s)

/-- `SHARED_CACHE_CLEAR_SCRIPT`. -/
def sharedCacheClearScript (now : ℕ) (s : State) : ScriptReply × State :=
  let s := s.live now
  (.integer 1, { entries := delEntries s.index.ordered s.entries })

-- ════════════════════════════════════════════════════════════════════════
-- The operations
-- ════════════════════════════════════════════════════════════════════════

/-- `SharedCachePut`. -/
structure Put where
  generation : String
  key : String
  value : Body
  bodyBytes : ℕ
  ttlSeconds : Double
  maxEntries : ℕ
  maxBytes : ℕ

/-- The calls of a replica. -/
inductive Call where
  | get (generation key : String)
  | put (put : Put)
  | clear (generation : String)

inductive Reply where
  | got (result : Except StateBackendError (Option Body))
  | stored (result : Except StateBackendError Bool)
  | cleared (result : Except StateBackendError Unit)
deriving DecidableEq

def InvalidGeneration (generation : String) : Prop :=
  generation.isEmpty ∨ 128 < generation.utf8ByteSize

instance (generation : String) : Decidable (InvalidGeneration generation) :=
  inferInstanceAs (Decidable (generation.isEmpty ∨ 128 < generation.utf8ByteSize))

/-- `is_ascii_hexdigit`. -/
def isAsciiHexdigit (c : Char) : Bool :=
  ( '0' ≤ c && c ≤ '9') || ( 'a' ≤ c && c ≤ 'f') || ( 'A' ≤ c && c ≤ 'F')

/-- What `validate_shared_cache_inputs` refuses. -/
def InvalidInputs (generation key : String) : Prop :=
  InvalidGeneration generation ∨ key.utf8ByteSize ≠ 64 ∨ ¬key.toList.all isAsciiHexdigit

instance (generation key : String) : Decidable (InvalidInputs generation key) :=
  inferInstanceAs (Decidable (InvalidGeneration generation ∨ key.utf8ByteSize ≠ 64 ∨
    ¬key.toList.all isAsciiHexdigit))

/-- `cache_ttl_millis`. The bound compares with `u64::MAX as f64`, which is `2 ^ 64`, and the
final cast saturates. -/
def cacheTtlMillis : Double → Except StateBackendError ℕ
  | .notFinite => .error .unavailable
  | .finite q =>
    if q < 0 then .error .unavailable
    else if q = 0 then .ok 0
    else if 2 ^ 64 < ⌈q * 1000⌉ then .error .unavailable
    else .ok (min ⌈q * 1000⌉.toNat (2 ^ 64 - 1))

/-- What `shared_cache_put` sends to the server, if anything. -/
def putArgs (put : Put) : Except StateBackendError (Option PutArgs) :=
  if InvalidInputs put.generation put.key then .error .unavailable
  else if put.maxEntries = 0 ∨ put.maxBytes = 0 ∨ put.maxBytes < put.bodyBytes then .ok none
  else do
    let ttlMs ← cacheTtlMillis put.ttlSeconds
    return some {
      digest := put.key
      generation := put.generation
      value := put.value
      bodyBytes := put.bodyBytes
      ttlMs := ttlMs
      maxEntries := put.maxEntries
      maxBytes := put.maxBytes }

/-- What a put sends is what it was given, within its bounds. -/
theorem putArgs_some {put : Put} {a : PutArgs} (hargs : putArgs put = .ok (some a)) :
    a.digest = put.key ∧ a.generation = put.generation ∧ a.value = put.value ∧
      a.maxEntries = put.maxEntries ∧ a.maxBytes = put.maxBytes ∧
      ¬(a.maxEntries < 1 ∨ a.maxBytes < 1) ∧ ¬a.maxBytes < a.bodyBytes := by
  simp only [putArgs] at hargs
  split at hargs
  · simp at hargs
  · split at hargs
    · simp at hargs
    · next hbounds =>
      cases httl : cacheTtlMillis put.ttlSeconds with
      | error e => simp [httl, bind, Except.bind] at hargs
      | ok ttlMs =>
        rw [httl] at hargs
        obtain rfl : _ = a := Option.some.inj (Except.ok.inj hargs)
        refine ⟨rfl, rfl, rfl, rfl, rfl, ?_, ?_⟩ <;> dsimp only <;> omega

/-- `shared_cache_get`. -/
def sharedCacheGet (generation key : String) (now : ℕ) (s : State) :
    Except StateBackendError (Option Body) × State :=
  if InvalidInputs generation key then (.error .unavailable, s)
  else
    let (value, s) := sharedCacheGetScript key generation now s
    (.ok value, s)

/-- `shared_cache_put`. -/
def sharedCachePut (put : Put) (now : ℕ) (s : State) : Except StateBackendError Bool × State :=
  match putArgs put with
  | .error e => (.error e, s)
  | .ok none => (.ok false, s)
  | .ok (some args) =>
    let (reply, s) := sharedCachePutScript args now s
    (reply.granted, s)

/-- `shared_cache_clear`. The generation is checked and not used. -/
def sharedCacheClear (generation : String) (now : ℕ) (s : State) :
    Except StateBackendError Unit × State :=
  if InvalidGeneration generation then (.error .unavailable, s)
  else
    let (reply, s) := sharedCacheClearScript now s
    (reply.done, s)

def serve : Service ℕ State Call Reply
  | now, .get generation key, s =>
    let (result, s) := sharedCacheGet generation key now s
    (.got result, s)
  | now, .put put, s =>
    let (result, s) := sharedCachePut put now s
    (.stored result, s)
  | now, .clear generation, s =>
    let (result, s) := sharedCacheClear generation now s
    (.cleared result, s)

/-- No key exists. -/
def initial : State := {}

/-- A digest of 64 hexadecimal characters. -/
def digestA : String := String.ofList (List.replicate 64 'a')

def digestB : String := String.ofList (List.replicate 64 'b')

end WayfinderRouter.Cache
