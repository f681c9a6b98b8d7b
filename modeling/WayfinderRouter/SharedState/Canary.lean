import Mathlib.Data.Finset.Insert
import WayfinderRouter.Redis.Key
import WayfinderRouter.SharedState.Backend
import WayfinderRouter.Timed.Service

/-!
# The canary tripwire

A replica counts the outcomes of a rollout's canary requests in fixed windows and trips the
rollout when a tripwire fires. Two backends hold this state: the process itself, which
keeps the end of the hold as a field of its own, and the shared server, where the reason
lives in the hash whose expiry every counted outcome resets.

The memory backend times calls in seconds of the wall clock, the shared one in
milliseconds of the server.

## Main definitions

- `Memory.serve` — `record_canary`, `canary_snapshot` and `trip_canary` in memory
- `canaryRecordScript`, `canarySnapshotScript`, `canaryTripScript` — the scripts
- `Shared.serve` — the three operations on the shared server
- `Keeps` — the calls that set no expiry before the end of a hold
-/

namespace WayfinderRouter.Canary

open Redis Timed

/-- `SharedCanaryObservation`. -/
structure Observation where
  rolloutId : String
  requestId : String
  succeeded : Bool
  latencyMs : ℕ
  realizedCost : Option Double
  baselineCost : Option Double
  qualityLoss : Option Double

/-- `SharedCanarySnapshot`. -/
structure Snapshot where
  requests : ℕ := 0
  errors : ℕ := 0
  latencySumMs : ℕ := 0
  latencySamples : ℕ := 0
  realizedCost : ℚ := 0
  baselineCost : ℚ := 0
  costSamples : ℕ := 0
  qualityLoss : ℚ := 0
  qualitySamples : ℕ := 0
  trippedReason : Option String := none
deriving DecidableEq

/-- The calls of a replica. -/
inductive Call where
  | record (observation : Observation) (windowSeconds : Double)
  | snapshot (rolloutId : String) (windowSeconds : Double)
  | trip (rolloutId reason : String) (holdSeconds : Double)

inductive Reply where
  | recorded (result : Except StateBackendError Bool)
  | snapshot (result : Except StateBackendError Snapshot)
  | tripped (result : Except StateBackendError Unit)
deriving DecidableEq

def u64Max : ℕ := 2 ^ 64 - 1

/-- An identifier is not empty and at most 128 bytes long. -/
def InvalidId (id : String) : Prop := id.isEmpty ∨ 128 < id.utf8ByteSize

instance (id : String) : Decidable (InvalidId id) :=
  inferInstanceAs (Decidable (id.isEmpty ∨ 128 < id.utf8ByteSize))

/-- A duration has to be finite and positive. -/
def positive : Double → Except StateBackendError ℚ
  | .finite q => if q ≤ 0 then .error .unavailable else .ok q
  | .notFinite => .error .unavailable

/-- `validate_canary_inputs`, with the window it accepts. -/
def validateCanaryInputs (o : Observation) (windowSeconds : Double) :
    Except StateBackendError ℚ :=
  if InvalidId o.rolloutId ∨ InvalidId o.requestId ∨ 86400000 < o.latencyMs then
    .error .unavailable
  else positive windowSeconds

/-- The inputs of `trip_canary`, with the hold it accepts. -/
def validateTrip (rolloutId reason : String) (holdSeconds : Double) :
    Except StateBackendError ℚ :=
  if InvalidId rolloutId ∨ InvalidId reason then .error .unavailable else positive holdSeconds

/-- The inputs of `canary_snapshot`, with the window it accepts. -/
def validateSnapshot (rolloutId : String) (windowSeconds : Double) :
    Except StateBackendError ℚ :=
  if InvalidId rolloutId then .error .unavailable else positive windowSeconds

-- ════════════════════════════════════════════════════════════════════════
-- The memory backend
-- ════════════════════════════════════════════════════════════════════════

namespace Memory

/-- `MemoryCanaryState`. -/
structure CanaryState where
  window : ℕ := 0
  seen : Finset String := ∅
  snapshot : Snapshot := {}
  trippedUntil : ℚ := 0

/-- The rollouts. A rollout without an entry has the default state. -/
abbrev State := String → CanaryState

def initial : State := fun _ => {}

/-- `u64::saturating_add`. -/
def saturatingAdd (a b : ℕ) : ℕ := min (a + b) u64Max

/-- `canary_window` for a window that was accepted. -/
def canaryWindow (window now : ℚ) : ℕ := min (max ⌊now / window⌋ 0).toNat u64Max

/-- `rotate_memory_canary`. -/
def rotateMemoryCanary (state : CanaryState) (window : ℕ) : CanaryState :=
  if state.window = window then state
  else { state with
    window := window, seen := ∅, snapshot := { trippedReason := state.snapshot.trippedReason } }

/-- The counters after one observation. Costs count when both are known, quality when it is
labelled, and values out of range are left out. -/
def observe (o : Observation) (snapshot : Snapshot) : Snapshot :=
  let snapshot := { snapshot with
    requests := saturatingAdd snapshot.requests 1
    errors := if o.succeeded then snapshot.errors else saturatingAdd snapshot.errors 1
    latencySumMs := saturatingAdd snapshot.latencySumMs o.latencyMs
    latencySamples := saturatingAdd snapshot.latencySamples 1 }
  let snapshot := match o.realizedCost, o.baselineCost with
    | some (.finite realized), some (.finite baseline) =>
      if 0 ≤ realized ∧ 0 ≤ baseline then
        { snapshot with
          realizedCost := snapshot.realizedCost + realized
          baselineCost := snapshot.baselineCost + baseline
          costSamples := saturatingAdd snapshot.costSamples 1 }
      else snapshot
    | _, _ => snapshot
  match o.qualityLoss with
  | some (.finite loss) =>
    if 0 ≤ loss ∧ loss ≤ 1 then
      { snapshot with
        qualityLoss := snapshot.qualityLoss + loss
        qualitySamples := saturatingAdd snapshot.qualitySamples 1 }
    else snapshot
  | _ => snapshot

/-- `record_canary`. -/
def recordCanary (o : Observation) (windowSeconds : Double) (now : ℚ) (s : State) :
    Except StateBackendError Bool × State :=
  match validateCanaryInputs o windowSeconds with
  | .error e => (.error e, s)
  | .ok window =>
    let state := rotateMemoryCanary (s o.rolloutId) (canaryWindow window now)
    if o.requestId ∈ state.seen then (.ok false, Function.update s o.rolloutId state)
    else (.ok true, Function.update s o.rolloutId
      { state with
        seen := insert o.requestId state.seen, snapshot := observe o state.snapshot })

/-- `canary_snapshot`. -/
def canarySnapshot (rolloutId : String) (windowSeconds : Double) (now : ℚ) (s : State) :
    Except StateBackendError Snapshot × State :=
  match validateSnapshot rolloutId windowSeconds with
  | .error e => (.error e, s)
  | .ok window =>
    let state := rotateMemoryCanary (s rolloutId) (canaryWindow window now)
    let state := if state.trippedUntil ≤ now then
        { state with trippedUntil := 0, snapshot := { state.snapshot with trippedReason := none } }
      else state
    (.ok state.snapshot, Function.update s rolloutId state)

/-- `trip_canary`. -/
def tripCanary (rolloutId reason : String) (holdSeconds : Double) (now : ℚ) (s : State) :
    Except StateBackendError Unit × State :=
  match validateTrip rolloutId reason holdSeconds with
  | .error e => (.error e, s)
  | .ok hold =>
    let state := s rolloutId
    (.ok (), Function.update s rolloutId
      { state with
        trippedUntil := max state.trippedUntil (now + hold)
        snapshot := { state.snapshot with trippedReason := some reason } })

def serve : Service ℚ State Call Reply
  | now, .record o windowSeconds, s =>
    let (result, s) := recordCanary o windowSeconds now s
    (.recorded result, s)
  | now, .snapshot rolloutId windowSeconds, s =>
    let (result, s) := canarySnapshot rolloutId windowSeconds now s
    (.snapshot result, s)
  | now, .trip rolloutId reason holdSeconds, s =>
    let (result, s) := tripCanary rolloutId reason holdSeconds now s
    (.tripped result, s)

end Memory

-- ════════════════════════════════════════════════════════════════════════
-- The shared backend
-- ════════════════════════════════════════════════════════════════════════

/-- The counters of a rollout's hash. A counter that was never written reads as 0. -/
structure Counters where
  requests : ℤ := 0
  errors : ℤ := 0
  latencySumMs : ℤ := 0
  latencySamples : ℤ := 0
  realizedMicros : ℤ := 0
  baselineMicros : ℤ := 0
  costSamples : ℤ := 0
  qualityScaled : ℤ := 0
  qualitySamples : ℤ := 0

/-- The fields of a rollout's hash. -/
structure Fields where
  window : Option ℕ := none
  counters : Counters := {}
  trippedReason : Option String := none

instance : Inhabited Fields := ⟨{}⟩

/-- The two keys of a rollout: its hash and the request ids counted in the window. -/
structure Keys where
  canary : Key Fields := none
  seen : Key (Finset String) := none

/-- What a script at time `now` finds. -/
def Keys.live (now : ℕ) (k : Keys) : Keys := ⟨k.canary.live now, k.seen.live now⟩

/-- The hash of the rollout, all defaults when the key is absent. -/
def Keys.fields (k : Keys) : Fields := k.canary.value?.getD default

/-- The window check that opens the record and snapshot scripts. The reason survives it. -/
def Keys.openWindow (windowId : ℕ) (k : Keys) : Keys :=
  if k.fields.window = some windowId then k
  else
    { canary := k.canary.write fun f => { f with window := some windowId, counters := {} }
      seen := none }

/-- The arguments of the record script. A cost or quality of -1 stands for none. -/
structure RecordArgs where
  requestId : String
  windowMs : ℕ
  succeeded : Bool
  latencyMs : ℕ
  realized : ℤ
  baseline : ℤ
  quality : ℤ

/-- The increments of the record script. -/
def Counters.count (a : RecordArgs) (c : Counters) : Counters :=
  let c := { c with
    requests := c.requests + 1
    errors := if a.succeeded then c.errors else c.errors + 1
    latencySumMs := c.latencySumMs + a.latencyMs
    latencySamples := c.latencySamples + 1 }
  let c := if 0 ≤ a.realized ∧ 0 ≤ a.baseline then
      { c with
        realizedMicros := c.realizedMicros + a.realized
        baselineMicros := c.baselineMicros + a.baseline
        costSamples := c.costSamples + 1 }
    else c
  if 0 ≤ a.quality then
    { c with
      qualityScaled := c.qualityScaled + a.quality
      qualitySamples := c.qualitySamples + 1 }
  else c

/-- `CANARY_RECORD_SCRIPT`. -/
def canaryRecordScript (a : RecordArgs) (now : ℕ) (k : Keys) : ScriptReply × Keys :=
  let k := (k.live now).openWindow (now / a.windowMs)
  if a.requestId ∈ k.seen.value?.getD ∅ then (.integer 0, k)
  else
    let ttl := max (a.windowMs * 2) 1000
    let seen := some ⟨insert a.requestId (k.seen.value?.getD ∅), k.seen.deadline?⟩
    if Key.Expirable now ttl then
      (.integer 1,
        { canary := (k.canary.pexpire now ttl).write fun f =>
            { f with counters := f.counters.count a }
          seen := Key.pexpire now ttl seen })
    else (.errorReply "invalid expire time", { k with seen := seen })

/-- `CANARY_SNAPSHOT_SCRIPT`: the counters and the reason, empty when there is none. -/
def canarySnapshotScript (windowMs now : ℕ) (k : Keys) : (Counters × String) × Keys :=
  let k := (k.live now).openWindow (now / windowMs)
  ((k.fields.counters, k.fields.trippedReason.getD ""), k)

/-- `CANARY_TRIP_SCRIPT`. -/
def canaryTripScript (reason : String) (holdMs now : ℕ) (k : Keys) : ScriptReply × Keys :=
  let k := k.live now
  if holdMs = 0 then (.integer 0, k)
  else
    let canary := k.canary.write fun f => { f with trippedReason := some reason }
    if Key.Expirable now (max holdMs 1000) then
      (.integer 1, { k with canary := canary.pexpire now (max holdMs 1000) })
    else (.errorReply "invalid expire time", { k with canary := canary })

namespace Shared

abbrev State := String → Keys

def initial : State := fun _ => {}

/-- A duration in whole milliseconds, rounded up and at least 1. -/
def millis (seconds : ℚ) : ℕ := min (max ⌈seconds * 1000⌉ 1).toNat u64Max

/-- `SHARED_QUALITY_SCALE`. -/
def sharedQualityScale : ℚ := 1000000

def scaledQuality : Double → Except StateBackendError ℤ
  | .finite q =>
    if 0 ≤ q ∧ q ≤ 1 then .ok (roundHalfAway (q * sharedQualityScale)) else .error .unavailable
  | .notFinite => .error .unavailable

/-- What `record_canary` sends to the server. -/
def recordArgs (o : Observation) (windowSeconds : Double) :
    Except StateBackendError RecordArgs := do
  let window ← validateCanaryInputs o windowSeconds
  let realized ← o.realizedCost.mapM scaledCost
  let baseline ← o.baselineCost.mapM scaledCost
  let quality ← o.qualityLoss.mapM scaledQuality
  return {
    requestId := o.requestId
    windowMs := millis window
    succeeded := o.succeeded
    latencyMs := o.latencyMs
    realized := realized.getD (-1)
    baseline := baseline.getD (-1)
    quality := quality.getD (-1) }

/-- `record_canary`. -/
def recordCanary (o : Observation) (windowSeconds : Double) (now : ℕ) (s : State) :
    Except StateBackendError Bool × State :=
  match recordArgs o windowSeconds with
  | .error e => (.error e, s)
  | .ok args =>
    let (reply, k) := canaryRecordScript args now (s o.rolloutId)
    (reply.granted, Function.update s o.rolloutId k)

/-- `non_negative_u64`. -/
def nonNegativeU64 (value : ℤ) : Except StateBackendError ℕ :=
  if value < 0 then .error .unavailable else .ok value.toNat

/-- The snapshot that the script's reply stands for. -/
def readSnapshot (c : Counters) (reason : String) : Except StateBackendError Snapshot := do
  let requests ← nonNegativeU64 c.requests
  let errors ← nonNegativeU64 c.errors
  let latencySumMs ← nonNegativeU64 c.latencySumMs
  let latencySamples ← nonNegativeU64 c.latencySamples
  let costSamples ← nonNegativeU64 c.costSamples
  let qualitySamples ← nonNegativeU64 c.qualitySamples
  return {
    requests, errors, latencySumMs, latencySamples
    realizedCost := max c.realizedMicros 0 / sharedCostScale
    baselineCost := max c.baselineMicros 0 / sharedCostScale
    costSamples
    qualityLoss := max c.qualityScaled 0 / sharedQualityScale
    qualitySamples
    trippedReason := if reason.isEmpty then none else some reason }

/-- `canary_snapshot`. -/
def canarySnapshot (rolloutId : String) (windowSeconds : Double) (now : ℕ) (s : State) :
    Except StateBackendError Snapshot × State :=
  match validateSnapshot rolloutId windowSeconds with
  | .error e => (.error e, s)
  | .ok window =>
    let ((counters, reason), k) := canarySnapshotScript (millis window) now (s rolloutId)
    (readSnapshot counters reason, Function.update s rolloutId k)

/-- `trip_canary`. -/
def tripCanary (rolloutId reason : String) (holdSeconds : Double) (now : ℕ) (s : State) :
    Except StateBackendError Unit × State :=
  match validateTrip rolloutId reason holdSeconds with
  | .error e => (.error e, s)
  | .ok hold =>
    let (reply, k) := canaryTripScript reason (millis hold) now (s rolloutId)
    (if reply = .integer 1 then .ok () else .error .unavailable, Function.update s rolloutId k)

def serve : Service ℕ State Call Reply
  | now, .record o windowSeconds, s =>
    let (result, s) := recordCanary o windowSeconds now s
    (.recorded result, s)
  | now, .snapshot rolloutId windowSeconds, s =>
    let (result, s) := canarySnapshot rolloutId windowSeconds now s
    (.snapshot result, s)
  | now, .trip rolloutId reason holdSeconds, s =>
    let (result, s) := tripCanary rolloutId reason holdSeconds now s
    (.tripped result, s)

end Shared

theorem validateTrip_ok {id reason : String} {holdSeconds : Double} {hold : ℚ}
    (h : validateTrip id reason holdSeconds = .ok hold) :
    ¬InvalidId id ∧ ¬reason.isEmpty ∧ positive holdSeconds = .ok hold := by
  rw [validateTrip] at h
  split at h
  · simp at h
  · next hids =>
    rw [not_or] at hids
    exact ⟨hids.1, fun he => hids.2 (.inl he), h⟩

theorem positive_finite {q accepted : ℚ} (h : positive (.finite q) = .ok accepted) :
    q = accepted := by
  simp only [positive] at h
  split at h
  · simp at h
  · exact Except.ok.inj h

/-- Updating one rollout keeps what holds of another. -/
theorem update_keeps {α : Type*} {P : α → Prop} {s : String → α} {rolloutId id : String} {a : α}
    (other : P (s rolloutId)) (own : id = rolloutId → P a) :
    P (Function.update s id a rolloutId) := by
  by_cases hid : id = rolloutId
  · subst hid
    rw [Function.update_self]
    exact own rfl
  · rwa [Function.update_of_ne (Ne.symm hid)]

-- ════════════════════════════════════════════════════════════════════════
-- The hold in memory
-- ════════════════════════════════════════════════════════════════════════

namespace Memory

/-- The rollout reports a reason at every time before the deadline. -/
def Held (deadline : ℚ) (state : CanaryState) : Prop :=
  deadline ≤ state.trippedUntil ∧ state.snapshot.trippedReason.isSome

section Hold

variable {deadline now : ℚ} {state : CanaryState} {s : State} {rolloutId : String}

theorem Held.rotate (held : Held deadline state) (window : ℕ) :
    Held deadline (rotateMemoryCanary state window) := by
  rw [rotateMemoryCanary]
  split
  · exact held
  · exact held

theorem trippedReason_observe (o : Observation) (snapshot : Snapshot) :
    (observe o snapshot).trippedReason = snapshot.trippedReason := by
  simp only [observe]
  repeat' split
  all_goals rfl

/-- Before its deadline no call ends a hold. -/
theorem Held.serve (held : Held deadline (s rolloutId)) (hlt : now < deadline) (call : Call) :
    Held deadline ((Memory.serve now call s).2 rolloutId) := by
  cases call with
  | record o windowSeconds =>
    simp only [Memory.serve, recordCanary]
    split
    · exact held
    · next window _ =>
      split
      · exact update_keeps held fun hid => by rw [hid]; exact held.rotate _
      · refine update_keeps held fun hid => ?_
        rw [hid]
        exact ⟨(held.rotate _).1, by rw [trippedReason_observe]; exact (held.rotate _).2⟩
  | snapshot id windowSeconds =>
    simp only [Memory.serve, canarySnapshot]
    split
    · exact held
    · next window _ =>
      refine update_keeps held fun hid => ?_
      rw [hid]
      have rotated := held.rotate (canaryWindow window now)
      rw [if_neg (not_le.mpr (hlt.trans_le rotated.1))]
      exact rotated
  | trip id reason holdSeconds =>
    simp only [Memory.serve, tripCanary]
    split
    · exact held
    · refine update_keeps held fun hid => ?_
      rw [hid]
      exact ⟨held.1.trans (le_max_left _ _), rfl⟩

theorem held_of_run {h : List (Event ℚ Call Reply)} {s' : State}
    (start : Held deadline (s rolloutId))
    (run : Service.Run Memory.serve Service.Any s h s') :
    (∃ e ∈ h, deadline ≤ e.time) ∨ Held deadline (s' rolloutId) :=
  run.until (I := fun (_ : List (Event ℚ Call Reply)) (s : State) => Held deadline (s rolloutId))
    start fun _ _ _ call held hlt _ => held.serve hlt call

/-- What a snapshot of a held rollout reports. -/
theorem Held.reported (held : Held deadline (s rolloutId)) (hlt : now < deadline)
    {windowSeconds : Double} {window : ℚ}
    (hvalid : validateSnapshot rolloutId windowSeconds = .ok window) :
    ∃ snapshot, (Memory.serve now (.snapshot rolloutId windowSeconds) s).1 =
      .snapshot (.ok snapshot) ∧ snapshot.trippedReason.isSome := by
  have rotated := held.rotate (canaryWindow window now)
  simp only [Memory.serve, canarySnapshot, hvalid,
    if_neg (not_le.mpr (hlt.trans_le rotated.1))]
  exact ⟨_, rfl, rotated.2⟩

/-- A trip that succeeds holds the rollout for the whole hold. -/
theorem held_of_tripped {reason : String} {hold : ℚ}
    (htrip : (Memory.serve now (.trip rolloutId reason (.finite hold)) s).1 = .tripped (.ok ())) :
    ¬InvalidId rolloutId ∧ Held (now + hold)
      ((Memory.serve now (.trip rolloutId reason (.finite hold)) s).2 rolloutId) := by
  simp only [Memory.serve, tripCanary] at htrip ⊢
  split at htrip
  · simp at htrip
  · next accepted hvalid =>
    obtain ⟨hid, _, hpos⟩ := validateTrip_ok hvalid
    obtain rfl := positive_finite hpos
    simp only [Function.update_self]
    exact ⟨hid, le_max_right _ _, rfl⟩

end Hold

end Memory

-- ════════════════════════════════════════════════════════════════════════
-- The hold on the shared server
-- ════════════════════════════════════════════════════════════════════════

/-- The key carries a reason and does not expire before the deadline. -/
def Held (deadline : ℕ) (k : Keys) : Prop :=
  (∃ reason, k.fields.trippedReason = some reason ∧ ¬reason.isEmpty) ∧
    ∀ d ∈ k.canary.deadline?, deadline ≤ d

/-- No counter is negative. -/
structure Counters.Nonneg (c : Counters) : Prop where
  requests : 0 ≤ c.requests
  errors : 0 ≤ c.errors
  latencySumMs : 0 ≤ c.latencySumMs
  latencySamples : 0 ≤ c.latencySamples
  costSamples : 0 ≤ c.costSamples
  qualitySamples : 0 ≤ c.qualitySamples

def Keys.Nonneg (k : Keys) : Prop := k.fields.counters.Nonneg

/-- The record counts: its request id is new in the window. -/
def Counts (a : RecordArgs) (now : ℕ) (k : Keys) : Prop :=
  a.requestId ∉ ((k.live now).openWindow (now / a.windowMs)).seen.value?.getD ∅

/-- The calls that give the rollout's key no expiry before the deadline. -/
def Keeps (rolloutId : String) (deadline : ℕ) (_ : List (Event ℕ Call Reply)) (s : Shared.State)
    (now : ℕ) : Call → Prop
  | .record o windowSeconds => o.rolloutId = rolloutId →
    ∀ a, Shared.recordArgs o windowSeconds = .ok a → Counts a now (s rolloutId) →
      deadline ≤ now + max (a.windowMs * 2) 1000
  | .snapshot _ _ => True
  | .trip id reason holdSeconds => id = rolloutId →
    ∀ hold, validateTrip id reason holdSeconds = .ok hold →
      deadline ≤ now + max (Shared.millis hold) 1000

section Scripts

variable {deadline now : ℕ} {k : Keys}

theorem mem_deadline?_pexpire {key : Key Fields} {ttl d : ℕ}
    (hd : d ∈ (key.pexpire now ttl).deadline?) : d = now + ttl := by
  cases key with
  | none => simp [Key.pexpire] at hd
  | some st => simpa [Key.pexpire, eq_comm] using hd

/-- A key that is held has not lapsed. -/
theorem Held.canary_live (held : Held deadline k) (hlt : now < deadline) :
    (k.live now).canary = k.canary := by
  refine Key.live_of_not_lapsed ?_
  rintro ⟨d, hd, hle⟩
  have := held.2 d hd
  omega

theorem Held.live (held : Held deadline k) (hlt : now < deadline) : Held deadline (k.live now) := by
  rw [Held, Keys.fields, held.canary_live hlt]
  exact held

theorem Held.openWindow (held : Held deadline k) (windowId : ℕ) :
    Held deadline (k.openWindow windowId) := by
  rw [Keys.openWindow]
  split
  · exact held
  · exact ⟨held.1, held.2⟩

theorem Held.recordScript (held : Held deadline k) (hlt : now < deadline) {a : RecordArgs}
    (keeps : Counts a now k → deadline ≤ now + max (a.windowMs * 2) 1000) :
    Held deadline (canaryRecordScript a now k).2 := by
  have opened := (held.live hlt).openWindow (now / a.windowMs)
  simp only [canaryRecordScript]
  split
  · exact opened
  · next hnew =>
    split
    · refine ⟨?_, fun d hd => ?_⟩
      · simpa [Keys.fields] using opened.1
      · rw [mem_deadline?_pexpire hd]
        exact keeps hnew
    · exact opened

theorem Held.snapshotScript (held : Held deadline k) (hlt : now < deadline) (windowMs : ℕ) :
    Held deadline (canarySnapshotScript windowMs now k).2 :=
  (held.live hlt).openWindow _

/-- A trip holds the rollout as long as the key lives. -/
theorem held_tripScript {reason : String} (hreason : ¬reason.isEmpty) {holdMs : ℕ}
    (hhold : holdMs ≠ 0) (hle : deadline ≤ now + max holdMs 1000)
    (before : Key.Expirable now (max holdMs 1000) ∨
      ∀ d ∈ (k.live now).canary.deadline?, deadline ≤ d) :
    Held deadline (canaryTripScript reason holdMs now k).2 := by
  simp only [canaryTripScript, if_neg hhold]
  split
  · refine ⟨⟨reason, by simp [Keys.fields], hreason⟩, fun d hd => ?_⟩
    dsimp only at hd
    rw [mem_deadline?_pexpire hd]
    exact hle
  · next hexp => exact ⟨⟨reason, by simp [Keys.fields], hreason⟩, before.resolve_left hexp⟩

theorem Counters.Nonneg.default : Counters.Nonneg {} := by
  constructor <;> exact le_rfl

theorem Counters.Nonneg.count {c : Counters} (hc : c.Nonneg) (a : RecordArgs) :
    (c.count a).Nonneg := by
  obtain ⟨h1, h2, h3, h4, h5, h6⟩ := hc
  simp only [Counters.count]
  constructor <;> repeat' split
  all_goals dsimp only
  all_goals omega

theorem nonneg_live (hk : k.Nonneg) (now : ℕ) : (k.live now).Nonneg := by
  by_cases hl : k.canary.Lapsed now
  · rw [Keys.Nonneg, Keys.fields, Keys.live, Key.live_of_lapsed hl]
    exact .default
  · rwa [Keys.Nonneg, Keys.fields, Keys.live, Key.live_of_not_lapsed hl]

theorem nonneg_openWindow (hk : k.Nonneg) (windowId : ℕ) :
    (k.openWindow windowId).Nonneg := by
  rw [Keys.openWindow]
  split
  · exact hk
  · exact .default

theorem nonneg_recordScript (hk : k.Nonneg) (a : RecordArgs) :
    (canaryRecordScript a now k).2.Nonneg := by
  have opened : ((k.live now).openWindow (now / a.windowMs)).Nonneg :=
    nonneg_openWindow (nonneg_live hk now) _
  simp only [canaryRecordScript]
  split
  · exact opened
  · split
    · simpa [Keys.Nonneg, Keys.fields] using Counters.Nonneg.count opened a
    · exact opened

theorem nonneg_tripScript (hk : k.Nonneg) (reason : String) (holdMs : ℕ) :
    (canaryTripScript reason holdMs now k).2.Nonneg := by
  have live : (k.live now).Nonneg := nonneg_live hk now
  simp only [canaryTripScript]
  repeat' split
  · exact live
  · simpa [Keys.Nonneg, Keys.fields] using live
  · exact live

end Scripts

section Hold

variable {deadline now : ℕ} {s : Shared.State} {rolloutId : String}

theorem Shared.millis_ne_zero (seconds : ℚ) : Shared.millis seconds ≠ 0 := by
  have : 1 ≤ max ⌈seconds * 1000⌉ 1 := le_max_right _ _
  simp only [Shared.millis, u64Max]
  omega

/-- A call that keeps the key's expiry keeps the hold. -/
theorem Held.serve (held : Held deadline (s rolloutId)) (hlt : now < deadline) {call : Call}
    {h : List (Event ℕ Call Reply)} (keeps : Keeps rolloutId deadline h s now call) :
    Held deadline ((Shared.serve now call s).2 rolloutId) := by
  cases call with
  | record o windowSeconds =>
    simp only [Shared.serve, Shared.recordCanary]
    split
    · exact held
    · next a ha =>
      refine update_keeps held fun hid => ?_
      rw [hid]
      exact held.recordScript hlt (keeps hid a ha)
  | snapshot id windowSeconds =>
    simp only [Shared.serve, Shared.canarySnapshot]
    split
    · exact held
    · refine update_keeps held fun hid => ?_
      rw [hid]
      exact held.snapshotScript hlt _
  | trip id reason holdSeconds =>
    simp only [Shared.serve, Shared.tripCanary]
    split
    · exact held
    · next hold hhold =>
      refine update_keeps held fun hid => ?_
      rw [hid]
      exact held_tripScript (validateTrip_ok hhold).2.1 (Shared.millis_ne_zero hold)
        (keeps hid hold hhold) (.inr (held.live hlt).2)

theorem held_of_run {h : List (Event ℕ Call Reply)} {s' : Shared.State}
    (start : Held deadline (s rolloutId))
    (run : Service.Run Shared.serve (Keeps rolloutId deadline) s h s') :
    (∃ e ∈ h, deadline ≤ e.time) ∨ Held deadline (s' rolloutId) :=
  run.until
    (I := fun (_ : List (Event ℕ Call Reply)) (s : Shared.State) => Held deadline (s rolloutId))
    start fun _ _ _ _ held hlt keeps => held.serve hlt keeps

theorem Shared.nonneg_serve (hs : (s rolloutId).Nonneg) (call : Call) :
    ((Shared.serve now call s).2 rolloutId).Nonneg := by
  cases call with
  | record o windowSeconds =>
    simp only [Shared.serve, Shared.recordCanary]
    split
    · exact hs
    · refine update_keeps (P := Keys.Nonneg) hs fun hid => ?_
      rw [hid]
      exact nonneg_recordScript hs _
  | snapshot id windowSeconds =>
    simp only [Shared.serve, Shared.canarySnapshot]
    split
    · exact hs
    · refine update_keeps (P := Keys.Nonneg) hs fun hid => ?_
      rw [hid]
      exact nonneg_openWindow (nonneg_live hs now) _
  | trip id reason holdSeconds =>
    simp only [Shared.serve, Shared.tripCanary]
    split
    · exact hs
    · refine update_keeps (P := Keys.Nonneg) hs fun hid => ?_
      rw [hid]
      exact nonneg_tripScript hs _ _

theorem Shared.nonneg_initial : (Shared.initial rolloutId).Nonneg := Counters.Nonneg.default

theorem Shared.nonneg_of_run {Ok : List (Event ℕ Call Reply) → Shared.State → ℕ → Call → Prop}
    {init : Shared.State} {h : List (Event ℕ Call Reply)}
    (run : Service.Run Shared.serve Ok init h s)
    (start : (init rolloutId).Nonneg) :
    (s rolloutId).Nonneg :=
  run.invariant (I := fun _ s => (s rolloutId).Nonneg) start
    fun _ _ _ call hs _ _ => Shared.nonneg_serve hs call

theorem Shared.nonNegativeU64_of_nonneg {value : ℤ} (h : 0 ≤ value) :
    Shared.nonNegativeU64 value = .ok value.toNat :=
  if_neg (not_lt.mpr h)

/-- Counters that are not negative are reported, together with a reason. -/
theorem Shared.readSnapshot_of_nonneg {c : Counters} (hc : c.Nonneg) {reason : String}
    (hreason : ¬reason.isEmpty) :
    ∃ snapshot, Shared.readSnapshot c reason = .ok snapshot ∧
      snapshot.trippedReason = some reason := by
  simp only [Shared.readSnapshot, nonNegativeU64_of_nonneg hc.requests,
    nonNegativeU64_of_nonneg hc.errors, nonNegativeU64_of_nonneg hc.latencySumMs,
    nonNegativeU64_of_nonneg hc.latencySamples, nonNegativeU64_of_nonneg hc.costSamples,
    nonNegativeU64_of_nonneg hc.qualitySamples]
  exact ⟨_, rfl, if_neg hreason⟩

/-- What a snapshot of a held rollout reports. -/
theorem Held.reported (held : Held deadline (s rolloutId)) (hlt : now < deadline)
    (hs : (s rolloutId).Nonneg) {windowSeconds : Double} {window : ℚ}
    (hvalid : validateSnapshot rolloutId windowSeconds = .ok window) :
    ∃ snapshot, (Shared.serve now (.snapshot rolloutId windowSeconds) s).1 =
      .snapshot (.ok snapshot) ∧ snapshot.trippedReason.isSome := by
  obtain ⟨⟨reason, hreason, hne⟩, _⟩ := held.snapshotScript hlt (Shared.millis window)
  have counters := nonneg_openWindow (nonneg_live hs now) (now / Shared.millis window)
  obtain ⟨snapshot, hread, htripped⟩ := Shared.readSnapshot_of_nonneg counters hne
  refine ⟨snapshot, ?_, by simp [htripped]⟩
  simp only [Shared.serve, Shared.canarySnapshot, hvalid]
  simp only [canarySnapshotScript] at hreason ⊢
  rw [hreason]
  exact congrArg Reply.snapshot hread

/-- A trip that succeeds holds the rollout for the whole hold. -/
theorem held_of_tripped {reason : String} {hold : ℚ}
    (htrip : (Shared.serve now (.trip rolloutId reason (.finite hold)) s).1 = .tripped (.ok ())) :
    ¬InvalidId rolloutId ∧ (now : ℚ) + hold * 1000 ≤ (now + Shared.millis hold : ℕ) ∧
      Held (now + Shared.millis hold)
        ((Shared.serve now (.trip rolloutId reason (.finite hold)) s).2 rolloutId) := by
  simp only [Shared.serve, Shared.tripCanary] at htrip ⊢
  split at htrip
  · simp at htrip
  · next accepted hvalid =>
    obtain ⟨hid, hreason, hpos⟩ := validateTrip_ok hvalid
    obtain rfl := positive_finite hpos
    have hexp : Key.Expirable now (max (Shared.millis hold) 1000) := by
      by_contra hexp
      simp [canaryTripScript, Shared.millis_ne_zero, hexp] at htrip
    simp only [Function.update_self]
    refine ⟨hid, ?_, held_tripScript hreason (Shared.millis_ne_zero hold) (by omega) (.inl hexp)⟩
    -- the cast to `u64` did not saturate, or the expiry would have been refused
    have hceil : hold * 1000 ≤ ⌈hold * 1000⌉ := Int.le_ceil _
    have hle : ⌈hold * 1000⌉ ≤ (Shared.millis hold : ℤ) := by
      simp only [Key.Expirable, Shared.millis, u64Max] at hexp ⊢
      omega
    push_cast
    have hle' : (⌈hold * 1000⌉ : ℚ) ≤ (Shared.millis hold : ℚ) := by exact_mod_cast hle
    linarith

end Hold

theorem validateSnapshot_of_pos {rolloutId : String} {window : ℚ} (hid : ¬InvalidId rolloutId)
    (hwindow : 0 < window) : validateSnapshot rolloutId (.finite window) = .ok window := by
  simp [validateSnapshot, hid, positive, not_le.mpr hwindow]

/-- **The trip hold.** After a trip at time `now`, every snapshot before the end of its hold
reports a reason: in memory whatever is called in between, and on the shared server when no
call in between gives the rollout's key an expiry before the end of the hold. -/
theorem trip_hold (rolloutId reason : String) (hold : ℚ) :
    (∀ (s : Memory.State) (now : ℚ),
      (Memory.serve now (.trip rolloutId reason (.finite hold)) s).1 = .tripped (.ok ()) →
      ∀ h s', Service.Run Memory.serve Service.Any
          (Memory.serve now (.trip rolloutId reason (.finite hold)) s).2 h s' →
      ∀ later window, (∀ e ∈ h, e.time ≤ later) → later < now + hold → 0 < window →
        ∃ snapshot, (Memory.serve later (.snapshot rolloutId (.finite window)) s').1 =
          .snapshot (.ok snapshot) ∧ snapshot.trippedReason.isSome) ∧
    (∀ h₀ s, Service.Run Shared.serve Service.Any Shared.initial h₀ s →
      ∀ now : ℕ,
      (Shared.serve now (.trip rolloutId reason (.finite hold)) s).1 = .tripped (.ok ()) →
      ∀ h s', Service.Run Shared.serve (Keeps rolloutId (now + Shared.millis hold))
          (Shared.serve now (.trip rolloutId reason (.finite hold)) s).2 h s' →
      ∀ (later : ℕ) (window : ℚ), (∀ e ∈ h, e.time ≤ later) → later < now + hold * 1000 →
        0 < window →
        ∃ snapshot, (Shared.serve later (.snapshot rolloutId (.finite window)) s').1 =
          .snapshot (.ok snapshot) ∧ snapshot.trippedReason.isSome) := by
  refine ⟨?_, ?_⟩
  · intro s now htrip h s' run later window hpast hlt hwindow
    obtain ⟨hid, start⟩ := Memory.held_of_tripped htrip
    obtain ⟨e, he, hle⟩ | held := Memory.held_of_run start run
    · exact absurd ((hle.trans (hpast e he)).trans_lt hlt) (lt_irrefl _)
    · exact held.reported hlt (validateSnapshot_of_pos hid hwindow)
  · intro h₀ s reached now htrip h s' run later window hpast hlt hwindow
    obtain ⟨hid, hmillis, start⟩ := held_of_tripped htrip
    have hlater : later < now + Shared.millis hold := by exact_mod_cast hlt.trans_le hmillis
    have nonneg : (s rolloutId).Nonneg := Shared.nonneg_of_run reached Shared.nonneg_initial
    have nonneg' : (s' rolloutId).Nonneg :=
      Shared.nonneg_of_run run (Shared.nonneg_serve nonneg _)
    obtain ⟨e, he, hle⟩ | held := held_of_run start run
    · have := hpast e he
      omega
    · exact held.reported hlater nonneg' (validateSnapshot_of_pos hid hwindow)

/-- A successful canary request that finishes late. -/
def lateCompletion : Observation where
  rolloutId := "rollout"
  requestId := "req-1"
  succeeded := true
  latencyMs := 40
  realizedCost := none
  baselineCost := none
  qualityLoss := none

/-- A hold of five seconds, with a late completion in a window of a minute one second in: the
rollout reports its reason after two seconds. -/
theorem trip_hold_five_seconds :
    (∃ snapshot, (Memory.serve 2 (.snapshot "rollout" (.finite 60))
      (Memory.serve 1 (.record lateCompletion (.finite 60))
        (Memory.serve 0 (.trip "rollout" "error_rate" (.finite 5)) Memory.initial).2).2).1 =
      .snapshot (.ok snapshot) ∧ snapshot.trippedReason.isSome) ∧
    (∃ snapshot, (Shared.serve 2000 (.snapshot "rollout" (.finite 60))
      (Shared.serve 1000 (.record lateCompletion (.finite 60))
        (Shared.serve 0 (.trip "rollout" "error_rate" (.finite 5)) Shared.initial).2).2).1 =
      .snapshot (.ok snapshot) ∧ snapshot.trippedReason.isSome) := by
  refine ⟨?_, ?_⟩
  · have run : Service.Run Memory.serve Service.Any
        (Memory.serve 0 (.trip "rollout" "error_rate" (.finite 5)) Memory.initial).2 _ _ :=
      .cons 1 (.record lateCompletion (.finite 60)) .nil (by simp) trivial
    have hpast : ∀ e ∈ [Service.event Memory.serve 1 (.record lateCompletion (.finite 60))
        (Memory.serve 0 (.trip "rollout" "error_rate" (.finite 5)) Memory.initial).2],
        e.time ≤ 2 := by
      simp [Service.event]
    exact (trip_hold "rollout" "error_rate" 5).1 Memory.initial 0 (by decide +kernel) _ _ run 2 60
      hpast (by norm_num) (by norm_num)
  · have keeps : Keeps "rollout" (0 + Shared.millis 5) []
        (Shared.serve 0 (.trip "rollout" "error_rate" (.finite 5)) Shared.initial).2 1000
        (.record lateCompletion (.finite 60)) := by
      intro _ a ha _
      have hargs : (Shared.recordArgs lateCompletion (.finite 60)).map RecordArgs.windowMs =
          .ok 60000 := by
        decide +kernel
      rw [ha] at hargs
      have hwindow : a.windowMs = 60000 := Except.ok.inj hargs
      have hhold : Shared.millis 5 = 5000 := by decide +kernel
      omega
    have run : Service.Run Shared.serve (Keeps "rollout" (0 + Shared.millis 5))
        (Shared.serve 0 (.trip "rollout" "error_rate" (.finite 5)) Shared.initial).2 _ _ :=
      .cons 1000 (.record lateCompletion (.finite 60)) .nil (by simp) keeps
    have hpast : ∀ e ∈ [Service.event Shared.serve 1000 (.record lateCompletion (.finite 60))
        (Shared.serve 0 (.trip "rollout" "error_rate" (.finite 5)) Shared.initial).2],
        e.time ≤ 2000 := by
      simp [Service.event]
    exact (trip_hold "rollout" "error_rate" 5).2 [] Shared.initial .nil 0 (by decide +kernel) _ _
      run 2000 60 hpast (by norm_num) (by norm_num)

/-- A hold of an hour ends after two minutes when a late completion is recorded in a window of
a minute. -/
theorem trip_expires_early :
    ¬∀ h₀ s, Service.Run Shared.serve Service.Any Shared.initial h₀ s →
      ∀ (now : ℕ) (rolloutId reason : String) (hold : ℚ),
      let trip := Call.trip rolloutId reason (.finite hold)
      (Shared.serve now trip s).1 = .tripped (.ok ()) →
      ∀ h s', Service.Run Shared.serve Service.Any (Shared.serve now trip s).2 h s' →
      ∀ (later : ℕ) (window : ℚ), (∀ e ∈ h, e.time ≤ later) → later < now + hold * 1000 →
        0 < window →
        ∃ snapshot, (Shared.serve later (.snapshot rolloutId (.finite window)) s').1 =
          .snapshot (.ok snapshot) ∧ snapshot.trippedReason.isSome := by
  intro hall
  have run : Service.Run Shared.serve Service.Any
      (Shared.serve 0 (.trip "rollout" "error_rate" (.finite 3600)) Shared.initial).2 _ _ :=
    .cons 1000 (.record lateCompletion (.finite 60)) .nil (by simp) trivial
  have hpast : ∀ e ∈ [Service.event Shared.serve 1000 (.record lateCompletion (.finite 60))
      (Shared.serve 0 (.trip "rollout" "error_rate" (.finite 3600)) Shared.initial).2],
      e.time ≤ 200000 := by
    simp [Service.event]
  obtain ⟨snapshot, hreply, hsome⟩ := hall [] Shared.initial .nil 0 "rollout" "error_rate" 3600
    (by decide +kernel) _ _ run 200000 60 hpast (by norm_num) (by norm_num)
  have hactual : (Shared.serve 200000 (.snapshot "rollout" (.finite 60))
      (Shared.serve 1000 (.record lateCompletion (.finite 60))
        (Shared.serve 0 (.trip "rollout" "error_rate" (.finite 3600)) Shared.initial).2).2).1 =
      .snapshot (.ok {}) := by decide +kernel
  rw [hactual] at hreply
  simp only [Reply.snapshot.injEq, Except.ok.injEq] at hreply
  simp [← hreply] at hsome

end WayfinderRouter.Canary
