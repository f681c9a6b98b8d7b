import WayfinderRouter.Redis.SortedSet
import WayfinderRouter.SharedState.Backend
import WayfinderRouter.Timed.Service

/-!
# Fleet admission leases

Every replica takes a lease on one sorted set before it delivers a request. A lease is a
member scored with its own deadline, and the key as a whole carries a second expiry that
each new lease pushes out.

`leases` is the fleet's own view, read off the calls and their replies: which lease ids
were granted, when, and not released since. `Inv` ties the stored set to that view, and
the bound on leases in flight follows by counting.

The lease TTL of the gateway is a constant of six hours, so `PEXPIRE` never refuses it.

## Main definitions

- `acquireAdmissionScript`, `releaseAdmissionScript` — the scripts
- `serve` — `acquire_admission` and `release_admission`
- `leases`, `inFlight` — granted and unreleased leases, from the history
-/

namespace WayfinderRouter.Admission

open Redis Timed

/-- The admission key: lease ids scored with their deadlines. -/
abbrev State := Key (ZSet String)

/-- `ACQUIRE_ADMISSION_SCRIPT`. -/
def acquireAdmissionScript (limit ttlMs : ℕ) (leaseId : String) (now : ℕ) (key : State) :
    ScriptReply × State :=
  if limit < 1 ∨ ttlMs < 1 then (.errorReply "invalid shared admission bounds", key)
  else
    let key := (key.live now).zremrangebyscore now
    if (key.zscore leaseId).isSome then (.integer 1, key)
    else if limit ≤ key.zcard then (.integer 0, key)
    else (.integer 1, (key.zadd (now + ttlMs) leaseId).pexpire now ttlMs)

/-- `RELEASE_ADMISSION_SCRIPT`. -/
def releaseAdmissionScript (leaseId : String) (now : ℕ) (key : State) : ScriptReply × State :=
  let key := (key.live now).zrem leaseId
  (.integer 1, if key.zcard = 0 then none else key)

/-- The calls of a replica. -/
inductive Call where
  | acquire (limit : ℕ) (leaseId : String) (ttlMs : ℕ)
  | release (leaseId : String)
deriving DecidableEq

inductive Reply where
  | acquired (result : Except StateBackendError Bool)
  | released (result : Except StateBackendError Unit)

/-- `acquire_admission`. -/
def acquireAdmission (limit : ℕ) (leaseId : String) (ttlMs now : ℕ) (key : State) :
    Except StateBackendError Bool × State :=
  if limit = 0 ∨ leaseId.isEmpty ∨ 128 < leaseId.utf8ByteSize ∨ ttlMs = 0 then
    (.error .unavailable, key)
  else
    let (reply, key) := acquireAdmissionScript limit ttlMs leaseId now key
    (reply.granted, key)

/-- `release_admission`. -/
def releaseAdmission (leaseId : String) (now : ℕ) (key : State) :
    Except StateBackendError Unit × State :=
  let (reply, key) := releaseAdmissionScript leaseId now key
  (reply.done, key)

def serve : Service ℕ State Call Reply
  | now, .acquire limit leaseId ttlMs, key =>
    let (result, key) := acquireAdmission limit leaseId ttlMs now key
    (.acquired result, key)
  | now, .release leaseId, key =>
    let (result, key) := releaseAdmission leaseId now key
    (.released result, key)

/-- The key as an acquire at time `now` leaves it before it takes a slot. -/
def purged (now : ℕ) (key : State) : State := (key.live now).zremrangebyscore now

/-- The calls an acquire refuses before it reaches the server. -/
def Invalid (limit : ℕ) (leaseId : String) (ttlMs : ℕ) : Prop :=
  limit = 0 ∨ leaseId.isEmpty ∨ 128 < leaseId.utf8ByteSize ∨ ttlMs = 0

theorem acquireAdmission_cases (limit : ℕ) (leaseId : String) (ttlMs now : ℕ) (key : State) :
    (Invalid limit leaseId ttlMs ∧
      acquireAdmission limit leaseId ttlMs now key = (.error .unavailable, key)) ∨
    (¬Invalid limit leaseId ttlMs ∧ ((purged now key).zscore leaseId).isSome ∧
      acquireAdmission limit leaseId ttlMs now key = (.ok true, purged now key)) ∨
    (¬Invalid limit leaseId ttlMs ∧ (purged now key).zscore leaseId = none ∧
      limit ≤ (purged now key).zcard ∧
      acquireAdmission limit leaseId ttlMs now key = (.ok false, purged now key)) ∨
    (¬Invalid limit leaseId ttlMs ∧ (purged now key).zscore leaseId = none ∧
      (purged now key).zcard < limit ∧
      acquireAdmission limit leaseId ttlMs now key =
        (.ok true, ((purged now key).zadd (now + ttlMs) leaseId).pexpire now ttlMs)) := by
  by_cases hinv : Invalid limit leaseId ttlMs
  · exact .inl ⟨hinv, if_pos hinv⟩
  · have hbounds : ¬(limit < 1 ∨ ttlMs < 1) := by
      simp only [Invalid, not_or] at hinv
      omega
    have hcall : acquireAdmission limit leaseId ttlMs now key =
        ((acquireAdmissionScript limit ttlMs leaseId now key).1.granted,
          (acquireAdmissionScript limit ttlMs leaseId now key).2) := if_neg hinv
    rw [hcall, acquireAdmissionScript, if_neg hbounds]
    change _ ∨ _ ∧ ((purged now key).zscore leaseId).isSome = true ∧ _ ∨ _
    by_cases hs : ((purged now key).zscore leaseId).isSome
    · refine .inr (.inl ⟨hinv, hs, ?_⟩)
      simp only [purged] at hs ⊢
      simp [hs, ScriptReply.granted]
    · have hnone : (purged now key).zscore leaseId = none := by simpa using hs
      by_cases hfull : limit ≤ (purged now key).zcard
      · refine .inr (.inr (.inl ⟨hinv, hnone, hfull, ?_⟩))
        simp only [purged] at hnone hfull ⊢
        simp [hnone, hfull, ScriptReply.granted]
      · refine .inr (.inr (.inr ⟨hinv, hnone, not_le.mp hfull, ?_⟩))
        simp only [purged] at hnone hfull ⊢
        simp [hnone, hfull, ScriptReply.granted]

-- ════════════════════════════════════════════════════════════════════════
-- The fleet's view
-- ════════════════════════════════════════════════════════════════════════

/-- The leases granted and not released in a history, with the time of the grant. A grant
for a lease that is still live is the same lease and keeps its time. -/
def leases (ttlMs : ℕ) : List (Event ℕ Call Reply) → Hash String ℕ
  | [] => ∅
  | ⟨now, .acquire _ leaseId _, .acquired (.ok true)⟩ :: h =>
    if ((leases ttlMs h).get leaseId).any fun granted => now < granted + ttlMs then leases ttlMs h
    else (leases ttlMs h).set leaseId now
  | ⟨_, .release leaseId, _⟩ :: h => (leases ttlMs h).del leaseId
  | _ :: h => leases ttlMs h

/-- A grant time is the time of a call. -/
theorem exists_event_of_leases {ttlMs granted : ℕ} {id : String} {h : List (Event ℕ Call Reply)}
    (hg : (leases ttlMs h).get id = some granted) : ∃ e ∈ h, e.time = granted := by
  fun_induction leases ttlMs h with
  | case1 => simp at hg
  | case2 now _ leaseId _ h _ ih =>
    obtain ⟨e, he, ht⟩ := ih hg
    exact ⟨e, by simp [he], ht⟩
  | case3 now _ leaseId _ h _ ih =>
    rw [Hash.get_set] at hg
    split at hg
    · obtain rfl := Option.some.inj hg
      exact ⟨_, List.mem_cons_self, rfl⟩
    · obtain ⟨e, he, ht⟩ := ih hg
      exact ⟨e, by simp [he], ht⟩
  | case4 _ leaseId _ h ih =>
    rw [Hash.get_del] at hg
    split at hg
    · simp at hg
    · obtain ⟨e, he, ht⟩ := ih hg
      exact ⟨e, by simp [he], ht⟩
  | case5 _ h _ _ ih =>
    obtain ⟨e, he, ht⟩ := ih hg
    exact ⟨e, by simp [he], ht⟩

/-- The leases granted and neither released nor older than the lease TTL. -/
def inFlight (ttlMs now : ℕ) (h : List (Event ℕ Call Reply)) : Hash String ℕ :=
  (leases ttlMs h).filter fun granted => now < granted + ttlMs

/-- The fleet runs with one limit and one lease TTL. -/
def Uniform (limit ttlMs : ℕ) :
    List (Event ℕ Call Reply) → State → ℕ → Call → Prop
  | _, _, _, .acquire limit' _ ttlMs' => limit' = limit ∧ ttlMs' = ttlMs
  | _, _, _, .release _ => True

/-- The stored set against the fleet's view: a lease is stored until its TTL has passed,
the key outlives its members, every member is a lease, and there are at most `limit`. -/
structure Inv (limit ttlMs : ℕ) (h : List (Event ℕ Call Reply)) (s : State) : Prop where
  stored : ∀ id granted, (leases ttlMs h).get id = some granted →
    s.zscore id = some (granted + ttlMs) ∨ ∃ e ∈ h, granted + ttlMs ≤ e.time
  member : ∀ id score, s.zscore id = some score →
    ∃ granted, (leases ttlMs h).get id = some granted ∧ score = granted + ttlMs
  deadline : ∀ id score, s.zscore id = some score → ∃ d, s.deadline? = some d ∧ score ≤ d
  valid : ∀ id granted, (leases ttlMs h).get id = some granted → ¬Invalid limit id ttlMs
  card : s.zcard ≤ limit

theorem inv_nil (limit ttlMs : ℕ) : Inv limit ttlMs [] none where
  stored := by
    intro id granted hg
    simp [leases] at hg
  member := by
    intro id score hs
    simp at hs
  deadline := by
    intro id score hs
    simp at hs
  valid := by
    intro id granted hg
    simp [leases] at hg
  card := Nat.zero_le _

section Steps

variable {limit ttlMs now : ℕ} {h : List (Event ℕ Call Reply)} {s : State} {e : Event ℕ Call Reply}

/-- Until its score a member is found, since the key outlives it. -/
theorem Inv.not_lapsed (inv : Inv limit ttlMs h s) {id : String} {score : ℕ}
    (hs : s.zscore id = some score) (hlt : now < score) : ¬s.Lapsed now := by
  obtain ⟨d, hd, hle⟩ := inv.deadline id score hs
  exact Key.not_lapsed_of_lt hd (by omega)

theorem zscore_of_purged {id : String} {score : ℕ} (hs : (purged now s).zscore id = some score) :
    s.zscore id = some score ∧ now < score ∧ (purged now s).deadline? = s.deadline? := by
  have hfilter := hs
  rw [purged, Key.zscore_zremrangebyscore, Option.filter_eq_some_iff] at hfilter
  obtain ⟨hlive, hlt⟩ := hfilter
  obtain ⟨hscore, hl⟩ := Key.zscore_of_live hlive
  refine ⟨hscore, by simpa using hlt, ?_⟩
  have hleft : (purged now s).zscore id ≠ none := by simp [hs]
  rw [purged, Key.deadline?_zremrangebyscore_of_zscore hleft, Key.live_of_not_lapsed hl]

theorem Inv.zscore_purged (inv : Inv limit ttlMs h s) {id : String} {score : ℕ}
    (hs : s.zscore id = some score) (hlt : now < score) :
    (purged now s).zscore id = some score := by
  rw [purged, Key.zscore_zremrangebyscore, Key.live_of_not_lapsed (inv.not_lapsed hs hlt), hs]
  simp [Option.filter, hlt]

/-- Dropping the leases whose time has come keeps the invariant. -/
theorem Inv.purged (inv : Inv limit ttlMs h s) (he : e.time = now)
    (hleases : leases ttlMs (e :: h) = leases ttlMs h) :
    Inv limit ttlMs (e :: h) (purged now s) where
  stored := by
    intro id granted hg
    rw [hleases] at hg
    rcases inv.stored id granted hg with hs | ⟨e', he', hle⟩
    · by_cases hlt : now < granted + ttlMs
      · exact .inl (inv.zscore_purged hs hlt)
      · exact .inr ⟨e, by simp, by omega⟩
    · exact .inr ⟨e', by simp [he'], hle⟩
  member := by
    intro id score hs
    rw [hleases]
    exact inv.member id score (zscore_of_purged hs).1
  deadline := by
    intro id score hs
    obtain ⟨hs', _, hd⟩ := zscore_of_purged hs
    rw [hd]
    exact inv.deadline id score hs'
  valid := by
    rw [hleases]
    exact inv.valid
  card := ((Key.zcard_zremrangebyscore_le now _).trans (Key.zcard_live_le now s)).trans inv.card

/-- Granting a free slot keeps the invariant. -/
theorem Inv.grant (inv : Inv limit ttlMs h s) {id : String} (hpast : ∀ e ∈ h, e.time ≤ now)
    (he : e.time = now) (hvalid : ¬Invalid limit id ttlMs)
    (hnone : (Admission.purged now s).zscore id = none)
    (hfree : (Admission.purged now s).zcard < limit)
    (hleases : leases ttlMs (e :: h) = (leases ttlMs h).set id now) :
    Inv limit ttlMs (e :: h)
      (((Admission.purged now s).zadd (now + ttlMs) id).pexpire now ttlMs) := by
  have hscore : ∀ m, Key.zscore m
      (((Admission.purged now s).zadd (now + ttlMs) id).pexpire now ttlMs) =
        if m = id then some (now + ttlMs) else (Admission.purged now s).zscore m := by
    intro m
    rw [Key.zscore, Key.hget_pexpire, Key.zadd, Key.hget_hset]
    rfl
  constructor
  · intro m granted hg
    rw [hleases, Hash.get_set] at hg
    rw [hscore]
    by_cases hm : m = id
    · rw [if_pos hm] at hg ⊢
      obtain rfl := Option.some.inj hg
      exact .inl rfl
    · rw [if_neg hm] at hg ⊢
      rcases inv.stored m granted hg with hs | ⟨e', he', hle⟩
      · by_cases hlt : now < granted + ttlMs
        · exact .inl (inv.zscore_purged hs hlt)
        · exact .inr ⟨e, by simp, by omega⟩
      · exact .inr ⟨e', by simp [he'], hle⟩
  · intro m score hs
    rw [hleases, Hash.get_set]
    rw [hscore] at hs
    by_cases hm : m = id
    · rw [if_pos hm] at hs ⊢
      obtain rfl := Option.some.inj hs
      exact ⟨now, rfl, rfl⟩
    · rw [if_neg hm] at hs ⊢
      exact inv.member m score (zscore_of_purged hs).1
  · intro m score hs
    -- the new deadline is the latest one: every earlier grant was made no later than now
    refine ⟨now + ttlMs, Key.deadline?_hset_pexpire _ _ _ _ _, ?_⟩
    rw [hscore] at hs
    split at hs
    · exact (Option.some.inj hs).ge
    · obtain ⟨granted, hg, rfl⟩ := inv.member m score (zscore_of_purged hs).1
      obtain ⟨e', he', rfl⟩ := exists_event_of_leases hg
      have := hpast e' he'
      omega
  · intro m granted hg
    rw [hleases, Hash.get_set] at hg
    split at hg
    · next hm => rwa [hm]
    · exact inv.valid m granted hg
  · rw [Key.zcard, Key.hash_pexpire, ← Key.zcard, Key.zcard_zadd_of_zscore_eq_none hnone]
    exact hfree

/-- Releasing one lease keeps the invariant. -/
theorem Inv.release (inv : Inv limit ttlMs h s) {id : String} (he : e.time = now)
    (hleases : leases ttlMs (e :: h) = (leases ttlMs h).del id) :
    Inv limit ttlMs (e :: h) (releaseAdmissionScript id now s).2 := by
  have hscore : ∀ m, Key.zscore m (releaseAdmissionScript id now s).2 =
      if m = id then none else (s.live now).zscore m := by
    intro m
    have hrem : ((s.live now).zrem id).zscore m = if m = id then none else (s.live now).zscore m :=
      Key.hget_hdel id m _
    rw [← hrem, releaseAdmissionScript]
    by_cases hc : ((s.live now).zrem id).zcard = 0
    · simp [hc, Key.zscore_eq_none_of_zcard_eq_zero hc]
    · simp [hc]
  have hfound : ∀ {m score}, Key.zscore m (releaseAdmissionScript id now s).2 = some score →
      m ≠ id ∧ s.zscore m = some score ∧ ¬s.Lapsed now := by
    intro m score hs
    rw [hscore] at hs
    split at hs
    · simp at hs
    · next hm => exact ⟨hm, Key.zscore_of_live hs⟩
  constructor
  · intro m granted hg
    rw [hleases, Hash.get_del] at hg
    split at hg
    · simp at hg
    · next hm =>
      rcases inv.stored m granted hg with hs | ⟨e', he', hle⟩
      · by_cases hlt : now < granted + ttlMs
        · rw [hscore, if_neg hm, Key.live_of_not_lapsed (inv.not_lapsed hs hlt)]
          exact .inl hs
        · exact .inr ⟨e, by simp, by omega⟩
      · exact .inr ⟨e', by simp [he'], hle⟩
  · intro m score hs
    obtain ⟨hm, hs', _⟩ := hfound hs
    rw [hleases, Hash.get_del, if_neg hm]
    exact inv.member m score hs'
  · intro m score hs
    obtain ⟨_, hs', hl⟩ := hfound hs
    have hdeadline : (releaseAdmissionScript id now s).2.deadline? = s.deadline? := by
      have hne : ((s.live now).zrem id).zcard ≠ 0 := by
        intro hc
        simp [releaseAdmissionScript, hc] at hs
      simp only [releaseAdmissionScript, if_neg hne] at hs ⊢
      rw [Key.zrem,
        Key.deadline?_hdel_of_hget (g := m) (by rw [← Key.zrem, ← Key.zscore, hs]; simp),
        Key.live_of_not_lapsed hl]
    rw [hdeadline]
    exact inv.deadline m score hs'
  · intro m granted hg
    rw [hleases, Hash.get_del] at hg
    split at hg
    · simp at hg
    · exact inv.valid m granted hg
  · have hle : ((s.live now).zrem id).zcard ≤ limit :=
      ((Key.zcard_zrem_le id _).trans (Key.zcard_live_le now s)).trans inv.card
    rw [releaseAdmissionScript]
    split
    · exact Nat.zero_le _
    · exact hle

/-- A lease that the fleet holds is among the purged members. -/
theorem Inv.zscore_purged_of_lease (inv : Inv limit ttlMs h s) (hpast : ∀ e ∈ h, e.time ≤ now)
    {id : String} {granted : ℕ} (hg : (leases ttlMs h).get id = some granted)
    (hlive : now < granted + ttlMs) :
    (Admission.purged now s).zscore id = some (granted + ttlMs) := by
  rcases inv.stored id granted hg with hs | ⟨e, he, hle⟩
  · exact inv.zscore_purged hs hlive
  · have := hpast e he
    omega

theorem serve_acquire {id : String} {result : Except StateBackendError Bool} {s' : State}
    (hcall : acquireAdmission limit id ttlMs now s = (result, s')) :
    serve now (.acquire limit id ttlMs) s = (.acquired result, s') := by
  simp [serve, hcall]

/-- **Step lemma**: a call with the fleet's limit and TTL keeps the invariant. -/
theorem Inv.serve (inv : Inv limit ttlMs h s) (hpast : ∀ e ∈ h, e.time ≤ now) (call : Call)
    (hok : Uniform limit ttlMs h s now call) :
    Inv limit ttlMs (Service.event serve now call s :: h) (serve now call s).2 := by
  cases call with
  | release id => exact inv.release rfl rfl
  | acquire limit' id ttlMs' =>
    obtain ⟨rfl, rfl⟩ := hok
    rcases acquireAdmission_cases limit' id ttlMs' now s with
      ⟨_, hcall⟩ | ⟨_, hsome, hcall⟩ | ⟨_, _, _, hcall⟩ | ⟨hvalid, hnone, hfree, hcall⟩ <;>
      rw [Service.event, serve_acquire hcall]
    · -- refused before the server: the state is as it was
      exact ⟨fun m g hg => (inv.stored m g hg).imp_right fun ⟨e', he', hle⟩ =>
        ⟨e', by simp [he'], hle⟩, inv.member, inv.deadline, inv.valid, inv.card⟩
    · -- a member that is still scored is a live lease
      obtain ⟨score, hscore⟩ := Option.isSome_iff_exists.mp hsome
      obtain ⟨hs, hlt, _⟩ := zscore_of_purged hscore
      obtain ⟨granted, hg, rfl⟩ := inv.member id score hs
      exact inv.purged rfl (by simp [leases, hg, hlt])
    · exact inv.purged rfl rfl
    · -- a lease that is still live would have been found
      have hdead : ¬((leases ttlMs' h).get id).any (fun granted => now < granted + ttlMs') := by
        cases hg : (leases ttlMs' h).get id with
        | none => simp
        | some granted =>
          intro hlive
          rw [inv.zscore_purged_of_lease hpast hg (by simpa using hlive)] at hnone
          simp at hnone
      exact inv.grant hpast rfl hvalid hnone hfree (by rw [leases, if_neg hdead])

/-- The occupied slots are the leases in flight. -/
theorem Inv.zcard_purged (inv : Inv limit ttlMs h s) (hpast : ∀ e ∈ h, e.time ≤ now) :
    (Admission.purged now s).zcard = (inFlight ttlMs now h).keys.length := by
  apply Hash.length_keys_congr
  intro id
  change ((Admission.purged now s).zscore id).isSome = _
  rw [inFlight, Hash.get_filter, Bool.eq_iff_iff, Option.isSome_iff_exists,
    Option.isSome_iff_exists]
  constructor
  · rintro ⟨score, hscore⟩
    obtain ⟨hs, hlt, _⟩ := zscore_of_purged hscore
    obtain ⟨granted, hg, rfl⟩ := inv.member id score hs
    exact ⟨granted, by simp [hg, Option.filter, hlt]⟩
  · rintro ⟨granted, hgranted⟩
    obtain ⟨hg, hlive⟩ := Option.filter_eq_some_iff.mp hgranted
    exact ⟨_, inv.zscore_purged_of_lease hpast hg (by simpa using hlive)⟩

end Steps

theorem inv_of_run {limit ttlMs : ℕ} {h : List (Event ℕ Call Reply)} {s : State}
    (run : Service.Run serve (Uniform limit ttlMs) none h s) : Inv limit ttlMs h s :=
  run.invariant (inv_nil limit ttlMs) fun _ _ _ call inv hpast hok => inv.serve hpast call hok

theorem get_inFlight {ttlMs now granted : ℕ} {id : String} {h : List (Event ℕ Call Reply)} :
    (inFlight ttlMs now h).get id = some granted ↔
      (leases ttlMs h).get id = some granted ∧ now < granted + ttlMs := by
  rw [inFlight, Hash.get_filter, Option.filter_eq_some_iff]
  simp

/-- **Fleet admission.** After any interleaving of acquires and releases the leases in flight
number at most `limit`; acquiring a lease in flight again is granted and takes no slot; a
release leaves every other lease in flight stored until its TTL; and the expiry of the key
drops no lease before its TTL. -/
theorem admission_bound {limit ttlMs now : ℕ} {h : List (Event ℕ Call Reply)} {s : State}
    (run : Service.Run serve (Uniform limit ttlMs) none h s) (hnow : ∀ e ∈ h, e.time ≤ now) :
    (inFlight ttlMs now h).keys.length ≤ limit ∧
    (∀ id granted, (inFlight ttlMs now h).get id = some granted →
      (serve now (.acquire limit id ttlMs) s).1 = .acquired (.ok true) ∧
      (serve now (.acquire limit id ttlMs) s).2.zcard = (inFlight ttlMs now h).keys.length) ∧
    (∀ id other granted, other ≠ id → (inFlight ttlMs now h).get other = some granted →
      ∀ later, now ≤ later → later < granted + ttlMs →
        ((serve now (.release id) s).2.live later).zscore other = some (granted + ttlMs)) ∧
    (∀ id granted, (inFlight ttlMs now h).get id = some granted →
      (s.live now).zscore id = some (granted + ttlMs)) := by
  have inv := inv_of_run run
  refine ⟨?_, ?_, ?_, ?_⟩
  · rw [← inv.zcard_purged hnow]
    exact ((Key.zcard_zremrangebyscore_le now _).trans (Key.zcard_live_le now s)).trans inv.card
  · intro id granted hg
    obtain ⟨hg, hlive⟩ := get_inFlight.mp hg
    have hscore := inv.zscore_purged_of_lease hnow hg hlive
    rcases acquireAdmission_cases limit id ttlMs now s with
      ⟨hinv, _⟩ | ⟨_, _, hcall⟩ | ⟨_, hnone, _⟩ | ⟨_, hnone, _⟩
    · exact absurd hinv (inv.valid id granted hg)
    · rw [serve_acquire hcall]
      exact ⟨rfl, inv.zcard_purged hnow⟩
    · simp [hscore] at hnone
    · simp [hscore] at hnone
  · intro id other granted hne hg later hle hlt
    obtain ⟨hg, _⟩ := get_inFlight.mp hg
    have inv' := inv.serve hnow (.release id) trivial
    have hleases : (leases ttlMs (Service.event serve now (.release id) s :: h)).get other =
        some granted := by
      rw [Service.event, leases, Hash.get_del, if_neg hne]
      exact hg
    rcases inv'.stored other granted hleases with hs | ⟨e, he, hdead⟩
    · rw [Key.live_of_not_lapsed (inv'.not_lapsed hs hlt)]
      exact hs
    · have : e.time ≤ now := by
        rcases List.mem_cons.mp he with rfl | he
        · exact le_rfl
        · exact hnow e he
      omega
  · intro id granted hg
    obtain ⟨hg, hlive⟩ := get_inFlight.mp hg
    rcases inv.stored id granted hg with hs | ⟨e, he, hle⟩
    · rw [Key.live_of_not_lapsed (inv.not_lapsed hs hlive)]
      exact hs
    · have := hnow e he
      omega

/-- One slot, taken by `lease-a` at time 0: at time 1 that lease is granted again. -/
theorem admission_bound_one_slot :
    (inFlight 1000 1 [Service.event serve 0 (.acquire 1 "lease-a" 1000) none]).get "lease-a" =
      some 0 ∧
    (serve 1 (.acquire 1 "lease-a" 1000) (serve 0 (.acquire 1 "lease-a" 1000) none).2).1 =
      .acquired (.ok true) := by
  have run : Service.Run serve (Uniform 1 1000) none
      [Service.event serve 0 (.acquire 1 "lease-a" 1000) none]
      (serve 0 (.acquire 1 "lease-a" 1000) none).2 :=
    Service.Run.cons 0 (Call.acquire 1 "lease-a" 1000) .nil (by simp) ⟨rfl, rfl⟩
  have hnow : ∀ e ∈ [Service.event serve 0 (.acquire 1 "lease-a" 1000) none], e.time ≤ 1 := by
    simp [Service.event]
  exact ⟨rfl, ((admission_bound run hnow).2.1 "lease-a" 0 rfl).1⟩

end WayfinderRouter.Admission
