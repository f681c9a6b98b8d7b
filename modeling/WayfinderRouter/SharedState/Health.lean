import Mathlib.Logic.Function.Basic
import WayfinderRouter.Redis.Key
import WayfinderRouter.SharedState.Backend
import WayfinderRouter.Timed.Service

/-!
# The fleet circuit

Each concrete target has one hash with a failure counter, the time until which the circuit
is open, and the probe id of the attempt that holds the target's lease. Every replica
begins an attempt before it delivers and completes or releases it afterwards.

The script records one probe id for closed and half-open attempts alike, so the fleet has at
most one attempt in flight on a target. The key's expiry is set when an attempt begins and
not when the circuit opens; `Intact` leaves out the runs in which it drops a lease that is
still held or a circuit that is still open. Cooldowns are short enough for `PEXPIRE` to
accept twice their length.

## Main definitions

- `beginHealthScript`, `completeHealthScript`, `releaseHealthScript` — the scripts
- `serve` — the three operations of a replica
- `unfinished`, `streak` — granted attempts and consecutive failures, from the history
-/

namespace WayfinderRouter.Health

open Redis Timed

/-- The fields of a target's hash. -/
structure Fields where
  failures : Option ℤ := none
  openUntil : Option ℕ := none
  probe : Option String := none
deriving DecidableEq, Inhabited

def Fields.isEmpty (f : Fields) : Bool := f.failures.isNone && f.openUntil.isNone && f.probe.isNone

/-- The health keys of all targets. -/
abbrev State := String → Key Fields

/-- `HGET key field`. -/
def field {α : Type*} (get : Fields → Option α) (key : Key Fields) : Option α := key.value?.bind get

/-- `HDEL key 'probe'`. -/
def hdelProbe (key : Key Fields) : Key Fields :=
  key.shrink (fun f => { f with probe := none }) Fields.isEmpty

/-- `BEGIN_HEALTH_SCRIPT`. -/
def beginHealthScript (cooldownMs : ℕ) (probeId : String) (now : ℕ) (key : Key Fields) :
    ScriptReply × Key Fields :=
  let key := key.live now
  let openUntil := (field Fields.openUntil key).getD 0
  let probe := field Fields.probe key
  if now < openUntil ∧ probe ≠ some probeId then (.integer 0, key)
  else if probe ≠ none ∧ probe ≠ some probeId then (.integer 0, key)
  else (.integer 1, (key.write fun f => { f with probe := some probeId }).pexpire now
    (max (cooldownMs * 2) 1000))

/-- `COMPLETE_HEALTH_SCRIPT`. -/
def completeHealthScript (threshold cooldownMs : ℕ) (probeId : String) (succeeded : Bool)
    (now : ℕ) (key : Key Fields) : ScriptReply × Key Fields :=
  let key := key.live now
  let probe := field Fields.probe key
  if probe ≠ none ∧ probe ≠ some probeId then (.integer 0, key)
  else if succeeded then
    (.integer 1, hdelProbe (key.write fun f => { f with failures := some 0, openUntil := some 0 }))
  else
    let failures := (field Fields.failures key).getD 0 + 1
    let key := key.write fun f => { f with failures := some failures }
    let key := if (threshold : ℤ) ≤ failures then
        key.write fun f => { f with openUntil := some (now + cooldownMs) }
      else key
    (.integer 1, hdelProbe key)

/-- `RELEASE_HEALTH_SCRIPT`. -/
def releaseHealthScript (probeId : String) (now : ℕ) (key : Key Fields) :
    ScriptReply × Key Fields :=
  let key := key.live now
  (.integer 1, if field Fields.probe key = some probeId then hdelProbe key else key)

/-- The calls of a replica. -/
inductive Call where
  | begin (target : String) (threshold cooldownMs : ℕ) (probeId : String)
  | complete (target : String) (threshold cooldownMs : ℕ) (probeId : String) (succeeded : Bool)
  | release (target probeId : String)

def Call.target : Call → String
  | begin target .. => target
  | complete target .. => target
  | release target _ => target

inductive Reply where
  | began (result : Except StateBackendError Bool)
  | finished (result : Except StateBackendError Unit)
deriving DecidableEq

/-- The inputs that begin and complete refuse before they reach the server. -/
def Invalid (target : String) (threshold cooldownMs : ℕ) (probeId : String) : Prop :=
  threshold = 0 ∨ cooldownMs = 0 ∨ target.isEmpty ∨ probeId.isEmpty

instance (target : String) (threshold cooldownMs : ℕ) (probeId : String) :
    Decidable (Invalid target threshold cooldownMs probeId) :=
  inferInstanceAs (Decidable
    (threshold = 0 ∨ cooldownMs = 0 ∨ target.isEmpty ∨ probeId.isEmpty))

/-- `begin_provider_health`, `complete_provider_health` and `release_provider_health`. -/
def serve : Service ℕ State Call Reply
  | now, .begin target threshold cooldownMs probeId, s =>
    if Invalid target threshold cooldownMs probeId then (.began (.error .unavailable), s)
    else
      let (reply, key) := beginHealthScript cooldownMs probeId now (s target)
      (.began reply.granted, Function.update s target key)
  | now, .complete target threshold cooldownMs probeId succeeded, s =>
    if Invalid target threshold cooldownMs probeId then (.finished (.error .unavailable), s)
    else
      let (reply, key) :=
        completeHealthScript threshold cooldownMs probeId succeeded now (s target)
      (.finished (if reply = .integer 1 then .ok () else .error .unavailable),
        Function.update s target key)
  | now, .release target probeId, s =>
    let (reply, key) := releaseHealthScript probeId now (s target)
    (.finished reply.done, Function.update s target key)

/-- No target has a key. -/
def initial : State := fun _ => none

-- ════════════════════════════════════════════════════════════════════════
-- The fleet's view
-- ════════════════════════════════════════════════════════════════════════

/-- The probe ids that began on a target. -/
def begun (target : String) : List (Event ℕ Call Reply) → List String
  | [] => []
  | ⟨_, .begin target' _ _ probeId, _⟩ :: h =>
    if target' = target then probeId :: begun target h else begun target h
  | _ :: h => begun target h

/-- The granted attempts on a target that were neither completed nor released. -/
def unfinished (target : String) : List (Event ℕ Call Reply) → List String
  | [] => []
  | ⟨_, .begin target' _ _ probeId, .began (.ok true)⟩ :: h =>
    if target' = target then probeId :: unfinished target h else unfinished target h
  | ⟨_, .complete target' _ _ probeId _, _⟩ :: h =>
    if target' = target then (unfinished target h).erase probeId else unfinished target h
  | ⟨_, .release target' probeId, _⟩ :: h =>
    if target' = target then (unfinished target h).erase probeId else unfinished target h
  | _ :: h => unfinished target h

/-- The consecutive failures of a target since its last success. -/
def streak (target : String) : List (Event ℕ Call Reply) → ℕ
  | [] => 0
  | ⟨_, .complete target' _ _ _ succeeded, _⟩ :: h =>
    if target' = target then (if succeeded then 0 else streak target h + 1) else streak target h
  | _ :: h => streak target h

/-- The attempt protocol: one threshold and cooldown for the fleet, a fresh probe id for every
attempt on a target, and only granted attempts finish, each at most once. -/
def Protocol (threshold cooldownMs : ℕ) (h : List (Event ℕ Call Reply)) (_ : State) (_ : ℕ) :
    Call → Prop
  | .begin target threshold' cooldownMs' probeId =>
    threshold' = threshold ∧ cooldownMs' = cooldownMs ∧ probeId ∉ begun target h
  | .complete target threshold' cooldownMs' probeId _ =>
    threshold' = threshold ∧ cooldownMs' = cooldownMs ∧ probeId ∈ unfinished target h
  | .release target probeId => probeId ∈ unfinished target h

/-- The key of a target lapses only when no attempt holds it and its circuit is not open. -/
def Intact (h : List (Event ℕ Call Reply)) (s : State) (now : ℕ) (target : String) : Prop :=
  (s target).Lapsed now →
    unfinished target h = [] ∧ (field Fields.openUntil (s target)).getD 0 ≤ now

instance (threshold cooldownMs : ℕ) (h : List (Event ℕ Call Reply)) (s : State) (now : ℕ) :
    (call : Call) → Decidable (Protocol threshold cooldownMs h s now call)
  | .begin target threshold' cooldownMs' probeId => inferInstanceAs (Decidable
    (threshold' = threshold ∧ cooldownMs' = cooldownMs ∧ probeId ∉ begun target h))
  | .complete target threshold' cooldownMs' probeId _ => inferInstanceAs (Decidable
    (threshold' = threshold ∧ cooldownMs' = cooldownMs ∧ probeId ∈ unfinished target h))
  | .release target probeId => inferInstanceAs (Decidable (probeId ∈ unfinished target h))

instance (h : List (Event ℕ Call Reply)) (s : State) (now : ℕ) (target : String) :
    Decidable (Intact h s now target) :=
  inferInstanceAs (Decidable ((s target).Lapsed now →
    unfinished target h = [] ∧ (field Fields.openUntil (s target)).getD 0 ≤ now))

/-- The protocol, on keys that lapse only when idle. -/
def Orderly (threshold cooldownMs : ℕ) (h : List (Event ℕ Call Reply)) (s : State) (now : ℕ)
    (call : Call) : Prop :=
  Protocol threshold cooldownMs h s now call ∧ Intact h s now call.target

/-- What the key of a target says against the fleet's view: the recorded probe is the one
attempt in flight, every counted failure is in the streak, and only a full streak opens the
circuit. -/
structure Agrees (threshold cooldownMs : ℕ) (target : String) (h : List (Event ℕ Call Reply))
    (key : Key Fields) : Prop where
  probe : unfinished target h = (field Fields.probe key).toList
  failures : (field Fields.failures key).getD 0 ≤ streak target h
  openUntil : (field Fields.openUntil key).getD 0 = 0 ∨ threshold ≤ streak target h
  valid : ∀ probeId ∈ unfinished target h, ¬Invalid target threshold cooldownMs probeId

section Fields

variable {α : Type*} (get : Fields → Option α) {key : Key Fields} {now : ℕ}

@[simp] theorem field_none : field get none = none := rfl

@[simp] theorem field_pexpire (ttl : ℕ) : field get (key.pexpire now ttl) = field get key := by
  simp [field]

theorem field_write {f : Fields → Fields} (hf : ∀ x, get (f x) = get x)
    (hdefault : get default = none) : field get (key.write f) = field get key := by
  cases key with
  | none => simpa [field, hf] using hdefault
  | some st => simp [field, hf]

@[simp] theorem probe_hdelProbe : field Fields.probe (hdelProbe key) = none := by
  cases key with
  | none => rfl
  | some st =>
    simp only [hdelProbe, Key.shrink]
    split <;> rfl

/-- Removing the probe leaves the other fields, also when it deletes the key. -/
theorem field_hdelProbe (hget : ∀ x : Fields, get { x with probe := none } = get x)
    (hempty : ∀ x : Fields, x.isEmpty → get x = none) :
    field get (hdelProbe key) = field get key := by
  cases key with
  | none => rfl
  | some st =>
    by_cases he : ({ st.value with probe := none } : Fields).isEmpty
    · have hkey : hdelProbe (some st) = none := if_pos he
      rw [hkey, field_none, field, Key.value?_some, Option.bind_some, ← hget]
      exact (hempty _ he).symm
    · have hkey : hdelProbe (some st) = some { st with value := { st.value with probe := none } } :=
        if_neg he
      rw [hkey]
      exact hget st.value

@[simp] theorem failures_hdelProbe :
    field Fields.failures (hdelProbe key) = field Fields.failures key :=
  field_hdelProbe _ (fun _ => rfl) fun x hx => by
    simp only [Fields.isEmpty, Bool.and_eq_true, Option.isNone_iff_eq_none] at hx
    exact hx.1.1

@[simp] theorem openUntil_hdelProbe :
    field Fields.openUntil (hdelProbe key) = field Fields.openUntil key :=
  field_hdelProbe _ (fun _ => rfl) fun x hx => by
    simp only [Fields.isEmpty, Bool.and_eq_true, Option.isNone_iff_eq_none] at hx
    exact hx.1.2

end Fields

section Steps

variable {threshold cooldownMs now : ℕ} {target : String} {h : List (Event ℕ Call Reply)}
  {e : Event ℕ Call Reply} {s : State} {key : Key Fields}

theorem subset_begun {probeId : String} (hp : probeId ∈ unfinished target h) :
    probeId ∈ begun target h := by
  induction h with
  | nil => simp [unfinished] at hp
  | cons e h ih =>
    obtain ⟨time, call, reply⟩ := e
    cases call with
    | begin target' _ _ probeId' =>
      have hcases : probeId ∈ unfinished target h ∨ target' = target ∧ probeId = probeId' := by
        rcases reply with (_ | _ | _) | _ <;> simp only [unfinished] at hp
        · exact .inl hp
        · exact .inl hp
        · split at hp
          · next ht =>
            rcases List.mem_cons.mp hp with rfl | hp
            · exact .inr ⟨ht, rfl⟩
            · exact .inl hp
          · exact .inl hp
        · exact .inl hp
      simp only [begun]
      rcases hcases with hp | ⟨ht, rfl⟩
      · split
        · exact List.mem_cons_of_mem _ (ih hp)
        · exact ih hp
      · simp [ht]
    | complete target' =>
      simp only [unfinished] at hp
      split at hp
      · exact ih (List.mem_of_mem_erase hp)
      · exact ih hp
    | release target' =>
      simp only [unfinished] at hp
      split at hp
      · exact ih (List.mem_of_mem_erase hp)
      · exact ih hp

/-- A call leaves the keys of the other targets alone. -/
theorem serve_of_ne (s : State) {call : Call} (hne : call.target ≠ target) :
    (serve now call s).2 target = s target := by
  cases call <;> simp only [serve] <;> (try split) <;>
    simp_all [Call.target, Function.update_of_ne, Ne.symm]

theorem unfinished_of_ne (hne : e.call.target ≠ target) :
    unfinished target (e :: h) = unfinished target h := by
  obtain ⟨time, call, reply⟩ := e
  cases call <;> (try rcases reply with (_ | _ | _) | _) <;> simp_all [unfinished, Call.target]

theorem streak_of_ne (hne : e.call.target ≠ target) :
    streak target (e :: h) = streak target h := by
  obtain ⟨time, call, reply⟩ := e
  cases call <;> simp_all [streak, Call.target]

/-- An event on another target changes nothing here. -/
theorem Agrees.frame (ag : Agrees threshold cooldownMs target h key)
    (hne : e.call.target ≠ target) : Agrees threshold cooldownMs target (e :: h) key := by
  have hu := unfinished_of_ne (h := h) hne
  have hs := streak_of_ne (h := h) hne
  exact ⟨by rw [hu]; exact ag.probe, by rw [hs]; exact ag.failures,
    by rw [hs]; exact ag.openUntil, by rw [hu]; exact ag.valid⟩

/-- A key that lapses when nothing holds it starts afresh. -/
theorem Agrees.live (ag : Agrees threshold cooldownMs target h key)
    (idle : key.Lapsed now → unfinished target h = []) :
    Agrees threshold cooldownMs target h (key.live now) := by
  by_cases hl : key.Lapsed now
  · rw [Key.live_of_lapsed hl]
    exact ⟨by rw [idle hl]; rfl, by simp, .inl rfl, ag.valid⟩
  · rwa [Key.live_of_not_lapsed hl]

/-- What a begin with a fresh probe id can do. -/
theorem beginHealthScript_cases {probeId : String}
    (hfresh : field Fields.probe (key.live now) ≠ some probeId) :
    ((now < (field Fields.openUntil (key.live now)).getD 0 ∨
        field Fields.probe (key.live now) ≠ none) ∧
      beginHealthScript cooldownMs probeId now key = (.integer 0, key.live now)) ∨
    ((field Fields.openUntil (key.live now)).getD 0 ≤ now ∧
      field Fields.probe (key.live now) = none ∧
      beginHealthScript cooldownMs probeId now key =
        (.integer 1, ((key.live now).write fun f => { f with probe := some probeId }).pexpire now
          (max (cooldownMs * 2) 1000))) := by
  by_cases hopen : now < (field Fields.openUntil (key.live now)).getD 0
  · exact .inl ⟨.inl hopen, by simp only [beginHealthScript]; rw [if_pos ⟨hopen, hfresh⟩]⟩
  · have hfirst : ¬(now < (field Fields.openUntil (key.live now)).getD 0 ∧
        field Fields.probe (key.live now) ≠ some probeId) := fun hc => hopen hc.1
    by_cases hprobe : field Fields.probe (key.live now) = none
    · refine .inr ⟨not_lt.mp hopen, hprobe, ?_⟩
      simp only [beginHealthScript]
      rw [if_neg hfirst, if_neg (fun hc => hc.1 hprobe)]
    · refine .inl ⟨.inr hprobe, ?_⟩
      simp only [beginHealthScript]
      rw [if_neg hfirst, if_pos ⟨hprobe, hfresh⟩]

theorem Agrees.begin (ag : Agrees threshold cooldownMs target h key) {probeId : String}
    (idle : key.Lapsed now → unfinished target h = [])
    (hvalid : ¬Invalid target threshold cooldownMs probeId) (hfresh : probeId ∉ begun target h) :
    Agrees threshold cooldownMs target
      (⟨now, .begin target threshold cooldownMs probeId,
        .began (beginHealthScript cooldownMs probeId now key).1.granted⟩ :: h)
      (beginHealthScript cooldownMs probeId now key).2 := by
  have live := ag.live idle
  have hprobe : field Fields.probe (key.live now) ≠ some probeId := by
    intro hp
    have hu := live.probe
    rw [hp] at hu
    exact hfresh (subset_begun (by simp [hu]))
  rcases beginHealthScript_cases hprobe with ⟨_, hscript⟩ | ⟨_, hnone, hscript⟩ <;> rw [hscript]
  · exact ⟨live.probe, live.failures, live.openUntil, live.valid⟩
  · have hu := live.probe
    rw [hnone] at hu
    refine ⟨?_, ?_, ?_, ?_⟩
    · simp [ScriptReply.granted, unfinished, hu, field]
    · rw [field_pexpire, field_write Fields.failures (by intro; rfl) rfl]
      exact live.failures
    · rw [field_pexpire, field_write Fields.openUntil (by intro; rfl) rfl]
      exact live.openUntil
    · simpa [ScriptReply.granted, unfinished, hu] using hvalid

/-- The fields after the attempt that holds the lease completes. -/
theorem completeHealthScript_own {probeId : String} {succeeded : Bool}
    (hown : field Fields.probe (key.live now) = some probeId) :
    let after := completeHealthScript threshold cooldownMs probeId succeeded now key
    let failures := (field Fields.failures (key.live now)).getD 0 + 1
    field Fields.probe after.2 = none ∧
    (field Fields.failures after.2).getD 0 = (if succeeded then 0 else failures) ∧
    field Fields.openUntil after.2 = (if succeeded then some 0
      else if (threshold : ℤ) ≤ failures then some (now + cooldownMs)
      else field Fields.openUntil (key.live now)) := by
  intro after failures
  have hscript : ¬(field Fields.probe (key.live now) ≠ none ∧
      field Fields.probe (key.live now) ≠ some probeId) := fun hc => hc.2 hown
  simp only [after, completeHealthScript]
  rw [if_neg hscript]
  cases succeeded with
  | true =>
    simp only [if_true]
    refine ⟨probe_hdelProbe, ?_, ?_⟩
    · rw [failures_hdelProbe]
      rfl
    · rw [openUntil_hdelProbe]
      rfl
  | false =>
    simp only [Bool.false_eq_true, if_false]
    refine ⟨probe_hdelProbe, ?_, ?_⟩
    · rw [failures_hdelProbe]
      by_cases hfull : (threshold : ℤ) ≤ (field Fields.failures (key.live now)).getD 0 + 1
      · rw [if_pos hfull, field_write Fields.failures (by intro; rfl) rfl]
        rfl
      · rw [if_neg hfull]
        rfl
    · rw [openUntil_hdelProbe]
      by_cases hfull : (threshold : ℤ) ≤ (field Fields.failures (key.live now)).getD 0 + 1
      · rw [if_pos hfull, if_pos hfull]
        rfl
      · rw [if_neg hfull, if_neg hfull, field_write Fields.openUntil (by intro; rfl) rfl]

/-- The attempt in flight is the one the key records, and its key has not lapsed. -/
theorem Agrees.own (ag : Agrees threshold cooldownMs target h key) {probeId : String}
    (idle : key.Lapsed now → unfinished target h = []) (hmem : probeId ∈ unfinished target h) :
    field Fields.probe (key.live now) = some probeId ∧ unfinished target h = [probeId] := by
  have hu := (ag.live idle).probe
  cases hp : field Fields.probe (key.live now) with
  | none => simp [hu, hp] at hmem
  | some q =>
    rw [hp] at hu
    rw [hu] at hmem ⊢
    obtain rfl := List.mem_singleton.mp hmem
    exact ⟨rfl, rfl⟩

theorem Agrees.complete (ag : Agrees threshold cooldownMs target h key) {probeId : String}
    {succeeded : Bool} {reply : Reply}
    (idle : key.Lapsed now → unfinished target h = []) (hmem : probeId ∈ unfinished target h) :
    Agrees threshold cooldownMs target
      (⟨now, .complete target threshold cooldownMs probeId succeeded, reply⟩ :: h)
      (completeHealthScript threshold cooldownMs probeId succeeded now key).2 := by
  obtain ⟨hown, hu⟩ := ag.own idle hmem
  obtain ⟨hprobe, hfailures, hopen⟩ := completeHealthScript_own hown
  have live := ag.live idle
  refine ⟨?_, ?_, ?_, by simp [unfinished, hu]⟩
  · rw [hprobe]
    simp [unfinished, hu]
  · rw [hfailures]
    have := live.failures
    cases succeeded <;> simp only [streak, if_true, Bool.false_eq_true, if_false] <;> omega
  · rw [hopen]
    cases succeeded with
    | true => exact .inl rfl
    | false =>
      simp only [streak, if_true, Bool.false_eq_true, if_false]
      split
      · next hfull =>
        have := live.failures
        exact .inr (by omega)
      · exact live.openUntil.imp_right fun hle => by omega

theorem Agrees.release (ag : Agrees threshold cooldownMs target h key) {probeId : String}
    {reply : Reply} (idle : key.Lapsed now → unfinished target h = [])
    (hmem : probeId ∈ unfinished target h) :
    Agrees threshold cooldownMs target (⟨now, .release target probeId, reply⟩ :: h)
      (releaseHealthScript probeId now key).2 := by
  obtain ⟨hown, hu⟩ := ag.own idle hmem
  have live := ag.live idle
  simp only [releaseHealthScript, if_pos hown]
  refine ⟨?_, ?_, ?_, by simp [unfinished, hu]⟩
  · simp [unfinished, hu]
  · rw [failures_hdelProbe]
    exact live.failures
  · rw [openUntil_hdelProbe]
    exact live.openUntil

/-- Every allowed call keeps the key of every target in agreement with the fleet's view. -/
theorem agrees_serve (ag : ∀ target, Agrees threshold cooldownMs target h (s target))
    (call : Call) (hok : Orderly threshold cooldownMs h s now call) (target : String) :
    Agrees threshold cooldownMs target (Service.event serve now call s :: h)
      ((serve now call s).2 target) := by
  have idle : (s call.target).Lapsed now → unfinished call.target h = [] := fun hl => (hok.2 hl).1
  by_cases htarget : call.target = target
  · subst htarget
    have own := ag call.target
    cases call with
    | begin target threshold' cooldownMs' probeId =>
      obtain ⟨⟨rfl, rfl, hfresh⟩, _⟩ := hok
      simp only [Service.event, serve, Call.target] at own idle ⊢
      split
      · exact ⟨own.probe, own.failures, own.openUntil, own.valid⟩
      · next hvalid =>
        simp only [Function.update_self]
        exact own.begin idle hvalid hfresh
    | complete target threshold' cooldownMs' probeId succeeded =>
      obtain ⟨⟨rfl, rfl, hmem⟩, _⟩ := hok
      simp only [Service.event, serve, Call.target] at own idle ⊢
      simp only [if_neg (own.valid probeId hmem), Function.update_self]
      exact own.complete idle hmem
    | release target probeId =>
      simp only [Service.event, serve, Call.target, Function.update_self] at own idle ⊢
      exact own.release idle hok.1
  · rw [serve_of_ne s htarget]
    exact (ag target).frame htarget

end Steps

theorem agrees_of_run {threshold cooldownMs : ℕ} {h : List (Event ℕ Call Reply)} {s : State}
    (run : Service.Run serve (Orderly threshold cooldownMs) initial h s) (target : String) :
    Agrees threshold cooldownMs target h (s target) := by
  have start : ∀ target, Agrees threshold cooldownMs target [] (initial target) :=
    fun _ => ⟨rfl, le_rfl, .inl rfl, by simp [unfinished]⟩
  exact run.invariant (I := fun h s => ∀ target, Agrees threshold cooldownMs target h (s target))
    start (fun _ s _ call ag _ hok => agrees_serve (s := s) ag call hok) target

section Open

variable {threshold cooldownMs now untilMs : ℕ} {target probeId : String}
  {h : List (Event ℕ Call Reply)} {s : State}

/-- A begin on an open circuit is refused and changes nothing: the key has not lapsed. -/
theorem begin_of_open (ag : Agrees threshold cooldownMs target h (s target))
    (hok : Orderly threshold cooldownMs h s now (.begin target threshold cooldownMs probeId))
    (hopen : now < (field Fields.openUntil (s target)).getD 0) :
    beginHealthScript cooldownMs probeId now (s target) = (.integer 0, s target) := by
  have hkey : (s target).live now = s target :=
    Key.live_of_not_lapsed fun hl => absurd (hok.2 hl).2 (not_le.mpr hopen)
  have hprobe : field Fields.probe ((s target).live now) ≠ some probeId := by
    intro hp
    have hu := ag.probe
    rw [← hkey, hp] at hu
    exact hok.1.2.2 (subset_begun (by simp [hu]))
  rcases beginHealthScript_cases hprobe with ⟨_, hscript⟩ | ⟨hclosed, _⟩
  · rw [hscript, hkey]
  · rw [hkey] at hclosed
    omega

/-- While the circuit is open no attempt is in flight, and so nothing can close it. -/
theorem stays_open (ag : ∀ target, Agrees threshold cooldownMs target h (s target)) (call : Call)
    (hok : Orderly threshold cooldownMs h s now call) (hnow : now < untilMs)
    (hopen : field Fields.openUntil (s target) = some untilMs) (hidle : unfinished target h = []) :
    field Fields.openUntil ((serve now call s).2 target) = some untilMs ∧
      unfinished target (Service.event serve now call s :: h) = [] := by
  by_cases htarget : call.target = target
  · subst htarget
    cases call with
    | begin target threshold' cooldownMs' probeId =>
      obtain ⟨rfl, rfl, _⟩ := hok.1
      simp only [Service.event, serve, Call.target] at hopen hidle ⊢
      split
      · exact ⟨hopen, hidle⟩
      · have hscript := begin_of_open (ag target) hok (by simpa [hopen] using hnow)
        simp only [hscript, Function.update_self]
        exact ⟨hopen, hidle⟩
    | complete target threshold' cooldownMs' probeId succeeded =>
      have hmem : probeId ∈ unfinished target h := hok.1.2.2
      exact absurd hmem (by simp [show unfinished target h = [] from hidle])
    | release target probeId =>
      have hmem : probeId ∈ unfinished target h := hok.1
      exact absurd hmem (by simp [show unfinished target h = [] from hidle])
  · rw [serve_of_ne s htarget, unfinished_of_ne htarget]
    exact ⟨hopen, hidle⟩

/-- After the event `e` that opened it, the circuit stays open until a later call has passed
the cooldown. -/
theorem open_of_run {e : Event ℕ Call Reply} {h' : List (Event ℕ Call Reply)} {s' : State}
    (start : ∀ target, Agrees threshold cooldownMs target (e :: h) (s target))
    (hopen : field Fields.openUntil (s target) = some untilMs)
    (hidle : unfinished target (e :: h) = [])
    (run : Service.Run serve (fun h' => Orderly threshold cooldownMs (h' ++ e :: h)) s h' s') :
    (∃ e' ∈ h', untilMs ≤ e'.time) ∨
      ((∀ target, Agrees threshold cooldownMs target (h' ++ e :: h) (s' target)) ∧
        field Fields.openUntil (s' target) = some untilMs ∧
          unfinished target (h' ++ e :: h) = []) := by
  refine run.until
    (I := fun (h' : List (Event ℕ Call Reply)) (s' : State) =>
      (∀ target, Agrees threshold cooldownMs target (h' ++ e :: h) (s' target)) ∧
        field Fields.openUntil (s' target) = some untilMs ∧ unfinished target (h' ++ e :: h) = [])
    ⟨start, hopen, hidle⟩ ?_
  rintro h' s' now call ⟨ag, hopen, hidle⟩ hlt hok
  exact ⟨agrees_serve ag call hok, stays_open ag call hok hlt hopen hidle⟩

end Open

end WayfinderRouter.Health
