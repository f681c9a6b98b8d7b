import Mathlib.Algebra.BigOperators.Group.Finset.Basic
import Mathlib.Algebra.Order.BigOperators.Group.Finset
import Mathlib.Data.Finset.Card
import WayfinderRouter.Concurrency.Semaphore

/-!
# Admission to delivery

One process delivers a bounded number of requests at a time. A request that finds no free place
waits for one in a queue of bounded length and for a bounded time.

The requests run side by side, and each step of a request on one of the two semaphores may be
followed by steps of others. A request that waits may be given a place and be told of it later, and
its caller may drop it while it waits. Time is not modelled: a request that waits may time out at
any moment.

## Main definitions

- `AdmissionPolicy` — the two semaphores with their limits
- `State.step` — one step of one request in `AdmissionPolicy::acquire`, or of its delivery
- `Run` — any number of steps of any requests, in any order

## Main results

- `bounded_run` — the limits hold after every run, and nothing is lost
- `no_overtaking` — a request that waits is not overtaken by one that came later
- `served_eventually` — without time-outs whoever waits is delivered
-/

namespace WayfinderRouter.Gateway.Admission

open Concurrency

inductive AdmissionError where
  | invalidInFlightLimit
  | invalidQueueLimit
  | invalidQueueTimeout
  | queueFull
  | queueTimedOut
  | unavailable
  | sharedLimit
deriving DecidableEq

/-- `AdmissionPolicy`. The time-out is in nanoseconds. -/
structure AdmissionPolicy (ι : Type*) where
  inFlight : Semaphore ι
  queue : Semaphore ι
  maxInFlight : ℕ
  maxQueued : ℕ
  queueTimeout : ℕ

/-- `Semaphore::MAX_PERMITS`. -/
def maxPermits : ℕ := (2 ^ 64 - 1) / 2 ^ 3

namespace AdmissionPolicy

variable {ι : Type*}

/-- `AdmissionPolicy::new`. -/
def new (maxInFlight maxQueued queueTimeout : ℕ) : Except AdmissionError (AdmissionPolicy ι) :=
  if maxInFlight = 0 ∨ maxPermits < maxInFlight then .error .invalidInFlightLimit
  else if maxPermits < maxQueued then .error .invalidQueueLimit
  else if 0 < maxQueued ∧ queueTimeout = 0 then .error .invalidQueueTimeout
  else .ok ⟨.new maxInFlight, .new maxQueued, maxInFlight, maxQueued, queueTimeout⟩

/-- `AdmissionPolicy::in_flight`. -/
def reportedInFlight (policy : AdmissionPolicy ι) : ℕ := policy.maxInFlight - policy.inFlight.free

/-- `AdmissionPolicy::queued`. -/
def reportedQueued (policy : AdmissionPolicy ι) : ℕ := policy.maxQueued - policy.queue.free

end AdmissionPolicy

/-! ## The steps of a request -/

/-- How a request ends. -/
inductive Ending where
  | delivered
  | refused (error : AdmissionError)
  | dropped
deriving DecidableEq

/-- The end of a request that has waited for too long, or whose caller has dropped it. -/
def Ending.givenUp : Bool → Ending
  | true => .refused .queueTimedOut
  | false => .dropped

/-- Where a request is. -/
inductive Phase where
  /-- It has not yet asked. -/
  | outside
  /-- It found no place. -/
  | contended
  /-- It has a slot of the queue. -/
  | queued
  /-- It stands in line for a place. -/
  | waiting
  /-- It has a place, and still a slot. -/
  | admitted
  /-- It has a place. -/
  | delivering
  /-- It has left the line, and still has a slot. -/
  | leaving (timedOut : Bool)
  | ended (ending : Ending)
deriving DecidableEq

@[simp] def Phase.holdsPlace : Phase → Bool
  | .admitted | .delivering => true
  | _ => false

@[simp] def Phase.holdsSlot : Phase → Bool
  | .queued | .waiting | .admitted | .leaving _ => true
  | _ => false

/-- The requests that have asked so far, and where they are. -/
structure State (ι : Type*) where
  policy : AdmissionPolicy ι
  callers : Finset ι
  phase : ι → Phase

inductive Action (ι : Type*) where
  | call (i : ι)
  | enter (i : ι)
  | ask (i : ι)
  | wake (i : ι)
  | proceed (i : ι)
  | giveUp (i : ι) (timedOut : Bool)
  | quit (i : ι)
  | finish (i : ι)
deriving DecidableEq

/-- The request that takes the step. -/
@[simp] def Action.request {ι : Type*} : Action ι → ι
  | .call i | .enter i | .ask i | .wake i | .proceed i | .giveUp i _ | .quit i | .finish i => i

namespace State

variable {ι : Type*} [DecidableEq ι]

/-- No request has asked yet. -/
def init (policy : AdmissionPolicy ι) : State ι := ⟨policy, ∅, fun _ => .outside⟩

/-- The request is somewhere else now, and the policy is a new one. -/
def move (i : ι) (phase : Phase) (policy : AdmissionPolicy ι) (s : State ι) : State ι :=
  ⟨policy, insert i s.callers, Function.update s.phase i phase⟩

@[simp] theorem callers_move (i : ι) (phase : Phase) (policy : AdmissionPolicy ι) (s : State ι) :
    (s.move i phase policy).callers = insert i s.callers := rfl

@[simp] theorem policy_move (i : ι) (phase : Phase) (policy : AdmissionPolicy ι) (s : State ι) :
    (s.move i phase policy).policy = policy := rfl

@[simp] theorem phase_move_self (i : ι) (phase : Phase) (policy : AdmissionPolicy ι)
    (s : State ι) : (s.move i phase policy).phase i = phase :=
  Function.update_self ..

theorem phase_move_of_ne {i j : ι} (hj : j ≠ i) (phase : Phase) (policy : AdmissionPolicy ι)
    (s : State ι) : (s.move i phase policy).phase j = s.phase j :=
  Function.update_of_ne hj ..

/-- One step of a request, if it can take it. -/
def step (s : State ι) : Action ι → Option (State ι)
  | .call i =>
    if s.phase i = .outside then
      match s.policy.inFlight.tryAcquire with
      | some inFlight => some (s.move i .delivering { s.policy with inFlight })
      | none => some (s.move i .contended s.policy)
    else none
  | .enter i =>
    if s.phase i = .contended then
      match s.policy.queue.tryAcquire with
      | some queue => some (s.move i .queued { s.policy with queue })
      | none => some (s.move i (.ended (.refused .queueFull)) s.policy)
    else none
  | .ask i =>
    if s.phase i = .queued then
      match s.policy.inFlight.acquire i with
      | (true, inFlight) => some (s.move i .admitted { s.policy with inFlight })
      | (false, inFlight) => some (s.move i .waiting { s.policy with inFlight })
    else none
  | .wake i =>
    if s.phase i = .waiting ∧ i ∈ s.policy.inFlight.granted then
      some (s.move i .admitted { s.policy with inFlight := s.policy.inFlight.take i })
    else none
  | .proceed i =>
    if s.phase i = .admitted then
      some (s.move i .delivering { s.policy with queue := s.policy.queue.release })
    else none
  | .giveUp i timedOut =>
    if s.phase i = .waiting then
      some (s.move i (.leaving timedOut)
        { s.policy with inFlight := s.policy.inFlight.leave i })
    else none
  | .quit i =>
    match s.phase i with
    | .leaving timedOut =>
      some (s.move i (.ended (.givenUp timedOut))
        { s.policy with queue := s.policy.queue.release })
    | _ => none
  | .finish i =>
    if s.phase i = .delivering then
      some (s.move i (.ended .delivered) { s.policy with inFlight := s.policy.inFlight.release })
    else none

/-- What a step makes of the request that takes it, and of the policy. -/
inductive Does (s : State ι) : Action ι → Phase → AdmissionPolicy ι → Prop where
  | started (i : ι) (inFlight : Semaphore ι) (phase : s.phase i = .outside)
      (acquired : s.policy.inFlight.tryAcquire = some inFlight) :
      Does s (.call i) .delivering { s.policy with inFlight }
  | contended (i : ι) (phase : s.phase i = .outside)
      (full : s.policy.inFlight.tryAcquire = none) : Does s (.call i) .contended s.policy
  | queued (i : ι) (queue : Semaphore ι) (phase : s.phase i = .contended)
      (acquired : s.policy.queue.tryAcquire = some queue) :
      Does s (.enter i) .queued { s.policy with queue }
  | refused (i : ι) (phase : s.phase i = .contended) (full : s.policy.queue.tryAcquire = none) :
      Does s (.enter i) (.ended (.refused .queueFull)) s.policy
  | lucky (i : ι) (inFlight : Semaphore ι) (phase : s.phase i = .queued)
      (acquired : s.policy.inFlight.tryAcquire = some inFlight) :
      Does s (.ask i) .admitted { s.policy with inFlight }
  | lined (i : ι) (phase : s.phase i = .queued) (busy : s.policy.inFlight.free = 0) :
      Does s (.ask i) .waiting { s.policy with inFlight := s.policy.inFlight.enqueue i }
  | woken (i : ι) (phase : s.phase i = .waiting) (granted : i ∈ s.policy.inFlight.granted) :
      Does s (.wake i) .admitted { s.policy with inFlight := s.policy.inFlight.take i }
  | proceeded (i : ι) (phase : s.phase i = .admitted) :
      Does s (.proceed i) .delivering { s.policy with queue := s.policy.queue.release }
  | left (i : ι) (timedOut : Bool) (phase : s.phase i = .waiting) :
      Does s (.giveUp i timedOut) (.leaving timedOut)
        { s.policy with inFlight := s.policy.inFlight.leave i }
  | quitted (i : ι) (timedOut : Bool) (phase : s.phase i = .leaving timedOut) :
      Does s (.quit i) (.ended (.givenUp timedOut))
        { s.policy with queue := s.policy.queue.release }
  | finished (i : ι) (phase : s.phase i = .delivering) :
      Does s (.finish i) (.ended .delivered)
        { s.policy with inFlight := s.policy.inFlight.release }

/-- **Inversion** of a step. -/
theorem does_of_step {s s' : State ι} {a : Action ι} (h : s.step a = some s') :
    ∃ phase policy, Does s a phase policy ∧ s' = s.move a.request phase policy := by
  cases a with
  | call i =>
    simp only [step] at h
    split_ifs at h with hphase
    split at h
    · next inFlight hacquired => exact ⟨_, _, .started i inFlight hphase hacquired, by cases h; rfl⟩
    · next hfull => exact ⟨_, _, .contended i hphase hfull, by cases h; rfl⟩
  | enter i =>
    simp only [step] at h
    split_ifs at h with hphase
    split at h
    · next queue hacquired => exact ⟨_, _, .queued i queue hphase hacquired, by cases h; rfl⟩
    · next hfull => exact ⟨_, _, .refused i hphase hfull, by cases h; rfl⟩
  | ask i =>
    simp only [step] at h
    split_ifs at h with hphase
    obtain ⟨inFlight, hacquired, heq⟩ | ⟨hbusy, heq⟩ := s.policy.inFlight.acquire_cases i <;>
      rw [heq] at h
    · exact ⟨_, _, .lucky i inFlight hphase hacquired, by cases h; rfl⟩
    · exact ⟨_, _, .lined i hphase hbusy, by cases h; rfl⟩
  | wake i =>
    simp only [step] at h
    split_ifs at h with hphase
    exact ⟨_, _, .woken i hphase.1 hphase.2, by cases h; rfl⟩
  | proceed i =>
    simp only [step] at h
    split_ifs at h with hphase
    exact ⟨_, _, .proceeded i hphase, by cases h; rfl⟩
  | giveUp i timedOut =>
    simp only [step] at h
    split_ifs at h with hphase
    exact ⟨_, _, .left i timedOut hphase, by cases h; rfl⟩
  | quit i =>
    simp only [step] at h
    split at h
    · next timedOut hphase => exact ⟨_, _, .quitted i timedOut hphase, by cases h; rfl⟩
    · cases h
  | finish i =>
    simp only [step] at h
    split_ifs at h with hphase
    exact ⟨_, _, .finished i hphase, by cases h; rfl⟩

/-! ## Sums over the requests -/

/-- The sum of the weights of the phases. -/
def weigh (w : Phase → ℕ) (s : State ι) : ℕ := ∑ i ∈ s.callers, w (s.phase i)

/-- The number of requests in phases of a kind. -/
def count (p : Phase → Bool) (s : State ι) : ℕ := s.weigh fun phase => (p phase).toNat

section Weigh

variable {w : Phase → ℕ} {s : State ι} (hw : w .outside = 0)
  (houtside : ∀ i, i ∈ s.callers ↔ s.phase i ≠ .outside)

include hw houtside

/-- The request and the others. -/
theorem weigh_eq_add (i : ι) :
    s.weigh w = w (s.phase i) + ∑ j ∈ s.callers.erase i, w (s.phase j) := by
  by_cases hi : i ∈ s.callers
  · exact (Finset.add_sum_erase s.callers (fun j => w (s.phase j)) hi).symm
  · rw [not_not.mp (mt (houtside i).mpr hi), hw, Finset.erase_eq_of_notMem hi, Nat.zero_add]
    rfl

theorem weigh_move (i : ι) (phase : Phase) (policy : AdmissionPolicy ι) :
    (s.move i phase policy).weigh w + w (s.phase i) = s.weigh w + w phase := by
  have hothers : ∑ j ∈ s.callers.erase i, w ((s.move i phase policy).phase j) =
      ∑ j ∈ s.callers.erase i, w (s.phase j) := by
    refine Finset.sum_congr rfl fun j hj => ?_
    rw [phase_move_of_ne (Finset.ne_of_mem_erase hj)]
  have hmoved : (s.move i phase policy).weigh w = w phase +
      ∑ j ∈ s.callers.erase i, w (s.phase j) := by
    rw [weigh, callers_move, ← Finset.add_sum_erase _ _ (Finset.mem_insert_self i s.callers),
      Finset.erase_insert_eq_erase, hothers, phase_move_self]
  rw [hmoved, weigh_eq_add hw houtside i]
  omega

end Weigh

omit [DecidableEq ι] in
theorem weigh_eq_zero {w : Phase → ℕ} {s : State ι} :
    s.weigh w = 0 ↔ ∀ i ∈ s.callers, w (s.phase i) = 0 :=
  Finset.sum_eq_zero_iff

omit [DecidableEq ι] in
/-- Requests of a kind are at most as many as are counted. -/
theorem card_le_count {p : Phase → Bool} {s : State ι} (hp : p .outside = false)
    (houtside : ∀ i, i ∈ s.callers ↔ s.phase i ≠ .outside) {t : Finset ι}
    (ht : ∀ i ∈ t, p (s.phase i) = true) : t.card ≤ s.count p := by
  have hsubset : t ⊆ s.callers := by
    intro i hi
    refine (houtside i).mpr fun hphase => ?_
    have htrue := ht i hi
    rw [hphase, hp] at htrue
    cases htrue
  calc t.card = ∑ i ∈ t, (p (s.phase i)).toNat := by
        rw [Finset.card_eq_sum_ones]
        exact Finset.sum_congr rfl fun i hi => by rw [ht i hi, Bool.toNat_true]
    _ ≤ s.count p := Finset.sum_le_sum_of_subset hsubset

/-! ## The invariant -/

/-- Every permit is free, granted or with a request, and those in line are those who wait. -/
structure Invariant (s : State ι) : Prop where
  callers : ∀ i, i ∈ s.callers ↔ s.phase i ≠ .outside
  wellFormed : s.policy.inFlight.WellFormed
  queue : s.policy.queue.line = []
  line : ∀ i, i ∈ s.policy.inFlight.line ↔ s.phase i = .waiting
  places : s.count Phase.holdsPlace + s.policy.inFlight.total = s.policy.maxInFlight
  slots : s.count Phase.holdsSlot + s.policy.queue.total = s.policy.maxQueued

/-- What a step has to do to keep the invariant. -/
theorem Invariant.move {s : State ι} (h : Invariant s) {i : ι} {phase : Phase}
    {policy : AdmissionPolicy ι} (hlimits : policy.maxInFlight = s.policy.maxInFlight ∧
      policy.maxQueued = s.policy.maxQueued) (hphase : phase ≠ .outside)
    (hwellFormed : policy.inFlight.WellFormed) (hqueue : policy.queue.line = [])
    (hothers : ∀ j ≠ i, j ∈ policy.inFlight.line ↔ j ∈ s.policy.inFlight.line)
    (hself : i ∈ policy.inFlight.line ↔ phase = .waiting)
    (hplaces : policy.inFlight.total + phase.holdsPlace.toNat =
      s.policy.inFlight.total + (s.phase i).holdsPlace.toNat)
    (hslots : policy.queue.total + phase.holdsSlot.toNat =
      s.policy.queue.total + (s.phase i).holdsSlot.toNat) :
    Invariant (s.move i phase policy) := by
  refine ⟨fun j => ?_, hwellFormed, hqueue, fun j => ?_, ?_, ?_⟩
  · by_cases hj : j = i
    · rw [hj, phase_move_self]
      exact iff_of_true (Finset.mem_insert_self i s.callers) hphase
    · rw [phase_move_of_ne hj, ← h.callers j, callers_move, Finset.mem_insert]
      exact or_iff_right hj
  · by_cases hj : j = i
    · rw [hj, phase_move_self]
      exact hself
    · rw [phase_move_of_ne hj, ← h.line j]
      exact hothers j hj
  · have hmoved : (s.move i phase policy).count Phase.holdsPlace + _ = _ :=
      weigh_move rfl h.callers i phase policy
    have hsum := h.places
    rw [policy_move]
    unfold count at *
    omega
  · have hmoved : (s.move i phase policy).count Phase.holdsSlot + _ = _ :=
      weigh_move rfl h.callers i phase policy
    have hsum := h.slots
    rw [policy_move]
    unfold count at *
    omega

/-- A step that leaves the line as it is, of a request that does not wait. -/
theorem Invariant.move_of_line_eq {s : State ι} (h : Invariant s) {i : ι} {phase : Phase}
    {policy : AdmissionPolicy ι} (hlimits : policy.maxInFlight = s.policy.maxInFlight ∧
      policy.maxQueued = s.policy.maxQueued) (hphase : phase ≠ .outside)
    (hwellFormed : policy.inFlight.WellFormed) (hqueue : policy.queue.line = [])
    (hline : policy.inFlight.line = s.policy.inFlight.line) (hbefore : s.phase i ≠ .waiting)
    (hafter : phase ≠ .waiting)
    (hplaces : policy.inFlight.total + phase.holdsPlace.toNat =
      s.policy.inFlight.total + (s.phase i).holdsPlace.toNat)
    (hslots : policy.queue.total + phase.holdsSlot.toNat =
      s.policy.queue.total + (s.phase i).holdsSlot.toNat) :
    Invariant (s.move i phase policy) :=
  h.move hlimits hphase hwellFormed hqueue (fun j _ => by rw [hline])
    (iff_of_false (by rw [hline, h.line i]; exact hbefore) hafter) hplaces hslots

/-- **Step rule**: every step of every request keeps the invariant. -/
theorem Invariant.step {s s' : State ι} {a : Action ι} (h : Invariant s)
    (hs : s.step a = some s') : Invariant s' := by
  obtain ⟨phase, policy, hdoes, rfl⟩ := does_of_step hs
  cases hdoes with
  | started i inFlight hphase hacquired =>
    refine h.move_of_line_eq ⟨rfl, rfl⟩ (by decide) (h.wellFormed.tryAcquire hacquired) h.queue
      (Semaphore.line_tryAcquire hacquired) ?_ ?_ ?_ ?_ <;>
      simp [hphase, Semaphore.total_tryAcquire hacquired]
  | contended i hphase hfull =>
    refine h.move_of_line_eq ⟨rfl, rfl⟩ (by decide) h.wellFormed h.queue rfl ?_ ?_ ?_ ?_ <;>
      simp [hphase]
  | queued i queue hphase hacquired =>
    refine h.move_of_line_eq ⟨rfl, rfl⟩ (by decide) h.wellFormed
      ((Semaphore.line_tryAcquire hacquired).trans h.queue) rfl ?_ ?_ ?_ ?_ <;>
      simp [hphase, Semaphore.total_tryAcquire hacquired]
  | refused i hphase hfull =>
    refine h.move_of_line_eq ⟨rfl, rfl⟩ (by decide) h.wellFormed h.queue rfl ?_ ?_ ?_ ?_ <;>
      simp [hphase]
  | lucky i inFlight hphase hacquired =>
    refine h.move_of_line_eq ⟨rfl, rfl⟩ (by decide) (h.wellFormed.tryAcquire hacquired) h.queue
      (Semaphore.line_tryAcquire hacquired) ?_ ?_ ?_ ?_ <;>
      simp [hphase, Semaphore.total_tryAcquire hacquired]
  | lined i hphase hbusy =>
    -- who is in line waits, and this request does not wait yet
    have hi : i ∉ s.policy.inFlight.line := by simp [h.line i, hphase]
    refine h.move ⟨rfl, rfl⟩ (by decide) (h.wellFormed.enqueue hbusy hi) h.queue
      (fun j hj => ?_) ?_ ?_ ?_
    · simp only [Semaphore.line_enqueue, List.mem_append, List.mem_singleton]
      exact or_iff_left hj
    · simp [Semaphore.line_enqueue]
    · simp [hphase, Semaphore.total, Semaphore.enqueue]
    · simp [hphase]
  | woken i hphase hgranted =>
    -- the granted permit becomes that of the request
    have htotal := Semaphore.total_take hgranted
    refine h.move ⟨rfl, rfl⟩ (by decide) (h.wellFormed.take hgranted) h.queue
      (fun j hj => ?_) ?_ ?_ ?_
    · simp only [Semaphore.line_take hgranted]
      exact List.mem_erase_of_ne hj
    · simp [Semaphore.line_take hgranted, h.wellFormed.nodup.not_mem_erase]
    · simp [hphase, htotal]
    · simp [hphase]
  | proceeded i hphase =>
    refine h.move_of_line_eq ⟨rfl, rfl⟩ (by decide) h.wellFormed
      ((Semaphore.line_release _).trans h.queue) rfl ?_ ?_ ?_ ?_ <;>
      simp [hphase, Semaphore.total_release]
  | left i timedOut hphase =>
    refine h.move ⟨rfl, rfl⟩ (by simp) (h.wellFormed.leave i) h.queue (fun j hj => ?_) ?_ ?_ ?_
    · simp only [Semaphore.line_leave]
      exact List.mem_erase_of_ne hj
    · simp [Semaphore.line_leave, h.wellFormed.nodup.not_mem_erase]
    · simp [hphase, Semaphore.total_leave]
    · simp [hphase]
  | quitted i timedOut hphase =>
    refine h.move_of_line_eq ⟨rfl, rfl⟩ (by simp) h.wellFormed
      ((Semaphore.line_release _).trans h.queue) rfl ?_ ?_ ?_ ?_ <;>
      simp [hphase, Semaphore.total_release]
  | finished i hphase =>
    refine h.move_of_line_eq ⟨rfl, rfl⟩ (by decide) h.wellFormed.release h.queue
      (Semaphore.line_release _) ?_ ?_ ?_ ?_ <;> simp [hphase, Semaphore.total_release]

end State

/-- Any steps of any requests, newest first, with the state that they lead to. -/
inductive Run {ι : Type*} [DecidableEq ι] (init : State ι) : List (Action ι) → State ι → Prop where
  | nil : Run init [] init
  | cons {h : List (Action ι)} {s s' : State ι} (a : Action ι) (run : Run init h s)
      (step : s.step a = some s') : Run init (a :: h) s'

section Runs

variable {ι : Type*} [DecidableEq ι] {maxInFlight maxQueued queueTimeout : ℕ}
  {policy : AdmissionPolicy ι} {h : List (Action ι)} {s s' : State ι}

namespace State

omit [DecidableEq ι] in
theorem new_eq_ok (hnew : AdmissionPolicy.new maxInFlight maxQueued queueTimeout = .ok policy) :
    0 < maxInFlight ∧
      policy = ⟨.new maxInFlight, .new maxQueued, maxInFlight, maxQueued, queueTimeout⟩ := by
  unfold AdmissionPolicy.new at hnew
  split_ifs at hnew with hinFlight
  cases hnew
  exact ⟨by omega, rfl⟩

omit [DecidableEq ι] in
theorem Invariant.init
    (hnew : AdmissionPolicy.new maxInFlight maxQueued queueTimeout = .ok policy) :
    (State.init policy).Invariant := by
  obtain ⟨-, rfl⟩ := new_eq_ok hnew
  refine ⟨fun i => ?_, Semaphore.wellFormed_new _, rfl, fun i => ?_, ?_, ?_⟩
  · simp [State.init]
  · simp [State.init, Semaphore.new, Semaphore.line]
  · simp [State.init, count, weigh, Semaphore.new, Semaphore.total]
  · simp [State.init, count, weigh, Semaphore.new, Semaphore.total]

theorem limits_step {a : Action ι} (hs : s.step a = some s') :
    s'.policy.maxInFlight = s.policy.maxInFlight ∧ s'.policy.maxQueued = s.policy.maxQueued := by
  obtain ⟨phase, policy, hdoes, rfl⟩ := does_of_step hs
  cases hdoes <;> exact ⟨rfl, rfl⟩

/-- **Run lemma**: the invariant and the limits hold after every run. -/
theorem invariant_run
    (hnew : AdmissionPolicy.new maxInFlight maxQueued queueTimeout = .ok policy)
    (run : Run (State.init policy) h s) :
    s.Invariant ∧ s.policy.maxInFlight = maxInFlight ∧ s.policy.maxQueued = maxQueued := by
  induction run with
  | nil =>
    refine ⟨Invariant.init hnew, ?_⟩
    obtain ⟨-, rfl⟩ := new_eq_ok hnew
    exact ⟨rfl, rfl⟩
  | cons a _ hs ih =>
    obtain ⟨hinvariant, hinFlight, hqueued⟩ := ih
    obtain ⟨hinFlight', hqueued'⟩ := limits_step hs
    exact ⟨hinvariant.step hs, hinFlight'.trans hinFlight, hqueued'.trans hqueued⟩

omit [DecidableEq ι] in
/-- Nobody waits in the queue of slots. -/
theorem Invariant.total_queue (hinvariant : s.Invariant) :
    s.policy.queue.total = s.policy.queue.free := by
  have hgranted := (List.append_eq_nil_iff.mp hinvariant.queue).1
  rw [Semaphore.total, hgranted]
  rfl

/-- A request is only refused a slot when all of them are taken. -/
theorem Invariant.full_of_refused (hinvariant : s.Invariant) {i : ι}
    (hs : s.step (.enter i) = some s') (hrefused : s'.phase i = .ended (.refused .queueFull)) :
    s.count Phase.holdsSlot = s.policy.maxQueued := by
  obtain ⟨phase, policy, hdoes, rfl⟩ := does_of_step hs
  rw [Action.request, phase_move_self] at hrefused
  have hslots := hinvariant.slots
  rw [hinvariant.total_queue] at hslots
  cases hdoes with
  | queued => cases hrefused
  | refused _ _ hfull =>
    rw [Semaphore.tryAcquire_eq_none.mp hfull] at hslots
    exact hslots

end State

/-- What holds after any steps of any requests. -/
structure Bounded (maxInFlight maxQueued : ℕ) (s : State ι) : Prop where
  /-- At most so many requests have a place. -/
  places : ∀ t : Finset ι, (∀ i ∈ t, (s.phase i).holdsPlace = true) → t.card ≤ maxInFlight
  /-- At most so many have a slot. -/
  slots : ∀ t : Finset ι, (∀ i ∈ t, (s.phase i).holdsSlot = true) → t.card ≤ maxQueued
  /-- While a request waits without a place that it was given, no place is free. -/
  busy : ∀ i, s.phase i = .waiting → i ∉ s.policy.inFlight.granted → s.policy.inFlight.free = 0
  /-- The reported places are those that requests have or were given. -/
  reportedInFlight : s.policy.reportedInFlight =
    s.count Phase.holdsPlace + s.policy.inFlight.granted.length
  reportedQueued : s.policy.reportedQueued = s.count Phase.holdsSlot
  /-- A request is only refused when all slots are taken. -/
  refused : ∀ i s', s.step (.enter i) = some s' →
    s'.phase i = .ended (.refused .queueFull) → s.count Phase.holdsSlot = maxQueued
  /-- When all requests have ended, all places and all slots are free. -/
  returned : (∀ i ∈ s.callers, ∃ ending, s.phase i = .ended ending) →
    s.policy.inFlight.free = maxInFlight ∧ s.policy.queue.free = maxQueued

/-- Whatever steps the requests take, and in whatever order, the limits hold, no place is kept from
a request that waits, and no place and no slot is lost. -/
theorem bounded_run
    (hnew : AdmissionPolicy.new maxInFlight maxQueued queueTimeout = .ok policy)
    (run : Run (State.init policy) h s) : Bounded maxInFlight maxQueued s := by
  obtain ⟨hinvariant, rfl, rfl⟩ := State.invariant_run hnew run
  have hplaces := hinvariant.places
  have hslots := hinvariant.slots
  rw [hinvariant.total_queue] at hslots
  refine
    { places := fun t ht => (State.card_le_count rfl hinvariant.callers ht).trans (by omega)
      slots := fun t ht => (State.card_le_count rfl hinvariant.callers ht).trans (by omega)
      busy := fun i hphase hgranted => ?_
      reportedInFlight := ?_
      reportedQueued := ?_
      refused := fun i s' hs hrefused => hinvariant.full_of_refused hs hrefused
      returned := fun hended => ?_ }
  · -- whoever is in line and was given nothing waits
    have hline := (hinvariant.line i).mpr hphase
    have hwaiting := (List.mem_append.mp hline).resolve_left hgranted
    exact hinvariant.wellFormed.busy (List.ne_nil_of_mem hwaiting)
  · unfold AdmissionPolicy.reportedInFlight Semaphore.total at *
    omega
  · unfold AdmissionPolicy.reportedQueued
    omega
  · have hphases : ∀ p : Phase → Bool, (∀ ending, p (.ended ending) = false) → s.count p = 0 := by
      intro p hp
      refine State.weigh_eq_zero.mpr fun i hi => ?_
      obtain ⟨ending, hphase⟩ := hended i hi
      rw [hphase, hp, Bool.toNat_false]
    have hline : s.policy.inFlight.line = [] := by
      refine List.eq_nil_iff_forall_not_mem.mpr fun i hi => ?_
      have hphase := (hinvariant.line i).mp hi
      have hcaller := (hinvariant.callers i).mpr (by simp [hphase])
      obtain ⟨ending, hending⟩ := hended i hcaller
      rw [hphase] at hending
      cases hending
    have hgranted := (List.append_eq_nil_iff.mp hline).1
    rw [hphases _ fun _ => rfl, Semaphore.total, hgranted, List.length_nil] at hplaces
    rw [hphases _ fun _ => rfl] at hslots
    exact ⟨by omega, by omega⟩

/-! ## Order -/

/-- The request has been given a place. -/
def Phase.served : Phase → Bool
  | .admitted | .delivering | .ended .delivered => true
  | _ => false

/-- The request has not come to the line. -/
def Phase.early : Phase → Bool
  | .outside | .contended | .queued => true
  | _ => false

/-- The first request is in line or past it. While it waits, the second is not served, and is
behind it if it is in line. -/
structure Ordered (i j : ι) (s : State ι) : Prop where
  came : (s.phase i).early = false
  unserved : i ∈ s.policy.inFlight.waiting → (s.phase j).served = false
  behind : i ∈ s.policy.inFlight.waiting → j ∈ s.policy.inFlight.line →
    [i, j].Sublist s.policy.inFlight.line

/-- What a step has to do to keep the order. -/
theorem Ordered.move {i j k : ι} {phase : Phase} {policy : AdmissionPolicy ι}
    (hordered : Ordered i j s) (hearly : (s.phase k).early = false → phase.early = false)
    (hwaiting : i ∈ policy.inFlight.waiting → i ∈ s.policy.inFlight.waiting)
    (hserved : i ∈ policy.inFlight.waiting → (s.phase k).served = false → k = j →
      phase.served = false)
    (hbehind : i ∈ policy.inFlight.waiting → j ∈ policy.inFlight.line →
      [i, j].Sublist policy.inFlight.line) : Ordered i j (s.move k phase policy) := by
  refine ⟨?_, fun hi => ?_, hbehind⟩
  · by_cases hk : i = k
    · rw [hk, State.phase_move_self]
      exact hearly (hk ▸ hordered.came)
    · rw [State.phase_move_of_ne hk]
      exact hordered.came
  · have hj := hordered.unserved (hwaiting hi)
    by_cases hk : j = k
    · rw [hk, State.phase_move_self]
      exact hserved hi (hk ▸ hj) hk.symm
    · rwa [State.phase_move_of_ne hk]

/-- Whoever leaves the line leaves the others in their order. -/
theorem Ordered.erase {i j k : ι} (hordered : Ordered i j s)
    (hnodup : s.policy.inFlight.line.Nodup) (hwaiting : i ∈ s.policy.inFlight.waiting)
    (hi : i ∈ s.policy.inFlight.line.erase k) (hj : j ∈ s.policy.inFlight.line.erase k) :
    [i, j].Sublist (s.policy.inFlight.line.erase k) := by
  have hsublist := (hordered.behind hwaiting (List.mem_of_mem_erase hj)).erase k
  have hik := (hnodup.mem_erase_iff.mp hi).1
  have hjk := (hnodup.mem_erase_iff.mp hj).1
  rwa [List.erase_of_not_mem (by simp [hik.symm, hjk.symm])] at hsublist

/-- **Step rule**: no step of any request changes the order of two requests. -/
theorem Ordered.step {i j : ι} (hordered : Ordered i j s) (hinvariant : s.Invariant)
    {a : Action ι} (hs : s.step a = some s') : Ordered i j s' := by
  have hwellFormed := hinvariant.wellFormed
  obtain ⟨phase, policy, hdoes, rfl⟩ := State.does_of_step hs
  cases hdoes with
  | started k inFlight hphase hacquired =>
    -- while the first waits nobody can take a free place
    have hwaiting := Semaphore.waiting_tryAcquire hacquired
    exact hordered.move (fun _ => rfl) (fun hi => hwaiting ▸ hi)
      (fun hi => absurd (hwaiting ▸ hi) (hwellFormed.not_mem_waiting hacquired))
      (fun hi => absurd (hwaiting ▸ hi) (hwellFormed.not_mem_waiting hacquired))
  | contended k hphase hfull =>
    exact hordered.move (fun hearly => by rw [Action.request, hphase] at hearly; exact hearly) id
      (fun _ _ _ => rfl) hordered.behind
  | queued k queue hphase hacquired =>
    exact hordered.move (fun hearly => by rw [Action.request, hphase] at hearly; exact hearly) id
      (fun _ _ _ => rfl) hordered.behind
  | refused k hphase hfull =>
    exact hordered.move (fun _ => rfl) id (fun _ _ _ => rfl) hordered.behind
  | lucky k inFlight hphase hacquired =>
    have hwaiting := Semaphore.waiting_tryAcquire hacquired
    exact hordered.move (fun _ => rfl) (fun hi => hwaiting ▸ hi)
      (fun hi => absurd (hwaiting ▸ hi) (hwellFormed.not_mem_waiting hacquired))
      (fun hi => absurd (hwaiting ▸ hi) (hwellFormed.not_mem_waiting hacquired))
  | lined k hphase hfree =>
    -- the first has come to the line before
    have hne : i ≠ k := by
      rintro rfl
      have hcame := hordered.came
      rw [hphase] at hcame
      cases hcame
    have hwaiting : i ∈ s.policy.inFlight.waiting ++ [k] → i ∈ s.policy.inFlight.waiting :=
      fun hi => (List.mem_append.mp hi).resolve_right (by simpa using hne)
    refine hordered.move (fun _ => rfl) hwaiting (fun _ _ _ => rfl) fun hi hj => ?_
    have hline : i ∈ s.policy.inFlight.line := List.mem_append_right _ (hwaiting hi)
    simp only [Semaphore.line_enqueue] at hj ⊢
    rcases List.mem_append.mp hj with hj | hj
    · exact (hordered.behind (hwaiting hi) hj).trans (List.sublist_append_left _ _)
    · rw [List.mem_singleton.mp hj]
      exact (List.singleton_sublist.mpr hline).append (List.Sublist.refl [k])
  | woken k hphase hgranted =>
    refine hordered.move (fun _ => rfl) id (fun hi _ hk => ?_) fun hi hj => ?_
    · -- places are granted from the front of the line, where the second is not
      exact absurd (hk ▸ hgranted) (hwellFormed.not_mem_granted hi (hordered.behind hi))
    · have hline := List.mem_append_right (Semaphore.take k s.policy.inFlight).granted hi
      have htake := Semaphore.line_take hgranted
      simp only [htake] at hj ⊢
      exact hordered.erase hwellFormed.nodup hi (htake ▸ hline) hj
  | proceeded k hphase =>
    refine hordered.move (fun _ => rfl) id (fun hi hserved => ?_) hordered.behind
    rw [Action.request, hphase] at hserved
    cases hserved
  | left k timedOut hphase =>
    have hsubset := Semaphore.waiting_leave_subset k s.policy.inFlight
    refine hordered.move (fun _ => rfl) (fun hi => hsubset hi) (fun _ _ _ => rfl) fun hi hj => ?_
    have hline := List.mem_append_right (Semaphore.leave k s.policy.inFlight).granted hi
    have hleave := Semaphore.line_leave k s.policy.inFlight
    simp only [hleave] at hj ⊢
    exact hordered.erase hwellFormed.nodup (hsubset hi) (hleave ▸ hline) hj
  | quitted k timedOut hphase =>
    exact hordered.move (fun _ => rfl) id (fun _ _ _ => by cases timedOut <;> rfl) hordered.behind
  | finished k hphase =>
    have hsubset := Semaphore.waiting_release_subset s.policy.inFlight
    refine hordered.move (fun _ => rfl) (fun hi => hsubset hi) (fun hi hserved => ?_)
      fun hi hj => ?_
    · rw [Action.request, hphase] at hserved
      cases hserved
    · simp only [Semaphore.line_release] at hj ⊢
      exact hordered.behind (hsubset hi) hj

/-- A request that waits is not overtaken: whoever asks for a place after it has joined the line is
not given one before it. -/
theorem no_overtaking
    (hnew : AdmissionPolicy.new maxInFlight maxQueued queueTimeout = .ok policy)
    (run : Run (State.init policy) h s) {h' : List (Action ι)} (later : Run s h' s') {i j : ι}
    (hi : i ∈ s.policy.inFlight.waiting) (hj : s.phase j = .outside)
    (hwaits : i ∈ s'.policy.inFlight.waiting) :
    (s'.phase j).served = false ∧ j ∉ s'.policy.inFlight.granted := by
  have hinvariant := (State.invariant_run hnew run).1
  have hordered : Ordered i j s := by
    have hphase := (hinvariant.line i).mp (List.mem_append_right _ hi)
    refine ⟨by rw [hphase]; rfl, fun _ => by rw [hj]; rfl, fun _ hline => ?_⟩
    have hwaiting := (hinvariant.line j).mp hline
    rw [hj] at hwaiting
    cases hwaiting
  have hkept : s'.Invariant ∧ Ordered i j s' := by
    clear hwaits
    induction later with
    | nil => exact ⟨hinvariant, hordered⟩
    | cons a _ hs ih => exact ⟨ih.1.step hs, ih.2.step ih.1 hs⟩
  exact ⟨hkept.2.unserved hwaits,
    hkept.1.wellFormed.not_mem_granted hwaits (hkept.2.behind hwaits)⟩

/-! ## Progress -/

/-- The steps that a request has before it. -/
def Phase.rank : Phase → ℕ
  | .outside | .ended _ => 0
  | .contended => 6
  | .queued => 5
  | .waiting => 4
  | .admitted => 3
  | .delivering => 2
  | .leaving _ => 1

/-- No request asks for a place or gives up. -/
def Action.patient : Action ι → Bool
  | .call _ | .giveUp _ _ => false
  | _ => true

/-- The request is on its way to a delivery. -/
def Phase.promised : Phase → Bool
  | .waiting | .admitted | .delivering | .ended .delivered => true
  | _ => false

/-- A patient step takes a request of the run closer to its end, and breaks no promise. -/
theorem patient_step (hinvariant : s.Invariant) {a : Action ι} (ha : a.patient = true)
    (hs : s.step a = some s') :
    s'.callers = s.callers ∧ s'.weigh Phase.rank < s.weigh Phase.rank ∧
      ∀ i, (s.phase i).promised = true → (s'.phase i).promised = true := by
  obtain ⟨phase, policy, hdoes, rfl⟩ := State.does_of_step hs
  have hrank : phase.rank < (s.phase a.request).rank ∧ s.phase a.request ≠ .outside ∧
      ((s.phase a.request).promised = true → phase.promised = true) := by
    cases hdoes with
    | started | contended | left => cases ha
    | queued k queue hphase | refused k hphase | lucky k inFlight hphase | lined k hphase
    | woken k hphase | proceeded k hphase | quitted k timedOut hphase | finished k hphase =>
      simp [hphase, Phase.rank, Phase.promised]
  obtain ⟨hless, hphase, hpromise⟩ := hrank
  have hcaller := (hinvariant.callers a.request).mpr hphase
  have hmoved := State.weigh_move (w := Phase.rank) rfl hinvariant.callers a.request phase policy
  refine ⟨Finset.insert_eq_of_mem hcaller, by omega, fun i hi => ?_⟩
  by_cases hrequest : i = a.request
  · rw [hrequest, State.phase_move_self]
    exact hpromise (hrequest ▸ hi)
  · rwa [State.phase_move_of_ne hrequest]

/-- Unless all requests have ended, one of them has a patient step. -/
theorem exists_patient_step (hinvariant : s.Invariant) (hpositive : 0 < s.policy.maxInFlight)
    {i : ι} (hi : i ∈ s.callers) (hended : ∀ ending, s.phase i ≠ .ended ending) :
    ∃ a s', a.patient = true ∧ s.step a = some s' := by
  -- a request with a place can go on
  have hplace : ∀ k, (s.phase k).holdsPlace = true → ∃ a s', a.patient = true ∧
      s.step a = some s' := by
    intro k hk
    cases hphase : s.phase k with
    | admitted => exact ⟨.proceed k, _, rfl, if_pos hphase⟩
    | delivering => exact ⟨.finish k, _, rfl, if_pos hphase⟩
    | _ =>
      rw [hphase] at hk
      cases hk
  -- and so can one that was given a place
  have hgrant : ∀ k ∈ s.policy.inFlight.granted, ∃ a s', a.patient = true ∧
      s.step a = some s' := by
    intro k hk
    have hphase := (hinvariant.line k).mp (List.mem_append_left _ hk)
    exact ⟨.wake k, _, rfl, if_pos ⟨hphase, hk⟩⟩
  cases hphase : s.phase i with
  | outside => exact absurd hphase ((hinvariant.callers i).mp hi)
  | ended ending => exact absurd hphase (hended ending)
  | contended =>
    cases hqueue : s.policy.queue.tryAcquire with
    | none => exact ⟨.enter i, _, rfl, by rw [State.step, if_pos hphase, hqueue]⟩
    | some queue => exact ⟨.enter i, _, rfl, by rw [State.step, if_pos hphase, hqueue]⟩
  | queued =>
    obtain ⟨inFlight, -, heq⟩ | ⟨-, heq⟩ := s.policy.inFlight.acquire_cases i
    · exact ⟨.ask i, _, rfl, by rw [State.step, if_pos hphase, heq]⟩
    · exact ⟨.ask i, _, rfl, by rw [State.step, if_pos hphase, heq]⟩
  | admitted => exact hplace i (by rw [hphase]; rfl)
  | delivering => exact hplace i (by rw [hphase]; rfl)
  | leaving timedOut => exact ⟨.quit i, _, rfl, by rw [State.step, hphase]⟩
  | waiting =>
    rcases List.mem_append.mp ((hinvariant.line i).mpr hphase) with hgranted | hwaiting
    · exact hgrant i hgranted
    -- no place is free, so that one was given or a request has one
    have hfree := hinvariant.wellFormed.busy (List.ne_nil_of_mem hwaiting)
    cases hgranted : s.policy.inFlight.granted with
    | cons k _ => exact hgrant k (by rw [hgranted]; exact List.mem_cons_self)
    | nil =>
      have hplaces := hinvariant.places
      rw [Semaphore.total, hfree, hgranted, List.length_nil] at hplaces
      by_contra hnone
      have hzero : s.count Phase.holdsPlace = 0 := by
        refine State.weigh_eq_zero.mpr fun k _ => ?_
        cases hk : (s.phase k).holdsPlace with
        | false => rfl
        | true => exact absurd (hplace k hk) hnone
      omega

theorem Run.trans {h' : List (Action ι)} {s'' : State ι} (run : Run s h s')
    (later : Run s' h' s'') : Run s (h' ++ h) s'' := by
  induction later with
  | nil => exact run
  | cons a _ hs ih => exact .cons a ih hs

/-- **Progress**: patient steps can end all requests, and break no promise. -/
theorem exists_patient_run (n : ℕ) (hinvariant : s.Invariant)
    (hpositive : 0 < s.policy.maxInFlight) (hn : s.weigh Phase.rank = n) :
    ∃ h' s', Run s h' s' ∧ (∀ a ∈ h', a.patient = true) ∧
      (∀ i ∈ s.callers, ∃ ending, s'.phase i = .ended ending) ∧
      ∀ i, (s.phase i).promised = true → (s'.phase i).promised = true := by
  induction n using Nat.strong_induction_on generalizing s with
  | _ n ih =>
    by_cases hended : ∀ i ∈ s.callers, ∃ ending, s.phase i = .ended ending
    · exact ⟨[], s, .nil, fun _ ha => absurd ha List.not_mem_nil, hended, fun _ => id⟩
    simp only [not_forall, not_exists] at hended
    obtain ⟨i, hi, hi'⟩ := hended
    obtain ⟨a, s₁, hpatient, hs⟩ := exists_patient_step hinvariant hpositive hi hi'
    obtain ⟨hcallers, hless, hpromise⟩ := patient_step hinvariant hpatient hs
    obtain ⟨h', s', later, hpatients, hends, hpromises⟩ := ih _ (hn ▸ hless) (hinvariant.step hs)
      ((State.limits_step hs).1 ▸ hpositive) rfl
    refine ⟨h' ++ [a], s', (Run.cons a .nil hs).trans later, ?_, hcallers ▸ hends,
      fun k hk => hpromises k (hpromise k hk)⟩
    exact List.forall_mem_append.mpr ⟨hpatients, List.forall_mem_singleton.mpr hpatient⟩

/-- Whatever the state of a run, if no further request comes and nobody gives up, all requests can
end, and whoever was in line is delivered. -/
theorem served_eventually
    (hnew : AdmissionPolicy.new maxInFlight maxQueued queueTimeout = .ok policy)
    (run : Run (State.init policy) h s) :
    ∃ h' s', Run s h' s' ∧ (∀ a ∈ h', a.patient = true) ∧
      (∀ i ∈ s.callers, ∃ ending, s'.phase i = .ended ending) ∧
      ∀ i, s.phase i = .waiting → s'.phase i = .ended .delivered := by
  obtain ⟨hinvariant, hmax, -⟩ := State.invariant_run hnew run
  have hpositive : 0 < s.policy.maxInFlight := hmax ▸ (State.new_eq_ok hnew).1
  obtain ⟨h', s', later, hpatient, hended, hpromised⟩ :=
    exists_patient_run _ hinvariant hpositive rfl
  refine ⟨h', s', later, hpatient, hended, fun i hi => ?_⟩
  have hcaller := (hinvariant.callers i).mpr (by rw [hi]; decide)
  obtain ⟨ending, hending⟩ := hended i hcaller
  have hdelivered := hpromised i (by rw [hi]; rfl)
  rw [hending] at hdelivered ⊢
  cases ending with
  | delivered => rfl
  | refused | dropped => cases hdelivered

end Runs

/-! ## One request at a time -/

/-- One place, and one slot to wait for it. -/
def oneAtATime : AdmissionPolicy ℕ := ⟨.new 1, .new 1, 1, 1, 2⟩

theorem new_oneAtATime : AdmissionPolicy.new 1 1 2 = .ok oneAtATime := by rfl

/-- The first request is delivered and the second waits. -/
theorem run_twoRequests :
    ∃ s, Run (State.init oneAtATime) [.ask 1, .enter 1, .call 1, .call 0] s ∧
      1 ∈ s.policy.inFlight.waiting ∧ s.phase 2 = .outside ∧ s.phase 1 = .waiting :=
  ⟨_, .cons _ (.cons _ (.cons _ (.cons _ .nil rfl) rfl) rfl) rfl, by decide, rfl, rfl⟩

theorem bounded_twoRequests :
    ∃ s, Run (State.init oneAtATime) [.ask 1, .enter 1, .call 1, .call 0] s ∧ Bounded 1 1 s := by
  obtain ⟨s, run, -⟩ := run_twoRequests
  exact ⟨s, run, bounded_run new_oneAtATime run⟩

/-- A third request comes. -/
theorem third_not_served :
    ∃ s s', Run (State.init oneAtATime) [.ask 1, .enter 1, .call 1, .call 0] s ∧
      Run s [.call 2] s' ∧ (s'.phase 2).served = false ∧ 2 ∉ s'.policy.inFlight.granted := by
  have hcome : ∃ s s', Run (State.init oneAtATime) [.ask 1, .enter 1, .call 1, .call 0] s ∧
      Run s [.call 2] s' ∧ 1 ∈ s.policy.inFlight.waiting ∧ s.phase 2 = .outside ∧
      1 ∈ s'.policy.inFlight.waiting :=
    ⟨_, _, .cons _ (.cons _ (.cons _ (.cons _ .nil rfl) rfl) rfl) rfl, .cons _ .nil rfl,
      by decide, rfl, by decide⟩
  obtain ⟨s, s', run, later, hwaits, houtside, hwaits'⟩ := hcome
  exact ⟨s, s', run, later, no_overtaking new_oneAtATime run later hwaits houtside hwaits'⟩

theorem second_served : ∃ s h' s', s.phase 1 = .waiting ∧ Run s h' s' ∧
    (∀ a ∈ h', a.patient = true) ∧ s'.phase 1 = .ended .delivered := by
  obtain ⟨s, run, -, -, hwaiting⟩ := run_twoRequests
  obtain ⟨h', s', later, hpatient, -, hserved⟩ := served_eventually new_oneAtATime run
  exact ⟨s, h', s', hwaiting, later, hpatient, hserved 1 hwaiting⟩

end WayfinderRouter.Gateway.Admission
