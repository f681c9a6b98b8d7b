import Mathlib.Algebra.Order.Field.Rat
import WayfinderRouter.Reliability.CircuitBreaker
import WayfinderRouter.Timed.Service

/-!
# Single-flight probes of the local breaker

Concurrent attempts share one breaker: each begins, is granted or refused, and a granted
attempt finishes once, by `recordAt` or `abandonAt`. Which attempts are unfinished is read
off the history of calls.

`recordAt` is told the target and not the attempt, so it clears the half-open mark of
whatever probe is in flight. `LateRecord` names the completions that do so: an attempt
granted while the circuit was closed that is recorded while a probe of its target is
unfinished. Without them the half-open set is exactly the set of targets with a probe in
flight.
-/

namespace WayfinderRouter.SingleFlight

open Timed

/-- A granted attempt on a target. -/
structure Attempt where
  target : String
  state : CircuitAttempt
deriving DecidableEq

inductive Call where
  | begin (target : String)
  | record (attempt : Attempt) (succeeded : Bool)
  | abandon (attempt : Attempt)

inductive Reply where
  | began (granted : Option CircuitAttempt)
  | finished

/-- One call of an attempt on the shared breaker. -/
def serve : Service ℚ CircuitBreaker Call Reply
  | now, .begin target, b => (.began (b.beginAt target now).1, (b.beginAt target now).2)
  | now, .record attempt succeeded, b => (.finished, b.recordAt attempt.target succeeded now)
  | now, .abandon attempt, b => (.finished, b.abandonAt attempt.target attempt.state now)

/-- The granted attempts that have not finished. -/
def unfinished : List (Event ℚ Call Reply) → List Attempt
  | [] => []
  | ⟨_, .begin target, .began (some state)⟩ :: h => ⟨target, state⟩ :: unfinished h
  | ⟨_, .record attempt _, _⟩ :: h => (unfinished h).erase attempt
  | ⟨_, .abandon attempt, _⟩ :: h => (unfinished h).erase attempt
  | _ :: h => unfinished h

/-- Only granted attempts are finished, each at most once. -/
def Protocol (h : List (Event ℚ Call Reply)) (_ : CircuitBreaker) (_ : ℚ) : Call → Prop
  | .begin _ => True
  | .record attempt _ => attempt ∈ unfinished h
  | .abandon attempt => attempt ∈ unfinished h

/-- An attempt granted under a closed circuit is recorded while a probe of its target is
unfinished. -/
def LateRecord (h : List (Event ℚ Call Reply)) : Call → Prop
  | .record attempt _ =>
    attempt.state = .closed ∧ ⟨attempt.target, .halfOpen⟩ ∈ unfinished h
  | _ => False

instance (h : List (Event ℚ Call Reply)) (b : CircuitBreaker) (now : ℚ) :
    (call : Call) → Decidable (Protocol h b now call)
  | .begin _ => isTrue trivial
  | .record attempt _ => inferInstanceAs (Decidable (attempt ∈ unfinished h))
  | .abandon attempt => inferInstanceAs (Decidable (attempt ∈ unfinished h))

instance (h : List (Event ℚ Call Reply)) : (call : Call) → Decidable (LateRecord h call)
  | .record attempt _ => inferInstanceAs (Decidable
    (attempt.state = .closed ∧ ⟨attempt.target, .halfOpen⟩ ∈ unfinished h))
  | .begin _ => isFalse id
  | .abandon _ => isFalse id

/-- The half-open targets are those with a probe in flight, one for each. -/
def ProbesMarked (h : List (Event ℚ Call Reply)) (b : CircuitBreaker) : Prop :=
  ∀ target, (unfinished h).count ⟨target, .halfOpen⟩ = if target ∈ b.halfOpen then 1 else 0

variable {h : List (Event ℚ Call Reply)} {b : CircuitBreaker} {now : ℚ}

theorem halfOpen_recordAt (b : CircuitBreaker) (target : String) (succeeded : Bool) (now : ℚ) :
    (b.recordAt target succeeded now).halfOpen = b.halfOpen.erase target := by
  cases succeeded <;> simp only [CircuitBreaker.recordAt, Bool.false_eq_true, if_false, if_true]
  split <;> rfl

theorem ProbesMarked.begin (marked : ProbesMarked h b) (target : String) :
    ProbesMarked (Service.event serve now (.begin target) b :: h)
      (serve now (.begin target) b).2 := by
  intro t
  rcases CircuitBreaker.beginAt_cases b target now with
    ⟨_, hb⟩ | ⟨_, _, _, hb⟩ | ⟨_, _, _, hhalf, hb⟩ <;>
    simp only [Service.event, serve, hb, unfinished]
  · rw [List.count_cons_of_ne (by simp)]
    exact marked t
  · exact marked t
  · by_cases ht : t = target
    · subst ht
      rw [List.count_cons_self, marked t, if_neg hhalf, if_pos (Finset.mem_insert_self _ _)]
    · rw [List.count_cons_of_ne (by simpa using Ne.symm ht), marked t]
      simp [ht]

/-- Finishing the probe of a target clears its mark. -/
theorem ProbesMarked.finish_halfOpen (marked : ProbesMarked h b) {target t : String}
    (hmem : (⟨target, .halfOpen⟩ : Attempt) ∈ unfinished h) :
    ((unfinished h).erase ⟨target, .halfOpen⟩).count ⟨t, .halfOpen⟩ =
      if t ∈ b.halfOpen.erase target then 1 else 0 := by
  by_cases ht : t = target
  · subst ht
    have hpos := List.count_pos_iff.mpr hmem
    rw [List.count_erase_self, marked t]
    split <;> simp
  · rw [List.count_erase_of_ne (by simpa using ht), marked t]
    simp [ht]

/-- Finishing a closed attempt touches no probe. -/
theorem ProbesMarked.finish_closed (marked : ProbesMarked h b) {target t : String} :
    ((unfinished h).erase ⟨target, .closed⟩).count ⟨t, .halfOpen⟩ =
      if t ∈ b.halfOpen then 1 else 0 := by
  rw [List.count_erase_of_ne (by simp), marked t]

theorem ProbesMarked.record (marked : ProbesMarked h b) {attempt : Attempt} (succeeded : Bool)
    (hmem : attempt ∈ unfinished h) (hlate : ¬LateRecord h (.record attempt succeeded)) :
    ProbesMarked (Service.event serve now (.record attempt succeeded) b :: h)
      (serve now (.record attempt succeeded) b).2 := by
  obtain ⟨target, state⟩ := attempt
  intro t
  simp only [Service.event, serve, unfinished, halfOpen_recordAt]
  cases state with
  | halfOpen => exact marked.finish_halfOpen hmem
  | closed =>
    -- no probe of this target is in flight, so there is no mark to lose
    have hnot : target ∉ b.halfOpen := by
      intro hin
      have hcount := marked target
      rw [if_pos hin] at hcount
      exact hlate ⟨rfl, List.count_pos_iff.mp (hcount ▸ Nat.one_pos)⟩
    rw [Finset.erase_eq_of_notMem hnot]
    exact marked.finish_closed

theorem ProbesMarked.abandon (marked : ProbesMarked h b) {attempt : Attempt}
    (hmem : attempt ∈ unfinished h) :
    ProbesMarked (Service.event serve now (.abandon attempt) b :: h)
      (serve now (.abandon attempt) b).2 := by
  obtain ⟨target, state⟩ := attempt
  intro t
  cases state with
  | halfOpen =>
    simp only [Service.event, serve, unfinished, CircuitBreaker.abandonAt, if_true,
      halfOpen_recordAt]
    exact marked.finish_halfOpen hmem
  | closed => exact marked.finish_closed

/-- **Single flight.** In every run in which no attempt granted under a closed circuit is
recorded while a probe of its target is unfinished, each target has at most one half-open
attempt in flight. -/
theorem single_flight {threshold : UInt64} {cooldownSeconds : Double}
    (run : Service.Run serve (fun h b now call => Protocol h b now call ∧ ¬LateRecord h call)
      (.new threshold cooldownSeconds) h b) (target : String) :
    (unfinished h).count ⟨target, .halfOpen⟩ ≤ 1 := by
  have marked : ProbesMarked h b := by
    refine run.invariant (fun t => by simp [unfinished, CircuitBreaker.new]) ?_
    rintro h b now (target | ⟨attempt, succeeded⟩ | attempt) marked _ ⟨hprotocol, hlate⟩
    · exact marked.begin target
    · exact marked.record succeeded hprotocol hlate
    · exact marked.abandon hprotocol
  rw [marked target]
  split <;> simp

/-- Two attempts begin on a closed circuit. The first fails and opens it, a probe begins after
the cooldown, and the second attempt's late failure lets another probe begin beside it. -/
def lateFailure : List (ℚ × Call) :=
  [(20, .begin "x"), (10, .record ⟨"x", .closed⟩ false), (10, .begin "x"),
    (0, .record ⟨"x", .closed⟩ false), (0, .begin "x"), (0, .begin "x")]

theorem two_probes_in_flight :
    ¬∀ (threshold : UInt64) (cooldownSeconds : Double) (h : List (Event ℚ Call Reply))
      (b : CircuitBreaker), Service.Run serve Protocol (.new threshold cooldownSeconds) h b →
      ∀ target, (unfinished h).count ⟨target, .halfOpen⟩ ≤ 1 := by
  intro hall
  have run := Service.run_replay
    (show Service.Admissible serve Protocol (.new 1 (.finite 10)) lateFailure by decide +kernel)
  exact absurd (hall _ _ _ _ run "x") (by decide +kernel)

/-- A run with a probe in flight and no late record: the failed attempt is recorded before the
probe begins. -/
theorem single_flight_one_probe :
    (unfinished (Service.replay serve (.new 1 (.finite 10)) [(10, .begin "x"),
      (0, .record ⟨"x", .closed⟩ false), (0, .begin "x")]).1).count ⟨"x", .halfOpen⟩ = 1 ∧
    (unfinished (Service.replay serve (.new 1 (.finite 10)) [(10, .begin "x"),
      (0, .record ⟨"x", .closed⟩ false), (0, .begin "x")]).1).count ⟨"x", .halfOpen⟩ ≤ 1 := by
  have run := Service.run_replay (show Service.Admissible serve
    (fun h b now call => Protocol h b now call ∧ ¬LateRecord h call) (.new 1 (.finite 10))
    [(10, .begin "x"), (0, .record ⟨"x", .closed⟩ false), (0, .begin "x")] by decide +kernel)
  exact ⟨by decide +kernel, single_flight run "x"⟩

end WayfinderRouter.SingleFlight
