import Mathlib.Data.Finset.Basic
import WayfinderRouter.Double

/-!
# The process-local circuit breaker

One breaker holds the circuits of all targets of a process: a failure count, the time the
circuit opened and the set of targets with a half-open probe. Times are exact seconds.

`WellFormed` links the three maps. Every operation keeps it, whether or not callers follow
the attempt protocol, and it is what makes `allowAt`, which plans a delivery, agree with
`beginAt`, which starts it.

## Main definitions

- `CircuitBreaker` and its operations
- `deliveryPlan` — the ordered, de-duplicated plan of one delivery
- `CircuitBreaker.WellFormed` — the invariant of the three maps
-/

namespace WayfinderRouter

/-- `usize::MAX` on the supported 64-bit targets. -/
def usizeMax : ℕ := 2 ^ 64 - 1

/-- `usize::saturating_add(1)`. -/
def saturatingSucc (n : ℕ) : ℕ := min (n + 1) usizeMax

/-- A per-target circuit breaker whose clock is supplied by the caller. -/
structure CircuitBreaker where
  threshold : ℕ
  cooldownSeconds : ℚ
  failures : String → Option ℕ
  openedAt : String → Option ℚ
  halfOpen : Finset String
  one_le_threshold : 1 ≤ threshold
  threshold_le_usizeMax : threshold ≤ usizeMax

/-- State owned by one admitted target attempt. -/
inductive CircuitAttempt where
  | closed
  | halfOpen
deriving DecidableEq, Repr

namespace CircuitBreaker

/-- `CircuitBreaker::new`: a zero threshold behaves as one failure, and an invalid or
negative cooldown behaves as no cooldown. -/
def new (threshold : UInt64) (cooldownSeconds : Double) : CircuitBreaker where
  threshold := max threshold.toNat 1
  cooldownSeconds := match cooldownSeconds with
    | .finite q => max q 0
    | .notFinite => 0
  failures := fun _ => none
  openedAt := fun _ => none
  halfOpen := ∅
  one_le_threshold := le_max_right _ _
  threshold_le_usizeMax := by
    have := threshold.toNat_lt
    simp only [usizeMax]
    omega

/-- Whether `target` may be tried now (closed or ready for a half-open probe). -/
def allowAt (b : CircuitBreaker) (target : String) (now : ℚ) : Bool :=
  if target ∈ b.halfOpen then false
  else (b.openedAt target).all fun opened => b.cooldownSeconds ≤ now - opened

/-- Begin one target attempt, granting at most one half-open probe. -/
def beginAt (b : CircuitBreaker) (target : String) (now : ℚ) :
    Option CircuitAttempt × CircuitBreaker :=
  match b.openedAt target with
  | none => (some .closed, b)
  | some opened =>
    if now - opened < b.cooldownSeconds then (none, b)
    else if target ∈ b.halfOpen then (none, b)
    else (some .halfOpen, { b with halfOpen := insert target b.halfOpen })

/-- Record the result of one attempt. -/
def recordAt (b : CircuitBreaker) (target : String) (succeeded : Bool) (now : ℚ) :
    CircuitBreaker :=
  let b := { b with halfOpen := b.halfOpen.erase target }
  if succeeded then
    { b with
      failures := Function.update b.failures target none
      openedAt := Function.update b.openedAt target none }
  else
    let count := saturatingSucc ((b.failures target).getD 0)
    let b := { b with failures := Function.update b.failures target (some count) }
    if b.threshold ≤ count then
      { b with openedAt := Function.update b.openedAt target (some now) }
    else b

/-- Conservatively fail an aborted half-open probe and restart cooldown. -/
def abandonAt (b : CircuitBreaker) (target : String) (attempt : CircuitAttempt) (now : ℚ) :
    CircuitBreaker :=
  if attempt = .halfOpen then b.recordAt target false now else b

end CircuitBreaker

/-- The first occurrences in a list, past those already seen. -/
def firstOccurrences (seen : Finset String) : List String → List String
  | [] => []
  | target :: rest =>
    if target ∈ seen then firstOccurrences seen rest
    else target :: firstOccurrences (insert target seen) rest

/-- `delivery_plan`: the primary and the fallbacks in order, without repetition, less the
targets the breaker holds open and those `allow` rejects. -/
def deliveryPlan (primary : String) (fallbacks : List String)
    (breaker : Option (CircuitBreaker × ℚ)) (allow : String → Bool) : List String :=
  ((firstOccurrences ∅ (primary :: fallbacks)).filter
    fun target => breaker.all fun b => b.1.allowAt target b.2).filter allow

namespace CircuitBreaker

-- ════════════════════════════════════════════════════════════════════════
-- The invariant of the three maps
-- ════════════════════════════════════════════════════════════════════════

/-- A half-open target is open, and an open target has failed at least `threshold` times. -/
structure WellFormed (b : CircuitBreaker) : Prop where
  opened_of_halfOpen : ∀ target ∈ b.halfOpen, b.openedAt target ≠ none
  failed_of_opened : ∀ target, b.openedAt target ≠ none →
    ∃ count, b.failures target = some count ∧ b.threshold ≤ count

theorem wellFormed_new (threshold : UInt64) (cooldownSeconds : Double) :
    WellFormed (new threshold cooldownSeconds) :=
  ⟨fun _ h => absurd h (Finset.notMem_empty _), fun _ h => absurd rfl h⟩

variable {b : CircuitBreaker} {target : String} {now : ℚ}

/-- What beginning an attempt can do. -/
theorem beginAt_cases (b : CircuitBreaker) (target : String) (now : ℚ) :
    (b.openedAt target = none ∧ b.beginAt target now = (some .closed, b)) ∨
    (∃ opened, b.openedAt target = some opened ∧
      (now - opened < b.cooldownSeconds ∨ target ∈ b.halfOpen) ∧
      b.beginAt target now = (none, b)) ∨
    (∃ opened, b.openedAt target = some opened ∧ b.cooldownSeconds ≤ now - opened ∧
      target ∉ b.halfOpen ∧ b.beginAt target now =
        (some .halfOpen, { b with halfOpen := insert target b.halfOpen })) := by
  cases ho : b.openedAt target with
  | none => exact .inl ⟨rfl, by simp [beginAt, ho]⟩
  | some opened =>
    by_cases hcool : now - opened < b.cooldownSeconds
    · exact .inr (.inl ⟨opened, rfl, .inl hcool, by simp [beginAt, ho, hcool]⟩)
    · by_cases hhalf : target ∈ b.halfOpen
      · exact .inr (.inl ⟨opened, rfl, .inr hhalf, by simp [beginAt, ho, hcool, hhalf]⟩)
      · exact .inr (.inr ⟨opened, rfl, not_lt.mp hcool, hhalf,
          by simp [beginAt, ho, hcool, hhalf]⟩)

theorem WellFormed.beginAt (wf : WellFormed b) : WellFormed (b.beginAt target now).2 := by
  rcases beginAt_cases b target now with
    ⟨_, hb⟩ | ⟨_, _, _, hb⟩ | ⟨opened, ho, _, _, hb⟩ <;> rw [hb]
  · exact wf
  · exact wf
  · refine ⟨fun t ht => ?_, wf.failed_of_opened⟩
    rcases Finset.mem_insert.mp ht with rfl | ht
    · simp [ho]
    · exact wf.opened_of_halfOpen t ht

theorem saturatingSucc_ge {threshold count : ℕ} (hmax : threshold ≤ usizeMax)
    (hcount : threshold ≤ count) : threshold ≤ saturatingSucc count := by
  simp only [saturatingSucc]
  omega

/-- A success closes the circuit of its target and leaves the others. -/
theorem WellFormed.recordAt_true (wf : WellFormed b) :
    WellFormed (b.recordAt target true now) := by
  refine ⟨fun t ht => ?_, fun t ht => ?_⟩
  · obtain ⟨hne, ht⟩ := Finset.mem_erase.mp ht
    simpa [recordAt, hne] using wf.opened_of_halfOpen t ht
  · by_cases hne : t = target
    · subst hne
      simp [recordAt] at ht
    · simp only [recordAt, if_true, Function.update_of_ne hne] at ht ⊢
      exact wf.failed_of_opened t ht

/-- A failure opens the circuit once the count has reached the threshold; an open circuit
has a count that stays there. -/
theorem WellFormed.recordAt_false (wf : WellFormed b) :
    WellFormed (b.recordAt target false now) := by
  have hopen : ∀ t, t ≠ target → (b.recordAt target false now).openedAt t = b.openedAt t := by
    intro t hne
    simp only [recordAt, Bool.false_eq_true, if_false]
    split <;> simp [hne]
  have hfail : ∀ t, t ≠ target → (b.recordAt target false now).failures t = b.failures t := by
    intro t hne
    simp only [recordAt, Bool.false_eq_true, if_false]
    split <;> simp [hne]
  have hthreshold : (b.recordAt target false now).threshold = b.threshold := by
    simp only [recordAt, Bool.false_eq_true, if_false]
    split <;> rfl
  have hhalf : (b.recordAt target false now).halfOpen = b.halfOpen.erase target := by
    simp only [recordAt, Bool.false_eq_true, if_false]
    split <;> rfl
  refine ⟨fun t ht => ?_, fun t ht => ?_⟩
  · rw [hhalf] at ht
    obtain ⟨hne, ht⟩ := Finset.mem_erase.mp ht
    rw [hopen t hne]
    exact wf.opened_of_halfOpen t ht
  · rw [hthreshold]
    by_cases hne : t = target
    · subst hne
      refine ⟨saturatingSucc ((b.failures t).getD 0), ?_, ?_⟩
      · simp only [recordAt, Bool.false_eq_true, if_false]
        split <;> simp
      · by_contra hlow
        -- below the threshold nothing is opened, so the circuit was open already
        have hsame : (b.recordAt t false now).openedAt t = b.openedAt t := by
          simp only [recordAt, Bool.false_eq_true, if_false, if_neg hlow]
        rw [hsame] at ht
        obtain ⟨count, hc, hle⟩ := wf.failed_of_opened t ht
        rw [hc] at hlow
        exact hlow (saturatingSucc_ge b.threshold_le_usizeMax hle)
    · rw [hopen t hne] at ht
      rw [hfail t hne]
      exact wf.failed_of_opened t ht

theorem WellFormed.recordAt (wf : WellFormed b) (succeeded : Bool) :
    WellFormed (b.recordAt target succeeded now) := by
  cases succeeded
  · exact wf.recordAt_false
  · exact wf.recordAt_true

theorem WellFormed.abandonAt (wf : WellFormed b) (attempt : CircuitAttempt) :
    WellFormed (b.abandonAt target attempt now) := by
  cases attempt
  · exact wf
  · exact wf.recordAt_false

/-- One call on a breaker. -/
inductive Operation where
  | begin (target : String) (now : ℚ)
  | record (target : String) (succeeded : Bool) (now : ℚ)
  | abandon (target : String) (attempt : CircuitAttempt) (now : ℚ)

/-- The breaker after one call. -/
def apply (b : CircuitBreaker) : Operation → CircuitBreaker
  | .begin target now => (b.beginAt target now).2
  | .record target succeeded now => b.recordAt target succeeded now
  | .abandon target attempt now => b.abandonAt target attempt now

theorem WellFormed.apply (wf : WellFormed b) (op : Operation) : WellFormed (b.apply op) := by
  cases op with
  | begin => exact wf.beginAt
  | record _ succeeded => exact wf.recordAt succeeded
  | abandon _ attempt => exact wf.abandonAt attempt

theorem WellFormed.foldl_apply (wf : WellFormed b) (ops : List Operation) :
    WellFormed (ops.foldl CircuitBreaker.apply b) := by
  induction ops generalizing b with
  | nil => exact wf
  | cons op ops ih => exact ih (wf.apply op)

/-- On a well-formed breaker the plan's test is the begin's test. -/
theorem WellFormed.allowAt_eq (wf : WellFormed b) (target : String) (now : ℚ) :
    b.allowAt target now = (b.beginAt target now).1.isSome := by
  rcases beginAt_cases b target now with
    ⟨ho, hb⟩ | ⟨opened, ho, hwhy, hb⟩ | ⟨opened, ho, hcool, hhalf, hb⟩ <;> rw [hb, allowAt]
  · have hhalf : target ∉ b.halfOpen := fun hmem => wf.opened_of_halfOpen target hmem ho
    simp [hhalf, ho]
  · rcases hwhy with hcool | hhalf
    · simp [ho, not_le.mpr hcool]
    · simp [hhalf]
  · simp [hhalf, ho, hcool]

end CircuitBreaker

/-- **Plan and begin agree.** In every state of a breaker, whatever calls led to it, a
half-open target is open, an open target has failed `threshold` times, a target is allowed
exactly when an attempt would be granted, and so a plan keeps exactly the candidates that
an attempt at the same instant would be granted for and that the caller allows. -/
theorem plan_begin_agreement (threshold : UInt64) (cooldownSeconds : Double)
    (ops : List CircuitBreaker.Operation) :
    let b := ops.foldl CircuitBreaker.apply (.new threshold cooldownSeconds)
    (∀ target ∈ b.halfOpen, b.openedAt target ≠ none) ∧
    (∀ target, b.openedAt target ≠ none →
      ∃ count, b.failures target = some count ∧ b.threshold ≤ count) ∧
    (∀ target now, b.allowAt target now = true ↔ (b.beginAt target now).1 ≠ none) ∧
    ∀ primary fallbacks now allow, deliveryPlan primary fallbacks (some (b, now)) allow =
      (firstOccurrences ∅ (primary :: fallbacks)).filter
        fun target => (b.beginAt target now).1.isSome && allow target := by
  intro b
  have wf : b.WellFormed :=
    (CircuitBreaker.wellFormed_new threshold cooldownSeconds).foldl_apply ops
  refine ⟨wf.opened_of_halfOpen, wf.failed_of_opened, ?_, ?_⟩
  · intro target now
    rw [wf.allowAt_eq, Option.isSome_iff_ne_none]
  · intro primary fallbacks now allow
    rw [deliveryPlan, List.filter_filter]
    apply List.filter_congr
    intro target _
    rw [Option.all_some, wf.allowAt_eq, Bool.and_comm]

end WayfinderRouter
