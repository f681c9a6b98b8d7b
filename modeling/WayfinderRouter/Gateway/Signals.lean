import WayfinderRouter.Binary64
import WayfinderRouter.Double
import WayfinderRouter.Comparison
import WayfinderRouter.Gateway.Rotation
import WayfinderRouter.Ordered.BoundedMap

/-!
# Runtime signals of deployments

The gateway keeps the last observations of every deployment and orders the deployments of an alias
by their averages. The selection summarises the observations of each candidate to see whether the
signals are there, and summarises them again in every comparison of the sort. Between two summaries
other requests may observe deployments and time may pass.

## Main definitions

- `DeploymentObservationStore` — the observations, with `observe` and `summary`
- `Call` — a selection in progress, with what happens between its reads
- `selectReading` — `DeploymentObservationStore::select`, read by read
- `Atomic` — the selection is one that a single moment of the call explains
- `Undisturbed` — what happens during the call does not show in its comparisons

## Main results

- `select_atomic` — an undisturbed selection is atomic
-/

namespace WayfinderRouter

/-! ## Doubles that are not negative -/

/-- `f64::MAX`. -/
def maxFinite : ℚ := (2 ^ 53 - 1) * 2 ^ 971

namespace Double

/-- The double nearest to a number. -/
def round (q : ℚ) : Double := if nearest q ≤ maxFinite then .finite (nearest q) else .notFinite

def add : Double → Double → Double
  | .finite a, .finite b => round (a + b)
  | _, _ => .notFinite

/-- Division by a count. -/
def divNat : Double → ℕ → Double
  | .finite a, n => round (a / n)
  | .notFinite, _ => .notFinite

def isFinite : Double → Bool
  | .finite _ => true
  | .notFinite => false

/-- `f64::total_cmp`, where what is not finite is infinite. -/
def totalCmp : Double → Double → Ordering
  | .finite a, .finite b => cmp a b
  | .finite _, .notFinite => .lt
  | .notFinite, .finite _ => .gt
  | .notFinite, .notFinite => .eq

theorem isLE_cmp (a b : ℚ) : (cmp a b).isLE ↔ a ≤ b := by
  rw [← not_lt, ← cmp_eq_gt_iff]
  cases cmp a b <;> simp

instance : Std.TransCmp totalCmp where
  eq_swap {a b} := by
    cases a with
    | notFinite => cases b <;> rfl
    | finite a =>
      cases b with
      | notFinite => rfl
      | finite b =>
        exact (cmp_swap b a).symm
  isLE_trans {a b c} hab hbc := by
    cases c with
    | notFinite => cases a <;> rfl
    | finite c =>
      cases b with
      | notFinite => cases hbc
      | finite b =>
        cases a with
        | notFinite => cases hab
        | finite a =>
          have hle := ((isLE_cmp a b).mp hab).trans ((isLE_cmp b c).mp hbc)
          exact (isLE_cmp a c).mpr hle

end Double

namespace Gateway

open Comparison (Script Sorts)

/-! ## Observations -/

/-- `DeploymentObservation`. -/
structure DeploymentObservation where
  latencySeconds : Option Double
  ttftSeconds : Option Double
  throughputCharsPerSecond : Option Double
  success : Bool
  rateLimited : Bool
  capacityPressure : Option Double

/-- `DeploymentSignalSummary`. -/
structure DeploymentSignalSummary where
  latencySeconds : Double
  ttftSeconds : Option Double
  throughputCharsPerSecond : Option Double
  availability : Double
  rateLimitRate : Double
  capacityPressure : Double

instance : Inhabited DeploymentSignalSummary :=
  ⟨⟨.notFinite, none, none, .notFinite, .notFinite, .notFinite⟩⟩

/-- `TimedObservation`. -/
structure TimedObservation where
  observedAt : ℚ
  observation : DeploymentObservation

/-- The state of `DeploymentObservationStore`: the samples of each key, oldest first. -/
abbrev DeploymentObservationStore := List (String × List TimedObservation)

/-- A measured value that is kept. -/
def acceptable : Double → Bool
  | .finite value => 0 ≤ value
  | .notFinite => false

/-- At most one. -/
def capAtOne : Double → Double
  | .finite value => .finite (min value 1)
  | .notFinite => .finite 1

/-- `sanitize_observation`. -/
def sanitizeObservation (o : DeploymentObservation) : Option DeploymentObservation :=
  if [o.latencySeconds, o.ttftSeconds, o.throughputCharsPerSecond, o.capacityPressure].all
      fun value => value.all acceptable then
    some { o with capacityPressure := o.capacityPressure.map capAtOne }
  else none

/-- `char::is_control`. -/
def isControl (c : Char) : Bool := c.toNat < 0x20 || (0x7f ≤ c.toNat && c.toNat < 0xa0)

/-- `bounded_signal_id`. -/
def boundedSignalId (value : String) : String :=
  if value.utf8ByteSize ≤ 128 ∧ value.toList.all fun c => !isControl c || c = '\n' then value
  else "__other__"

/-- `bounded_clock`. -/
def boundedClock : Double → ℚ
  | .finite value => max value 0
  | .notFinite => 0

namespace DeploymentObservationStore

/-- `DeploymentObservationStore::observe`, at a reading of the clock. -/
def observe (deploymentId : String) (observation : DeploymentObservation) (clock : Double)
    (store : DeploymentObservationStore) : DeploymentObservationStore :=
  match sanitizeObservation observation with
  | none => store
  | some observation =>
    let key := boundedSignalId deploymentId
    if (Ordered.lookup key store).isNone ∧ 1024 ≤ store.length then store
    else
      Ordered.upsert key (fun samples =>
        let samples := samples.getD [] ++ [⟨boundedClock clock, observation⟩]
        samples.drop (samples.length - 32)) store

/-- The average of the values that are there. -/
def average (values : List (Option Double)) : Option Double :=
  let values := values.reduceOption
  if values = [] then none
  else some ((values.foldl Double.add (.finite 0)).divNat values.length)

/-- The share of the samples with a property. -/
def share (property : DeploymentObservation → Bool) (samples : List DeploymentObservation) :
    Double :=
  (Double.finite (samples.countP property)).divNat samples.length

/-- `DeploymentObservationStore::summary`, at a reading of the clock. -/
def summary (deploymentId : String) (observationTtl : ℚ) (clock : Double)
    (store : DeploymentObservationStore) : Option DeploymentSignalSummary := do
  if observationTtl ≤ 0 then none
  let now := boundedClock clock
  let samples ← Ordered.lookup (boundedSignalId deploymentId) store
  let samples := (samples.filter fun sample =>
    sample.observedAt ≤ now ∧ nearest (now - sample.observedAt) ≤ observationTtl).map
      TimedObservation.observation
  -- without a latency or a pressure there is no summary
  let latencySeconds ← average (samples.map DeploymentObservation.latencySeconds)
  let capacityPressure ← average (samples.map DeploymentObservation.capacityPressure)
  return {
    latencySeconds
    ttftSeconds := average (samples.map DeploymentObservation.ttftSeconds)
    throughputCharsPerSecond :=
      average (samples.map DeploymentObservation.throughputCharsPerSecond)
    availability := share DeploymentObservation.success samples
    rateLimitRate := share DeploymentObservation.rateLimited samples
    capacityPressure }

end DeploymentObservationStore

/-! ## The order of a strategy -/

/-- The summary has the signal of the strategy. -/
def signalReady (strategy : DeploymentSelectionStrategy) (summary : DeploymentSignalSummary) :
    Bool :=
  match strategy with
  | .latency => summary.latencySeconds.isFinite
  | .throughput => summary.throughputCharsPerSecond.any Double.isFinite
  | .availability => summary.availability.isFinite
  | .capacity => summary.capacityPressure.isFinite
  | .weighted | .cost => true

/-- The order of the signals of a strategy. -/
def compareSignals (strategy : DeploymentSelectionStrategy)
    (left right : DeploymentSignalSummary) : Ordering :=
  match strategy with
  | .latency => (left.latencySeconds.totalCmp right.latencySeconds).then
      ((left.ttftSeconds.getD (.finite maxFinite)).totalCmp
        (right.ttftSeconds.getD (.finite maxFinite)))
  | .throughput => (right.throughputCharsPerSecond.getD (.finite 0)).totalCmp
      (left.throughputCharsPerSecond.getD (.finite 0))
  | .availability => (right.availability.totalCmp left.availability).then
      (left.rateLimitRate.totalCmp right.rateLimitRate)
  | .capacity => left.capacityPressure.totalCmp right.capacityPressure
  | .weighted | .cost => .eq

/-- The comparator of the sort, on the summaries that it has read. -/
def compareRead (strategy : DeploymentSelectionStrategy)
    (left right : ConfiguredModel × Option DeploymentSignalSummary) : Ordering :=
  match left.2, right.2 with
  | some leftSummary, some rightSummary =>
    (compareSignals strategy leftSummary rightSummary).then
      (compare left.1.deliveryId right.1.deliveryId)
  | _, _ => compare left.1.deliveryId right.1.deliveryId

theorem transCmp_compareSignals (strategy : DeploymentSelectionStrategy) :
    Std.TransCmp (compareSignals strategy) := by
  cases strategy with
  | latency =>
    have hlatency := Comparison.transCmp_on DeploymentSignalSummary.latencySeconds Double.totalCmp
    have httft := Comparison.transCmp_on
      (fun summary : DeploymentSignalSummary => summary.ttftSeconds.getD (.finite maxFinite))
      Double.totalCmp
    exact Comparison.transCmp_then _ _
  | throughput =>
    have hthroughput := Comparison.transCmp_on
      (fun summary : DeploymentSignalSummary => summary.throughputCharsPerSecond.getD (.finite 0))
      Double.totalCmp
    exact @Std.TransCmp.opposite _ _ hthroughput
  | availability =>
    have havailability :=
      Comparison.transCmp_on DeploymentSignalSummary.availability Double.totalCmp
    have hrate := Comparison.transCmp_on DeploymentSignalSummary.rateLimitRate Double.totalCmp
    have hopposite : Std.TransCmp fun left right : DeploymentSignalSummary =>
        right.availability.totalCmp left.availability := Std.TransCmp.opposite
    exact Comparison.transCmp_then _ _
  | capacity =>
    exact Comparison.transCmp_on DeploymentSignalSummary.capacityPressure Double.totalCmp
  | weighted => exact { eq_swap := rfl, isLE_trans := fun _ _ => rfl }
  | cost => exact { eq_swap := rfl, isLE_trans := fun _ _ => rfl }

/-! ## A call and its surroundings -/

/-- What may happen between two reads of a call. -/
inductive Interference where
  | observe (deploymentId : String) (observation : DeploymentObservation)
  | clock (reading : Double)

/-- The store and the clock at a moment. -/
structure World where
  store : DeploymentObservationStore
  clock : Double

namespace World

def apply (world : World) : Interference → World
  | .observe deploymentId observation =>
    { world with store := world.store.observe deploymentId observation world.clock }
  | .clock reading => { world with clock := reading }

/-- The worlds on the way. -/
def passes (world : World) : List Interference → List World
  | [] => [world]
  | i :: is => world :: (world.apply i).passes is

/-- The summary of a candidate. -/
def summary (world : World) (policy : DeploymentSelectionPolicy) (candidate : ConfiguredModel) :
    Option DeploymentSignalSummary :=
  world.store.summary candidate.deliveryId policy.observationTtl world.clock

/-- The candidate has a summary with the signal of the strategy. -/
def ready (world : World) (policy : DeploymentSelectionPolicy) (candidate : ConfiguredModel) :
    Bool :=
  (world.summary policy candidate).any (signalReady policy.strategy)

/-- The signals at a moment. -/
def signals (world : World) (policy : DeploymentSelectionPolicy) : Signals where
  ready candidates := candidates.all (world.ready policy)
  before left right := (compareRead policy.strategy (left, world.summary policy left)
    (right, world.summary policy right)).isLE

end World

/-- A call in progress. -/
structure Call where
  world : World
  /-- What happens before each of the reads to come. -/
  pending : List (List Interference)
  /-- The comparisons that the sort has made. -/
  compared : List (ConfiguredModel × ConfiguredModel × Ordering)

namespace Call

/-- The worlds of the call from now on. -/
def moments (call : Call) : List World := call.world.passes call.pending.flatten

/-- One summary, after what happens before it. -/
def read (policy : DeploymentSelectionPolicy) (candidate : ConfiguredModel) (call : Call) :
    Option DeploymentSignalSummary × Call :=
  let world := (call.pending.headD []).foldl World.apply call.world
  (world.summary policy candidate, { call with world, pending := call.pending.tail })

/-- The summaries of the candidates, one after the other. -/
def readAll (policy : DeploymentSelectionPolicy) :
    List ConfiguredModel → Call → List (Option DeploymentSignalSummary) × Call
  | [], call => ([], call)
  | candidate :: candidates, call =>
    let first := call.read policy candidate
    let rest := readAll policy candidates first.2
    (first.1 :: rest.1, rest.2)

/-- Note a comparison. -/
def note (left right : ConfiguredModel) (answer : Ordering × Call) : Ordering × Call :=
  (answer.1, { answer.2 with compared := (left, right, answer.1) :: answer.2.compared })

/-- The comparator of the sort: a summary of each side, unless the first is missing. -/
def compareSides (policy : DeploymentSelectionPolicy) (left right : ConfiguredModel) (call : Call) :
    Ordering × Call :=
  let first := call.read policy left
  note left right <|
    if first.1.isNone then (compareRead policy.strategy (left, none) (right, none), first.2)
    else
      let second := first.2.read policy right
      (compareRead policy.strategy (left, first.1) (right, second.1), second.2)

end Call

/-- `compare_cost`. -/
def compareCost (left right : ConfiguredModel) : Ordering :=
  (cmp (left.costPer1k.getD maxFinite) (right.costPer1k.getD maxFinite)).then
    (compare left.deliveryId right.deliveryId)

/-- `DeploymentObservationStore::select`, with the sort of the standard library. There is no
selection when the sort panics. -/
def selectReading (sort : List ConfiguredModel → Script ConfiguredModel)
    (policy : DeploymentSelectionPolicy) (candidates : List ConfiguredModel) (call : Call) :
    Option DeploymentSelection × Call :=
  let candidates := applyPriceCeiling policy candidates
  if candidates = [] then (some ⟨[], "price-ceiling-blocked"⟩, call)
  else if candidates.length ≤ 1 ∨ policy.strategy = .weighted then
    (some ⟨candidates,
      if policy.maxCostPer1k.isSome then "weighted-price-ceiling" else "weighted"⟩, call)
  else if policy.strategy = .cost then
    if candidates.all fun candidate => candidate.costPer1k.isSome then
      let sorted := (sort candidates).runState
        (fun left right call => Call.note left right (compareCost left right, call)) call
      (sorted.1.map (⟨·, "cost"⟩), sorted.2)
    else (some ⟨candidates, "weighted-cost-unknown"⟩, call)
  else
    let summaries := call.readAll policy candidates
    if summaries.1.all fun summary => summary.any (signalReady policy.strategy) then
      let sorted := (sort candidates).runState (Call.compareSides policy) summaries.2
      (sorted.1.map (⟨·, policy.strategy.text⟩), sorted.2)
    else (some ⟨candidates, "weighted-stale"⟩, summaries.2)

/-- A call that has not read anything. -/
def Call.start (world : World) (pending : List (List Interference)) : Call := ⟨world, pending, []⟩

/-- The selection is a permutation of the candidates under the price ceiling, it is the one of a
single moment of the call, and the sort has seen one order. -/
def Atomic (sort : List ConfiguredModel → Script ConfiguredModel)
    (policy : DeploymentSelectionPolicy) (candidates : List ConfiguredModel) (world : World)
    (pending : List (List Interference)) : Prop :=
  let result := selectReading sort policy candidates (.start world pending)
  ∃ selection, result.1 = some selection ∧
    selection.targets.Perm (applyPriceCeiling policy candidates) ∧
    (∃ moment ∈ world.passes pending.flatten,
      selection = select (moment.signals policy) policy candidates) ∧
    ∃ order : ConfiguredModel → ConfiguredModel → Ordering, Std.TransCmp order ∧
      ∀ comparison ∈ result.2.compared, comparison.2.2 = order comparison.1 comparison.2.1

/-- Whatever happens during the call, the candidates that are ready stay so, and two candidates
compare as at its start even if their summaries are from different moments. -/
structure Undisturbed (policy : DeploymentSelectionPolicy) (candidates : List ConfiguredModel)
    (world : World) (pending : List (List Interference)) : Prop where
  ready : ∀ moment ∈ world.passes pending.flatten, ∀ candidate ∈ candidates,
    moment.ready policy candidate = world.ready policy candidate
  compare : ∀ moment ∈ world.passes pending.flatten, ∀ later ∈ world.passes pending.flatten,
    ∀ left ∈ candidates, ∀ right ∈ candidates,
      compareRead policy.strategy (left, moment.summary policy left)
          (right, later.summary policy right) =
        compareRead policy.strategy (left, world.summary policy left)
          (right, world.summary policy right)

/-! ## The moments of a call -/

section Moments

variable {world : World} {policy : DeploymentSelectionPolicy} {candidate : ConfiguredModel}
  {candidates : List ConfiguredModel} {call : Call}

theorem World.mem_passes_self (world : World) (is : List Interference) :
    world ∈ world.passes is := by
  cases is with
  | nil => exact List.mem_singleton_self world
  | cons i is => exact List.mem_cons_self

theorem World.passes_foldl_subset (world : World) (first rest : List Interference) :
    (first.foldl World.apply world).passes rest ⊆ world.passes (first ++ rest) := by
  induction first generalizing world with
  | nil => exact List.Subset.refl _
  | cons i first ih =>
    intro moment hmoment
    exact List.mem_cons_of_mem world (ih (world.apply i) hmoment)

theorem Call.moments_read_subset (policy : DeploymentSelectionPolicy)
    (candidate : ConfiguredModel) (call : Call) :
    (call.read policy candidate).2.moments ⊆ call.moments := by
  obtain ⟨world, pending, compared⟩ := call
  cases pending with
  | nil => exact List.Subset.refl _
  | cons first pending => exact world.passes_foldl_subset first pending.flatten

/-- A read is a summary at a moment of the call. -/
theorem Call.world_read_mem (policy : DeploymentSelectionPolicy) (candidate : ConfiguredModel)
    (call : Call) : (call.read policy candidate).2.world ∈ call.moments :=
  call.moments_read_subset policy candidate (World.mem_passes_self _ _)

theorem Call.compared_readAll (policy : DeploymentSelectionPolicy)
    (candidates : List ConfiguredModel) (call : Call) :
    (call.readAll policy candidates).2.compared = call.compared := by
  induction candidates generalizing call with
  | nil => rfl
  | cons candidate candidates ih => exact ih (call.read policy candidate).2

theorem Call.moments_readAll_subset (policy : DeploymentSelectionPolicy)
    (candidates : List ConfiguredModel) (call : Call) :
    (call.readAll policy candidates).2.moments ⊆ call.moments := by
  induction candidates generalizing call with
  | nil => exact List.Subset.refl _
  | cons candidate candidates ih =>
    exact List.Subset.trans (ih (call.read policy candidate).2)
      (call.moments_read_subset policy candidate)

/-- Reading the summaries one by one tells which candidates are ready. -/
theorem Call.all_readAll (call : Call) (hready : ∀ moment ∈ call.moments, ∀ candidate ∈ candidates,
      moment.ready policy candidate = world.ready policy candidate) :
    ((call.readAll policy candidates).1.all fun summary =>
        summary.any (signalReady policy.strategy)) = candidates.all (world.ready policy) := by
  induction candidates generalizing call with
  | nil => rfl
  | cons candidate candidates ih =>
    rw [Call.readAll, List.all_cons, List.all_cons]
    congr 1
    · exact hready _ (call.world_read_mem policy candidate) candidate List.mem_cons_self
    · apply ih
      intro moment hmoment other hother
      exact hready moment (call.moments_read_subset policy candidate hmoment) other
        (List.mem_cons_of_mem candidate hother)

/-! ## One order -/

/-- The order of the candidates by their signals at a moment. -/
def World.order (world : World) (policy : DeploymentSelectionPolicy)
    (left right : ConfiguredModel) : Ordering :=
  (compareSignals policy.strategy ((world.summary policy left).getD default)
      ((world.summary policy right).getD default)).then
    (compare left.deliveryId right.deliveryId)

theorem World.transCmp_order (world : World) (policy : DeploymentSelectionPolicy) :
    Std.TransCmp (world.order policy) := by
  have hsignals := transCmp_compareSignals policy.strategy
  have hon := Comparison.transCmp_on
    (fun candidate => (world.summary policy candidate).getD default)
    (compareSignals policy.strategy)
  have hid := Comparison.transCmp_on ConfiguredModel.deliveryId (compare : String → String → _)
  exact Comparison.transCmp_then _ _

/-- Candidates that are ready compare by the order. -/
theorem World.compareRead_eq_order {left right : ConfiguredModel}
    (hleft : world.ready policy left) (hright : world.ready policy right) :
    compareRead policy.strategy (left, world.summary policy left)
      (right, world.summary policy right) = world.order policy left right := by
  unfold World.ready at hleft hright
  unfold World.order
  cases hl : world.summary policy left with
  | none =>
    rw [hl] at hleft
    cases hleft
  | some leftSummary =>
    cases hr : world.summary policy right with
    | none =>
      rw [hr] at hright
      cases hright
    | some rightSummary => rfl

theorem transCmp_compareCost : Std.TransCmp compareCost := by
  have hcost := Comparison.transCmp_on
    (fun model : ConfiguredModel => Double.finite (model.costPer1k.getD maxFinite))
    Double.totalCmp
  have hid := Comparison.transCmp_on ConfiguredModel.deliveryId (compare : String → String → _)
  exact Comparison.transCmp_then
    (fun left right : ConfiguredModel => (Double.finite (left.costPer1k.getD maxFinite)).totalCmp
      (Double.finite (right.costPer1k.getD maxFinite))) _

/-- Known costs compare the same in both spellings. -/
theorem isLE_compareCost {left right : ConfiguredModel} (hleft : left.costPer1k.isSome)
    (hright : right.costPer1k.isSome) : (compareCost left right).isLE = costLe left right := by
  obtain ⟨l, hl⟩ := Option.isSome_iff_exists.mp hleft
  obtain ⟨r, hr⟩ := Option.isSome_iff_exists.mp hright
  have hid : (compare left.deliveryId right.deliveryId).isLE =
      decide (left.deliveryId ≤ right.deliveryId) := by
    rw [Bool.eq_iff_iff, decide_eq_true_iff]
    exact isLE_compareOfLessAndEq le_antisymm not_le le_total
  unfold compareCost costLe
  rw [hl, hr]
  change ((cmp l r).then _).isLE = (decide (l < r) || (decide (l = r) && _))
  rcases lt_trichotomy l r with h | h | h
  · rw [(cmp_eq_lt_iff l r).mpr h, decide_eq_true h]
    rfl
  · rw [(cmp_eq_eq_iff l r).mpr h, decide_eq_true h, decide_eq_false h.not_lt, ← hid]
    rfl
  · rw [(cmp_eq_gt_iff l r).mpr h, decide_eq_false h.ne', decide_eq_false h.le.not_gt]
    rfl

/-- The comparator of the sort keeps to one order while nothing disturbs it. -/
theorem Call.compareSides_spec (hready : ∀ c ∈ candidates, world.ready policy c)
    {pending : List (List Interference)} (h : Undisturbed policy candidates world pending)
    {left right : ConfiguredModel} (hleft : left ∈ candidates) (hright : right ∈ candidates)
    (hmoments : call.moments ⊆ world.passes pending.flatten) :
    (call.compareSides policy left right).1 = world.order policy left right ∧
    (call.compareSides policy left right).2.moments ⊆ call.moments ∧
    (call.compareSides policy left right).2.compared =
      (left, right, world.order policy left right) :: call.compared := by
  have hfirst := call.world_read_mem policy left
  have hrest := call.moments_read_subset policy left
  have hsecond := (call.read policy left).2.world_read_mem policy right
  have hlast := (call.read policy left).2.moments_read_subset policy right
  -- the left side is ready at the moment it is read, so both sides are read
  have hsome : (call.read policy left).1.isNone = false := by
    have hleftReady := h.ready _ (hmoments hfirst) left hleft
    rw [hready left hleft] at hleftReady
    unfold World.ready at hleftReady
    change ((call.read policy left).2.world.summary policy left).isNone = false
    cases hsummary : (call.read policy left).2.world.summary policy left with
    | none =>
      rw [hsummary] at hleftReady
      cases hleftReady
    | some summary => rfl
  have hanswer : compareRead policy.strategy (left, (call.read policy left).1)
      (right, ((call.read policy left).2.read policy right).1) = world.order policy left right := by
    rw [← World.compareRead_eq_order (hready left hleft) (hready right hright)]
    exact h.compare _ (hmoments hfirst) _ (hmoments (hrest hsecond)) left hleft right hright
  have hsides : call.compareSides policy left right = Call.note left right
      (world.order policy left right, ((call.read policy left).2.read policy right).2) := by
    unfold Call.compareSides
    dsimp only
    rw [hsome, hanswer]
    rfl
  rw [hsides]
  exact ⟨rfl, List.Subset.trans hlast hrest, rfl⟩

end Moments

/-! ## Atomic selections -/

section Atomicity

variable {sort : List ConfiguredModel → Script ConfiguredModel}
  {policy : DeploymentSelectionPolicy} {candidates : List ConfiguredModel} {world : World}
  {pending : List (List Interference)}

/-- Whatever happens during the call, a selection permutes the candidates under the ceiling. -/
theorem perm_of_selectReading (hsort : Sorts sort) {call : Call} {selection : DeploymentSelection}
    (h : (selectReading sort policy candidates call).1 = some selection) :
    selection.targets.Perm (applyPriceCeiling policy candidates) := by
  have hsorted : ∀ {sorted : Option (List ConfiguredModel)} {reason : String},
      (∀ result, sorted = some result → result.Perm (applyPriceCeiling policy candidates)) →
      sorted.map (DeploymentSelection.mk · reason) = some selection →
      selection.targets.Perm (applyPriceCeiling policy candidates) := by
    intro sorted reason hperm hselection
    obtain ⟨result, hresult, rfl⟩ := Option.map_eq_some_iff.mp hselection
    exact hperm result hresult
  unfold selectReading at h
  dsimp only at h
  split_ifs at h with hempty hkept hceiling hcost hknown hready
  · cases h
    rw [hempty]
  · cases h
    exact List.Perm.refl _
  · cases h
    exact List.Perm.refl _
  · exact hsorted (fun _ hresult => (hsort.isOver _).perm_of_runState hresult) h
  · cases h
    exact List.Perm.refl _
  · exact hsorted (fun _ hresult => (hsort.isOver _).perm_of_runState hresult) h
  · cases h
    exact List.Perm.refl _

/-- A selection in the original order, with no comparison made. -/
theorem atomic_of_original {reason : String} (call : Call) (hcall : call.compared = [])
    (hselect : selectReading sort policy candidates (.start world pending) =
      (some ⟨applyPriceCeiling policy candidates, reason⟩, call))
    (hworld : select (world.signals policy) policy candidates =
      ⟨applyPriceCeiling policy candidates, reason⟩) :
    Atomic sort policy candidates world pending := by
  refine ⟨_, congrArg Prod.fst hselect, List.Perm.refl _,
    ⟨world, world.mem_passes_self _, hworld.symm⟩, compareCost, transCmp_compareCost, ?_⟩
  rw [hselect, hcall]
  intro comparison hcomparison
  cases hcomparison

/-- A selection that a sort has made in one order. -/
theorem atomic_of_sorted {order : ConfiguredModel → ConfiguredModel → Ordering}
    {before : ConfiguredModel → ConfiguredModel → Bool} {reason : String}
    {sorted : Option (List ConfiguredModel) × Call} (horder : Std.TransCmp order)
    (hread : selectReading sort policy candidates (.start world pending) =
      (sorted.1.map (⟨·, reason⟩), sorted.2))
    (hresult : sorted.1 =
      some ((applyPriceCeiling policy candidates).mergeSort fun a b => (order a b).isLE))
    (hcompared : ∀ comparison ∈ sorted.2.compared,
      comparison.2.2 = order comparison.1 comparison.2.1)
    (hselect : select (world.signals policy) policy candidates =
      ⟨(applyPriceCeiling policy candidates).mergeSort before, reason⟩)
    (hagree : ∀ a ∈ applyPriceCeiling policy candidates,
      ∀ b ∈ applyPriceCeiling policy candidates, before a b = (order a b).isLE) :
    Atomic sort policy candidates world pending := by
  rw [Comparison.mergeSort_congr hagree] at hselect
  refine ⟨_, ?_, List.mergeSort_perm _ _, ⟨world, world.mem_passes_self _, hselect.symm⟩, order,
    horder, ?_⟩
  · rw [hread, hresult]
    rfl
  · rw [hread]
    exact hcompared

/-- The comparisons of a sort by cost. -/
theorem runState_compareCost (hsort : Sorts sort) (l : List ConfiguredModel) (call : Call)
    (hcall : call.compared = []) :
    let sorted := (sort l).runState
      (fun left right call => Call.note left right (compareCost left right, call)) call
    sorted.1 = some (l.mergeSort fun a b => (compareCost a b).isLE) ∧
    ∀ comparison ∈ sorted.2.compared,
      comparison.2.2 = compareCost comparison.1 comparison.2.1 := by
  have horder := transCmp_compareCost
  rw [← hsort.sorted l compareCost]
  refine (hsort.isOver l).runState_spec (fun call : Call => ∀ comparison ∈ call.compared,
    comparison.2.2 = compareCost comparison.1 comparison.2.1) ?_ ?_
  · intro left _ right _ s hs
    refine ⟨rfl, ?_⟩
    intro comparison hcomparison
    rcases List.mem_cons.mp hcomparison with rfl | hbefore
    · rfl
    · exact hs comparison hbefore
  · rw [hcall]
    intro comparison hcomparison
    cases hcomparison

/-- The comparisons of a sort by signals that nothing disturbs. -/
theorem runState_compareSides (hsort : Sorts sort) {l : List ConfiguredModel}
    (h : Undisturbed policy l world pending) (hready : ∀ c ∈ l, world.ready policy c)
    {call : Call} (hmoments : call.moments ⊆ world.passes pending.flatten)
    (hcall : call.compared = []) :
    let sorted := (sort l).runState (Call.compareSides policy) call
    sorted.1 = some (l.mergeSort fun a b => (world.order policy a b).isLE) ∧
    ∀ comparison ∈ sorted.2.compared,
      comparison.2.2 = world.order policy comparison.1 comparison.2.1 := by
  have horder := world.transCmp_order policy
  rw [← hsort.sorted l (world.order policy)]
  let Inv (call : Call) : Prop := call.moments ⊆ world.passes pending.flatten ∧
    ∀ comparison ∈ call.compared,
      comparison.2.2 = world.order policy comparison.1 comparison.2.1
  have hstep : ∀ left ∈ l, ∀ right ∈ l, ∀ s, Inv s →
      (Call.compareSides policy left right s).1 = world.order policy left right ∧
      Inv (Call.compareSides policy left right s).2 := by
    intro left hleft right hright s hs
    obtain ⟨hanswer, hsubset, hnoted⟩ := Call.compareSides_spec hready h hleft hright hs.1
    refine ⟨hanswer, List.Subset.trans hsubset hs.1, ?_⟩
    rw [hnoted]
    intro comparison hcomparison
    rcases List.mem_cons.mp hcomparison with rfl | hbefore
    · rfl
    · exact hs.2 comparison hbefore
  have hstart : Inv call := by
    refine ⟨hmoments, ?_⟩
    rw [hcall]
    intro comparison hcomparison
    cases hcomparison
  obtain ⟨hresult, hinv⟩ := (hsort.isOver l).runState_spec Inv hstep hstart
  exact ⟨hresult, hinv.2⟩

end Atomicity

/-! ## An observation between two reads -/

/-- A deployment of the pool. -/
def poolMember (id : String) : ConfiguredModel :=
  { cloudPool with deployments := [], deploymentId := some id }

/-- A success that took so many seconds. -/
def latencyOf (seconds : ℚ) : DeploymentObservation :=
  ⟨some (.finite seconds), none, none, true, false, some (.finite 0)⟩

/-- The latency strategy. -/
def byLatency : DeploymentSelectionPolicy := ⟨.latency, none, 60⟩

/-- The first deployment is faster. -/
def twoLatencies : World where
  store := [("cloud#default", [⟨0, latencyOf 1⟩]), ("cloud#eu", [⟨0, latencyOf 2⟩])]
  clock := .finite 0

/-- Between the two reads of the only comparison both deployments become slower, the second one
first. -/
def slowerBetween : List (List Interference) :=
  [[], [], [], [.observe "cloud#eu" (latencyOf 18), .observe "cloud#default" (latencyOf 9)]]

end Gateway

end WayfinderRouter
