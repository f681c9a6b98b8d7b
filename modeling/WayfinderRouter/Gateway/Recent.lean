import WayfinderRouter.Gateway.Outcomes
import WayfinderRouter.Ordered.BoundedMap
import WayfinderRouter.Ordered.Window
import WayfinderRouter.Routing.Rounding

/-!
# Recent routes

The gateway keeps what it has decided about the last requests, without their content. A decision is
recorded when its route has been chosen, and what happens to its delivery is added afterwards: its
cost, the cache, the target, the outcome and the judgment of the user. All workspaces share the
ring.

The entries of a ring are the newest first. Times and scores are finite, and counters of a few
hundred entries are naturals.

## Main definitions

- `RecentRoutes` — the ring, with an operation for each thing that is recorded
- `report`, `reportForWorkspace` — what is reported of it
- `Op` — an operation with its arguments
- `SameTo` — two histories that differ in what other workspaces have done

## Main results

- `recent_exact` — the ring has the last decisions, as they were made
- `report_exact` — the counts of a report
- `workspace_balanced` — the counts of the report of a workspace
- `workspace_unaffected` — what a workspace sees does not depend on the others
-/

namespace WayfinderRouter.Gateway.Recent

/-- `RecentOutcome`. -/
inductive RecentOutcome where
  | streaming
  | succeeded
  | failed
  | cancelled
  | cacheHit
deriving DecidableEq

/-- The delivery is over. -/
def RecentOutcome.isTerminal (outcome : RecentOutcome) : Bool := outcome ≠ .streaming

/-- `RecentCost`. -/
structure RecentCost where
  realized : ℚ
  baseline : ℚ
  saved : ℚ
  tokens : ℕ
  unit : String
  estimated : Bool
deriving DecidableEq

/-- `RecentEntry`, with the fields that a proposal does not read. -/
structure Entry extends RecentEntry where
  requestId : String
  policyVersion : Option String
  snapshotId : Option String
  policyProfile : Option String
  servedBy : Option String
  outcome : Option RecentOutcome
  httpStatus : Option ℕ
  errorType : Option String
  ts : ℚ
  cost : Option RecentCost
  key : Option String
  cache : Option String
deriving DecidableEq

namespace Entry

variable (entry : Entry)

def withCost (cost : RecentCost) : Entry := { entry with cost := some cost }

def withCache (cache : String) : Entry := { entry with cache := some cache }

def withOutcome (outcome : RecentOutcome) (httpStatus : Option ℕ) (errorType : Option String) :
    Entry :=
  { entry with outcome := some outcome, httpStatus, errorType }

def withDelivery (servedBy : String) (executionBoundary : ExecutionBoundary)
    (outcome : RecentOutcome) (httpStatus : Option ℕ) (errorType : Option String) : Entry :=
  { entry.withOutcome outcome httpStatus errorType with
    servedBy := some servedBy
    executionBoundary := some executionBoundary }

def withUserOutcome (outcome : UserOutcome) : Entry := { entry with userOutcome := some outcome }

/-- The delivery of the request is over. -/
def isTerminal : Bool := entry.outcome.any RecentOutcome.isTerminal

/-- The judgment of a user is taken when the delivery is over. -/
def labelled (outcome : UserOutcome) : Entry :=
  if entry.isTerminal then entry.withUserOutcome outcome else entry

end Entry

/-- `UserOutcomeError`. -/
inductive UserOutcomeError where
  | receiptNotFound
  | receiptNotTerminal
deriving DecidableEq

/-- The ring, newest entry first. -/
structure RecentRoutes where
  capacity : ℕ
  entries : List Entry

/-- `MAX_RECENT_ENTRIES`. -/
def maxRecentEntries : ℕ := 200

namespace RecentRoutes

def new (capacity : ℕ) : RecentRoutes := ⟨min capacity maxRecentEntries, []⟩

/-- `RecentRoutes::record`. -/
def record (entry : Entry) (ring : RecentRoutes) : RecentRoutes :=
  if ring.capacity = 0 then ring
  else { ring with entries := (entry :: ring.entries).take ring.capacity }

/-- The entry is one of a request. -/
def isOf (requestId : String) (entry : Entry) : Bool := entry.requestId = requestId

/-- Change the newest entry of a request, if there is one. -/
def enrich (requestId : String) (change : Entry → Entry) (ring : RecentRoutes) :
    Bool × RecentRoutes :=
  if ring.entries.any (isOf requestId) then
    (true, { ring with entries := Ordered.amend (isOf requestId) change ring.entries })
  else (false, ring)

/-- `RecentRoutes::update_cost`. -/
def updateCost (requestId : String) (cost : RecentCost) : RecentRoutes → Bool × RecentRoutes :=
  enrich requestId (Entry.withCost · cost)

/-- `RecentRoutes::update_cache`. -/
def updateCache (requestId cache : String) : RecentRoutes → Bool × RecentRoutes :=
  enrich requestId (Entry.withCache · cache)

/-- `RecentRoutes::update_delivery`. -/
def updateDelivery (requestId servedBy : String) (executionBoundary : ExecutionBoundary)
    (outcome : RecentOutcome) (httpStatus : Option ℕ) (errorType : Option String) :
    RecentRoutes → Bool × RecentRoutes :=
  enrich requestId (Entry.withDelivery · servedBy executionBoundary outcome httpStatus errorType)

/-- `RecentRoutes::update_outcome`. -/
def updateOutcome (requestId : String) (outcome : RecentOutcome) (httpStatus : Option ℕ)
    (errorType : Option String) : RecentRoutes → Bool × RecentRoutes :=
  enrich requestId (Entry.withOutcome · outcome httpStatus errorType)

/-- The entry is the receipt of a request of a workspace. -/
def isReceipt (requestId workspace : String) (entry : Entry) : Bool :=
  isOf requestId entry && entry.workspace = some workspace

/-- `RecentRoutes::label_user_outcome`. -/
def labelUserOutcome (requestId workspace : String) (outcome : UserOutcome)
    (ring : RecentRoutes) : Except UserOutcomeError Unit × RecentRoutes :=
  match ring.entries.find? (isReceipt requestId workspace) with
  | none => (.error .receiptNotFound, ring)
  | some entry =>
    if entry.isTerminal then
      (.ok (), { ring with
        entries := Ordered.amend (isReceipt requestId workspace) (Entry.withUserOutcome · outcome)
          ring.entries })
    else (.error .receiptNotTerminal, ring)

/-- `RecentRoutes::entries_for_workspace`, newest first. -/
def entriesForWorkspace (workspace : String) (ring : RecentRoutes) : List Entry :=
  ring.entries.filter fun entry => entry.workspace = some workspace

end RecentRoutes

/-! ## Reports -/

/-- Count one more under a key. -/
def count (key : String) : List (String × ℕ) → List (String × ℕ) :=
  Ordered.upsert key fun n => n.getD 0 + 1

/-- Count entries by a name of theirs. -/
def countBy (name : Entry → String) (entries : List Entry) : List (String × ℕ) :=
  entries.foldr (fun entry => count (name entry)) []

/-- `RecentReport`. -/
structure RecentReport where
  total : ℕ
  byModel : List (String × ℕ)
  scoredTotal : ℕ
  scoredByModel : List (String × ℕ)
  recent : List Entry

/-- The mode of an automatic decision. -/
def isScored (entry : Entry) : Bool := entry.mode = "scored"

/-- `RecentRoutes::report`. -/
def RecentRoutes.report (requestedLimit : ℤ) (ring : RecentRoutes) : RecentReport where
  total := ring.entries.length
  byModel := countBy (fun entry => entry.model) ring.entries
  scoredTotal := ring.entries.countP isScored
  scoredByModel := countBy (fun entry => entry.model) (ring.entries.filter isScored)
  recent := ring.entries.take (min (max requestedLimit 1) maxRecentEntries).toNat

/-- `RecentBoundaryCounts`. -/
structure RecentBoundaryCounts where
  onDevice : ℕ := 0
  localNetwork : ℕ := 0
  hosted : ℕ := 0
  unknown : ℕ := 0

/-- Entries by what has become of their deliveries. -/
structure RecentOutcomeCounts where
  terminal : ℕ := 0
  succeeded : ℕ := 0
  failed : ℕ := 0
  cancelled : ℕ := 0
  cacheHits : ℕ := 0
  inProgress : ℕ := 0
  deliveryUnobserved : ℕ := 0

/-- Entries by the judgments of the users. -/
structure RecentUserCounts where
  userLabelled : ℕ := 0
  userSuccesses : ℕ := 0
  userCorrections : ℕ := 0
  userFailures : ℕ := 0

/-- `RecentWorkspaceReport`. -/
structure RecentWorkspaceReport extends RecentOutcomeCounts, RecentUserCounts where
  retention : String := "process-local-bounded-shared-ring"
  sharedCapacity : ℕ
  retained : ℕ := 0
  firstObservedTs : Option ℚ := none
  lastObservedTs : Option ℚ := none
  failureRatePct : Option Double := none
  boundaries : RecentBoundaryCounts := {}
  byRoute : List (String × ℕ) := []

def RecentOutcomeCounts.add (counts : RecentOutcomeCounts) :
    Option RecentOutcome → RecentOutcomeCounts
  | some .succeeded =>
    { counts with terminal := counts.terminal + 1, succeeded := counts.succeeded + 1 }
  | some .failed => { counts with terminal := counts.terminal + 1, failed := counts.failed + 1 }
  | some .cancelled =>
    { counts with terminal := counts.terminal + 1, cancelled := counts.cancelled + 1 }
  | some .cacheHit =>
    { counts with terminal := counts.terminal + 1, cacheHits := counts.cacheHits + 1 }
  | some .streaming => { counts with inProgress := counts.inProgress + 1 }
  | none => { counts with deliveryUnobserved := counts.deliveryUnobserved + 1 }

def RecentUserCounts.add (counts : RecentUserCounts) : Option UserOutcome → RecentUserCounts
  | some .success =>
    { counts with
      userLabelled := counts.userLabelled + 1, userSuccesses := counts.userSuccesses + 1 }
  | some .correction =>
    { counts with
      userLabelled := counts.userLabelled + 1, userCorrections := counts.userCorrections + 1 }
  | some .failure =>
    { counts with
      userLabelled := counts.userLabelled + 1, userFailures := counts.userFailures + 1 }
  | none => counts

def RecentBoundaryCounts.add (counts : RecentBoundaryCounts) :
    Option ExecutionBoundary → RecentBoundaryCounts
  | some .onDevice => { counts with onDevice := counts.onDevice + 1 }
  | some .localNetwork => { counts with localNetwork := counts.localNetwork + 1 }
  | some .hosted => { counts with hosted := counts.hosted + 1 }
  | none => { counts with unknown := counts.unknown + 1 }

namespace RecentWorkspaceReport

variable (report : RecentWorkspaceReport)

/-- The loop of `report_for_workspace`. -/
def countEntry (entry : Entry) : RecentWorkspaceReport :=
  { report with
    toRecentOutcomeCounts := report.toRecentOutcomeCounts.add entry.outcome
    toRecentUserCounts := report.toRecentUserCounts.add entry.userOutcome
    retained := report.retained + 1
    firstObservedTs := some (report.firstObservedTs.elim entry.ts (min entry.ts))
    lastObservedTs := some (report.lastObservedTs.elim entry.ts (max entry.ts))
    boundaries := report.boundaries.add entry.executionBoundary
    byRoute := count (entry.servedBy.getD entry.model) report.byRoute }

/-- The entries of a workspace, newest first, counted from the oldest on. -/
def ofEntries (sharedCapacity : ℕ) (entries : List Entry) : RecentWorkspaceReport :=
  entries.foldr (fun entry report => report.countEntry entry) { sharedCapacity }

/-- `failure_rate_pct`. -/
def failureRate : Option Double :=
  if report.terminal = 0 then none
  else
    some (Routing.pythonRound
      (.finite (nearest ((100 * report.failed : ℕ) / report.terminal))) 1)

end RecentWorkspaceReport

/-- `RecentRoutes::report_for_workspace`. -/
def RecentRoutes.reportForWorkspace (workspace : String) (ring : RecentRoutes) :
    RecentWorkspaceReport :=
  let report := RecentWorkspaceReport.ofEntries ring.capacity (ring.entriesForWorkspace workspace)
  { report with failureRatePct := report.failureRate }

/-! ## Histories -/

/-- An operation on the ring. -/
inductive Op where
  | record (entry : Entry)
  | updateCost (requestId : String) (cost : RecentCost)
  | updateCache (requestId cache : String)
  | updateDelivery (requestId servedBy : String) (executionBoundary : ExecutionBoundary)
    (outcome : RecentOutcome) (httpStatus : Option ℕ) (errorType : Option String)
  | updateOutcome (requestId : String) (outcome : RecentOutcome) (httpStatus : Option ℕ)
    (errorType : Option String)
  | labelUserOutcome (requestId workspace : String) (outcome : UserOutcome)

namespace Op

open RecentRoutes (isOf isReceipt)

def apply (ring : RecentRoutes) : Op → RecentRoutes
  | record entry => ring.record entry
  | updateCost requestId cost => (ring.updateCost requestId cost).2
  | updateCache requestId cache => (ring.updateCache requestId cache).2
  | updateDelivery requestId servedBy executionBoundary outcome httpStatus errorType =>
    (ring.updateDelivery requestId servedBy executionBoundary outcome httpStatus errorType).2
  | updateOutcome requestId outcome httpStatus errorType =>
    (ring.updateOutcome requestId outcome httpStatus errorType).2
  | labelUserOutcome requestId workspace outcome =>
    (ring.labelUserOutcome requestId workspace outcome).2

/-- What the operation does to a log that keeps everything. -/
def edit : Op → Ordered.Edit Entry
  | record entry => .push entry
  | updateCost requestId cost => .amend (isOf requestId) (Entry.withCost · cost)
  | updateCache requestId cache => .amend (isOf requestId) (Entry.withCache · cache)
  | updateDelivery requestId servedBy executionBoundary outcome httpStatus errorType =>
    .amend (isOf requestId)
      (Entry.withDelivery · servedBy executionBoundary outcome httpStatus errorType)
  | updateOutcome requestId outcome httpStatus errorType =>
    .amend (isOf requestId) (Entry.withOutcome · outcome httpStatus errorType)
  | labelUserOutcome requestId workspace outcome =>
    .amend (isReceipt requestId workspace) (Entry.labelled · outcome)

end Op

/-- The ring after a history of operations, which starts with the newest. -/
def run (capacity : ℕ) : List Op → RecentRoutes
  | [] => .new capacity
  | op :: ops => op.apply (run capacity ops)

/-- Everything that was recorded, with what became of it. -/
def log (ops : List Op) : List Entry := Ordered.log (ops.map Op.edit)

/-- The entries as they were recorded, newest first. -/
def recorded (ops : List Op) : List Entry := Ordered.pushed (ops.map Op.edit)

/-- What is decided before a request is delivered. -/
structure Decision where
  requestId : String
  model : String
  score : ℚ
  mode : String
  policyVersion : Option String
  snapshotId : Option String
  policyProfile : Option String
  ts : ℚ
  key : Option String
  workspace : Option String
deriving DecidableEq

def Entry.decision (entry : Entry) : Decision where
  requestId := entry.requestId
  model := entry.model
  score := entry.score
  mode := entry.mode
  policyVersion := entry.policyVersion
  snapshotId := entry.snapshotId
  policyProfile := entry.policyProfile
  ts := entry.ts
  key := entry.key
  workspace := entry.workspace

/-! ### The ring is a window -/

/-- An operation on a ring that is not over its capacity. -/
theorem Op.apply_eq (op : Op) {ring : RecentRoutes} (h : ring.entries.length ≤ ring.capacity) :
    op.apply ring = ⟨ring.capacity, (op.edit.apply ring.entries).take ring.capacity⟩ := by
  have henrich : ∀ (requestId : String) (change : Entry → Entry),
      (ring.enrich requestId change).2 = ⟨ring.capacity,
        (Ordered.amend (RecentRoutes.isOf requestId) change ring.entries).take
          ring.capacity⟩ := by
    intro requestId change
    rw [RecentRoutes.enrich]
    split_ifs with hany
    · rw [List.take_of_length_le ((Ordered.length_amend _).le.trans h)]
    · have hnone : ring.entries.find? (RecentRoutes.isOf requestId) = none := by
        simpa using hany
      rw [Ordered.amend_eq_self (by rw [hnone]; exact fun _ hmem => by cases hmem),
        List.take_of_length_le h]
  cases op with
  | record entry =>
    rw [Op.apply, RecentRoutes.record, Op.edit, Ordered.Edit.apply]
    split_ifs with hzero
    · -- a ring without capacity stays empty
      rw [hzero, Nat.le_zero, List.length_eq_zero_iff] at h
      rw [hzero, List.take_zero, ← h, ← hzero]
    · rfl
  | updateCost requestId cost => exact henrich requestId _
  | updateCache requestId cache => exact henrich requestId _
  | updateDelivery requestId servedBy executionBoundary outcome httpStatus errorType =>
    exact henrich requestId _
  | updateOutcome requestId outcome httpStatus errorType => exact henrich requestId _
  | labelUserOutcome requestId workspace outcome =>
    rw [Op.apply, RecentRoutes.labelUserOutcome, Op.edit, Ordered.Edit.apply,
      List.take_of_length_le ((Ordered.length_amend _).le.trans h)]
    -- only the receipt that is found could change, and it does so when it is terminal
    cases hfind : ring.entries.find? (RecentRoutes.isReceipt requestId workspace) with
    | none =>
      have hself : Ordered.amend (RecentRoutes.isReceipt requestId workspace)
          (Entry.labelled · outcome) ring.entries = ring.entries := by
        apply Ordered.amend_eq_self
        rw [hfind]
        exact fun _ hmem => by cases hmem
      rw [hself]
    | some entry =>
      dsimp only
      split_ifs with hterminal
      · have hlabelled : Ordered.amend (RecentRoutes.isReceipt requestId workspace)
            (Entry.withUserOutcome · outcome) ring.entries =
            Ordered.amend (RecentRoutes.isReceipt requestId workspace)
              (Entry.labelled · outcome) ring.entries := by
          apply Ordered.amend_congr
          rw [hfind]
          rintro _ ⟨⟩
          exact (if_pos hterminal).symm
        rw [hlabelled]
      · have hself : Ordered.amend (RecentRoutes.isReceipt requestId workspace)
            (Entry.labelled · outcome) ring.entries = ring.entries := by
          apply Ordered.amend_eq_self
          rw [hfind]
          rintro _ ⟨⟩
          exact if_neg hterminal
        rw [hself]

/-- The ring is a window on the log. -/
theorem run_eq (capacity : ℕ) (ops : List Op) :
    run capacity ops = ⟨min capacity maxRecentEntries,
      (log ops).take (min capacity maxRecentEntries)⟩ := by
  have hwindow : run capacity ops = ⟨min capacity maxRecentEntries,
      Ordered.window (min capacity maxRecentEntries) (ops.map Op.edit)⟩ := by
    induction ops with
    | nil => rfl
    | cons op ops ih =>
      have hlength : (run capacity ops).entries.length ≤ (run capacity ops).capacity := by
        rw [ih, Ordered.window_eq_take_log]
        exact List.length_take_le _ _
      rw [run, op.apply_eq hlength, ih]
      rfl
  rw [hwindow, Ordered.window_eq_take_log, log]

/-- No operation changes what was decided. -/
theorem map_decision_log (ops : List Op) :
    (log ops).map Entry.decision = (recorded ops).map Entry.decision := by
  apply Ordered.map_log
  intro p f hmem entry
  obtain ⟨op, -, hedit⟩ := List.mem_map.mp hmem
  cases op with
  | record entry => cases hedit
  | labelUserOutcome requestId workspace outcome =>
    cases hedit
    dsimp only
    rw [Entry.labelled]
    split_ifs
    · rfl
    · rfl
  | _ =>
    cases hedit
    rfl

theorem map_decision_run (capacity : ℕ) (ops : List Op) :
    (run capacity ops).entries.map Entry.decision =
      ((recorded ops).take (min capacity maxRecentEntries)).map Entry.decision := by
  rw [run_eq, List.map_take, map_decision_log, ← List.map_take]

/-- **In every run** the ring has the last decisions as they were made, each with what became of
it: it is the beginning of a log that keeps everything. -/
theorem recent_exact (capacity : ℕ) (ops : List Op) :
    (run capacity ops).entries = (log ops).take (min capacity maxRecentEntries) ∧
    (run capacity ops).entries.map Entry.decision =
      ((recorded ops).take (min capacity maxRecentEntries)).map Entry.decision := by
  refine ⟨?_, map_decision_run capacity ops⟩
  rw [run_eq]

/-! ### Counts -/

/-- A count that is there. -/
def positive (n : ℕ) : Option ℕ := if n = 0 then none else some n

theorem sorted_countBy (name : Entry → String) (entries : List Entry) :
    Ordered.Sorted (countBy name entries) := by
  induction entries with
  | nil => exact List.Pairwise.nil
  | cons entry entries ih => exact ih.upsert

theorem lookup_countBy (name : Entry → String) (entries : List Entry) (k : String) :
    Ordered.lookup k (countBy name entries) =
      positive (entries.countP fun entry => name entry = k) := by
  induction entries with
  | nil => rfl
  | cons entry entries ih =>
    change Ordered.lookup k (count (name entry) (countBy name entries)) = _
    rw [count, Ordered.lookup_upsert (sorted_countBy name entries), List.countP_cons]
    by_cases hk : name entry = k
    · rw [if_pos hk.symm, if_pos (decide_eq_true hk), hk, ih, positive, positive,
        if_neg (Nat.succ_ne_zero _)]
      split_ifs with hzero
      · rw [hzero, Option.getD_none]
      · rw [Option.getD_some]
    · rw [if_neg (Ne.symm hk), if_neg (by simpa using hk), ih, Nat.add_zero]

theorem sum_count (key : String) (m : List (String × ℕ)) :
    ((count key m).map Prod.snd).sum = (m.map Prod.snd).sum + 1 := by
  induction m with
  | nil => rfl
  | cons e m ih =>
    obtain ⟨key', n⟩ := e
    rw [count, Ordered.upsert]
    split_ifs
    · simp only [List.map_cons, List.sum_cons, Option.getD_none]
      omega
    · simp only [List.map_cons, List.sum_cons, Option.getD_some]
      omega
    · rw [count] at ih
      simp only [List.map_cons, List.sum_cons, ih]
      omega

/-- A count of decisions. -/
theorem countP_decision {entries entries' : List Entry}
    (h : entries.map Entry.decision = entries'.map Entry.decision) (p : Decision → Bool) :
    entries.countP (fun entry => p entry.decision) =
      entries'.countP fun entry => p entry.decision := by
  have hcount := congrArg (List.countP p) h
  rwa [List.countP_map, List.countP_map] at hcount

/-- **In every run** a report counts the last decisions, and lists them newest first. -/
theorem report_exact (capacity : ℕ) (ops : List Op) (limit : ℤ) :
    ((run capacity ops).report limit).total =
      ((recorded ops).take (min capacity maxRecentEntries)).length ∧
    (∀ model, Ordered.lookup model ((run capacity ops).report limit).byModel =
      positive (((recorded ops).take (min capacity maxRecentEntries)).countP fun entry =>
        entry.model = model)) ∧
    ((run capacity ops).report limit).scoredTotal =
      ((recorded ops).take (min capacity maxRecentEntries)).countP isScored ∧
    (∀ model, Ordered.lookup model ((run capacity ops).report limit).scoredByModel =
      positive (((recorded ops).take (min capacity maxRecentEntries)).countP fun entry =>
        entry.model = model && isScored entry)) ∧
    ((run capacity ops).report limit).recent.map Entry.decision =
      ((recorded ops).take (min (min capacity maxRecentEntries)
        (min (max limit 1) maxRecentEntries).toNat)).map Entry.decision := by
  have hdecisions := map_decision_run capacity ops
  refine ⟨?_, fun model => ?_, ?_, fun model => ?_, ?_⟩
  · have hlength := congrArg List.length hdecisions
    rwa [List.length_map, List.length_map] at hlength
  · exact (lookup_countBy _ _ model).trans
      (congrArg positive (countP_decision hdecisions fun decision => decision.model = model))
  · exact countP_decision hdecisions fun decision => decision.mode = "scored"
  · apply (lookup_countBy _ _ model).trans
    rw [List.countP_filter]
    exact congrArg positive (countP_decision hdecisions fun decision =>
      decision.model = model && decision.mode = "scored")
  · rw [RecentRoutes.report, List.map_take, hdecisions, ← List.map_take, List.take_take,
      min_comm]

/-! ### The report of a workspace -/

theorem RecentOutcomeCounts.add_spec (counts : RecentOutcomeCounts)
    (outcome : Option RecentOutcome) :
    (counts.add outcome).terminal + (counts.add outcome).inProgress +
        (counts.add outcome).deliveryUnobserved =
      counts.terminal + counts.inProgress + counts.deliveryUnobserved + 1 ∧
    (counts.add outcome).succeeded + (counts.add outcome).failed + (counts.add outcome).cancelled +
        (counts.add outcome).cacheHits + counts.terminal =
      counts.succeeded + counts.failed + counts.cancelled + counts.cacheHits +
        (counts.add outcome).terminal := by
  cases outcome with
  | none => exact ⟨rfl, rfl⟩
  | some outcome => cases outcome <;> constructor <;> simp only [add] <;> omega

theorem RecentUserCounts.add_spec (counts : RecentUserCounts) (outcome : Option UserOutcome) :
    (counts.add outcome).userSuccesses + (counts.add outcome).userCorrections +
        (counts.add outcome).userFailures + counts.userLabelled =
      counts.userSuccesses + counts.userCorrections + counts.userFailures +
        (counts.add outcome).userLabelled := by
  cases outcome with
  | none => rfl
  | some outcome => cases outcome <;> simp only [add] <;> omega

theorem RecentBoundaryCounts.add_spec (counts : RecentBoundaryCounts)
    (boundary : Option ExecutionBoundary) :
    (counts.add boundary).onDevice + (counts.add boundary).localNetwork +
        (counts.add boundary).hosted + (counts.add boundary).unknown =
      counts.onDevice + counts.localNetwork + counts.hosted + counts.unknown + 1 := by
  cases boundary with
  | none => rfl
  | some boundary => cases boundary <;> simp only [add] <;> omega

/-- The counts of a report add up to those of its entries. -/
structure RecentWorkspaceReport.Balanced (times : List ℚ) (report : RecentWorkspaceReport) :
    Prop where
  retained : report.retained = times.length
  firstObserved : report.firstObservedTs = times.min?
  lastObserved : report.lastObservedTs = times.max?
  outcomes : report.terminal + report.inProgress + report.deliveryUnobserved = report.retained
  terminal :
    report.succeeded + report.failed + report.cancelled + report.cacheHits = report.terminal
  userLabelled :
    report.userSuccesses + report.userCorrections + report.userFailures = report.userLabelled
  boundaries : report.boundaries.onDevice + report.boundaries.localNetwork +
    report.boundaries.hosted + report.boundaries.unknown = report.retained
  routes : (report.byRoute.map Prod.snd).sum = report.retained

theorem balanced_ofEntries (sharedCapacity : ℕ) (entries : List Entry) :
    (RecentWorkspaceReport.ofEntries sharedCapacity entries).Balanced
      (entries.map Entry.ts) := by
  induction entries with
  | nil => exact ⟨rfl, rfl, rfl, rfl, rfl, rfl, rfl, rfl⟩
  | cons entry entries ih =>
    change (RecentWorkspaceReport.countEntry
      (RecentWorkspaceReport.ofEntries sharedCapacity entries) entry).Balanced _
    generalize RecentWorkspaceReport.ofEntries sharedCapacity entries = report at ih ⊢
    obtain ⟨houtcomes, hterminal⟩ := report.toRecentOutcomeCounts.add_spec entry.outcome
    have huser := report.toRecentUserCounts.add_spec entry.userOutcome
    have hboundaries := report.boundaries.add_spec entry.executionBoundary
    have hretained := ih.retained
    constructor
    · rw [List.map_cons, List.length_cons, ← hretained]
      rfl
    · rw [List.map_cons, List.min?_cons, ← ih.firstObserved]
      rfl
    · rw [List.map_cons, List.max?_cons, ← ih.lastObserved]
      rfl
    · exact houtcomes.trans (congrArg (· + 1) ih.outcomes)
    · have hbefore := ih.terminal
      simp only [RecentWorkspaceReport.countEntry]
      omega
    · have hbefore := ih.userLabelled
      simp only [RecentWorkspaceReport.countEntry]
      omega
    · exact hboundaries.trans (congrArg (· + 1) ih.boundaries)
    · exact (sum_count _ _).trans (congrArg (· + 1) ih.routes)

/-- The decisions of a workspace among the last ones. -/
def recordedBy (workspace : String) (capacity : ℕ) (ops : List Op) : List Entry :=
  ((recorded ops).take (min capacity maxRecentEntries)).filter fun entry =>
    entry.workspace = some workspace

theorem map_decision_filter {entries entries' : List Entry}
    (h : entries.map Entry.decision = entries'.map Entry.decision) (p : Decision → Bool) :
    (entries.filter fun entry => p entry.decision).map Entry.decision =
      (entries'.filter fun entry => p entry.decision).map Entry.decision := by
  have hfilter := congrArg (List.filter p) h
  rwa [List.filter_map, List.filter_map] at hfilter

section Others

variable (workspace : String) (ids : Set String)

/-- The entry is one of the workspace, with an id of its requests. -/
def IsOwn (entry : Entry) : Prop := entry.workspace = some workspace ∧ entry.requestId ∈ ids

/-- The entry is one of others, with an id of theirs. -/
def IsForeign (entry : Entry) : Prop := entry.workspace ≠ some workspace ∧ entry.requestId ∉ ids

/-- An operation of the workspace, on its own requests. -/
def Op.Concerns : Op → Prop
  | .record entry => IsOwn workspace ids entry
  | .updateCost requestId _ => requestId ∈ ids
  | .updateCache requestId _ => requestId ∈ ids
  | .updateDelivery requestId _ _ _ _ _ => requestId ∈ ids
  | .updateOutcome requestId _ _ _ => requestId ∈ ids
  | .labelUserOutcome requestId workspace' _ => requestId ∈ ids ∧ workspace' = workspace

/-- An operation of others on requests of theirs, other than a decision. -/
def Op.PassesBy : Op → Prop
  | .record _ => False
  | op => ¬ op.Concerns workspace ids

/-- Two histories that differ in what others have done: in what they have recorded, and in what
they have added to their own requests. -/
inductive SameTo : List Op → List Op → Prop where
  | start : SameTo [] []
  | own {ops ops' : List Op} (op : Op) (hop : op.Concerns workspace ids) (h : SameTo ops ops') :
    SameTo (op :: ops) (op :: ops')
  | recorded {ops ops' : List Op} (entry entry' : Entry) (hentry : IsForeign workspace ids entry)
    (hentry' : IsForeign workspace ids entry') (h : SameTo ops ops') :
    SameTo (.record entry :: ops) (.record entry' :: ops')
  | left {ops ops' : List Op} (op : Op) (hop : op.PassesBy workspace ids) (h : SameTo ops ops') :
    SameTo (op :: ops) ops'
  | right {ops ops' : List Op} (op : Op) (hop : op.PassesBy workspace ids) (h : SameTo ops ops') :
    SameTo ops (op :: ops')

/-- The same entry of the workspace, or two entries of others. -/
def Alike (entry entry' : Entry) : Prop :=
  entry = entry' ∧ IsOwn workspace ids entry ∨
    IsForeign workspace ids entry ∧ IsForeign workspace ids entry'

variable {workspace ids}

/-- A change that leaves an entry to its workspace and its request. -/
def Keeps (change : Entry → Entry) : Prop :=
  ∀ entry, (change entry).workspace = entry.workspace ∧
    (change entry).requestId = entry.requestId

theorem Keeps.isOwn {change : Entry → Entry} (h : Keeps change) {entry : Entry}
    (hentry : IsOwn workspace ids entry) : IsOwn workspace ids (change entry) := by
  obtain ⟨hworkspace, hid⟩ := h entry
  rw [IsOwn, hworkspace, hid]
  exact hentry

theorem Keeps.isForeign {change : Entry → Entry} (h : Keeps change) {entry : Entry}
    (hentry : IsForeign workspace ids entry) : IsForeign workspace ids (change entry) := by
  obtain ⟨hworkspace, hid⟩ := h entry
  rw [IsForeign, hworkspace, hid]
  exact hentry

/-- A change of the own requests finds the same one in both logs. -/
theorem amend_own {p : Entry → Bool} {change : Entry → Entry} (hchange : Keeps change)
    (hp : ∀ entry, IsForeign workspace ids entry → p entry = false) {l l' : List Entry}
    (h : List.Forall₂ (Alike workspace ids) l l') :
    List.Forall₂ (Alike workspace ids) (Ordered.amend p change l)
      (Ordered.amend p change l') := by
  induction h with
  | nil => exact .nil
  | cons hhead htail ih =>
    rw [Ordered.amend, Ordered.amend]
    rcases hhead with ⟨rfl, hown⟩ | ⟨hforeign, hforeign'⟩
    · split_ifs
      · exact .cons (.inl ⟨rfl, hchange.isOwn hown⟩) htail
      · exact .cons (.inl ⟨rfl, hown⟩) ih
    · rw [hp _ hforeign, hp _ hforeign']
      exact .cons (.inr ⟨hforeign, hforeign'⟩) ih

/-- A change of the requests of others finds one of theirs. -/
theorem amend_foreign {p : Entry → Bool} {change : Entry → Entry} (hchange : Keeps change)
    (hp : ∀ entry, IsOwn workspace ids entry → p entry = false) {l l' : List Entry}
    (h : List.Forall₂ (Alike workspace ids) l l') :
    List.Forall₂ (Alike workspace ids) (Ordered.amend p change l) l' := by
  induction h with
  | nil => exact .nil
  | cons hhead htail ih =>
    rw [Ordered.amend]
    rcases hhead with ⟨rfl, hown⟩ | ⟨hforeign, hforeign'⟩
    · rw [hp _ hown]
      exact .cons (.inl ⟨rfl, hown⟩) ih
    · split_ifs
      · exact .cons (.inr ⟨hchange.isForeign hforeign, hforeign'⟩) htail
      · exact .cons (.inr ⟨hforeign, hforeign'⟩) ih

theorem Alike.symm {entry entry' : Entry} (h : Alike workspace ids entry entry') :
    Alike workspace ids entry' entry := by
  rcases h with ⟨rfl, hown⟩ | ⟨hforeign, hforeign'⟩
  · exact .inl ⟨rfl, hown⟩
  · exact .inr ⟨hforeign', hforeign⟩

/-- What an operation other than a decision changes, and where. -/
theorem Op.edit_eq_amend (workspace : String) (ids : Set String) (op : Op) :
    (∃ entry, op = .record entry) ∨
    ∃ p change, op.edit = .amend p change ∧ Keeps change ∧
      (op.Concerns workspace ids → ∀ entry, IsForeign workspace ids entry → p entry = false) ∧
      (¬ op.Concerns workspace ids → ∀ entry, IsOwn workspace ids entry → p entry = false) := by
  have hof : ∀ requestId, (requestId ∈ ids → ∀ entry, IsForeign workspace ids entry →
        RecentRoutes.isOf requestId entry = false) ∧
      (requestId ∉ ids → ∀ entry, IsOwn workspace ids entry →
        RecentRoutes.isOf requestId entry = false) := by
    intro requestId
    constructor
    · exact fun hid entry hentry => decide_eq_false fun h => hentry.2 (h ▸ hid)
    · exact fun hid entry hentry => decide_eq_false fun h => hid (h ▸ hentry.2)
  cases op with
  | record entry => exact .inl ⟨entry, rfl⟩
  | updateCost requestId cost =>
    exact .inr ⟨_, _, rfl, fun _ => ⟨rfl, rfl⟩, hof requestId⟩
  | updateCache requestId cache =>
    exact .inr ⟨_, _, rfl, fun _ => ⟨rfl, rfl⟩, hof requestId⟩
  | updateDelivery requestId servedBy executionBoundary outcome httpStatus errorType =>
    exact .inr ⟨_, _, rfl, fun _ => ⟨rfl, rfl⟩, hof requestId⟩
  | updateOutcome requestId outcome httpStatus errorType =>
    exact .inr ⟨_, _, rfl, fun _ => ⟨rfl, rfl⟩, hof requestId⟩
  | labelUserOutcome requestId workspace' outcome =>
    refine .inr ⟨_, _, rfl, fun entry => ?_, ?_, ?_⟩
    · dsimp only
      rw [Entry.labelled]
      split_ifs
      · exact ⟨rfl, rfl⟩
      · exact ⟨rfl, rfl⟩
    · intro hown entry hentry
      rw [RecentRoutes.isReceipt, (hof requestId).1 hown.1 entry hentry, Bool.false_and]
    · intro hforeign entry hentry
      -- the receipt is one of another request or of another workspace
      rw [RecentRoutes.isReceipt]
      by_cases hid : requestId ∈ ids
      · have hworkspace : workspace' ≠ workspace := fun heq => hforeign ⟨hid, heq⟩
        rw [hentry.1, decide_eq_false (fun h => hworkspace (Option.some_injective _ h).symm),
          Bool.and_false]
      · rw [(hof requestId).2 hid entry hentry, Bool.false_and]

theorem alike_log {ops ops' : List Op} (h : SameTo workspace ids ops ops') :
    List.Forall₂ (Alike workspace ids) (log ops) (log ops') := by
  have hpasses : ∀ {op : Op} {l l' : List Entry}, op.PassesBy workspace ids →
      List.Forall₂ (Alike workspace ids) l l' →
      List.Forall₂ (Alike workspace ids) (op.edit.apply l) l' := by
    intro op l l' hop hl
    rcases op.edit_eq_amend workspace ids with
      ⟨entry, rfl⟩ | ⟨p, change, hedit, hchange, -, hp⟩
    · exact hop.elim
    · have hnot : ¬ op.Concerns workspace ids := by
        cases op with
        | record entry => exact hop.elim
        | _ => exact hop
      rw [hedit]
      exact amend_foreign hchange (hp hnot) hl
  induction h with
  | start => exact .nil
  | own op hop h ih =>
    rcases op.edit_eq_amend workspace ids with
      ⟨entry, rfl⟩ | ⟨p, change, hedit, hchange, hp, -⟩
    · exact .cons (.inl ⟨rfl, hop⟩) ih
    · rw [log, log, List.map_cons, List.map_cons, Ordered.log, Ordered.log, hedit]
      exact amend_own hchange (hp hop) ih
  | recorded entry entry' hentry hentry' h ih => exact .cons (.inr ⟨hentry, hentry'⟩) ih
  | left op hop h ih => exact hpasses hop ih
  | right op hop h ih =>
    have hflip : List.Forall₂ (Alike workspace ids) _ _ :=
      List.Forall₂.flip (ih.imp fun _ _ => Alike.symm)
    exact List.Forall₂.flip ((hpasses hop hflip).imp fun _ _ => Alike.symm)

theorem filter_alike {l l' : List Entry} (h : List.Forall₂ (Alike workspace ids) l l') :
    (l.filter fun entry => entry.workspace = some workspace) =
      l'.filter fun entry => entry.workspace = some workspace := by
  induction h with
  | nil => rfl
  | cons hhead htail ih =>
    rcases hhead with ⟨rfl, hown⟩ | ⟨hforeign, hforeign'⟩
    · rw [List.filter_cons, List.filter_cons, if_pos (decide_eq_true hown.1), ih]
      exact (if_pos (decide_eq_true hown.1)).symm
    · rw [List.filter_cons, List.filter_cons, if_neg (by simpa using hforeign.1),
        if_neg (by simpa using hforeign'.1), ih]

/-- The answer to a label depends on the entries of its workspace. -/
theorem fst_labelUserOutcome_congr {ring ring' : RecentRoutes}
    (h : ring.entriesForWorkspace workspace = ring'.entriesForWorkspace workspace)
    (requestId : String) (outcome : UserOutcome) :
    (ring.labelUserOutcome requestId workspace outcome).1 =
      (ring'.labelUserOutcome requestId workspace outcome).1 := by
  have hfind : ∀ r : RecentRoutes, r.entries.find? (RecentRoutes.isReceipt requestId workspace) =
      (r.entriesForWorkspace workspace).find? (RecentRoutes.isOf requestId) := by
    intro r
    rw [RecentRoutes.entriesForWorkspace, List.find?_filter]
    congr 1
    funext entry
    rw [RecentRoutes.isReceipt]
    simp only [Bool.decide_and, Bool.decide_eq_true, Bool.and_comm]
  rw [RecentRoutes.labelUserOutcome, RecentRoutes.labelUserOutcome, hfind ring, hfind ring', h]
  cases (ring'.entriesForWorkspace workspace).find? (RecentRoutes.isOf requestId) with
  | none => rfl
  | some entry =>
    dsimp only
    split_ifs
    · rfl
    · rfl

/-- **Whatever other workspaces do** with requests of their own, a workspace sees the same entries
and the same report, and its labels have the same answers, as long as the others record as many
requests. -/
theorem workspace_unaffected {ops ops' : List Op} (capacity : ℕ)
    (h : SameTo workspace ids ops ops') :
    (run capacity ops).entriesForWorkspace workspace =
      (run capacity ops').entriesForWorkspace workspace ∧
    (run capacity ops).reportForWorkspace workspace =
      (run capacity ops').reportForWorkspace workspace ∧
    ∀ requestId outcome,
      ((run capacity ops).labelUserOutcome requestId workspace outcome).1 =
        ((run capacity ops').labelUserOutcome requestId workspace outcome).1 := by
  have hentries : (run capacity ops).entriesForWorkspace workspace =
      (run capacity ops').entriesForWorkspace workspace := by
    rw [run_eq, run_eq]
    exact filter_alike (List.forall₂_take _ (alike_log h))
  refine ⟨hentries, ?_, fst_labelUserOutcome_congr hentries⟩
  rw [RecentRoutes.reportForWorkspace, RecentRoutes.reportForWorkspace, hentries, run_eq, run_eq]

/-- A decision about a request of a workspace. -/
def sampleEntry (requestId workspace model : String) : Entry where
  model := model
  score := 0
  mode := "scored"
  executionBoundary := none
  userOutcome := none
  workspace := some workspace
  requestId := requestId
  policyVersion := none
  snapshotId := none
  policyProfile := none
  servedBy := none
  outcome := none
  httpStatus := none
  errorType := none
  ts := 0
  cost := none
  key := none
  cache := none

/-- Another workspace has sent a request to the cloud, which has failed. -/
def otherFailed : List Op :=
  [.updateOutcome "b" .failed none none, .record (sampleEntry "b" "ops" "cloud"),
    .record (sampleEntry "a" "dev" "local")]

/-- Another workspace has sent a request to the local model. -/
def otherLocal : List Op :=
  [.record (sampleEntry "b" "ops" "local"), .record (sampleEntry "a" "dev" "local")]

theorem unaffected_otherFailed : (run 200 otherFailed).reportForWorkspace "dev" =
    (run 200 otherLocal).reportForWorkspace "dev" := by
  have hsame : SameTo "dev" {"a"} otherFailed otherLocal := by
    apply SameTo.left
    · simp [Op.PassesBy, Op.Concerns]
    apply SameTo.recorded
    · exact ⟨by decide, by simp [sampleEntry]⟩
    · exact ⟨by decide, by simp [sampleEntry]⟩
    apply SameTo.own
    · exact ⟨rfl, by simp [sampleEntry]⟩
    exact .start
  exact (workspace_unaffected 200 hsame).2.1

end Others

end WayfinderRouter.Gateway.Recent
