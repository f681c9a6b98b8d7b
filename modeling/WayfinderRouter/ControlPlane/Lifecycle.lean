import WayfinderRouter.ControlPlane.Profile
import WayfinderRouter.Ordered.BoundedMap
import WayfinderRouter.Unsigned

/-!
# The policy lifecycle

A lifecycle installs validated policies as immutable snapshots of the gateway, one after the other,
and goes back to the one before. It keeps the receipt of the active snapshot, the receipts of the
superseded ones, the runtime of every snapshot it may go back to, and the holder that requests
read the installed snapshot from.

The identities of snapshots are drawn at random by the code. Here every call carries the identity
it draws, together with what the audit log answers to its record. The lock of the holder is never
poisoned: nothing that runs under it can fail.

## Main definitions

- `LastGood.refresh` — install a new version of a snapshot
- `bootstrap`, `activate`, `rollback` — the operations of the lifecycle
- `Undo` — the bounded undo stack that the lifecycle implements
-/

namespace WayfinderRouter.ControlPlane

/-- `LastGood`: the installed value, under the version it was observed with. -/
structure LastGood (T V : Type) where
  version : V
  current : T
  failures : ℕ

inductive ReloadOutcome (T E : Type) where
  | unchanged (current : T)
  | reloaded (current : T)
  | retained (current : T) (error : E)

namespace LastGood

variable {T V E : Type} [DecidableEq V]

def new (initial : T) (version : V) : LastGood T V := ⟨version, initial, 0⟩

/-- `LastGood::refresh`. -/
def refresh (observed : V) (load : Except E T) (state : LastGood T V) :
    ReloadOutcome T E × LastGood T V :=
  if observed = state.version then (.unchanged state.current, state)
  else
    match load with
    | .ok next => (.reloaded next, ⟨observed, next, state.failures⟩)
    | .error error =>
      (.retained state.current error,
        ⟨observed, state.current, U64.saturatingAdd state.failures 1⟩)

end LastGood

structure AdministrativeIdentity where
  issuer : String
  subject : String
deriving DecidableEq

/-- `AdministrativeIdentity::audit_actor`. -/
def AdministrativeIdentity.auditActor (identity : AdministrativeIdentity) : String :=
  identity.issuer ++ ":" ++ identity.subject

inductive BindingKind where
  | client
  | workspace
  | key
deriving DecidableEq

structure PolicyBinding where
  kind : BindingKind
  subject : String
  profileId : String
deriving DecidableEq

structure PolicyDocument where
  schemaVersion : String
  profiles : List PolicyProfile
  defaultProfileId : Option String
  bindings : List PolicyBinding
deriving DecidableEq

/-- A validated policy. The tables that validation derives from the document are not kept here. -/
structure ValidatedPolicyVersion where
  versionId : String
  document : PolicyDocument
  draftedBy : AdministrativeIdentity
deriving DecidableEq

structure PolicyReceipt where
  policyVersion : String
  snapshotId : String
deriving DecidableEq

/-- The `before` and `after` values of the records of the lifecycle. -/
inductive AuditDetail where
  | source (name : String)
  | receipt (active : PolicyReceipt)
  | candidate (receipt : PolicyReceipt) (reason : String)
  | rolledBackTo (policyVersion : String)
deriving DecidableEq

/-- The arguments of `AuditLog::record_with_policy`. -/
structure AuditEvent where
  actor : String
  action : String
  before : Option AuditDetail
  after : Option AuditDetail
  policyVersion : String
  snapshotId : String
deriving DecidableEq

/-- `AppState`: what a configuration prepares, what lives as long as the process, and the policy. -/
structure AppState (C R L : Type) where
  prepared : C
  runtime : R
  auditLog : L
  policy : Option ValidatedPolicyVersion
  policyVersion : String
  policySnapshotId : String

namespace AppState

variable {C R L : Type}

/-- `AppState::with_runtime_state_from`. -/
def withRuntimeStateFrom (state previous : AppState C R L) : AppState C R L :=
  { state with runtime := previous.runtime, auditLog := previous.auditLog }

/-- `AppState::with_audit_log`. -/
def withAuditLog (log : L) (state : AppState C R L) : AppState C R L :=
  { state with auditLog := log }

/-- `AppState::with_validated_policy`. -/
def withValidatedPolicy (policy : ValidatedPolicyVersion) (state : AppState C R L) :
    AppState C R L :=
  { state with policy := some policy }

/-- `AppState::with_policy_receipt`. -/
def withPolicyReceipt (receipt : PolicyReceipt) (state : AppState C R L) : AppState C R L :=
  { state with policyVersion := receipt.policyVersion, policySnapshotId := receipt.snapshotId }

end AppState

inductive ActivationOutcome where
  | activated (receipt : PolicyReceipt)
  | retained (active : PolicyReceipt) (error : String)
deriving DecidableEq

/-- `MAX_ACTIVATION_HISTORY`. -/
def maxActivationHistory : ℕ := 256

/-- `PolicyLifecycle`. The map of the runtimes has its keys in order. -/
structure PolicyLifecycle (C R L : Type) where
  holder : LastGood (AppState C R L) String
  auditLog : L
  active : PolicyReceipt
  history : List PolicyReceipt
  runtimesBySnapshot : List (String × AppState C R L)

/-- `BTreeMap::insert`. -/
def insertRuntime {α : Type} (id : String) (runtime : α) (m : List (String × α)) :
    List (String × α) :=
  Ordered.upsert id (fun _ => runtime) m

/-- `record_with_policy`, with the answer of the audit log. -/
def recordWithPolicy (audit : AuditEvent → Bool) (event : AuditEvent) : Except PolicyError Unit :=
  if audit event then .ok () else .error .audit

namespace PolicyLifecycle

variable {C R L : Type}

/-- `PolicyLifecycle::bootstrap`, for the snapshot identity that it draws. -/
def bootstrap (snapshotId : String) (audit : AuditEvent → Bool) (policy : ValidatedPolicyVersion)
    (prepare : ValidatedPolicyVersion → Except String (AppState C R L))
    (actor : AdministrativeIdentity) (auditLog : L) :
    Except PolicyError (PolicyLifecycle C R L) := do
  let receipt : PolicyReceipt := ⟨policy.versionId, snapshotId⟩
  let runtime ← (prepare policy).mapError .runtimePreparation
  recordWithPolicy audit ⟨actor.auditActor, "policy.activate", none, some (.source "bootstrap"),
    receipt.policyVersion, receipt.snapshotId⟩
  let runtime := ((runtime.withAuditLog auditLog).withValidatedPolicy policy).withPolicyReceipt
    receipt
  .ok ⟨.new runtime receipt.snapshotId, auditLog, receipt, [],
    insertRuntime receipt.snapshotId runtime []⟩

/-- What `activate` records and answers when the runtime cannot be prepared. -/
def retain (audit : AuditEvent → Bool) (candidate : PolicyReceipt) (actor : AdministrativeIdentity)
    (error : String) (self : PolicyLifecycle C R L) : Except PolicyError ActivationOutcome := do
  recordWithPolicy audit ⟨actor.auditActor, "policy.activate_failed", none,
    some (.candidate candidate "runtime preparation failed"), self.active.policyVersion,
    self.active.snapshotId⟩
  .ok (.retained self.active error)

/-- The bookkeeping of `activate` after the snapshot is installed. -/
def supersede (receipt : PolicyReceipt) (runtime : AppState C R L)
    (self : PolicyLifecycle C R L) : PolicyLifecycle C R L :=
  let runtimes := insertRuntime receipt.snapshotId runtime self.runtimesBySnapshot
  match self.history with
  | expired :: kept =>
    if self.history.length = maxActivationHistory then
      { self with
        active := receipt
        history := kept ++ [self.active]
        runtimesBySnapshot := Ordered.erase expired.snapshotId runtimes }
    else
      { self with
        active := receipt
        history := self.history ++ [self.active]
        runtimesBySnapshot := runtimes }
  | [] =>
    { self with active := receipt, history := [self.active], runtimesBySnapshot := runtimes }

/-- `PolicyLifecycle::activate`, for the snapshot identity that it draws. -/
def activate (snapshotId : String) (audit : AuditEvent → Bool) (policy : ValidatedPolicyVersion)
    (prepare : ValidatedPolicyVersion → Except String (AppState C R L))
    (actor : AdministrativeIdentity) (self : PolicyLifecycle C R L) :
    Except PolicyError ActivationOutcome × PolicyLifecycle C R L :=
  let receipt : PolicyReceipt := ⟨policy.versionId, snapshotId⟩
  match prepare policy with
  | .error error => (retain audit receipt actor error self, self)
  | .ok runtime =>
    let runtime := ((runtime.withRuntimeStateFrom self.holder.current).withValidatedPolicy
      policy).withPolicyReceipt receipt
    match recordWithPolicy audit ⟨actor.auditActor, "policy.activate", some (.receipt self.active),
        none, receipt.policyVersion, receipt.snapshotId⟩ with
    | .error error => (.error error, self)
    | .ok () =>
      match self.holder.refresh (E := String) receipt.snapshotId (.ok runtime) with
      | (.reloaded _, holder) =>
        (.ok (.activated receipt), supersede receipt runtime { self with holder := holder })
      | (_, holder) => (.error .snapshotNotInstalled, { self with holder := holder })

/-- What `rollback` records. -/
def rollbackEvent (actor : AdministrativeIdentity) (active target receipt : PolicyReceipt) :
    AuditEvent :=
  ⟨actor.auditActor, "policy.rollback", some (.receipt active),
    some (.rolledBackTo target.policyVersion), receipt.policyVersion, receipt.snapshotId⟩

/-- `PolicyLifecycle::rollback`, for the snapshot identity that it draws. -/
def rollback (snapshotId : String) (audit : AuditEvent → Bool) (actor : AdministrativeIdentity)
    (self : PolicyLifecycle C R L) : Except PolicyError PolicyReceipt × PolicyLifecycle C R L :=
  match self.history.getLast? with
  | none => (.error .noRollbackTarget, self)
  | some target =>
    let receipt : PolicyReceipt := ⟨target.policyVersion, snapshotId⟩
    match Ordered.lookup target.snapshotId self.runtimesBySnapshot with
    | none => (.error .missingRuntime, self)
    | some runtime =>
      let runtime := (runtime.withRuntimeStateFrom self.holder.current).withPolicyReceipt receipt
      match recordWithPolicy audit (rollbackEvent actor self.active target receipt) with
      | .error error => (.error error, self)
      | .ok () =>
        match self.holder.refresh (E := String) receipt.snapshotId (.ok runtime) with
        | (.reloaded _, holder) =>
          (.ok receipt,
            { self with
              holder := holder
              active := receipt
              history := self.history.dropLast
              runtimesBySnapshot := Ordered.erase self.active.snapshotId
                (insertRuntime receipt.snapshotId holder.current self.runtimesBySnapshot) })
        | (_, holder) => (.error .snapshotNotInstalled, { self with holder := holder })

end PolicyLifecycle

/-! ### Runs -/

section Runs

variable {C R L : Type}

/-- The calls of a run. -/
inductive Call (C R L : Type) where
  | activate (policy : ValidatedPolicyVersion)
      (prepare : ValidatedPolicyVersion → Except String (AppState C R L))
      (actor : AdministrativeIdentity)
  | rollback (actor : AdministrativeIdentity)

inductive Reply where
  | activate (result : Except PolicyError ActivationOutcome)
  | rollback (result : Except PolicyError PolicyReceipt)

/-- A call with the identity it draws and what the audit log answers to its record. -/
structure Step (C R L : Type) where
  snapshotId : String
  audit : AuditEvent → Bool
  call : Call C R L

def PolicyLifecycle.perform (self : PolicyLifecycle C R L) (step : Step C R L) :
    Reply × PolicyLifecycle C R L :=
  match step.call with
  | .activate policy prepare actor =>
    (self.activate step.snapshotId step.audit policy prepare actor).map .activate id
  | .rollback actor => (self.rollback step.snapshotId step.audit actor).map .rollback id

/-- The lifecycle after the given steps, the oldest first. -/
def PolicyLifecycle.performAll (self : PolicyLifecycle C R L) (steps : List (Step C R L)) :
    PolicyLifecycle C R L :=
  steps.foldl (fun l step => (l.perform step).2) self

end Runs

/-! ### The undo stack -/

/-- A value with the ones it supersedes, the latest first. -/
structure Undo (α : Type) where
  top : α
  below : List α

namespace Undo

variable {α : Type}

/-- Supersede the value, and forget the oldest beyond `n` superseded ones. -/
def push (n : ℕ) (a : α) (s : Undo α) : Undo α := ⟨a, (s.top :: s.below).take n⟩

def pop (s : Undo α) : Option (Undo α) :=
  match s.below with
  | [] => none
  | a :: below => some ⟨a, below⟩

end Undo

section Refinement

variable {C R L : Type} {self : PolicyLifecycle C R L} {snapshotId : String}
  {audit : AuditEvent → Bool} {policy : ValidatedPolicyVersion}
  {prepare : ValidatedPolicyVersion → Except String (AppState C R L)}
  {actor : AdministrativeIdentity}

/-- The call changed what is active. -/
def Reply.Succeeded : Reply → Prop
  | .activate (.ok (.activated _)) => True
  | .rollback (.ok _) => True
  | _ => False

/-- What a call does to the stack of policies: a successful activation pushes its policy, a
successful rollback pops. -/
def Undo.follow (stack : Undo ValidatedPolicyVersion) (step : Step C R L) (reply : Reply) :
    Undo ValidatedPolicyVersion :=
  match step.call, reply with
  | .activate policy _ _, .activate (.ok (.activated _)) => stack.push maxActivationHistory policy
  | .rollback _, .rollback (.ok _) => stack.pop.getD stack
  | _, _ => stack

/-- The stack of policies after the given steps, the oldest first. -/
def Undo.followAll (stack : Undo ValidatedPolicyVersion) (self : PolicyLifecycle C R L) :
    List (Step C R L) → Undo ValidatedPolicyVersion
  | [] => stack
  | step :: steps =>
    (stack.follow step (self.perform step).1).followAll (self.perform step).2 steps

/-- The lifecycle is at the top of the stack, with the rest of the stack to go back to, and the
installed snapshot is the active one. -/
structure Implements (stack : Undo ValidatedPolicyVersion) (l : PolicyLifecycle C R L) :
    Prop where
  active : l.active.policyVersion = stack.top.versionId
  history : l.history.reverse.map PolicyReceipt.policyVersion =
    stack.below.map ValidatedPolicyVersion.versionId
  installed : l.holder.current.policyVersion = l.active.policyVersion ∧
    l.holder.current.policySnapshotId = l.active.snapshotId
  installedPolicy : l.holder.current.policy = some stack.top

/-- How the lifecycle answers a step. -/
structure Answers (stack : Undo ValidatedPolicyVersion) (l : PolicyLifecycle C R L)
    (step : Step C R L) : Prop where
  noTarget : ∀ actor, step.call = .rollback actor →
    ((l.perform step).1 = .rollback (.error .noRollbackTarget) ↔ stack.below = [])
  runtimeKept : (l.perform step).1 ≠ .rollback (.error .missingRuntime)
  unchanged : ¬ (l.perform step).1.Succeeded → (l.perform step).2.active = l.active ∧
    (l.perform step).2.history = l.history ∧
    (l.perform step).2.holder.current = l.holder.current

theorem LastGood.refresh_ok {T V E : Type} [DecidableEq V] (observed : V) (next : T)
    (state : LastGood T V) : state.refresh (E := E) observed (.ok next) =
      if observed = state.version then (.unchanged state.current, state)
      else (.reloaded next, ⟨observed, next, state.failures⟩) := rfl

/-- The snapshot that an activation installs. -/
def activated (receipt : PolicyReceipt) (policy : ValidatedPolicyVersion)
    (runtime : AppState C R L) (self : PolicyLifecycle C R L) : AppState C R L :=
  ((runtime.withRuntimeStateFrom self.holder.current).withValidatedPolicy
    policy).withPolicyReceipt receipt

/-- The snapshot that a rollback installs. -/
def restored (receipt : PolicyReceipt) (runtime : AppState C R L) (self : PolicyLifecycle C R L) :
    AppState C R L :=
  (runtime.withRuntimeStateFrom self.holder.current).withPolicyReceipt receipt

/-- The lifecycle after a snapshot was installed in the holder. -/
def install (receipt : PolicyReceipt) (next : AppState C R L) (self : PolicyLifecycle C R L) :
    PolicyLifecycle C R L :=
  { self with holder := ⟨receipt.snapshotId, next, self.holder.failures⟩ }

/-- An activation either changes nothing or installs the prepared snapshot. -/
theorem activate_cases (self : PolicyLifecycle C R L) (snapshotId : String)
    (audit : AuditEvent → Bool) (policy : ValidatedPolicyVersion)
    (prepare : ValidatedPolicyVersion → Except String (AppState C R L))
    (actor : AdministrativeIdentity) :
    (∃ result, ¬ (Reply.activate result).Succeeded ∧
        self.activate snapshotId audit policy prepare actor = (result, self)) ∨
      ∃ runtime, self.activate snapshotId audit policy prepare actor =
        (.ok (.activated ⟨policy.versionId, snapshotId⟩),
          (install ⟨policy.versionId, snapshotId⟩
            (activated ⟨policy.versionId, snapshotId⟩ policy runtime self) self).supersede
              ⟨policy.versionId, snapshotId⟩
              (activated ⟨policy.versionId, snapshotId⟩ policy runtime self)) := by
  unfold PolicyLifecycle.activate
  cases prepare policy with
  | error error =>
    refine .inl ⟨_, ?_, rfl⟩
    simp only [PolicyLifecycle.retain, recordWithPolicy]
    split_ifs
    · exact id
    · exact id
  | ok runtime =>
    simp only [recordWithPolicy]
    split
    · exact .inl ⟨_, id, rfl⟩
    · rw [LastGood.refresh_ok]
      split_ifs
      · exact .inl ⟨_, id, rfl⟩
      · exact .inr ⟨runtime, rfl⟩

/-- The bookkeeping of a rollback. -/
def restore (receipt : PolicyReceipt) (runtime : AppState C R L) (self : PolicyLifecycle C R L) :
    PolicyLifecycle C R L :=
  { install receipt (restored receipt runtime self) self with
    active := receipt
    history := self.history.dropLast
    runtimesBySnapshot := Ordered.erase self.active.snapshotId
      (insertRuntime receipt.snapshotId (restored receipt runtime self) self.runtimesBySnapshot) }

/-- A rollback for which there is a runtime either changes nothing or restores it. -/
theorem rollback_eq {target : PolicyReceipt} {runtime : AppState C R L}
    (htarget : self.history.getLast? = some target)
    (hruntime : Ordered.lookup target.snapshotId self.runtimesBySnapshot = some runtime) :
    self.rollback snapshotId audit actor =
      if audit (PolicyLifecycle.rollbackEvent actor self.active target
        ⟨target.policyVersion, snapshotId⟩) then
        if snapshotId = self.holder.version then (.error .snapshotNotInstalled, self)
        else (.ok ⟨target.policyVersion, snapshotId⟩,
          restore ⟨target.policyVersion, snapshotId⟩ runtime self)
      else (.error .audit, self) := by
  unfold PolicyLifecycle.rollback
  simp only [htarget, hruntime, recordWithPolicy, LastGood.refresh_ok]
  split_ifs <;> rfl

theorem rollback_of_nil (h : self.history = []) :
    self.rollback snapshotId audit actor = (.error .noRollbackTarget, self) := by
  unfold PolicyLifecycle.rollback
  rw [h]
  rfl

/-- The receipt belongs to the policy, whose runtime is kept. -/
def Recoverable (m : List (String × AppState C R L)) (receipt : PolicyReceipt)
    (policy : ValidatedPolicyVersion) : Prop :=
  receipt.policyVersion = policy.versionId ∧
    ∃ runtime, Ordered.lookup receipt.snapshotId m = some runtime ∧ runtime.policy = some policy

/-- What the lifecycle keeps: the runtimes of the active and of the superseded snapshots, and
those of `stale` snapshots that a rollback has replaced. -/
structure Keeps (stack : Undo ValidatedPolicyVersion) (stale used : List String)
    (l : PolicyLifecycle C R L) : Prop where
  active : Recoverable l.runtimesBySnapshot l.active stack.top
  history : List.Forall₂ (Recoverable l.runtimesBySnapshot) l.history.reverse stack.below
  holder : l.holder.version = l.active.snapshotId ∧
    l.holder.current.policyVersion = l.active.policyVersion ∧
    l.holder.current.policySnapshotId = l.active.snapshotId ∧
    l.holder.current.policy = some stack.top
  sorted : Ordered.Sorted l.runtimesBySnapshot
  keys : ∀ id, id ∈ l.runtimesBySnapshot.map Prod.fst ↔
    id ∈ l.active.snapshotId :: (l.history.map PolicyReceipt.snapshotId ++ stale)
  nodup : (l.active.snapshotId :: (l.history.map PolicyReceipt.snapshotId ++ stale)).Nodup
  used : ∀ id ∈ l.runtimesBySnapshot.map Prod.fst, id ∈ used

theorem Recoverable.congr {m m' : List (String × AppState C R L)} {receipt : PolicyReceipt}
    (h : Recoverable m receipt policy)
    (hm : Ordered.lookup receipt.snapshotId m' = Ordered.lookup receipt.snapshotId m) :
    Recoverable m' receipt policy := by
  obtain ⟨hversion, runtime, hruntime, hpolicy⟩ := h
  exact ⟨hversion, runtime, hm.trans hruntime, hpolicy⟩

theorem Recoverable.mem_keys {m : List (String × AppState C R L)} {receipt : PolicyReceipt}
    (h : Recoverable m receipt policy) : receipt.snapshotId ∈ m.map Prod.fst := by
  obtain ⟨-, runtime, hruntime, -⟩ := h
  exact Ordered.mem_keys_of_lookup hruntime

/-- The receipts stay recoverable under a change of the map that leaves their snapshots alone. -/
theorem forall₂_recoverable_congr {m m' : List (String × AppState C R L)}
    {receipts : List PolicyReceipt} {policies : List ValidatedPolicyVersion}
    (h : List.Forall₂ (Recoverable m) receipts policies)
    (hm : ∀ r ∈ receipts, Ordered.lookup r.snapshotId m' = Ordered.lookup r.snapshotId m) :
    List.Forall₂ (Recoverable m') receipts policies := by
  induction h with
  | nil => exact .nil
  | cons hfirst _ ih =>
    obtain ⟨hm₁, hmrest⟩ := List.forall_mem_cons.mp hm
    exact .cons (hfirst.congr hm₁) (ih hmrest)

theorem map_policyVersion {m : List (String × AppState C R L)} {receipts : List PolicyReceipt}
    {policies : List ValidatedPolicyVersion}
    (h : List.Forall₂ (Recoverable m) receipts policies) :
    receipts.map PolicyReceipt.policyVersion = policies.map ValidatedPolicyVersion.versionId := by
  induction h with
  | nil => rfl
  | cons hfirst _ ih => rw [List.map_cons, List.map_cons, hfirst.1, ih]

section Snapshots

variable {stack : Undo ValidatedPolicyVersion} {stale used : List String}
  {l : PolicyLifecycle C R L} {m : List (String × AppState C R L)}

theorem lookup_insertRuntime (hsorted : Ordered.Sorted m) (id : String)
    (runtime : AppState C R L) : Ordered.lookup id (insertRuntime id runtime m) = some runtime := by
  rw [insertRuntime, Ordered.lookup_upsert hsorted, if_pos rfl]

theorem lookup_insertRuntime_of_ne (hsorted : Ordered.Sorted m) {id id' : String}
    (runtime : AppState C R L) (hne : id' ≠ id) :
    Ordered.lookup id' (insertRuntime id runtime m) = Ordered.lookup id' m := by
  rw [insertRuntime, Ordered.lookup_upsert hsorted, if_neg hne]

/-- A new snapshot supersedes the active one. -/
theorem Keeps.extend (keeps : Keeps stack stale used l) (runtime : AppState C R L)
    (hid : snapshotId ∉ used) (hpolicy : runtime.policy = some policy)
    (hversion : runtime.policyVersion = policy.versionId)
    (hsnapshot : runtime.policySnapshotId = snapshotId) :
    Keeps ⟨policy, stack.top :: stack.below⟩ stale (snapshotId :: used)
      { install ⟨policy.versionId, snapshotId⟩ runtime l with
        active := ⟨policy.versionId, snapshotId⟩
        history := l.history ++ [l.active]
        runtimesBySnapshot := insertRuntime snapshotId runtime l.runtimesBySnapshot } := by
  have hnew : snapshotId ∉ l.runtimesBySnapshot.map Prod.fst := fun h => hid (keeps.used _ h)
  have hne : ∀ r ∈ l.active :: l.history.reverse, r.snapshotId ≠ snapshotId := by
    intro r hr heq
    rw [keeps.keys, ← heq] at hnew
    rcases List.mem_cons.mp hr with rfl | hr
    · exact hnew List.mem_cons_self
    · exact hnew (List.mem_cons_of_mem _ (List.mem_append_left _
        (List.mem_map_of_mem (List.mem_reverse.mp hr))))
  have hsame := fun r hr => lookup_insertRuntime_of_ne keeps.sorted runtime (hne r hr)
  refine ⟨⟨rfl, runtime, lookup_insertRuntime keeps.sorted _ _, hpolicy⟩, ?_,
    ⟨rfl, hversion, hsnapshot, hpolicy⟩, keeps.sorted.upsert, ?_, ?_, ?_⟩
  · show List.Forall₂ _ (l.history ++ [l.active]).reverse _
    rw [List.reverse_append, List.reverse_singleton, List.singleton_append]
    exact forall₂_recoverable_congr (.cons keeps.active keeps.history) hsame
  · intro id
    show id ∈ (Ordered.upsert _ _ _).map Prod.fst ↔ id ∈ snapshotId :: ((_ ++ [_]).map _ ++ stale)
    rw [Ordered.mem_keys_upsert, keeps.keys, List.mem_cons]
    simp only [List.map_append, List.mem_append, List.mem_cons, List.map_cons, List.map_nil,
      List.not_mem_nil]
    tauto
  · show (snapshotId :: ((l.history ++ [l.active]).map _ ++ stale)).Nodup
    have hperm : List.Perm ((l.history ++ [l.active]).map PolicyReceipt.snapshotId ++ stale)
        (l.active.snapshotId :: (l.history.map PolicyReceipt.snapshotId ++ stale)) := by
      rw [List.map_append, List.append_assoc]
      exact List.perm_middle
    rw [List.nodup_cons, hperm.mem_iff, hperm.nodup_iff, ← keeps.keys]
    exact ⟨hnew, keeps.nodup⟩
  · intro id hid'
    rcases Ordered.mem_keys_upsert.mp hid' with rfl | h
    · exact List.mem_cons_self
    · exact List.mem_cons_of_mem _ (keeps.used id h)

/-- The oldest superseded snapshot is forgotten. -/
theorem Keeps.forget (keeps : Keeps stack stale used l) (expired : PolicyReceipt)
    (kept : List PolicyReceipt) (hhistory : l.history = expired :: kept) :
    Keeps ⟨stack.top, stack.below.dropLast⟩ stale used
      { l with
        history := kept
        runtimesBySnapshot := Ordered.erase expired.snapshotId l.runtimesBySnapshot } := by
  have hnodup := keeps.nodup
  rw [hhistory, List.map_cons, List.cons_append] at hnodup
  obtain ⟨hactive, hrest⟩ := List.nodup_cons.mp hnodup
  obtain ⟨hexpired, hkept⟩ := List.nodup_cons.mp hrest
  have hne : l.active.snapshotId ≠ expired.snapshotId := fun heq =>
    hactive (heq ▸ List.mem_cons_self)
  have hkeptNe : ∀ r ∈ kept.reverse, r.snapshotId ≠ expired.snapshotId := fun r hr heq =>
    hexpired (heq ▸ List.mem_append_left _ (List.mem_map_of_mem (List.mem_reverse.mp hr)))
  refine ⟨keeps.active.congr (Ordered.lookup_erase_of_ne hne), ?_, keeps.holder,
    keeps.sorted.erase _, ?_, ?_, ?_⟩
  · have hall := keeps.history
    rw [hhistory, List.reverse_cons] at hall
    have hlength : kept.reverse.length = stack.below.length - 1 := by
      rw [← hall.length_eq, List.length_append, List.length_singleton, Nat.add_sub_cancel]
    have htake := List.forall₂_take kept.reverse.length hall
    rw [List.take_left, hlength, ← List.dropLast_eq_take] at htake
    exact forall₂_recoverable_congr htake fun r hr => Ordered.lookup_erase_of_ne (hkeptNe r hr)
  · intro id
    show id ∈ (Ordered.erase _ _).map Prod.fst ↔ id ∈ l.active.snapshotId :: (kept.map _ ++ stale)
    rw [Ordered.mem_keys_erase, keeps.keys, hhistory, List.map_cons, List.cons_append]
    constructor
    · rintro ⟨hid, hmem⟩
      rcases List.mem_cons.mp hmem with rfl | hmem
      · exact List.mem_cons_self
      · exact List.mem_cons_of_mem _ (List.mem_of_ne_of_mem hid hmem)
    · intro hmem
      rcases List.mem_cons.mp hmem with rfl | hmem
      · exact ⟨hne, List.mem_cons_self⟩
      · exact ⟨fun heq => hexpired (heq ▸ hmem),
          List.mem_cons_of_mem _ (List.mem_cons_of_mem _ hmem)⟩
  · exact List.nodup_cons.mpr ⟨fun h => hactive (List.mem_cons_of_mem _ h), hkept⟩
  · intro id hid
    exact keeps.used id (Ordered.mem_keys_erase.mp hid).2

/-- The latest superseded snapshot becomes active under a new identity. Its old runtime stays. -/
theorem Keeps.restore {target : PolicyReceipt} {kept : List PolicyReceipt}
    {below : List ValidatedPolicyVersion} {runtime : AppState C R L}
    (keeps : Keeps stack stale used l) (hid : snapshotId ∉ used)
    (hhistory : l.history = kept ++ [target]) (hbelow : stack.below = policy :: below)
    (hruntime : Ordered.lookup target.snapshotId l.runtimesBySnapshot = some runtime) :
    Keeps ⟨policy, below⟩ (target.snapshotId :: stale) (snapshotId :: used)
      (restore ⟨target.policyVersion, snapshotId⟩ runtime l) := by
  have hall := keeps.history
  rw [hhistory, List.reverse_append, List.reverse_singleton, List.singleton_append, hbelow] at hall
  obtain ⟨htarget, hkeptAll⟩ := List.forall₂_cons.mp hall
  obtain ⟨hversion, runtime', hruntime', hpolicy⟩ := htarget
  obtain rfl : runtime = runtime' := by
    rw [hruntime] at hruntime'
    exact Option.some.inj hruntime'
  have hperm : List.Perm (l.history.map PolicyReceipt.snapshotId ++ stale)
      (kept.map PolicyReceipt.snapshotId ++ target.snapshotId :: stale) := by
    rw [hhistory, List.map_append, List.append_assoc]
    exact .refl _
  obtain ⟨hactive, hrest⟩ := List.nodup_cons.mp keeps.nodup
  have hnew : snapshotId ∉ l.runtimesBySnapshot.map Prod.fst := fun h => hid (keeps.used _ h)
  rw [keeps.keys] at hnew
  have hnewNe : l.active.snapshotId ≠ snapshotId := fun heq => hnew (heq ▸ List.mem_cons_self)
  have hother : ∀ r ∈ kept.reverse, r.snapshotId ≠ l.active.snapshotId ∧
      r.snapshotId ≠ snapshotId := by
    intro r hr
    have hmem : r.snapshotId ∈ l.history.map PolicyReceipt.snapshotId ++ stale :=
      hperm.mem_iff.mpr (List.mem_append_left _ (List.mem_map_of_mem (List.mem_reverse.mp hr)))
    exact ⟨fun heq => hactive (heq ▸ hmem), fun heq => hnew (heq ▸ List.mem_cons_of_mem _ hmem)⟩
  refine ⟨⟨hversion, restored ⟨target.policyVersion, snapshotId⟩ runtime l, ?_, hpolicy⟩, ?_,
    ⟨rfl, rfl, rfl, hpolicy⟩, keeps.sorted.upsert.erase _, ?_, ?_, ?_⟩
  · exact (Ordered.lookup_erase_of_ne hnewNe.symm).trans (lookup_insertRuntime keeps.sorted _ _)
  · show List.Forall₂ _ l.history.dropLast.reverse _
    rw [hhistory, List.dropLast_concat]
    refine forall₂_recoverable_congr hkeptAll fun r hr => ?_
    exact (Ordered.lookup_erase_of_ne (hother r hr).1).trans
      (lookup_insertRuntime_of_ne keeps.sorted _ (hother r hr).2)
  · intro id
    show id ∈ (Ordered.erase _ (Ordered.upsert _ _ _)).map Prod.fst ↔
      id ∈ snapshotId :: (l.history.dropLast.map _ ++ target.snapshotId :: stale)
    rw [Ordered.mem_keys_erase, Ordered.mem_keys_upsert, keeps.keys, hhistory,
      List.dropLast_concat, List.mem_cons, List.mem_cons, ← hperm.mem_iff]
    constructor
    · rintro ⟨hne, heq | heq | hmem⟩
      · exact .inl heq
      · exact absurd heq hne
      · exact .inr (hhistory ▸ hmem)
    · rintro (rfl | hmem)
      · exact ⟨hnewNe.symm, .inl rfl⟩
      · exact ⟨fun heq => hactive (heq ▸ hmem), .inr (.inr (hhistory ▸ hmem))⟩
  · show (snapshotId :: (l.history.dropLast.map _ ++ target.snapshotId :: stale)).Nodup
    rw [hhistory, List.dropLast_concat, List.nodup_cons, ← hperm.mem_iff, ← hperm.nodup_iff]
    exact ⟨fun h => hnew (List.mem_cons_of_mem _ h), hrest⟩
  · intro id hid'
    rcases Ordered.mem_keys_upsert.mp (Ordered.mem_keys_erase.mp hid').2 with rfl | h
    · exact List.mem_cons_self
    · exact List.mem_cons_of_mem _ (keeps.used id h)

/-- What the lifecycle keeps between two calls. -/
structure Inv (stack : Undo ValidatedPolicyVersion) (stale used : List String)
    (l : PolicyLifecycle C R L) : Prop where
  keeps : Keeps stack stale used l
  bounded : l.history.length ≤ maxActivationHistory

theorem Inv.unused (inv : Inv stack stale used l) (id : String) :
    Inv stack stale (id :: used) l :=
  ⟨{ inv.keeps with used := fun id' h => List.mem_cons_of_mem _ (inv.keeps.used id' h) },
    inv.bounded⟩

/-- A snapshot that was installed supersedes the active one, and the oldest beyond the bound is
forgotten. -/
theorem Inv.supersede (inv : Inv stack stale used l) (hid : snapshotId ∉ used)
    (runtime : AppState C R L) :
    Inv (stack.push maxActivationHistory policy) stale (snapshotId :: used)
      ((install ⟨policy.versionId, snapshotId⟩
        (activated ⟨policy.versionId, snapshotId⟩ policy runtime l) l).supersede
          ⟨policy.versionId, snapshotId⟩
          (activated ⟨policy.versionId, snapshotId⟩ policy runtime l)) := by
  have hextend := inv.keeps.extend (activated ⟨policy.versionId, snapshotId⟩ policy runtime l)
    hid rfl rfl rfl
  have hlength : stack.below.length = l.history.length := by
    rw [← inv.keeps.history.length_eq, List.length_reverse]
  have hbounded := inv.bounded
  unfold PolicyLifecycle.supersede
  by_cases hfull : l.history.length = maxActivationHistory
  · have hpush : stack.push maxActivationHistory policy =
        ⟨policy, (stack.top :: stack.below).dropLast⟩ := by
      rw [Undo.push, List.dropLast_eq_take, List.length_cons, hlength, hfull, Nat.add_sub_cancel]
    cases hhistory : l.history with
    | nil =>
      rw [hhistory] at hfull
      exact absurd hfull (by decide)
    | cons expired kept =>
      have hforget := hextend.forget expired (kept ++ [l.active])
        (by rw [hhistory]; rfl)
      simp only [install, hhistory]
      rw [hhistory] at hfull
      rw [if_pos hfull, hpush]
      refine ⟨hforget, ?_⟩
      show (kept ++ [l.active]).length ≤ _
      rw [List.length_append, List.length_singleton, ← List.length_cons (a := expired), hfull]
  · have hpush : stack.push maxActivationHistory policy = ⟨policy, stack.top :: stack.below⟩ := by
      rw [Undo.push, List.take_of_length_le]
      rw [List.length_cons, hlength]
      omega
    rw [hpush]
    cases hhistory : l.history with
    | nil =>
      rw [hhistory] at hextend
      simp only [install, hhistory]
      exact ⟨hextend, by simp [maxActivationHistory]⟩
    | cons expired kept =>
      rw [hhistory] at hextend
      simp only [install, hhistory]
      rw [hhistory] at hfull
      rw [if_neg hfull]
      refine ⟨hextend, ?_⟩
      show (expired :: kept ++ [l.active]).length ≤ _
      rw [hhistory] at hbounded
      rw [List.length_append, List.length_singleton]
      omega

/-- The step is a rollback that has a target and is recorded. -/
def rollsBack (l : PolicyLifecycle C R L) (step : Step C R L) : Bool :=
  match step.call, l.history.getLast? with
  | .rollback actor, some target =>
    step.audit (PolicyLifecycle.rollbackEvent actor l.active target
      ⟨target.policyVersion, step.snapshotId⟩)
  | _, _ => false

/-- The rollbacks among the given steps that restore a snapshot. -/
def rollbacks (l : PolicyLifecycle C R L) : List (Step C R L) → ℕ
  | [] => 0
  | step :: steps => (rollsBack l step).toNat + rollbacks (l.perform step).2 steps

/-- A rollback restores the latest superseded snapshot when its record is written. -/
theorem Inv.rollback (inv : Inv stack stale used l) (hid : snapshotId ∉ used)
    (audit : AuditEvent → Bool) (actor : AdministrativeIdentity) {target : PolicyReceipt}
    (htarget : l.history.getLast? = some target) :
    ∃ policy below runtime, stack.below = policy :: below ∧
      l.rollback snapshotId audit actor =
        (if audit (PolicyLifecycle.rollbackEvent actor l.active target
            ⟨target.policyVersion, snapshotId⟩)
          then (.ok ⟨target.policyVersion, snapshotId⟩,
            ControlPlane.restore ⟨target.policyVersion, snapshotId⟩ runtime l)
          else (.error .audit, l)) ∧
      Inv ⟨policy, below⟩ (target.snapshotId :: stale) (snapshotId :: used)
        (ControlPlane.restore ⟨target.policyVersion, snapshotId⟩ runtime l) := by
  obtain ⟨kept, hhistory⟩ := List.getLast?_eq_some_iff.mp htarget
  have hall := inv.keeps.history
  rw [hhistory, List.reverse_append, List.reverse_singleton, List.singleton_append] at hall
  obtain ⟨policy, below, ⟨-, runtime, hruntime, -⟩, -, hbelow⟩ := List.forall₂_cons_left_iff.mp hall
  have hversion : snapshotId ≠ l.holder.version := by
    rw [inv.keeps.holder.1]
    exact fun heq => hid (heq ▸ inv.keeps.used _ inv.keeps.active.mem_keys)
  refine ⟨policy, below, runtime, hbelow, ?_, inv.keeps.restore hid hhistory hbelow hruntime, ?_⟩
  · rw [rollback_eq htarget hruntime, if_neg hversion]
  · have hbounded := inv.bounded
    show l.history.dropLast.length ≤ _
    rw [List.length_dropLast]
    omega

/-- An activation keeps the invariant. -/
theorem Inv.performActivate (inv : Inv stack stale used l) (hid : snapshotId ∉ used)
    (audit : AuditEvent → Bool) (policy : ValidatedPolicyVersion)
    (prepare : ValidatedPolicyVersion → Except String (AppState C R L))
    (actor : AdministrativeIdentity) :
    Inv (stack.follow ⟨snapshotId, audit, .activate policy prepare actor⟩
        (l.perform ⟨snapshotId, audit, .activate policy prepare actor⟩).1) stale
        (snapshotId :: used) (l.perform ⟨snapshotId, audit, .activate policy prepare actor⟩).2 ∧
      Answers stack l ⟨snapshotId, audit, .activate policy prepare actor⟩ := by
  have hperform : l.perform ⟨snapshotId, audit, .activate policy prepare actor⟩ =
    (l.activate snapshotId audit policy prepare actor).map .activate id := rfl
  obtain ⟨result, hfailed, heq⟩ | ⟨runtime, heq⟩ :=
    activate_cases l snapshotId audit policy prepare actor
  · rw [heq] at hperform
    refine ⟨?_, fun _ h => (nomatch h), ?_, ?_⟩
    · rw [hperform]
      rcases result with e | receipt | _
      · exact inv.unused snapshotId
      · exact absurd trivial hfailed
      · exact inv.unused snapshotId
    · rw [hperform]
      exact fun h => nomatch h
    · rw [hperform]
      exact fun _ => ⟨rfl, rfl, rfl⟩
  · rw [heq] at hperform
    refine ⟨?_, fun _ h => (nomatch h), ?_, ?_⟩
    · rw [hperform]
      exact inv.supersede hid runtime
    · rw [hperform]
      exact fun h => nomatch h
    · rw [hperform]
      exact fun h => absurd trivial h

/-- A rollback keeps the invariant. -/
theorem Inv.performRollback (inv : Inv stack stale used l) (hid : snapshotId ∉ used)
    (audit : AuditEvent → Bool) (actor : AdministrativeIdentity) :
    (∃ stale', stale'.length =
        (rollsBack l ⟨snapshotId, audit, .rollback actor⟩).toNat + stale.length ∧
      Inv (stack.follow (C := C) (R := R) (L := L) ⟨snapshotId, audit, .rollback actor⟩
          (l.perform ⟨snapshotId, audit, .rollback actor⟩).1) stale' (snapshotId :: used)
        (l.perform ⟨snapshotId, audit, .rollback actor⟩).2) ∧
      Answers stack l ⟨snapshotId, audit, .rollback actor⟩ := by
  have hperform : l.perform ⟨snapshotId, audit, .rollback actor⟩ =
    (l.rollback snapshotId audit actor).map .rollback id := rfl
  cases htarget : l.history.getLast? with
  | none =>
    have hnil := List.getLast?_eq_none_iff.mp htarget
    have hbelow : stack.below = [] := by
      have hall := inv.keeps.history
      rw [hnil] at hall
      exact List.forall₂_nil_left_iff.mp hall
    rw [rollback_of_nil hnil] at hperform
    refine ⟨⟨stale, ?_, ?_⟩, ?_, ?_, ?_⟩
    · simp [rollsBack, htarget]
    · rw [hperform]
      exact inv.unused snapshotId
    · intro _ _
      rw [hperform]
      exact ⟨fun _ => hbelow, fun _ => rfl⟩
    · rw [hperform]
      exact fun h => nomatch h
    · rw [hperform]
      exact fun _ => ⟨rfl, rfl, rfl⟩
  | some target =>
    obtain ⟨policy, below, runtime, hbelow, heq, hinv⟩ := inv.rollback hid audit actor htarget
    rw [heq] at hperform
    have hrolls : rollsBack l ⟨snapshotId, audit, .rollback actor⟩ =
        audit (PolicyLifecycle.rollbackEvent actor l.active target
          ⟨target.policyVersion, snapshotId⟩) := by
      simp [rollsBack, htarget]
    cases haudit : audit (PolicyLifecycle.rollbackEvent actor l.active target
        ⟨target.policyVersion, snapshotId⟩) with
    | false =>
      rw [haudit] at hperform hrolls
      refine ⟨⟨stale, ?_, ?_⟩, ?_, ?_, ?_⟩
      · rw [hrolls, Bool.toNat_false, zero_add]
      · rw [hperform]
        exact inv.unused snapshotId
      · intro _ _
        rw [hperform, hbelow]
        exact ⟨fun h => (nomatch h), fun h => (nomatch h)⟩
      · rw [hperform]
        exact fun h => nomatch h
      · rw [hperform]
        exact fun _ => ⟨rfl, rfl, rfl⟩
    | true =>
      rw [haudit] at hperform hrolls
      refine ⟨⟨target.snapshotId :: stale, ?_, ?_⟩, ?_, ?_, ?_⟩
      · rw [hrolls, Bool.toNat_true, List.length_cons, add_comm]
      · have hpop : stack.pop.getD stack = ⟨policy, below⟩ := by
          rw [Undo.pop, hbelow]
          rfl
        rw [hperform]
        show Inv (stack.pop.getD stack) _ _ _
        rw [hpop]
        exact hinv
      · intro _ _
        rw [hperform, hbelow]
        exact ⟨fun h => (nomatch h), fun h => (nomatch h)⟩
      · rw [hperform]
        exact fun h => nomatch h
      · rw [hperform]
        exact fun h => absurd trivial h

/-- What a step does to the lifecycle. -/
theorem Inv.perform (inv : Inv stack stale used l) (step : Step C R L)
    (hid : step.snapshotId ∉ used) :
    (∃ stale', stale'.length = (rollsBack l step).toNat + stale.length ∧
      Inv (stack.follow step (l.perform step).1) stale' (step.snapshotId :: used)
        (l.perform step).2) ∧ Answers stack l step := by
  obtain ⟨snapshotId, audit, call⟩ := step
  cases call with
  | activate policy prepare actor =>
    obtain ⟨hinv, hanswers⟩ := inv.performActivate hid audit policy prepare actor
    exact ⟨⟨stale, (zero_add _).symm, hinv⟩, hanswers⟩
  | rollback actor => exact inv.performRollback hid audit actor

/-- What a run does to the lifecycle. -/
theorem Inv.performAll (inv : Inv stack stale used l) (steps : List (Step C R L))
    (hfresh : (steps.map Step.snapshotId).Nodup)
    (hused : ∀ step ∈ steps, step.snapshotId ∉ used) :
    ∃ stale' used', stale'.length = rollbacks l steps + stale.length ∧
      (∀ id ∈ used', id ∈ used ∨ id ∈ steps.map Step.snapshotId) ∧
      Inv (stack.followAll l steps) stale' used' (l.performAll steps) := by
  induction steps generalizing stack stale used l with
  | nil => exact ⟨stale, used, (zero_add _).symm, fun _ h => .inl h, inv⟩
  | cons step steps ih =>
    obtain ⟨hfirst, hrest⟩ := List.forall_mem_cons.mp hused
    obtain ⟨hnew, hfresh⟩ := List.nodup_cons.mp hfresh
    obtain ⟨⟨stale₁, hlength₁, inv₁⟩, -⟩ := inv.perform step hfirst
    have hused₁ : ∀ step' ∈ steps, step'.snapshotId ∉ step.snapshotId :: used := by
      intro step' hstep' hmem
      rcases List.mem_cons.mp hmem with heq | hmem
      · exact hnew (heq ▸ List.mem_map_of_mem hstep')
      · exact hrest step' hstep' hmem
    obtain ⟨stale', used', hlength, hfrom, hinv⟩ := ih inv₁ hfresh hused₁
    refine ⟨stale', used', ?_, ?_, hinv⟩
    · rw [hlength, hlength₁, rollbacks]
      omega
    · intro id hid
      rcases hfrom id hid with hmem | hmem
      · rcases List.mem_cons.mp hmem with rfl | hmem
        · exact .inr List.mem_cons_self
        · exact .inl hmem
      · exact .inr (List.mem_cons_of_mem _ hmem)

/-- A bootstrapped lifecycle has its policy alone on the stack. -/
theorem inv_bootstrap {auditLog : L} (hboot : PolicyLifecycle.bootstrap snapshotId audit policy
    prepare actor auditLog = .ok l) : Inv ⟨policy, []⟩ [] [snapshotId] l := by
  unfold PolicyLifecycle.bootstrap at hboot
  simp only [bind_eq_ok] at hboot
  obtain ⟨runtime, -, -, -, hboot⟩ := hboot
  cases hboot
  refine ⟨⟨⟨rfl, _, if_pos rfl, rfl⟩, .nil, ⟨rfl, rfl, rfl, rfl⟩, ?_, ?_, ?_, ?_⟩, Nat.zero_le _⟩
  · exact List.pairwise_singleton _ _
  · exact fun id => Iff.rfl
  · exact List.nodup_singleton _
  · exact fun id h => h

theorem Inv.implements (inv : Inv stack stale used l) : Implements stack l := by
  refine ⟨inv.keeps.active.1, ?_, ⟨inv.keeps.holder.2.1, inv.keeps.holder.2.2.1⟩,
    inv.keeps.holder.2.2.2⟩
  exact map_policyVersion inv.keeps.history

end Snapshots

/-- After a bootstrap and any steps, the lifecycle is at the top of the undo stack of its policies
and answers the next step as the stack does. -/
theorem lifecycle_implements_undo (snapshotId : String) (audit : AuditEvent → Bool)
    (policy : ValidatedPolicyVersion)
    (prepare : ValidatedPolicyVersion → Except String (AppState C R L))
    (actor : AdministrativeIdentity) (auditLog : L) (self : PolicyLifecycle C R L)
    (hboot : PolicyLifecycle.bootstrap snapshotId audit policy prepare actor auditLog = .ok self)
    (steps : List (Step C R L)) (step : Step C R L)
    (hfresh : (snapshotId :: (steps ++ [step]).map Step.snapshotId).Nodup) :
    Implements (Undo.followAll ⟨policy, []⟩ self steps) (self.performAll steps) ∧
      Answers (Undo.followAll ⟨policy, []⟩ self steps) (self.performAll steps) step := by
  obtain ⟨hboot', hsteps⟩ := List.nodup_cons.mp hfresh
  rw [List.map_append, List.nodup_append] at hsteps
  obtain ⟨hnodup, -, hlast⟩ := hsteps
  have hused : ∀ step ∈ steps, step.snapshotId ∉ [snapshotId] := by
    intro step' hstep' hmem
    refine hboot' (List.mem_singleton.mp hmem ▸ ?_)
    exact List.mem_map_of_mem (List.mem_append_left _ hstep')
  obtain ⟨stale, used, -, hfrom, inv⟩ := (inv_bootstrap hboot).performAll steps hnodup hused
  have hid : step.snapshotId ∉ used := by
    intro hmem
    rcases hfrom _ hmem with hmem | hmem
    · refine hboot' (List.mem_singleton.mp hmem ▸ ?_)
      exact List.mem_map_of_mem (List.mem_append_right _ List.mem_cons_self)
    · exact hlast _ hmem _ (List.mem_map_of_mem List.mem_cons_self) rfl
  exact ⟨inv.implements, (inv.perform step hid).2⟩

/-- The retained runtimes are those of the active and of the superseded snapshots. -/
structure RuntimesBounded (l : PolicyLifecycle C R L) : Prop where
  keys : ∀ id, id ∈ l.runtimesBySnapshot.map Prod.fst ↔
    id = l.active.snapshotId ∨ id ∈ l.history.map PolicyReceipt.snapshotId
  bounded : l.runtimesBySnapshot.length ≤ maxActivationHistory + 1

section Retained

variable {stack : Undo ValidatedPolicyVersion} {stale used : List String}
  {l : PolicyLifecycle C R L}

/-- One runtime is retained for each snapshot, the stale ones included. -/
theorem Keeps.length_runtimes (keeps : Keeps stack stale used l) :
    l.runtimesBySnapshot.length = l.history.length + stale.length + 1 := by
  have hkeys : (l.runtimesBySnapshot.map Prod.fst).Nodup := keeps.sorted.imp fun h => ne_of_lt h
  have hperm : List.Perm (l.runtimesBySnapshot.map Prod.fst)
      (l.active.snapshotId :: (l.history.map PolicyReceipt.snapshotId ++ stale)) :=
    (List.perm_ext_iff_of_nodup hkeys keeps.nodup).mpr keeps.keys
  have hlength := hperm.length_eq
  rw [List.length_map, List.length_cons, List.length_append, List.length_map] at hlength
  exact hlength

theorem Inv.runtimesBounded_iff (inv : Inv stack stale used l) :
    RuntimesBounded l ↔ stale = [] := by
  constructor
  · intro h
    by_contra hne
    obtain ⟨id, hid⟩ := List.exists_mem_of_ne_nil _ hne
    have hnodup := inv.keeps.nodup
    rw [← List.cons_append, List.nodup_append] at hnodup
    refine hnodup.2.2 id ?_ id hid rfl
    rw [List.mem_cons, ← h.keys, inv.keeps.keys]
    exact List.mem_cons_of_mem _ (List.mem_append_right _ hid)
  · rintro rfl
    refine ⟨fun id => ?_, ?_⟩
    · rw [inv.keeps.keys, List.append_nil, List.mem_cons]
    · have hbounded := inv.bounded
      rw [inv.keeps.length_runtimes, List.length_nil]
      omega

end Retained

theorem rollbacks_eq_zero_iff (l : PolicyLifecycle C R L) (steps : List (Step C R L)) :
    rollbacks l steps = 0 ↔ ∀ done step rest, steps = done ++ step :: rest →
      rollsBack (l.performAll done) step = false := by
  induction steps generalizing l with
  | nil => exact ⟨fun _ done step rest h => absurd h (by simp), fun _ => rfl⟩
  | cons first steps ih =>
    rw [rollbacks, Nat.add_eq_zero_iff, Bool.toNat_eq_zero, ih]
    constructor
    · rintro ⟨hfirst, hrest⟩ done step rest heq
      cases done with
      | nil =>
        cases heq
        exact hfirst
      | cons first' done =>
        obtain ⟨rfl, hsteps⟩ := List.cons.inj heq
        exact hrest done step rest hsteps
    · intro h
      exact ⟨h [] first steps rfl, fun done step rest heq =>
        h (first :: done) step rest (by rw [heq]; rfl)⟩

/-- The retained runtimes are those of the active and of the superseded snapshots exactly as long
as no rollback has restored a snapshot. -/
theorem runtimesBounded_iff_no_rollback (snapshotId : String) (audit : AuditEvent → Bool)
    (policy : ValidatedPolicyVersion)
    (prepare : ValidatedPolicyVersion → Except String (AppState C R L))
    (actor : AdministrativeIdentity) (auditLog : L) (self : PolicyLifecycle C R L)
    (hboot : PolicyLifecycle.bootstrap snapshotId audit policy prepare actor auditLog = .ok self)
    (steps : List (Step C R L)) (hfresh : (snapshotId :: steps.map Step.snapshotId).Nodup) :
    RuntimesBounded (self.performAll steps) ↔
      ∀ done step rest, steps = done ++ step :: rest →
        rollsBack (self.performAll done) step = false := by
  obtain ⟨hnew, hnodup⟩ := List.nodup_cons.mp hfresh
  have hused : ∀ step ∈ steps, step.snapshotId ∉ [snapshotId] := fun step hstep hmem =>
    hnew (List.mem_singleton.mp hmem ▸ List.mem_map_of_mem hstep)
  obtain ⟨stale, used, hlength, -, inv⟩ := (inv_bootstrap hboot).performAll steps hnodup hused
  rw [inv.runtimesBounded_iff, ← List.length_eq_zero_iff, hlength, List.length_nil, add_zero]
  exact rollbacks_eq_zero_iff self steps

/-! ### A lifecycle of two policies -/

section Example

def operator : AdministrativeIdentity := ⟨"local", "operator"⟩

def emptyPolicy (versionId : String) : ValidatedPolicyVersion :=
  ⟨versionId, ⟨"wf-policy-v1", [⟨"default", ""⟩], some "default", []⟩, operator⟩

def prepared (_ : ValidatedPolicyVersion) : Except String (AppState Unit Unit Unit) :=
  .ok ⟨(), (), (), none, "unmanaged", "unmanaged"⟩

/-- The lifecycle that `bootstrap` makes of the first policy. -/
def firstActive : PolicyLifecycle Unit Unit Unit :=
  let runtime : AppState Unit Unit Unit :=
    ⟨(), (), (), some (emptyPolicy "wpv1-1"), "wpv1-1", "wps1-1"⟩
  ⟨.new runtime "wps1-1", (), ⟨"wpv1-1", "wps1-1"⟩, [], [("wps1-1", runtime)]⟩

def activateSecond : Step Unit Unit Unit :=
  ⟨"wps1-2", fun _ => true, .activate (emptyPolicy "wpv1-2") prepared operator⟩

def goBack : Step Unit Unit Unit := ⟨"wps1-3", fun _ => true, .rollback operator⟩

theorem bootstrap_firstActive : PolicyLifecycle.bootstrap "wps1-1" (fun _ => true)
    (emptyPolicy "wpv1-1") prepared operator () = .ok firstActive := rfl

theorem lifecycle_implements_undo_two_policies :
    Implements (Undo.followAll ⟨emptyPolicy "wpv1-1", []⟩ firstActive [activateSecond])
        (firstActive.performAll [activateSecond]) ∧
      Answers (Undo.followAll ⟨emptyPolicy "wpv1-1", []⟩ firstActive [activateSecond])
        (firstActive.performAll [activateSecond]) goBack :=
  lifecycle_implements_undo "wps1-1" (fun _ => true) (emptyPolicy "wpv1-1") prepared operator ()
    firstActive bootstrap_firstActive [activateSecond] goBack (by decide)

theorem runtimesBounded_without_rollback :
    RuntimesBounded (firstActive.performAll [activateSecond]) :=
  (runtimesBounded_iff_no_rollback "wps1-1" (fun _ => true) (emptyPolicy "wpv1-1") prepared
    operator () firstActive bootstrap_firstActive [activateSecond] (by decide)).mpr
      ((rollbacks_eq_zero_iff _ _).mp rfl)

/-- After a rollback the runtime of the first activation is retained, although its snapshot is
neither active nor superseded. -/
theorem rollback_retains_runtime :
    PolicyLifecycle.bootstrap "wps1-1" (fun _ => true) (emptyPolicy "wpv1-1") prepared operator
        () = .ok firstActive ∧
      ("wps1-1" :: [activateSecond, goBack].map Step.snapshotId).Nodup ∧
      ¬ RuntimesBounded (firstActive.performAll [activateSecond, goBack]) := by
  refine ⟨bootstrap_firstActive, by decide, fun h => ?_⟩
  have hmem : "wps1-1" ∈ (firstActive.performAll
      [activateSecond, goBack]).runtimesBySnapshot.map Prod.fst := by decide +kernel
  have hactive := (h.keys "wps1-1").mp hmem
  revert hactive
  decide +kernel

end Example

end Refinement

end WayfinderRouter.ControlPlane
