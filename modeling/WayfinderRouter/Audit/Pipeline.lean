import Mathlib.Data.List.Infix
import WayfinderRouter.Json

/-!
# The audit pipeline

Callers queue commands for one worker, which appends each record to a local file and to a shared
destination and then acknowledges it. A shutdown stops the queue from accepting commands, and is
queued itself. The worker moves the file handle into a blocking task and gets it back when the
task does not panic.

A write that fails may leave a part of its line in the file, and the line of the next record then
follows this part. A task that panics takes the file handle with it, and later records are not
written to the file, but acknowledged. Poisoned locks are left out.

## Main definitions

- `World`, `step` — the pipeline and its atomic steps
- `Complete` — what the audit log promises
- `Clean` — the steps that neither tear a line nor lose the file handle

## Main results

- `clean_run_complete` — a run of clean steps keeps the promise
-/

namespace WayfinderRouter.Audit

/-- Maximum accepted audit commands waiting behind the ordered worker. -/
def auditQueueCapacity : ℕ := 256

def newline : UInt8 := '\n'.toUInt8

/-- An event as it is written. Compact JSON escapes line ends. -/
structure Encoded where
  bytes : List UInt8
  singleLine : newline ∉ bytes
deriving DecidableEq

def Encoded.line (encoded : Encoded) : List UInt8 := encoded.bytes ++ [newline]

inductive AuditError where
  | queueFull
  | workerUnavailable
  | io
  | shared
  | multipleDestinations (localError sharedError : AuditError)
deriving DecidableEq

/-- A command, with the call that awaits its acknowledgement. -/
inductive AuditCommand where
  | record (call : ℕ) (encoded : Encoded)
  | flush (call : ℕ)
  | shutdown (call : ℕ)
deriving DecidableEq

/-- Where the worker is. -/
inductive Worker where
  | idle
  | writing (call : ℕ) (encoded : Encoded)
  | sharing (call : ℕ) (encoded : Encoded) (localResult : Except AuditError Unit)
  | flushing (call : ℕ)
  | shuttingDown (call : ℕ)
  /-- The last flush, after all senders are gone. -/
  | finishing
  | stopped

/-- What is seen of the pipeline, in its order. -/
inductive Observation where
  | accepted (call : ℕ) (encoded : Encoded)
  | refused (call : ℕ) (error : AuditError)
  | closing (call : ℕ)
  /-- The worker starts to write a record. -/
  | handed (call : ℕ) (encoded : Encoded)
  | recorded (call : ℕ) (encoded : Encoded) (result : Except AuditError Unit)
  | flushed (call : ℕ) (result : Except AuditError Unit)
  | shutDown (call : ℕ) (result : Except AuditError Unit)

/-- The destinations that are configured. -/
structure Destinations where
  file : Bool
  shared : Bool

structure World where
  /-- The queue accepts no more commands. -/
  closing : Bool
  /-- The call that has closed the queue and waits for room in it. -/
  sending : Option ℕ
  /-- All senders are gone. -/
  dropped : Bool
  queue : List AuditCommand
  worker : Worker
  /-- The worker has the file handle. -/
  sink : Bool
  file : List UInt8
  sharedLog : List Encoded
  trace : List Observation

/-- The end of a blocking task. A write that is cut short has written some bytes of its line. -/
inductive TaskOutcome where
  | done
  | failed (written : ℕ)
  | panicked (written : ℕ)

/-- The end of an append to the shared destination, which may have happened when it fails. -/
inductive SharedOutcome where
  | done
  | failed (appended : Bool)

inductive Action where
  | record (call : ℕ) (encoded : Encoded)
  | flush (call : ℕ)
  | shutdown (call : ℕ)
  /-- The queue has room for the shutdown that waits. -/
  | sendShutdown
  | cancelShutdown
  | dropSenders
  /-- The worker takes the next command. -/
  | receive
  | append (outcome : TaskOutcome)
  | share (outcome : SharedOutcome)
  | flushLocal (outcome : TaskOutcome)

namespace World

/-- A pipeline with a file, before its first command. -/
def start (c : Destinations) (file : List UInt8) : World :=
  ⟨false, none, false, [], .idle, c.file, file, [], []⟩

def observe (w : World) (observation : Observation) : World :=
  { w with trace := w.trace ++ [observation] }

/-- Why `try_send` refuses a command. -/
def refusal (w : World) : Option AuditError :=
  match w.closing, w.worker with
  | true, _ => some .workerUnavailable
  | false, .stopped => some .workerUnavailable
  | false, _ => if w.queue.length < auditQueueCapacity then none else some .queueFull

/-- `try_send`, for a command with an observation of its acceptance. -/
def trySend (w : World) (call : ℕ) (command : AuditCommand) (accepted : List Observation) : World :=
  match w.refusal with
  | some error => w.observe (.refused call error)
  | none => { w with queue := w.queue ++ [command], trace := w.trace ++ accepted }

/-- `append_local`. Without the file handle there is nothing to do. -/
def appendLocal (w : World) (encoded : Encoded) (outcome : TaskOutcome) :
    World × Except AuditError Unit :=
  if w.sink then
    match outcome with
    | .done => ({ w with file := w.file ++ encoded.line }, .ok ())
    | .failed written => ({ w with file := w.file ++ encoded.line.take written }, .error .io)
    | .panicked written =>
      ({ w with file := w.file ++ encoded.line.take written, sink := false },
        .error .workerUnavailable)
  else (w, .ok ())

/-- `flush_local`. -/
def flushLocal (w : World) (outcome : TaskOutcome) : World × Except AuditError Unit :=
  if w.sink then
    match outcome with
    | .done => (w, .ok ())
    | .failed _ => (w, .error .io)
    | .panicked _ => ({ w with sink := false }, .error .workerUnavailable)
  else (w, .ok ())

/-- The append to the shared destination. -/
def appendShared (c : Destinations) (w : World) (encoded : Encoded) (outcome : SharedOutcome) :
    World × Except AuditError Unit :=
  if c.shared then
    match outcome with
    | .done => ({ w with sharedLog := w.sharedLog ++ [encoded] }, .ok ())
    | .failed true => ({ w with sharedLog := w.sharedLog ++ [encoded] }, .error .shared)
    | .failed false => (w, .error .shared)
  else (w, .ok ())

end World

def combineDestinationResults : Except AuditError Unit → Except AuditError Unit →
    Except AuditError Unit
  | .ok (), .ok () => .ok ()
  | .error e, .ok () => .error e
  | .ok (), .error e => .error e
  | .error e, .error e' => .error (.multipleDestinations e e')

/-- An atomic step, when it can be taken. -/
def step (c : Destinations) : Action → World → Option World
  | .record call encoded, w =>
    if w.dropped then none
    else some (w.trySend call (.record call encoded) [.accepted call encoded])
  | .flush call, w => if w.dropped then none else some (w.trySend call (.flush call) [])
  | .shutdown call, w =>
    if w.dropped then none
    else if w.closing then some (w.observe (.refused call .workerUnavailable))
    else some ({ w with closing := true, sending := some call }.observe (.closing call))
  | .sendShutdown, w =>
    match w.sending, w.worker with
    | none, _ => none
    | some call, .stopped =>
      some ({ w with sending := none }.observe (.refused call .workerUnavailable))
    | some call, _ =>
      if w.queue.length < auditQueueCapacity then
        some { w with sending := none, queue := w.queue ++ [.shutdown call] }
      else none
  | .cancelShutdown, w => if w.sending.isSome then some { w with sending := none } else none
  | .dropSenders, w => if w.sending.isNone then some { w with dropped := true } else none
  | .receive, w =>
    match w.worker, w.queue with
    | .idle, [] => if w.dropped then some { w with worker := .finishing } else none
    | .idle, .record call encoded :: queue =>
      some ({ w with queue, worker := .writing call encoded }.observe (.handed call encoded))
    | .idle, .flush call :: queue => some { w with queue, worker := .flushing call }
    | .idle, .shutdown call :: queue => some { w with queue, worker := .shuttingDown call }
    | _, _ => none
  | .append outcome, w =>
    match w.worker with
    | .writing call encoded =>
      let (w', result) := w.appendLocal encoded outcome
      some { w' with worker := .sharing call encoded result }
    | _ => none
  | .share outcome, w =>
    match w.worker with
    | .sharing call encoded localResult =>
      let (w', result) := w.appendShared c encoded outcome
      some ({ w' with worker := .idle }.observe
        (.recorded call encoded (combineDestinationResults localResult result)))
    | _ => none
  | .flushLocal outcome, w =>
    let (w', result) := w.flushLocal outcome
    match w.worker with
    | .flushing call => some ({ w' with worker := .idle }.observe (.flushed call result))
    | .shuttingDown call => some ({ w' with worker := .stopped }.observe (.shutDown call result))
    | .finishing => some { w' with worker := .stopped }
    | _ => none

/-- The world after a run, when each of its steps can be taken. -/
def run (c : Destinations) : List Action → World → Option World
  | [], w => some w
  | a :: actions, w => (step c a w).bind (run c actions)

/-! ## The promise -/

namespace Observation

def accepted? : Observation → Option (ℕ × Encoded)
  | .accepted call encoded => some (call, encoded)
  | _ => none

def handed? : Observation → Option (ℕ × Encoded)
  | .handed call encoded => some (call, encoded)
  | _ => none

def recorded? : Observation → Option (ℕ × Encoded)
  | .recorded call encoded _ => some (call, encoded)
  | _ => none

/-- A record that was acknowledged with `Ok`. -/
def ok? : Observation → Option Encoded
  | .recorded _ encoded (.ok ()) => some encoded
  | _ => none

def isClosing : Observation → Bool
  | .closing _ => true
  | _ => false

end Observation

/-- The records that `try_send` has accepted, in this order. -/
def accepted (trace : List Observation) : List (ℕ × Encoded) :=
  trace.filterMap Observation.accepted?

/-- The records that were handed to the destinations, in this order. -/
def handed (trace : List Observation) : List (ℕ × Encoded) := trace.filterMap Observation.handed?

/-- The records that were processed and acknowledged. -/
def recorded (trace : List Observation) : List (ℕ × Encoded) :=
  trace.filterMap Observation.recorded?

/-- The records that were acknowledged with `Ok`. -/
def acknowledged (trace : List Observation) : List Encoded := trace.filterMap Observation.ok?

/-- The lines that end in a newline, of bytes that follow the beginning of a line. -/
def linesAfter (beginning : List UInt8) : List UInt8 → List (List UInt8)
  | [] => []
  | byte :: bytes =>
    if byte = newline then beginning :: linesAfter [] bytes
    else linesAfter (beginning ++ [byte]) bytes

/-- The complete lines of a file. -/
def completeLines (file : List UInt8) : List (List UInt8) := linesAfter [] file

/-- What the audit log promises. -/
structure Complete (c : Destinations) (w : World) : Prop where
  /-- Records are handed to the destinations in the order of their acceptance. -/
  ordered : handed w.trace <+: accepted w.trace
  /-- No record is accepted after a shutdown has closed the queue. -/
  closed : w.trace.Pairwise fun a b => a.isClosing → b.accepted? = none
  /-- Every accepted record is processed before a shutdown is acknowledged. -/
  drained : ∀ before after call result, w.trace = before ++ .shutDown call result :: after →
    recorded before = accepted before
  /-- A record that was acknowledged with `Ok` is a line of its own in the file. -/
  inFile : c.file → ((acknowledged w.trace).map Encoded.bytes).Sublist (completeLines w.file)
  /-- A record that was acknowledged with `Ok` was appended to the shared destination. -/
  inShared : c.shared → (acknowledged w.trace).Sublist w.sharedLog

/-! ## What a step can do -/

/-- The steps of a pipeline. -/
inductive Transition (c : Destinations) (w : World) : Action → World → Prop
  | refused {a : Action} (call : ℕ) (error : AuditError) (sending : Option ℕ)
      (hsending : sending = w.sending ∨ sending = none) :
      Transition c w a ({ w with sending }.observe (.refused call error))
  | accepted (call : ℕ) (encoded : Encoded) (hopen : w.closing = false) :
      Transition c w (.record call encoded)
        ({ w with queue := w.queue ++ [AuditCommand.record call encoded] }.observe
          (.accepted call encoded))
  | acceptedFlush (call : ℕ) (hopen : w.closing = false) :
      Transition c w (.flush call) { w with queue := w.queue ++ [.flush call] }
  | closed (call : ℕ) (hopen : w.closing = false) :
      Transition c w (.shutdown call)
        ({ w with closing := true, sending := some call }.observe (.closing call))
  | sent (call : ℕ) (hsending : w.sending = some call) :
      Transition c w .sendShutdown { w with sending := none, queue := w.queue ++ [.shutdown call] }
  | cancelled : Transition c w .cancelShutdown { w with sending := none }
  | dropped : Transition c w .dropSenders { w with dropped := true }
  | finishing (hworker : w.worker = .idle) (hqueue : w.queue = []) :
      Transition c w .receive { w with worker := .finishing }
  | handed (call : ℕ) (encoded : Encoded) (queue : List AuditCommand) (hworker : w.worker = .idle)
      (hqueue : w.queue = .record call encoded :: queue) :
      Transition c w .receive
        ({ w with queue, worker := .writing call encoded }.observe (.handed call encoded))
  | flushing (call : ℕ) (queue : List AuditCommand) (hworker : w.worker = .idle)
      (hqueue : w.queue = .flush call :: queue) :
      Transition c w .receive { w with queue, worker := .flushing call }
  | shuttingDown (call : ℕ) (queue : List AuditCommand) (hworker : w.worker = .idle)
      (hqueue : w.queue = .shutdown call :: queue) :
      Transition c w .receive { w with queue, worker := .shuttingDown call }
  | appended (call : ℕ) (encoded : Encoded) (outcome : TaskOutcome)
      (hworker : w.worker = .writing call encoded) :
      Transition c w (.append outcome)
        { (w.appendLocal encoded outcome).1 with
          worker := .sharing call encoded (w.appendLocal encoded outcome).2 }
  | recorded (call : ℕ) (encoded : Encoded) (localResult : Except AuditError Unit)
      (outcome : SharedOutcome) (hworker : w.worker = .sharing call encoded localResult) :
      Transition c w (.share outcome)
        ({ (w.appendShared c encoded outcome).1 with worker := .idle }.observe
          (.recorded call encoded
            (combineDestinationResults localResult (w.appendShared c encoded outcome).2)))
  | flushed (call : ℕ) (outcome : TaskOutcome) (hworker : w.worker = .flushing call) :
      Transition c w (.flushLocal outcome)
        ({ (w.flushLocal outcome).1 with worker := .idle }.observe
          (.flushed call (w.flushLocal outcome).2))
  | shutDown (call : ℕ) (outcome : TaskOutcome) (hworker : w.worker = .shuttingDown call) :
      Transition c w (.flushLocal outcome)
        ({ (w.flushLocal outcome).1 with worker := .stopped }.observe
          (.shutDown call (w.flushLocal outcome).2))
  | finished (outcome : TaskOutcome) (hworker : w.worker = .finishing) :
      Transition c w (.flushLocal outcome)
        { (w.flushLocal outcome).1 with worker := .stopped }

variable {c : Destinations} {w w' : World} {a : Action}

theorem closing_of_refusal (h : w.refusal = none) : w.closing = false := by
  rw [World.refusal] at h
  split at h
  · cases h
  · cases h
  · assumption

theorem transition_of_step (h : step c a w = some w') : Transition c w a w' := by
  cases a with
  | record call encoded =>
    rw [step] at h
    split at h
    · cases h
    · cases h
      rw [World.trySend]
      split
      · exact .refused call _ w.sending (.inl rfl)
      · next hrefusal => exact .accepted call encoded (closing_of_refusal hrefusal)
  | flush call =>
    rw [step] at h
    split at h
    · cases h
    · cases h
      rw [World.trySend]
      split
      · exact .refused call _ w.sending (.inl rfl)
      · next hrefusal =>
        rw [List.append_nil]
        exact .acceptedFlush call (closing_of_refusal hrefusal)
  | shutdown call =>
    rw [step] at h
    split at h
    · cases h
    · split at h
      · cases h
        exact .refused call _ w.sending (.inl rfl)
      · next hopen =>
        cases h
        exact .closed call (Bool.not_eq_true _ ▸ hopen)
  | sendShutdown =>
    rw [step] at h
    split at h
    · cases h
    · cases h
      exact .refused _ _ none (.inr rfl)
    · next hsending _ =>
      split at h
      · cases h
        exact .sent _ hsending
      · cases h
  | cancelShutdown =>
    rw [step] at h
    split at h
    · cases h
      exact .cancelled
    · cases h
  | dropSenders =>
    rw [step] at h
    split at h
    · cases h
      exact .dropped
    · cases h
  | receive =>
    rw [step] at h
    split at h
    · next hworker hqueue =>
      split at h
      · cases h
        exact .finishing hworker hqueue
      · cases h
    · next hworker hqueue =>
      cases h
      exact .handed _ _ _ hworker hqueue
    · next hworker hqueue =>
      cases h
      exact .flushing _ _ hworker hqueue
    · next hworker hqueue =>
      cases h
      exact .shuttingDown _ _ hworker hqueue
    · cases h
  | append outcome =>
    rw [step] at h
    split at h
    · next hworker =>
      cases h
      exact .appended _ _ outcome hworker
    · cases h
  | share outcome =>
    rw [step] at h
    split at h
    · next hworker =>
      cases h
      exact .recorded _ _ _ outcome hworker
    · cases h
  | flushLocal outcome =>
    rw [step] at h
    simp only at h
    split at h
    · next hworker =>
      cases h
      exact .flushed _ outcome hworker
    · next hworker =>
      cases h
      exact .shutDown _ outcome hworker
    · next hworker =>
      cases h
      exact .finished outcome hworker
    · cases h

/-! ## Order -/

def AuditCommand.record? : AuditCommand → Option (ℕ × Encoded)
  | .record call encoded => some (call, encoded)
  | _ => none

def AuditCommand.isShutdown : AuditCommand → Bool
  | .shutdown _ => true
  | _ => false

/-- The record that the worker writes. -/
def Worker.record? : Worker → Option (ℕ × Encoded)
  | .writing call encoded => some (call, encoded)
  | .sharing call encoded _ => some (call, encoded)
  | _ => none

/-- No record is accepted after the queue is closed, and all are processed before a shutdown is
acknowledged. -/
structure TraceOrderly (trace : List Observation) : Prop where
  closed : trace.Pairwise fun a b => a.isClosing → b.accepted? = none
  drained : ∀ before after call result, trace = before ++ .shutDown call result :: after →
    recorded before = accepted before

section Trace

variable {trace : List Observation} {o : Observation}

theorem accepted_concat : accepted (trace ++ [o]) = accepted trace ++ o.accepted?.toList := by
  rw [accepted, List.filterMap_append, accepted]
  cases o <;> rfl

theorem handed_concat : handed (trace ++ [o]) = handed trace ++ o.handed?.toList := by
  rw [handed, List.filterMap_append, handed]
  cases o <;> rfl

theorem recorded_concat : recorded (trace ++ [o]) = recorded trace ++ o.recorded?.toList := by
  rw [recorded, List.filterMap_append, recorded]
  cases o <;> rfl

theorem TraceOrderly.concat (h : TraceOrderly trace)
    (hclosed : (∃ a ∈ trace, a.isClosing = true) → o.accepted? = none)
    (hdrained : ∀ call result, o = .shutDown call result → recorded trace = accepted trace) :
    TraceOrderly (trace ++ [o]) where
  closed := by
    refine List.pairwise_append.mpr ⟨h.closed, List.pairwise_singleton _ _, ?_⟩
    intro a ha b hb hclosing
    rw [List.mem_singleton.mp hb]
    exact hclosed ⟨a, ha, hclosing⟩
  drained := by
    intro before after call result heq
    rcases List.eq_nil_or_concat after with rfl | ⟨after', last, rfl⟩
    · obtain ⟨rfl, hlast⟩ := List.append_inj' heq rfl
      exact hdrained call result (List.cons.inj hlast).1
    · rw [List.concat_eq_append, ← List.cons_append, ← List.append_assoc] at heq
      exact h.drained before after' call result (List.append_inj' heq rfl).1

/-- An observation that is neither an acceptance nor the end of a shutdown. -/
theorem TraceOrderly.concat_other (h : TraceOrderly trace) (haccepted : o.accepted? = none)
    (hshutDown : ∀ call result, o ≠ .shutDown call result) : TraceOrderly (trace ++ [o]) :=
  h.concat (fun _ => haccepted) fun call result heq => absurd heq (hshutDown call result)

end Trace

/-- **Invariant**: the accepted records are those that are processed, the one that is written and
those in the queue; nothing follows a shutdown. -/
structure Orderly (w : World) : Prop where
  accepted : accepted w.trace = handed w.trace ++ w.queue.filterMap AuditCommand.record?
  handed : handed w.trace = recorded w.trace ++ w.worker.record?.toList
  trace : TraceOrderly w.trace
  closing : (∃ a ∈ w.trace, a.isClosing = true) → w.closing = true
  sending : w.sending.isSome → w.closing = true
  queue : w.queue.Pairwise fun command _ => command.isShutdown = false
  queued : (∃ command ∈ w.queue, command.isShutdown = true) →
    w.closing = true ∧ w.sending = none
  worker : ∀ call, w.worker = .shuttingDown call →
    w.queue = [] ∧ w.closing = true ∧ w.sending = none

theorem orderly_start (c : Destinations) (file : List UInt8) : Orderly (World.start c file) where
  accepted := rfl
  handed := rfl
  trace :=
    { closed := .nil
      drained := fun before after call result h =>
        absurd h.symm (List.append_ne_nil_of_right_ne_nil _ (List.cons_ne_nil _ _)) }
  closing := fun ⟨a, ha, _⟩ => absurd ha List.not_mem_nil
  sending := fun h => absurd h Bool.false_ne_true
  queue := .nil
  queued := fun ⟨command, hcommand, _⟩ => absurd hcommand List.not_mem_nil
  worker := fun call h => by cases h

theorem closing_concat {trace : List Observation} {o : Observation} (h : o.isClosing = false) :
    (∃ a ∈ trace ++ [o], a.isClosing = true) ↔ ∃ a ∈ trace, a.isClosing = true := by
  simp [h]

theorem isShutdown_concat {queue : List AuditCommand} {command : AuditCommand} :
    (∃ x ∈ queue ++ [command], x.isShutdown = true) ↔
      (∃ x ∈ queue, x.isShutdown = true) ∨ command.isShutdown = true := by
  simp [or_and_right, exists_or]

theorem appendLocal_frame (w : World) (encoded : Encoded) (outcome : TaskOutcome) :
    ∃ file sink, (w.appendLocal encoded outcome).1 = { w with file, sink } := by
  unfold World.appendLocal
  split
  · cases outcome with
    | done => exact ⟨_, w.sink, rfl⟩
    | failed written => exact ⟨_, w.sink, rfl⟩
    | panicked written => exact ⟨_, false, rfl⟩
  · exact ⟨w.file, w.sink, rfl⟩

theorem appendShared_frame (c : Destinations) (w : World) (encoded : Encoded)
    (outcome : SharedOutcome) :
    ∃ sharedLog, (w.appendShared c encoded outcome).1 = { w with sharedLog } := by
  unfold World.appendShared
  split
  · cases outcome with
    | done => exact ⟨_, rfl⟩
    | failed appended =>
      cases appended with
      | false => exact ⟨w.sharedLog, rfl⟩
      | true => exact ⟨_, rfl⟩
  · exact ⟨w.sharedLog, rfl⟩

theorem flushLocal_frame (w : World) (outcome : TaskOutcome) :
    ∃ sink, (w.flushLocal outcome).1 = { w with sink } := by
  unfold World.flushLocal
  split
  · cases outcome with
    | done => exact ⟨w.sink, rfl⟩
    | failed written => exact ⟨w.sink, rfl⟩
    | panicked written => exact ⟨false, rfl⟩
  · exact ⟨w.sink, rfl⟩

namespace Orderly

/-- An observation that is not about records and shutdowns. -/
theorem observe (h : Orderly w) {o : Observation} (haccepted : o.accepted? = none)
    (hhanded : o.handed? = none) (hrecorded : o.recorded? = none) (hclosing : o.isClosing = false)
    (hdrained : ∀ call result, o = .shutDown call result →
      Audit.recorded w.trace = Audit.accepted w.trace) : Orderly (w.observe o) where
  accepted := by
    rw [World.observe, accepted_concat, handed_concat, haccepted, hhanded, Option.toList_none,
      List.append_nil, List.append_nil]
    exact h.accepted
  handed := by
    rw [World.observe, handed_concat, recorded_concat, hhanded, hrecorded, Option.toList_none,
      List.append_nil, List.append_nil]
    exact h.handed
  trace := h.trace.concat (fun _ => haccepted) hdrained
  closing := fun hmem => h.closing ((closing_concat hclosing).mp hmem)
  sending := h.sending
  queue := h.queue
  queued := h.queued
  worker := h.worker

theorem sendingNone (h : Orderly w) : Orderly { w with sending := none } :=
  { h with
    sending := fun hsome => absurd hsome Bool.false_ne_true
    queued := fun hmem => ⟨(h.queued hmem).1, rfl⟩
    worker := fun call hcall => ⟨(h.worker call hcall).1, (h.worker call hcall).2.1, rfl⟩ }

/-- The worker goes on with the same record, and the destinations change. -/
theorem withWorker (h : Orderly w) {worker : Worker} (hrecord : worker.record? = w.worker.record?)
    (hshutting : ∀ call, worker ≠ .shuttingDown call) (sink : Bool) (file : List UInt8)
    (sharedLog : List Encoded) : Orderly { w with worker, sink, file, sharedLog } :=
  { h with
    handed := by
      show Audit.handed w.trace = Audit.recorded w.trace ++ worker.record?.toList
      rw [hrecord]
      exact h.handed
    worker := fun call hcall => absurd hcall (hshutting call) }

theorem not_queued (h : Orderly w) (hopen : w.closing = false) :
    ∀ command ∈ w.queue, command.isShutdown = false := by
  intro command hcommand
  by_contra hshutdown
  have hclosing := (h.queued ⟨command, hcommand, Bool.not_eq_false _ ▸ hshutdown⟩).1
  rw [hopen] at hclosing
  cases hclosing

theorem not_shuttingDown (h : Orderly w) (hopen : w.closing = false) (call : ℕ) :
    w.worker ≠ .shuttingDown call := by
  intro hworker
  have hclosing := (h.worker call hworker).2.1
  rw [hopen] at hclosing
  cases hclosing

/-- A command that is not a shutdown joins an open queue. -/
theorem enqueue (h : Orderly w) (hopen : w.closing = false) {command : AuditCommand}
    (hcommand : command.isShutdown = false) :
    (w.queue ++ [command]).Pairwise (fun command _ => command.isShutdown = false) ∧
      ((∃ x ∈ w.queue ++ [command], x.isShutdown = true) →
        w.closing = true ∧ w.sending = none) := by
  constructor
  · refine List.pairwise_append.mpr ⟨h.queue, List.pairwise_singleton _ _, ?_⟩
    exact fun x hx _ _ => h.not_queued hopen x hx
  · intro hmem
    rcases isShutdown_concat.mp hmem with hmem | hmem
    · exact h.queued hmem
    · rw [hcommand] at hmem
      cases hmem

/-- The worker takes the first command. -/
theorem tail (h : Orderly w) {command : AuditCommand} {queue : List AuditCommand}
    (hqueue : w.queue = command :: queue) :
    queue.Pairwise (fun command _ => command.isShutdown = false) ∧
      ((∃ command ∈ queue, command.isShutdown = true) → w.closing = true ∧ w.sending = none) ∧
      (command.isShutdown = true → queue = [] ∧ w.closing = true ∧ w.sending = none) := by
  have hpairwise := h.queue
  have hqueued := h.queued
  rw [hqueue] at hpairwise hqueued
  obtain ⟨hfirst, hrest⟩ := List.pairwise_cons.mp hpairwise
  refine ⟨hrest, ?_, ?_⟩
  · rintro ⟨x, hx, hshutdown⟩
    exact hqueued ⟨x, List.mem_cons_of_mem _ hx, hshutdown⟩
  · intro hshutdown
    refine ⟨List.eq_nil_iff_forall_not_mem.mpr fun x hx => ?_,
      hqueued ⟨command, List.mem_cons_self, hshutdown⟩⟩
    exact absurd (hfirst x hx) (by rw [hshutdown]; exact Bool.false_ne_true.symm)

/-- The worker takes a command that is not a record. -/
theorem receive (h : Orderly w) {command : AuditCommand} {queue : List AuditCommand}
    {worker : Worker} (hidle : w.worker = .idle) (hqueue : w.queue = command :: queue)
    (hcommand : command.record? = none) (hworker : worker.record? = none)
    (hshutting : ∀ call, worker = .shuttingDown call → command.isShutdown = true) :
    Orderly { w with queue, worker } :=
  { h with
    accepted := by
      have haccepted := h.accepted
      rw [hqueue, List.filterMap_cons_none hcommand] at haccepted
      exact haccepted
    handed := by
      have hhanded := h.handed
      rw [hidle] at hhanded
      show _ = Audit.recorded w.trace ++ worker.record?.toList
      rw [hworker]
      exact hhanded
    queue := (h.tail hqueue).1
    queued := (h.tail hqueue).2.1
    worker := fun call hcall => (h.tail hqueue).2.2 (hshutting call hcall) }

end Orderly

/-- **Step lemma**: every step keeps the order. -/
theorem Orderly.transition (h : Orderly w) (ht : Transition c w a w') : Orderly w' := by
  cases ht with
  | refused call error sending hsending =>
    refine Orderly.observe ?_ rfl rfl rfl rfl fun call result heq => by cases heq
    rcases hsending with rfl | rfl
    · exact { h with }
    · exact h.sendingNone
  | accepted call encoded hopen =>
    have hclosing : ¬ ∃ a ∈ w.trace, a.isClosing = true := by
      intro hmem
      have htrue := h.closing hmem
      rw [hopen] at htrue
      cases htrue
    refine
      { accepted := ?_
        handed := ?_
        trace := h.trace.concat (fun hmem => absurd hmem hclosing)
          fun call result heq => by cases heq
        closing := fun hmem => h.closing ((closing_concat rfl).mp hmem)
        sending := h.sending
        queue := (h.enqueue hopen rfl).1
        queued := (h.enqueue hopen rfl).2
        worker := fun call hcall => absurd hcall (h.not_shuttingDown hopen call) }
    · rw [World.observe, accepted_concat, handed_concat, List.filterMap_append, h.accepted,
        ← List.append_assoc]
      simp [Observation.accepted?, Observation.handed?, AuditCommand.record?]
    · rw [World.observe, handed_concat, recorded_concat]
      simpa [Observation.handed?, Observation.recorded?] using h.handed
  | acceptedFlush call hopen =>
    refine { h with
      accepted := ?_
      queue := (h.enqueue hopen rfl).1
      queued := (h.enqueue hopen rfl).2
      worker := fun call hcall => absurd hcall (h.not_shuttingDown hopen call) }
    rw [List.filterMap_append, h.accepted]
    simp [AuditCommand.record?]
  | closed call hopen =>
    refine
      { accepted := ?_
        handed := ?_
        trace := h.trace.concat_other rfl fun call result heq => by cases heq
        closing := fun _ => rfl
        sending := fun _ => rfl
        queue := h.queue
        queued := ?_
        worker := fun call hcall => absurd hcall (h.not_shuttingDown hopen call) }
    · rw [World.observe, accepted_concat, handed_concat]
      simpa [Observation.accepted?, Observation.handed?] using h.accepted
    · rw [World.observe, handed_concat, recorded_concat]
      simpa [Observation.handed?, Observation.recorded?] using h.handed
    · rintro ⟨command, hcommand, hshutdown⟩
      rw [h.not_queued hopen command hcommand] at hshutdown
      cases hshutdown
  | sent call hsending =>
    have hclosing : w.closing = true := h.sending (by rw [hsending]; rfl)
    have hnone : w.sending ≠ none := by
      rw [hsending]
      exact Option.some_ne_none call
    have hnot : ∀ command ∈ w.queue, command.isShutdown = false := by
      intro command hcommand
      by_contra hshutdown
      exact hnone (h.queued ⟨command, hcommand, Bool.not_eq_false _ ▸ hshutdown⟩).2
    refine { h with
      accepted := ?_
      sending := fun hsome => absurd hsome Bool.false_ne_true
      queue := List.pairwise_append.mpr ⟨h.queue, List.pairwise_singleton _ _,
        fun x hx _ _ => hnot x hx⟩
      queued := fun _ => ⟨hclosing, rfl⟩
      worker := fun call hcall => absurd (h.worker call hcall).2.2 hnone }
    rw [List.filterMap_append, h.accepted]
    simp [AuditCommand.record?]
  | cancelled => exact h.sendingNone
  | dropped => exact { h with }
  | finishing hworker hqueue =>
    exact h.withWorker (by rw [hworker]; rfl) (fun call heq => by cases heq) _ _ _
  | handed call encoded queue hworker hqueue =>
    have haccepted := h.accepted
    have hhanded := h.handed
    have hrecord : (AuditCommand.record call encoded).record? = some (call, encoded) := rfl
    rw [hqueue, List.filterMap_cons_some hrecord] at haccepted
    rw [hworker] at hhanded
    refine
      { accepted := ?_
        handed := ?_
        trace := h.trace.concat_other rfl fun call result heq => by cases heq
        closing := fun hmem => h.closing ((closing_concat rfl).mp hmem)
        sending := h.sending
        queue := (h.tail hqueue).1
        queued := (h.tail hqueue).2.1
        worker := fun call hcall => by cases hcall }
    · rw [World.observe, accepted_concat, handed_concat, haccepted]
      simp [Observation.accepted?, Observation.handed?]
    · rw [World.observe, handed_concat, recorded_concat, hhanded]
      simp [Observation.handed?, Observation.recorded?, Worker.record?]
  | flushing call queue hworker hqueue =>
    exact h.receive hworker hqueue rfl rfl fun call heq => by cases heq
  | shuttingDown call queue hworker hqueue =>
    exact h.receive hworker hqueue rfl rfl fun call _ => rfl
  | appended call encoded outcome hworker =>
    obtain ⟨file, sink, heq⟩ := appendLocal_frame w encoded outcome
    rw [heq]
    exact h.withWorker (by rw [hworker]; rfl) (fun call heq => by cases heq) _ _ _
  | recorded call encoded localResult outcome hworker =>
    obtain ⟨sharedLog, heq⟩ := appendShared_frame c w encoded outcome
    have hhanded := h.handed
    rw [hworker] at hhanded
    rw [heq]
    refine
      { accepted := ?_
        handed := ?_
        trace := h.trace.concat_other rfl fun call result heq => by cases heq
        closing := fun hmem => h.closing ((closing_concat rfl).mp hmem)
        sending := h.sending
        queue := h.queue
        queued := h.queued
        worker := fun call hcall => by cases hcall }
    · rw [World.observe, accepted_concat, handed_concat]
      simpa [Observation.accepted?, Observation.handed?] using h.accepted
    · rw [World.observe, handed_concat, recorded_concat, hhanded]
      simp [Observation.handed?, Observation.recorded?, Worker.record?]
  | flushed call outcome hworker =>
    obtain ⟨sink, heq⟩ := flushLocal_frame w outcome
    rw [heq]
    refine Orderly.observe ?_ rfl rfl rfl rfl fun call result heq => by cases heq
    exact h.withWorker (by rw [hworker]; rfl) (fun call heq => by cases heq) _ _ _
  | shutDown call outcome hworker =>
    obtain ⟨sink, heq⟩ := flushLocal_frame w outcome
    have haccepted := h.accepted
    have hhanded := h.handed
    rw [(h.worker call hworker).1, List.filterMap_nil, List.append_nil] at haccepted
    rw [hworker] at hhanded
    rw [heq]
    refine Orderly.observe ?_ rfl rfl rfl rfl fun call result _ => ?_
    · exact h.withWorker (by rw [hworker]; rfl) (fun call heq => by cases heq) _ _ _
    · exact (haccepted.trans (hhanded.trans (List.append_nil _))).symm
  | finished outcome hworker =>
    obtain ⟨sink, heq⟩ := flushLocal_frame w outcome
    rw [heq]
    exact h.withWorker (by rw [hworker]; rfl) (fun call heq => by cases heq) _ _ _

/-! ## Lines -/

/-- A file that ends where a line ends. -/
def Terminated (file : List UInt8) : Prop := file = [] ∨ ∃ before, file = before ++ [newline]

theorem linesAfter_append (beginning file rest : List UInt8) :
    linesAfter beginning (file ++ newline :: rest) =
      linesAfter beginning (file ++ [newline]) ++ linesAfter [] rest := by
  induction file generalizing beginning with
  | nil =>
    rw [List.nil_append, List.nil_append, linesAfter, linesAfter, if_pos rfl, if_pos rfl]
    rfl
  | cons byte file ih =>
    rw [List.cons_append, List.cons_append, linesAfter, linesAfter]
    by_cases h : byte = newline
    · rw [if_pos h, if_pos h, ih, List.cons_append]
    · rw [if_neg h, if_neg h, ih]

theorem completeLines_append {file : List UInt8} (h : Terminated file) (rest : List UInt8) :
    completeLines (file ++ rest) = completeLines file ++ completeLines rest := by
  rcases h with rfl | ⟨before, rfl⟩
  · rfl
  · rw [List.append_assoc]
    exact linesAfter_append [] before rest

theorem completeLines_line (encoded : Encoded) : completeLines encoded.line = [encoded.bytes] := by
  have hline : ∀ (l beginning : List UInt8), newline ∉ l →
      linesAfter beginning (l ++ [newline]) = [beginning ++ l] := by
    intro l
    induction l with
    | nil =>
      intro beginning _
      rw [List.nil_append, linesAfter, if_pos rfl, List.append_nil]
      rfl
    | cons byte l ih =>
      intro beginning hl
      rw [List.mem_cons, not_or] at hl
      rw [List.cons_append, linesAfter, if_neg (Ne.symm hl.1), ih _ hl.2, List.append_assoc]
      rfl
  exact hline encoded.bytes [] encoded.singleLine

theorem terminated_append {file more : List UInt8} (h : Terminated file) (hmore : Terminated more) :
    Terminated (file ++ more) := by
  rcases hmore with rfl | ⟨before, rfl⟩
  · rw [List.append_nil]
    exact h
  · exact .inr ⟨file ++ before, List.append_assoc file before [newline] |>.symm⟩

theorem terminated_line (encoded : Encoded) : Terminated encoded.line := .inr ⟨_, rfl⟩

/-! ## Clean runs -/

/-- A step that neither leaves a part of a line in the file nor loses the file handle. -/
def Clean (w : World) : Action → Prop
  | .append (.failed written) => ∀ call encoded, w.worker = .writing call encoded →
      w.sink = true → written = 0 ∨ encoded.line.length ≤ written
  | .append (.panicked _) => w.sink = false
  | .flushLocal (.panicked _) => w.sink = false
  | _ => True

/-- Each step of a run is clean. -/
def CleanRun (c : Destinations) : List Action → World → Prop
  | [], _ => True
  | a :: actions, w => Clean w a ∧ ∀ w', step c a w = some w' → CleanRun c actions w'

/-- The record that is in the file, and not yet acknowledged. -/
def Worker.written : Worker → List Encoded
  | .sharing _ encoded (.ok ()) => [encoded]
  | _ => []

/-- **Invariant**: the file ends where a line ends and has the acknowledged records. -/
structure Present (c : Destinations) (w : World) : Prop where
  sink : w.sink = c.file
  terminated : c.file = true → Terminated w.file
  inFile : c.file = true → ((acknowledged w.trace ++ w.worker.written).map Encoded.bytes).Sublist
    (completeLines w.file)
  inShared : c.shared = true → (acknowledged w.trace).Sublist w.sharedLog

theorem acknowledged_concat {trace : List Observation} {o : Observation} :
    acknowledged (trace ++ [o]) = acknowledged trace ++ o.ok?.toList := by
  rw [acknowledged, List.filterMap_append, acknowledged]
  cases h : o.ok? with
  | none => rw [List.filterMap_cons_none h, List.filterMap_nil, Option.toList_none]
  | some encoded => rw [List.filterMap_cons_some h, List.filterMap_nil, Option.toList_some]

namespace Present

theorem start (c : Destinations) {file : List UInt8} (hfile : Terminated file) :
    Present c (World.start c file) where
  sink := rfl
  terminated := fun _ => hfile
  inFile := fun _ => List.nil_sublist _
  inShared := fun _ => List.nil_sublist _

/-- Nothing happens to the destinations. -/
theorem of_eq (h : Present c w) (hsink : w'.sink = w.sink) (hfile : w'.file = w.file)
    (hshared : w'.sharedLog = w.sharedLog) (htrace : acknowledged w'.trace = acknowledged w.trace)
    (hwritten : w'.worker.written = w.worker.written) : Present c w' where
  sink := hsink.trans h.sink
  terminated := fun hc => hfile ▸ h.terminated hc
  inFile := fun hc => by
    rw [hfile, htrace, hwritten]
    exact h.inFile hc
  inShared := fun hc => by
    rw [hshared, htrace]
    exact h.inShared hc

theorem acknowledged_observe {o : Observation} (ho : o.ok? = none) :
    acknowledged (w.observe o).trace = acknowledged w.trace := by
  rw [World.observe, acknowledged_concat, ho, Option.toList_none, List.append_nil]

/-- Without a panic a flush changes nothing. -/
theorem flushLocal_eq {outcome : TaskOutcome} (hclean : Clean w (.flushLocal outcome)) :
    (w.flushLocal outcome).1 = w := by
  unfold World.flushLocal
  split
  · next hsink =>
    cases outcome with
    | done => rfl
    | failed written => rfl
    | panicked written => exact absurd (hclean.symm.trans hsink) Bool.false_ne_true
  · rfl

/-- A clean append adds the line of its record when it succeeds, and a line or nothing when it
fails. -/
theorem appendLocal_clean {call : ℕ} {encoded : Encoded} {outcome : TaskOutcome}
    (hworker : w.worker = .writing call encoded) (hclean : Clean w (.append outcome))
    (hsink : w.sink = true) :
    ∃ more result, w.appendLocal encoded outcome = ({ w with file := w.file ++ more }, result) ∧
      (more = encoded.line ∨ more = [] ∧ result ≠ .ok ()) := by
  unfold World.appendLocal
  rw [if_pos hsink]
  cases outcome with
  | done => exact ⟨encoded.line, .ok (), rfl, .inl rfl⟩
  | failed written =>
    refine ⟨encoded.line.take written, .error .io, rfl, ?_⟩
    rcases hclean call encoded hworker hsink with rfl | hwhole
    · exact .inr ⟨List.take_zero, fun h => by cases h⟩
    · exact .inl (List.take_of_length_le hwhole)
  | panicked written => exact absurd (hclean.symm.trans hsink) Bool.false_ne_true

theorem appended (h : Present c w) {call : ℕ} {encoded : Encoded} {outcome : TaskOutcome}
    (hworker : w.worker = .writing call encoded) (hclean : Clean w (.append outcome)) :
    Present c { (w.appendLocal encoded outcome).1 with
      worker := .sharing call encoded (w.appendLocal encoded outcome).2 } := by
  have hold : c.file = true → ((acknowledged w.trace).map Encoded.bytes).Sublist
      (completeLines w.file) := by
    intro hc
    have hwritten : w.worker.written = [] := by
      rw [hworker]
      rfl
    have hfile := h.inFile hc
    rw [hwritten, List.append_nil] at hfile
    exact hfile
  by_cases hsink : w.sink = true
  · obtain ⟨more, result, heq, hmore⟩ := appendLocal_clean hworker hclean hsink
    rw [heq]
    have hend : Terminated more := by
      rcases hmore with rfl | ⟨rfl, -⟩
      · exact terminated_line encoded
      · exact .inl rfl
    refine ⟨h.sink, fun hc => terminated_append (h.terminated hc) hend, fun hc => ?_, h.inShared⟩
    show ((acknowledged w.trace ++ Worker.written (.sharing call encoded result)).map
      Encoded.bytes).Sublist (completeLines (w.file ++ more))
    rw [completeLines_append (h.terminated hc), List.map_append]
    refine (hold hc).append ?_
    rcases hmore with rfl | ⟨rfl, hfailed⟩
    · rw [completeLines_line]
      rcases result with e | ⟨⟩
      · exact List.nil_sublist _
      · exact List.Sublist.refl _
    · rcases result with e | ⟨⟩
      · exact List.nil_sublist _
      · exact absurd rfl hfailed
  · -- there is no file, or the handle would be there
    have hnone : c.file ≠ true := fun hc => hsink (h.sink.trans hc)
    have heq : w.appendLocal encoded outcome = (w, .ok ()) := if_neg hsink
    rw [heq]
    exact ⟨h.sink, h.terminated, fun hc => absurd hc hnone, h.inShared⟩

theorem appendShared_ok (c : Destinations) (w : World) (encoded : Encoded)
    (outcome : SharedOutcome) :
    ∃ more result, w.appendShared c encoded outcome =
        ({ w with sharedLog := w.sharedLog ++ more }, result) ∧
      (result = .ok () → c.shared = true → more = [encoded]) := by
  unfold World.appendShared
  by_cases hshared : c.shared = true
  · rw [if_pos hshared]
    cases outcome with
    | done => exact ⟨[encoded], .ok (), rfl, fun _ _ => rfl⟩
    | failed appended =>
      cases appended with
      | false =>
        refine ⟨[], .error .shared, ?_, fun h => by cases h⟩
        rw [List.append_nil]
      | true => exact ⟨[encoded], .error .shared, rfl, fun h => by cases h⟩
  · rw [if_neg hshared]
    refine ⟨[], .ok (), ?_, fun _ h => absurd h hshared⟩
    rw [List.append_nil]

theorem combine_eq_ok {localResult sharedResult : Except AuditError Unit}
    (h : combineDestinationResults localResult sharedResult = .ok ()) :
    localResult = .ok () ∧ sharedResult = .ok () := by
  rcases localResult with e | ⟨⟩
  · rcases sharedResult with e' | ⟨⟩
    · cases h
    · cases h
  · rcases sharedResult with e' | ⟨⟩
    · cases h
    · exact ⟨rfl, rfl⟩

theorem recorded (h : Present c w) {call : ℕ} {encoded : Encoded}
    {localResult : Except AuditError Unit} (outcome : SharedOutcome)
    (hworker : w.worker = .sharing call encoded localResult) :
    Present c ({ (w.appendShared c encoded outcome).1 with worker := .idle }.observe
      (.recorded call encoded
        (combineDestinationResults localResult (w.appendShared c encoded outcome).2))) := by
  obtain ⟨more, result, heq, hmore⟩ := appendShared_ok c w encoded outcome
  rw [heq]
  have hacknowledged : acknowledged (w.trace ++ [.recorded call encoded
      (combineDestinationResults localResult result)]) =
      acknowledged w.trace ++
        if combineDestinationResults localResult result = .ok () then [encoded] else [] := by
    rw [acknowledged_concat]
    rcases combineDestinationResults localResult result with e | ⟨⟩
    · rfl
    · rfl
  refine ⟨h.sink, h.terminated, fun hc => ?_, fun hc => ?_⟩
  · have hfile := h.inFile hc
    rw [hworker] at hfile
    show ((acknowledged (w.trace ++ [_]) ++ []).map Encoded.bytes).Sublist (completeLines w.file)
    rw [hacknowledged, List.append_nil]
    split
    · next hok =>
      rw [(combine_eq_ok hok).1] at hfile
      exact hfile
    · rw [List.append_nil]
      exact ((List.sublist_append_left _ _).map _).trans hfile
  · show (acknowledged (w.trace ++ [_])).Sublist (w.sharedLog ++ more)
    rw [hacknowledged]
    split
    · next hok =>
      rw [hmore (combine_eq_ok hok).2 hc]
      exact (h.inShared hc).append (List.Sublist.refl _)
    · exact (h.inShared hc).append (List.nil_sublist _)

/-- **Step lemma**: a clean step keeps the records in the destinations. -/
theorem transition (h : Present c w) (hclean : Clean w a) (ht : Transition c w a w') :
    Present c w' := by
  cases ht with
  | refused call error sending hsending => exact h.of_eq rfl rfl rfl (acknowledged_observe rfl) rfl
  | accepted call encoded hopen => exact h.of_eq rfl rfl rfl (acknowledged_observe rfl) rfl
  | acceptedFlush call hopen => exact h.of_eq rfl rfl rfl rfl rfl
  | closed call hopen => exact h.of_eq rfl rfl rfl (acknowledged_observe rfl) rfl
  | sent call hsending => exact h.of_eq rfl rfl rfl rfl rfl
  | cancelled => exact h.of_eq rfl rfl rfl rfl rfl
  | dropped => exact h.of_eq rfl rfl rfl rfl rfl
  | finishing hworker hqueue => exact h.of_eq rfl rfl rfl rfl (by rw [hworker]; rfl)
  | handed call encoded queue hworker hqueue =>
    exact h.of_eq rfl rfl rfl (acknowledged_observe rfl) (by rw [hworker]; rfl)
  | flushing call queue hworker hqueue => exact h.of_eq rfl rfl rfl rfl (by rw [hworker]; rfl)
  | shuttingDown call queue hworker hqueue => exact h.of_eq rfl rfl rfl rfl (by rw [hworker]; rfl)
  | appended call encoded outcome hworker => exact h.appended hworker hclean
  | recorded call encoded localResult outcome hworker => exact h.recorded outcome hworker
  | flushed call outcome hworker =>
    rw [flushLocal_eq hclean]
    exact h.of_eq rfl rfl rfl (acknowledged_observe rfl) (by rw [hworker]; rfl)
  | shutDown call outcome hworker =>
    rw [flushLocal_eq hclean]
    exact h.of_eq rfl rfl rfl (acknowledged_observe rfl) (by rw [hworker]; rfl)
  | finished outcome hworker =>
    rw [flushLocal_eq hclean]
    exact h.of_eq rfl rfl rfl rfl (by rw [hworker]; rfl)

end Present

/-! ## Runs -/

/-- **Run lemma**: a run of clean steps keeps both invariants. -/
theorem invariants_run {actions : List Action} (ho : Orderly w) (hp : Present c w)
    (hrun : run c actions w = some w') (hclean : CleanRun c actions w) :
    Orderly w' ∧ Present c w' := by
  induction actions generalizing w with
  | nil =>
    cases hrun
    exact ⟨ho, hp⟩
  | cons a actions ih =>
    obtain ⟨w₁, hstep, hrest⟩ := Option.bind_eq_some_iff.mp hrun
    have ht := transition_of_step hstep
    exact ih (ho.transition ht) (hp.transition hclean.1 ht) hrest (hclean.2 w₁ hstep)

/-- In every run of clean steps, on a file that ends where a line ends, the audit log keeps its
promise in every state. -/
theorem clean_run_complete (c : Destinations) {file : List UInt8} (hfile : Terminated file)
    {actions : List Action} {w : World} (hrun : run c actions (World.start c file) = some w)
    (hclean : CleanRun c actions (World.start c file)) : Complete c w := by
  obtain ⟨ho, hp⟩ := invariants_run (orderly_start c file) (.start c hfile) hrun hclean
  refine ⟨?_, ho.trace.closed, ho.trace.drained, fun hc => ?_, hp.inShared⟩
  · rw [ho.accepted]
    exact List.prefix_append _ _
  · refine List.Sublist.trans ?_ (hp.inFile hc)
    exact (List.sublist_append_left _ _).map _

theorem cleanRun_of_clean {actions : List Action} (h : ∀ a ∈ actions, ∀ w, Clean w a) :
    CleanRun c actions w := by
  induction actions generalizing w with
  | nil => trivial
  | cons a actions ih =>
    exact ⟨h a List.mem_cons_self w, fun w' _ => ih fun a' ha => h a' (List.mem_cons_of_mem _ ha)⟩

/-- An event of an operator. -/
def auditEvent (eventId action : String) : Json :=
  .object [("schema_version", .nat 2), ("event_id", .string eventId),
    ("content_sha256", .string "0"), ("timestamp", .nat 0), ("actor", .string "operator"),
    ("action", .string action)]

def reload : Encoded := ⟨(auditEvent "1" "config.reload").bytes, by decide +kernel⟩

def rollback : Encoded := ⟨(auditEvent "2" "config.rollback").bytes, by decide +kernel⟩

/-- A record that is written and a shutdown. -/
def recordAndShutdown : List Action :=
  [.record 0 reload, .receive, .shutdown 1, .append .done, .sendShutdown, .share .done, .receive,
    .flushLocal .done]

theorem recordAndShutdown_complete :
    ∃ w, run ⟨true, true⟩ recordAndShutdown (World.start ⟨true, true⟩ []) = some w ∧
      acknowledged w.trace = [reload] ∧ Complete ⟨true, true⟩ w := by
  refine ⟨_, rfl, rfl, @clean_run_complete ⟨true, true⟩ [] (.inl rfl) recordAndShutdown _ rfl
    (cleanRun_of_clean ?_)⟩
  intro a ha w
  simp only [recordAndShutdown, List.mem_cons, List.not_mem_nil, or_false] at ha
  rcases ha with rfl | rfl | rfl | rfl | rfl | rfl | rfl | rfl <;> trivial

/-- A write that is cut after its first byte, and another record. -/
def tornWrite : List Action :=
  [.record 0 reload, .receive, .append (.failed 1), .share .done, .record 1 rollback, .receive,
    .append .done, .share .done]

/-- A write that panics, and another record. -/
def panickedWrite : List Action :=
  [.record 0 reload, .receive, .append (.panicked 0), .share .done, .record 1 rollback, .receive,
    .append .done, .share .done]

/-- The second record is acknowledged, but in the first run it follows a byte of the first record,
and in the second run it is not written at all. -/
theorem torn_and_panicked_writes :
    (∃ w, run ⟨true, false⟩ tornWrite (World.start ⟨true, false⟩ []) = some w ∧
      acknowledged w.trace = [rollback] ∧
      completeLines w.file = [reload.bytes.take 1 ++ rollback.bytes] ∧ ¬ Complete ⟨true, false⟩ w) ∧
    ∃ w, run ⟨true, false⟩ panickedWrite (World.start ⟨true, false⟩ []) = some w ∧
      acknowledged w.trace = [rollback] ∧ w.file = [] ∧ ¬ Complete ⟨true, false⟩ w := by
  constructor
  · obtain ⟨w, hrun, hacknowledged, hfile⟩ :
        ∃ w, run ⟨true, false⟩ tornWrite (World.start ⟨true, false⟩ []) = some w ∧
          acknowledged w.trace = [rollback] ∧ w.file = reload.line.take 1 ++ rollback.line :=
      ⟨_, rfl, rfl, rfl⟩
    have hlines : completeLines w.file = [reload.bytes.take 1 ++ rollback.bytes] := by
      rw [hfile]
      decide +kernel
    refine ⟨w, hrun, hacknowledged, hlines, fun h => ?_⟩
    have hmem := h.inFile rfl
    rw [hlines, hacknowledged] at hmem
    exact absurd hmem (by decide +kernel)
  · refine ⟨_, rfl, rfl, rfl, fun h => ?_⟩
    have hmem := h.inFile rfl
    exact absurd hmem (by decide +kernel)

end WayfinderRouter.Audit
