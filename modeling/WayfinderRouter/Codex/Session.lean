import WayfinderRouter.Codex.Login
import WayfinderRouter.Hoare

/-!
# A session of the app server

A session sends requests and reads messages, one line each. While it waits for a response it
queues notifications, and it denies every request of the server. A caller that holds the session
is given a script of what its environment does: what each read yields, how each write ends, and
when it is cancelled. A caller whose script has ended is dropped, together with its session.

What has happened on a session is kept in its log, which the source does not have.

## Main definitions

- `Session`, `Event` — a session and its log
- `classifyMessage` — the kinds of messages
- `Session.request`, `Session.nextNotification` — how a caller uses a session
- `Session.connect` — a new session
-/

namespace WayfinderRouter.Codex

open Hoare

def maxJsonlLineBytes : ℕ := 65536

def maxPendingRequests : ℕ := 16

def maxNotificationQueue : ℕ := 128

def maxResponseBytes : ℕ := 65536

def supportedHelperVersion : String := "0.145.0-alpha.18"

/-- Errors after which a session is not used again. -/
def isFatalError : CodexAppServerError → Bool
  | .invalidConfiguration | .runtimeUnavailable | .malformedProtocol | .lineTooLarge
  | .responseTooLarge | .correlationFailed | .notificationQueueFull | .timedOut
  | .forbiddenAction | .unsupportedAuthentication | .endOfStream | .insecureCredentialStore => true
  | _ => false

/-! ## Messages -/

structure Request where
  id : ℕ
  method : String
  params : Json

def Request.value (r : Request) : Json :=
  .object [("method", .string r.method), ("id", .nat r.id), ("params", r.params)]

/-- The answer to a request of the server. -/
def denial (id : Json) : Json :=
  .object [("id", id), ("error", .object [("code", .number "-32601"),
    ("message", .string "Unsupported by this client")])]

inductive WireMessage where
  | response (id : ℕ) (result error : Option Json)
  | notification (notification : Notification)
  | serverRequest (id : Json)

def classifyMessage (value : Json) : Except CodexAppServerError WireMessage :=
  match value.asObject with
  | none => .error .malformedProtocol
  | some _ =>
    match value.get "id", (value.get "method").bind Json.asStr with
    | some id, some _ => .ok (.serverRequest id)
    | some id, none =>
      match id.asU64 with
      | none => .error .correlationFailed
      | some id => .ok (.response id (value.get "result") (value.get "error"))
    | none, some method =>
      .ok (.notification ⟨method, (value.get "params").getD (.object [])⟩)
    | none, none => .error .malformedProtocol

/-- `str::contains`. -/
def contains (text needle : String) : Bool := needle.toList <:+: text.toList

def classifyRemoteError (error : Json) : CodexAppServerError :=
  let message := (((error.get "message").bind Json.asStr).getD "").map Char.toLower
  if contains message "unauthor" || contains message "authentication" ||
      contains message "sign in" || contains message "login" then .authenticationRequired
  else .requestRejected

/-! ## Sessions -/

/-- What happens on a session. -/
inductive Event where
  | sent (request : Request)
  /-- A message is read, while the response to a request is awaited or not. -/
  | received (awaiting : Option Request) (message : Json)
  /-- The result of a request is returned to its caller. -/
  | returned (request : Request) (result : Json)

/-- What becomes of a notification that is taken from a session. -/
inductive Use where
  | applied
  | discarded
deriving DecidableEq

/-- A notification that is taken, with the login state before and afterwards. -/
structure Taken where
  notification : Notification
  use : Use
  before : LoginState
  after : LoginState

structure Session where
  notifications : List Notification
  nextId : ℕ
  pending : ℕ
  initialized : Bool
  log : List Event
  taken : List Taken

/-- A session before its first request. -/
def Session.fresh : Session := ⟨[], 1, 0, false, [], []⟩

/-- The session with one more event. -/
def Session.logged (s : Session) (event : Event) : Session := { s with log := s.log ++ [event] }

/-! ## Scripts -/

/-- Failures of the transport and of the decoder of lines. -/
inductive ReadFailure where
  | runtimeUnavailable
  | endOfStream
  | lineTooLarge
  | responseTooLarge
  | malformedProtocol

def ReadFailure.error : ReadFailure → CodexAppServerError
  | .runtimeUnavailable => .runtimeUnavailable
  | .endOfStream => .endOfStream
  | .lineTooLarge => .lineTooLarge
  | .responseTooLarge => .responseTooLarge
  | .malformedProtocol => .malformedProtocol

/-- What a read yields. -/
inductive Read where
  | message (value : Json)
  | failed (failure : ReadFailure)
  /-- The time is up. -/
  | elapsed

/-- How a write ends. -/
inductive Write where
  | written
  | failed
  | elapsed

structure Script where
  reads : List Read
  writes : List Write
  /-- Whether the caller has been cancelled, each time that it looks. -/
  cancels : List Bool

structure Link where
  session : Session
  script : Script

/-- Why a caller stops early. -/
inductive Stop where
  | failed (error : CodexAppServerError)
  | dropped

/-- The session may be put back after this. -/
def Spares : Stop → Prop
  | .failed e => isFatalError e = false
  | .dropped => False

/-- Computations on a session. -/
abbrev Exchange (α : Type) := EStateM Stop Link α

section Computations

variable {σ α : Type}

def fail (error : CodexAppServerError) : EStateM Stop σ α := throw (.failed error)

def ofExcept : Except CodexAppServerError α → EStateM Stop σ α
  | .ok a => pure a
  | .error e => fail e

/-- An error becomes a value; a dropped caller stays dropped. -/
def attempt (c : EStateM Stop σ α) : EStateM Stop σ (Except CodexAppServerError α) := fun s =>
  match c s with
  | .ok a s' => .ok (.ok a) s'
  | .error (.failed e) s' => .ok (.error e) s'
  | .error .dropped s' => .error .dropped s'

end Computations

namespace Session

def updateSession (f : Session → Session) : Exchange Unit :=
  modify fun l => { l with session := f l.session }

def record (event : Event) : Exchange Unit :=
  updateSession fun s => s.logged event

def takeRead : Exchange Read := fun l =>
  match l.script.reads with
  | [] => .error .dropped l
  | read :: reads => .ok read { l with script := { l.script with reads := reads } }

def takeWrite : Exchange Write := fun l =>
  match l.script.writes with
  | [] => .error .dropped l
  | write :: writes => .ok write { l with script := { l.script with writes := writes } }

def isCancelled : Exchange Bool := fun l =>
  match l.script.cancels with
  | [] => .ok false l
  | cancel :: cancels => .ok cancel { l with script := { l.script with cancels := cancels } }

/-- An upper bound for the iterations of a loop that takes a notification in each of them: the
script has ended by then. -/
def steps : Exchange ℕ := fun l =>
  .ok (l.script.reads.length + l.session.notifications.length + 1) l

/-! ## Lines -/

def checkSize (value : Json) : Exchange Unit :=
  if maxJsonlLineBytes < value.bytes.length then fail .requestTooLarge else pure ()

def write : Exchange Unit := do
  match ← takeWrite with
  | .written => pure ()
  | .failed => fail .runtimeUnavailable
  | .elapsed => fail .timedOut

/-- A value is sent, and a request is recorded. -/
def sendValue (value : Json) (request : Option Request) : Exchange Unit := do
  checkSize value
  match request with
  | some request => record (.sent request)
  | none => pure ()
  write

/-- A caller that selects between a notification and its cancellation may also be cancelled here.
-/
def denyServerRequest (id : Json) (cancellable : Bool) : Exchange Unit := do
  checkSize (denial id)
  if cancellable then
    if ← isCancelled then fail .interrupted
  write

def queue (notification : Notification) : Exchange Unit := fun l =>
  if maxNotificationQueue ≤ l.session.notifications.length then
    .error (.failed .notificationQueueFull) l
  else .ok () { l with session :=
    { l.session with notifications := l.session.notifications ++ [notification] } }

def readMessage (awaiting : Option Request) : Exchange WireMessage := do
  match ← takeRead with
  | .message value => do
    record (.received awaiting value)
    ofExcept (classifyMessage value)
  | .failed failure => fail failure.error
  | .elapsed => fail .timedOut

/-! ## Requests -/

/-- The loop reads a message in each iteration. -/
def waitForResponse (request : Request) : ℕ → Exchange Json
  | 0 => throw .dropped
  | fuel + 1 => do
    match ← readMessage (some request) with
    | .response id result error =>
      if id ≠ request.id then fail .correlationFailed
      else
        match result, error with
        | some result, none => do
          record (.returned request result)
          pure result
        | none, some error => fail (classifyRemoteError error)
        | _, _ => fail .malformedProtocol
    | .notification notification => do
      queue notification
      waitForResponse request fuel
    | .serverRequest id => do
      denyServerRequest id false
      fail .forbiddenAction

/-- The next id. -/
def allocate (first : Bool) : Exchange ℕ := fun l =>
  if maxPendingRequests ≤ l.session.pending ∨ (!first && !l.session.initialized) then
    .error (.failed .malformedProtocol) l
  -- `checked_add`
  else if U64.max ≤ l.session.nextId then .error (.failed .malformedProtocol) l
  else .ok l.session.nextId { l with session :=
    { l.session with nextId := l.session.nextId + 1, pending := l.session.pending + 1 } }

def requestInner (method : String) (params : Json) (first : Bool) : Exchange Json := do
  let id ← allocate first
  let request : Request := ⟨id, method, params⟩
  let result ← attempt do
    sendValue request.value (some request)
    waitForResponse request (← steps)
  updateSession fun s => { s with pending := s.pending - 1 }
  ofExcept result

def request (method : String) (params : Json) : Exchange Json :=
  requestInner method params false

/-! ## Notifications -/

def popNotification : Exchange (Option Notification) := fun l =>
  match l.session.notifications with
  | [] => .ok none l
  | notification :: notifications =>
    .ok (some notification) { l with session :=
      { l.session with notifications := notifications } }

def nextNotification (cancellable : Bool) : Exchange Notification := do
  match ← popNotification with
  | some notification => pure notification
  | none =>
    match ← readMessage none with
    | .notification notification => pure notification
    | .response .. => fail .correlationFailed
    | .serverRequest id => do
      denyServerRequest id cancellable
      fail .forbiddenAction

def drainNotifications : Exchange (List Notification) := fun l =>
  .ok l.session.notifications { l with session := { l.session with notifications := [] } }

end Session

/-! ## New sessions -/

/-- The configuration, and the environment that it is checked against. -/
structure RuntimeConfig where
  codexHome : String
  workspace : String
  clientVersion : String
  /-- `std::fs::canonicalize`. -/
  canonicalize : String → Option String
  platformFamily : String
  platformOs : String

/-- The canonical path, when it is the expected one. -/
def RuntimeConfig.checkPath (config : RuntimeConfig) (path expected : String) :
    Except CodexAppServerError Unit :=
  match config.canonicalize path, config.canonicalize expected with
  | some path, some expected =>
    if path = expected then .ok () else .error .invalidConfiguration
  | _, _ => .error .invalidConfiguration

def require {α : Type} (o : Option α) : Except CodexAppServerError α :=
  match o with
  | some a => .ok a
  | none => .error .malformedProtocol

/-- The user agent names the supported version. -/
def supportedUserAgent (value : String) : Bool :=
  let expected := "wayfinder/".toList ++ supportedHelperVersion.toList
  value ≠ "" && value.utf8ByteSize ≤ 256 &&
    expected.isPrefixOf value.toList &&
    match value.toList.drop expected.length with
    | [] => true
    | c :: _ => isWhitespace c

def validateInitializeResult (config : RuntimeConfig) (result : Json) :
    Except CodexAppServerError Unit := do
  let codexHome ← require (((result.get "codexHome").bind Json.asStr).filter
    fun path => path ≠ "" && path.utf8ByteSize ≤ 4096)
  config.checkPath codexHome config.codexHome
  let family ← require ((result.get "platformFamily").bind Json.asStr)
  let platformOs ← require ((result.get "platformOs").bind Json.asStr)
  if family ≠ config.platformFamily ∨ platformOs ≠ config.platformOs then
    throw .invalidConfiguration
  let userAgent ← require (((result.get "userAgent").bind Json.asStr).filter supportedUserAgent)
  if userAgent.toList.any isControl then throw .malformedProtocol

def Session.connect (config : RuntimeConfig) : Exchange Unit := do
  let result ← requestInner "initialize" (.object [("clientInfo", .object
    [("name", .string "wayfinder"), ("title", .string "Wayfinder"),
      ("version", .string config.clientVersion)])]) true
  ofExcept (validateInitializeResult config result)
  sendValue (.object [("method", .string "initialized"), ("params", .object [])]) none
  updateSession fun s => { s with initialized := true }

/-! ## Specifications -/

section Computations

variable {σ α : Type} {P : σ → Prop} {Q : α → σ → Prop} {E : Stop → σ → Prop}

lemma fail_triple {e : CodexAppServerError} (h : ∀ s, P s → E (.failed e) s) :
    Triple P (fail e : EStateM Stop σ α) Q E :=
  Triple.throw _ h

/-- What follows a failure is not reached. -/
lemma fail_bind_triple {β : Type} {e : CodexAppServerError} {f : β → EStateM Stop σ α}
    (h : ∀ s, P s → E (.failed e) s) : Triple P ((fail e : EStateM Stop σ β) >>= f) Q E :=
  Triple.bind (Q := fun _ _ => False) (fail_triple h) fun _ _ hs => hs.elim

lemma ofExcept_triple {x : Except CodexAppServerError α}
    (h : ∀ e, x = .error e → ∀ s, P s → E (.failed e) s) :
    Triple P (ofExcept x) (fun a s => x = .ok a ∧ P s) E := by
  cases x with
  | ok a => exact Triple.pure a fun _ hs => ⟨rfl, hs⟩
  | error e => exact fail_triple (h e rfl)

/-- The errors of the computation become values. -/
lemma attempt_triple {c : EStateM Stop σ α} (hc : Triple P c Q E) :
    Triple P (attempt c)
      (fun result s => match result with
        | .ok a => Q a s
        | .error e => E (.failed e) s) E := by
  intro s hs
  have h := hc s hs
  unfold attempt
  revert h
  cases c s with
  | ok a s' => exact id
  | error stop s' =>
    cases stop with
    | failed e => exact id
    | dropped => exact id

end Computations

/-- A triple whose assertions are about the session. -/
def Spec {α : Type} (P : Session → Prop) (c : Exchange α) (Q : α → Session → Prop)
    (E : Stop → Session → Prop) : Prop :=
  Triple (fun l => P l.session) c (fun a l => Q a l.session) (fun stop l => E stop l.session)

section Exchanges

open Session

variable {α β : Type} {P : Session → Prop} {Q : α → Session → Prop} {R : β → Session → Prop}
variable {E : Stop → Session → Prop} {c : Exchange α} {f : α → Exchange β}

lemma Spec.bind (hc : Spec P c Q E) (hf : ∀ a, Spec (Q a) (f a) R E) : Spec P (c >>= f) R E :=
  Triple.bind hc hf

lemma Spec.consequence {P' : Session → Prop} {Q' : α → Session → Prop}
    {E' : Stop → Session → Prop} (h : Spec P c Q E) (hpre : ∀ s, P' s → P s)
    (hpost : ∀ a s, Q a s → Q' a s) (herror : ∀ e s, E e s → E' e s) : Spec P' c Q' E' :=
  Triple.consequence h (fun l => hpre l.session) (fun a l => hpost a l.session)
    (fun e l => herror e l.session)

lemma Spec.weaken_pre {P' : Session → Prop} (h : Spec P c Q E) (hpre : ∀ s, P' s → P s) :
    Spec P' c Q E :=
  h.consequence hpre (fun _ _ h => h) (fun _ _ h => h)

lemma Spec.weaken_error {E' : Stop → Session → Prop} (h : Spec P c Q E)
    (herror : ∀ e s, E e s → E' e s) : Spec P c Q E' :=
  h.consequence (fun _ h => h) (fun _ _ h => h) herror

lemma Spec.pure (a : α) (h : ∀ s, P s → Q a s) : Spec P (Pure.pure a) Q E :=
  Triple.pure a fun l => h l.session

lemma fail_spec {e : CodexAppServerError} (h : ∀ s, P s → E (.failed e) s) :
    Spec P (fail e : Exchange α) Q E :=
  fail_triple fun l => h l.session

lemma ofExcept_spec {x : Except CodexAppServerError α}
    (h : ∀ e, x = .error e → ∀ s, P s → E (.failed e) s) :
    Spec P (ofExcept x) (fun a s => x = .ok a ∧ P s) E :=
  ofExcept_triple fun e he l => h e he l.session

lemma attempt_spec (hc : Spec P c Q E) :
    Spec P (attempt c)
      (fun result s => match result with
        | .ok a => Q a s
        | .error e => E (.failed e) s) E := by
  refine (attempt_triple hc).consequence (fun _ h => h) ?_ (fun _ _ h => h)
  intro result l h
  cases result with
  | ok a => exact h
  | error e => exact h

lemma updateSession_spec {Q : Unit → Session → Prop} {g : Session → Session}
    (h : ∀ s, P s → Q () (g s)) : Spec P (updateSession g) Q E := fun l => h l.session

lemma record_spec {Q : Unit → Session → Prop} {event : Event}
    (h : ∀ s, P s → Q () (s.logged event)) : Spec P (record event) Q E := fun l => h l.session

lemma steps_spec : Spec P steps (fun _ => P) E := fun _ hl => hl

lemma isCancelled_spec : Spec P isCancelled (fun _ => P) E := by
  intro l hl
  unfold isCancelled
  cases l.script.cancels with
  | nil => exact hl
  | cons cancel cancels => exact hl

lemma takeRead_spec (hE : ∀ s, P s → E .dropped s) : Spec P takeRead (fun _ => P) E := by
  intro l hl
  unfold takeRead
  cases l.script.reads with
  | nil => exact hE _ hl
  | cons read reads => exact hl

lemma takeWrite_spec (hE : ∀ s, P s → E .dropped s) : Spec P takeWrite (fun _ => P) E := by
  intro l hl
  unfold takeWrite
  cases l.script.writes with
  | nil => exact hE _ hl
  | cons write writes => exact hl

/-- The errors of a write end the session. -/
lemma write_spec (hE : ∀ stop s, ¬ Spares stop → P s → E stop s) :
    Spec P write (fun _ => P) E := by
  refine Spec.bind (takeWrite_spec fun s => hE _ s id) fun w => ?_
  cases w with
  | written => exact Spec.pure _ fun _ h => h
  | failed => exact fail_spec fun s => hE _ s (by simp [Spares, isFatalError])
  | elapsed => exact fail_spec fun s => hE _ s (by simp [Spares, isFatalError])

lemma checkSize_spec {value : Json}
    (hE : maxJsonlLineBytes < value.bytes.length → ∀ s, P s → E (.failed .requestTooLarge) s) :
    Spec P (checkSize value) (fun _ => P) E := by
  unfold checkSize
  split
  · next h => exact fail_spec (hE h)
  · exact Spec.pure _ fun _ h => h

lemma error_of_readFailure (failure : ReadFailure) : ¬ Spares (.failed failure.error) := by
  cases failure <;> simp [Spares, isFatalError, ReadFailure.error]

lemma fatal_of_classifyMessage {message : Json} {e : CodexAppServerError}
    (h : classifyMessage message = .error e) : ¬ Spares (.failed e) := by
  unfold classifyMessage at h
  split at h
  · cases h
    simp [Spares, isFatalError]
  · split at h
    · cases h
    · split at h
      · cases h
        simp [Spares, isFatalError]
      · cases h
    · cases h
    · cases h
      simp [Spares, isFatalError]

/-- A message is logged, whatever it is; the errors of a read end the session. -/
lemma readMessage_spec {awaiting : Option Request} (hE : ∀ stop s, ¬ Spares stop → P s → E stop s)
    (hE' : ∀ stop s message, ¬ Spares stop → P s →
      E stop (s.logged (.received awaiting message))) :
    Spec P (readMessage awaiting)
      (fun w s => ∃ s₀ message, P s₀ ∧ s = s₀.logged (.received awaiting message) ∧
        classifyMessage message = .ok w) E := by
  refine Spec.bind (takeRead_spec fun s => hE _ s id) fun read => ?_
  cases read with
  | message value =>
    refine Spec.bind (record_spec fun s hs => ⟨s, hs, rfl⟩ :
      Spec P _ (fun _ s => ∃ s₀, P s₀ ∧ s = s₀.logged (.received awaiting value)) E) fun _ => ?_
    refine (ofExcept_spec ?_).consequence (fun _ h => h) ?_ (fun _ _ h => h)
    · rintro e he s ⟨s₀, hs₀, rfl⟩
      exact hE' _ s₀ value (fatal_of_classifyMessage he) hs₀
    · rintro w s ⟨hw, s₀, hs₀, rfl⟩
      exact ⟨s₀, value, hs₀, rfl, hw⟩
  | failed failure => exact fail_spec fun s => hE _ s (error_of_readFailure failure)
  | elapsed => exact fail_spec fun s => hE _ s (by simp [Spares, isFatalError])

/-- A request of the server is denied. -/
lemma denyServerRequest_spec {id : Json} {cancellable : Bool}
    (hlarge : maxJsonlLineBytes < (denial id).bytes.length →
      ∀ s, P s → E (.failed .requestTooLarge) s)
    (hcancel : cancellable → ∀ s, P s → E (.failed .interrupted) s)
    (hE : ∀ stop s, ¬ Spares stop → P s → E stop s) :
    Spec P (denyServerRequest id cancellable) (fun _ => P) E := by
  refine Spec.bind (checkSize_spec hlarge) fun _ => ?_
  cases cancellable with
  | false => exact write_spec hE
  | true =>
    refine Spec.bind isCancelled_spec fun cancelled => ?_
    cases cancelled with
    | false => exact write_spec hE
    | true => exact fail_bind_triple fun l => hcancel rfl l.session

end Exchanges

end WayfinderRouter.Codex
