import WayfinderRouter.Json
import WayfinderRouter.Trace

/-!
# Logins of the app server

A login is started and cancelled by requests, and the server reports its completion. The manager
keeps the login that is pending. A call that starts a login first checks that none is pending,
then sends its request, and then stores the login, in three critical sections. Calls whose
sections interleave can overwrite a login that is still outstanding.

Requests are atomic here, and the time at which a login expires is up to the environment.

## Main definitions

- `applyNotification` — what a notification does to the pending login
- `LoginWorld`, `step` — the calls and their critical sections
- `Alternates` — a login starts only after the one before has ended

## Main results

- `logins_alternate` — runs in which starting calls do not overlap
-/

namespace WayfinderRouter.Codex

inductive CodexAppServerError where
  | invalidConfiguration
  | runtimeUnavailable
  | invalidRequest
  | requestTooLarge
  | responseTooLarge
  | malformedProtocol
  | lineTooLarge
  | correlationFailed
  | notificationQueueFull
  | timedOut
  | requestRejected
  | busy
  | authenticationRequired
  | usageLimitReached
  | unsupportedAuthentication
  | loginFailed
  | loginCancelled
  | modelUnavailable
  | forbiddenAction
  | turnFailed
  | interrupted
  | endOfStream
  | insecureCredentialStore
deriving DecidableEq

def maxIdentifierBytes : ℕ := 128

/-! ## Fields -/

def boundedString (value : Json) (field : String) (maximum : ℕ) :
    Except CodexAppServerError String :=
  match (value.get field).bind Json.asStr with
  | none => .error .malformedProtocol
  | some string =>
    if string = "" ∨ maximum < string.utf8ByteSize then .error .responseTooLarge else .ok string

/-- `char::is_control`. -/
def isControl (c : Char) : Bool := c.toNat < 32 || (127 ≤ c.toNat && c.toNat < 160)

def validIdentifier (identifier : String) : Bool :=
  identifier ≠ "" && identifier.utf8ByteSize ≤ maxIdentifierBytes &&
    !identifier.toList.any isControl

def validateIdentifier (identifier : String) : Except CodexAppServerError Unit :=
  if validIdentifier identifier then .ok () else .error .invalidRequest

def boundedHttpsUrl (value : Json) (field : String) : Except CodexAppServerError String := do
  let url ← boundedString value field 2048
  if "https://".toList.isPrefixOf url.toList then pure url else throw .malformedProtocol

/-! ## The pending login -/

inductive LoginMethod where
  | browser
  | deviceCode
deriving DecidableEq

/-- The pending login, without the time of its start. -/
structure PendingLogin where
  loginId : String
  method : LoginMethod
deriving DecidableEq

structure LoginState where
  pendingLogin : Option PendingLogin
  loginFailed : Bool
deriving DecidableEq

def LoginState.pendingId (l : LoginState) : Option String :=
  l.pendingLogin.map PendingLogin.loginId

structure Notification where
  method : String
  params : Json

/-- A completion of a login, when the permissions of the credential store are secure or not. -/
def applyCompleted (secure : Bool) (params : Json) (l : LoginState) :
    LoginState × Except CodexAppServerError Unit :=
  match (params.get "success").bind Json.asBool with
  | none => (l, .error .malformedProtocol)
  | some success =>
    -- both sides may be missing
    if l.pendingId = (params.get "loginId").bind Json.asStr then
      match success, secure with
      | true, false => (l, .error .insecureCredentialStore)
      | true, true => ({ l with pendingLogin := none }, .ok ())
      | false, _ => (⟨none, true⟩, .ok ())
    else (l, .ok ())

def applyUpdated (secure : Bool) (params : Json) (l : LoginState) :
    LoginState × Except CodexAppServerError Unit :=
  match params.get "authMode" with
  | some (.string mode) =>
    if mode = "chatgpt" then
      if secure then ({ l with pendingLogin := none }, .ok ())
      else (l, .error .insecureCredentialStore)
    else (l, .error .unsupportedAuthentication)
  | some .null => (l, .ok ())
  | _ => (l, .error .malformedProtocol)

def applyNotification (secure : Bool) (notification : Notification) (l : LoginState) :
    LoginState × Except CodexAppServerError Unit :=
  if notification.method = "account/login/completed" then
    applyCompleted secure notification.params l
  else if notification.method = "account/updated" then applyUpdated secure notification.params l
  else (l, .ok ())

/-- The notifications that a request has drained, until one of them fails. -/
def applyAll : List (Bool × Notification) → LoginState →
    LoginState × Except CodexAppServerError Unit
  | [], l => (l, .ok ())
  | (secure, notification) :: rest, l =>
    match applyNotification secure notification l with
    | (l', .error e) => (l', .error e)
    | (l', .ok ()) => applyAll rest l'

/-! ## Responses -/

inductive LoginStart where
  | browser (loginId authUrl : String)
  | deviceCode (loginId verificationUrl userCode : String)

def LoginStart.loginId : LoginStart → String
  | .browser loginId _ => loginId
  | .deviceCode loginId .. => loginId

/-- How `start_login` reads the response. -/
def parseLoginStart (method : LoginMethod) (response : Json) :
    Except CodexAppServerError LoginStart := do
  let responseType ← boundedString response "type" 64
  let loginId ← boundedString response "loginId" maxIdentifierBytes
  match method with
  | .browser =>
    if responseType = "chatgpt" then do
      let authUrl ← boundedHttpsUrl response "authUrl"
      pure (.browser loginId authUrl)
    else throw .unsupportedAuthentication
  | .deviceCode =>
    if responseType = "chatgptDeviceCode" then do
      let verificationUrl ← boundedHttpsUrl response "verificationUrl"
      let userCode ← boundedString response "userCode" 64
      pure (.deviceCode loginId verificationUrl userCode)
    else throw .unsupportedAuthentication

/-- How `cancel_login` reads the response. -/
def parseCancel (response : Json) : Except CodexAppServerError Unit := do
  let status ← boundedString response "status" 32
  if status = "canceled" then pure ()
  else if status = "notFound" then throw .requestRejected
  else throw .malformedProtocol

/-- The result of a request: the drained notifications are applied first. -/
def rpc (drained : List (Bool × Notification)) (response : Except CodexAppServerError Json)
    (l : LoginState) : LoginState × Except CodexAppServerError Json :=
  match applyAll drained l with
  | (l', .error e) => (l', .error e)
  | (l', .ok ()) => (l', response)

/-! ## Calls -/

/-- Where a call is, between its critical sections. -/
inductive Call where
  | idle
  /-- No login was pending, and the request is next. -/
  | starting (method : LoginMethod)
  /-- The login was accepted, and is stored next. -/
  | accepted (method : LoginMethod) (start : LoginStart)
  | cancelling (loginId : String)
  | cancelled (loginId : String)
  | loggedOut

/-- Why a login has ended. -/
inductive Cause where
  | completed
  | cancelled
  | expired
  | loggedOut
deriving DecidableEq

inductive LoginEvent where
  /-- A call has stored its login, and returns `Ok`. -/
  | started (call : ℕ) (loginId : String)
  | ended (loginId : String) (cause : Cause)
deriving DecidableEq

structure LoginWorld where
  login : LoginState
  calls : ℕ → Call
  trace : List LoginEvent

inductive Action where
  | checkStart (call : ℕ) (method : LoginMethod)
  | requestStart (call : ℕ) (drained : List (Bool × Notification))
      (response : Except CodexAppServerError Json)
  | storeLogin (call : ℕ)
  | checkCancel (call : ℕ) (loginId : String)
  | requestCancel (call : ℕ) (drained : List (Bool × Notification))
      (response : Except CodexAppServerError Json)
  | clearCancelled (call : ℕ)
  | requestLogout (call : ℕ) (drained : List (Bool × Notification))
      (response : Except CodexAppServerError Json)
  | clearLoggedOut (call : ℕ)
  /-- `take_expired_login`, of `account`. -/
  | takeExpired
  /-- A notification of another request or of a chat. -/
  | notify (secure : Bool) (notification : Notification)

namespace LoginWorld

def start : LoginWorld := ⟨⟨none, false⟩, fun _ => .idle, []⟩

def setCall (w : LoginWorld) (call : ℕ) (c : Call) : LoginWorld :=
  { w with calls := Function.update w.calls call c }

/-- The login state changes; a pending login that is cleared has ended. -/
def setLogin (w : LoginWorld) (l : LoginState) (cause : Cause) : LoginWorld :=
  { w with
    login := l
    trace := w.trace ++ match w.login.pendingId, l.pendingId with
      | some loginId, none => [.ended loginId cause]
      | _, _ => [] }

end LoginWorld

/-- A critical section, when it can be entered. -/
def step : Action → LoginWorld → Option LoginWorld
  | .checkStart call method, w =>
    match w.calls call with
    | .idle => some (if w.login.pendingLogin.isSome then w else w.setCall call (.starting method))
    | _ => none
  | .requestStart call drained response, w =>
    match w.calls call with
    | .starting method =>
      let (l, result) := rpc drained response w.login
      let w' := w.setLogin l .completed
      match result.bind (parseLoginStart method) with
      | .ok start => some (w'.setCall call (.accepted method start))
      | .error _ => some (w'.setCall call .idle)
    | _ => none
  | .storeLogin call, w =>
    match w.calls call with
    | .accepted method start =>
      some { w with
        login := ⟨some ⟨start.loginId, method⟩, false⟩
        calls := Function.update w.calls call .idle
        trace := w.trace ++ [.started call start.loginId] }
    | _ => none
  | .checkCancel call loginId, w =>
    match w.calls call with
    | .idle =>
      some (if validIdentifier loginId ∧ w.login.pendingId = some loginId then
        w.setCall call (.cancelling loginId) else w)
    | _ => none
  | .requestCancel call drained response, w =>
    match w.calls call with
    | .cancelling loginId =>
      let (l, result) := rpc drained response w.login
      let w' := w.setLogin l .completed
      match result.bind parseCancel with
      | .ok () => some (w'.setCall call (.cancelled loginId))
      | .error _ => some (w'.setCall call .idle)
    | _ => none
  | .clearCancelled call, w =>
    match w.calls call with
    | .cancelled loginId =>
      let w' := w.setCall call .idle
      some (if w.login.pendingId = some loginId then
        w'.setLogin { w.login with pendingLogin := none } .cancelled else w')
    | _ => none
  | .requestLogout call drained response, w =>
    match w.calls call with
    | .idle =>
      let (l, result) := rpc drained response w.login
      let w' := w.setLogin l .completed
      match result with
      | .ok _ => some (w'.setCall call .loggedOut)
      | .error _ => some w'
    | _ => none
  | .clearLoggedOut call, w =>
    match w.calls call with
    | .loggedOut => some ((w.setCall call .idle).setLogin ⟨none, false⟩ .loggedOut)
    | _ => none
  | .takeExpired, w => some (w.setLogin { w.login with pendingLogin := none } .expired)
  | .notify secure notification, w =>
    some (w.setLogin (applyNotification secure notification w.login).1 .completed)

def run : List Action → LoginWorld → Option LoginWorld
  | [], w => some w
  | a :: actions, w => (step a w).bind (run actions)

/-! ## Traces -/

/-- The login that a trace leaves outstanding. -/
def outstanding (trace : List LoginEvent) : Option String :=
  match trace.getLast? with
  | some (.started _ loginId) => some loginId
  | _ => none

/-- What an event requires of the events before it. -/
def LoginEvent.Fits (before : List LoginEvent) : LoginEvent → Prop
  | .started _ _ => outstanding before = none
  | .ended loginId _ => outstanding before = some loginId

/-- A login starts only when none is outstanding, and only an outstanding login ends. -/
def Alternates (trace : List LoginEvent) : Prop := Trace.Always LoginEvent.Fits trace

/-- Between two logins that start, the earlier one ends. -/
def EndsBetween (trace : List LoginEvent) : Prop :=
  ∀ before call loginId between call' loginId' after,
    trace = before ++ .started call loginId :: (between ++ .started call' loginId' :: after) →
      ∃ cause, .ended loginId cause ∈ between

@[simp] lemma outstanding_nil : outstanding [] = none := rfl

@[simp] lemma outstanding_started (trace : List LoginEvent) (call : ℕ) (loginId : String) :
    outstanding (trace ++ [.started call loginId]) = some loginId := by
  simp [outstanding]

@[simp] lemma outstanding_ended (trace : List LoginEvent) (loginId : String) (cause : Cause) :
    outstanding (trace ++ [.ended loginId cause]) = none := by
  simp [outstanding]

/-- After a start, the next event is the end of that login. -/
lemma Alternates.endsBetween {trace : List LoginEvent} (h : Alternates trace) :
    EndsBetween trace := by
  intro before call loginId between call' loginId' after split
  cases between with
  | nil =>
    have next := h (before ++ [.started call loginId]) (.started call' loginId') after
      (by simpa using split)
    simp only [LoginEvent.Fits, outstanding_started, reduceCtorEq] at next
  | cons event rest =>
    have next := h (before ++ [.started call loginId]) event
      (rest ++ .started call' loginId' :: after) (by simpa using split)
    cases event with
    | started c i => simp only [LoginEvent.Fits, outstanding_started, reduceCtorEq] at next
    | ended i cause =>
      simp only [LoginEvent.Fits, outstanding_started, Option.some.injEq] at next
      subst next
      exact ⟨cause, List.mem_cons_self⟩

/-! ## What a notification does -/

/-- The pending login stays or is cleared. -/
def Clears (l l' : LoginState) : Prop :=
  l'.pendingLogin = l.pendingLogin ∨ l'.pendingLogin = none

lemma Clears.trans {l₁ l₂ l₃ : LoginState} (h : Clears l₁ l₂) (h' : Clears l₂ l₃) :
    Clears l₁ l₃ := by
  unfold Clears at *
  rcases h' with h' | h'
  · rwa [h']
  · exact .inr h'

lemma applyNotification_clears (secure : Bool) (notification : Notification) (l : LoginState) :
    Clears l (applyNotification secure notification l).1 := by
  unfold applyNotification
  split
  · unfold applyCompleted
    split
    · exact .inl rfl
    · split
      · split
        · exact .inl rfl
        · exact .inr rfl
        · exact .inr rfl
      · exact .inl rfl
  · split
    · unfold applyUpdated
      split
      · split
        · split
          · exact .inr rfl
          · exact .inl rfl
        · exact .inl rfl
      · exact .inl rfl
      · exact .inl rfl
    · exact .inl rfl

lemma applyAll_clears (drained : List (Bool × Notification)) (l : LoginState) :
    Clears l (applyAll drained l).1 := by
  induction drained generalizing l with
  | nil => exact .inl rfl
  | cons head rest ih =>
    obtain ⟨secure, notification⟩ := head
    have hc := applyNotification_clears secure notification l
    unfold applyAll
    split
    · next heq => rwa [heq] at hc
    · next heq =>
      rw [heq] at hc
      exact hc.trans (ih _)

lemma rpc_clears (drained : List (Bool × Notification))
    (response : Except CodexAppServerError Json) (l : LoginState) :
    Clears l (rpc drained response l).1 := by
  have hc := applyAll_clears drained l
  unfold rpc
  split
  · next heq => rwa [heq] at hc
  · next heq => rwa [heq] at hc

/-! ## What a section does -/

/-- The call has found no login pending, and has neither stored its own nor failed. -/
def Call.inProgress : Call → Bool
  | .starting _ | .accepted .. => true
  | _ => false

namespace LoginWorld

variable {w : LoginWorld}

@[simp] lemma setCall_login (w : LoginWorld) (call : ℕ) (c : Call) :
    (w.setCall call c).login = w.login := rfl

@[simp] lemma setCall_trace (w : LoginWorld) (call : ℕ) (c : Call) :
    (w.setCall call c).trace = w.trace := rfl

@[simp] lemma setLogin_login (w : LoginWorld) (l : LoginState) (cause : Cause) :
    (w.setLogin l cause).login = l := rfl

@[simp] lemma setLogin_calls (w : LoginWorld) (l : LoginState) (cause : Cause) :
    (w.setLogin l cause).calls = w.calls := rfl

lemma setCall_self (w : LoginWorld) (call : ℕ) : w.setCall call (w.calls call) = w := by
  unfold setCall
  rw [Function.update_eq_self]

lemma setLogin_self (w : LoginWorld) (cause : Cause) : w.setLogin w.login cause = w := by
  unfold setLogin
  cases w.login.pendingId <;> simp

end LoginWorld

/-- A section moves its call, and the pending login stays or is cleared. -/
def Moves (a : Action) (w w' : LoginWorld) : Prop :=
  ∃ call c l cause, Clears w.login l ∧ w' = (w.setLogin l cause).setCall call c ∧
    (c.inProgress → (w.calls call).inProgress ∨
      (∃ method, a = .checkStart call method) ∧ w.login.pendingLogin = none)

/-- A section stores the login of its call. -/
def Stores (w w' : LoginWorld) : Prop :=
  ∃ call method start, w.calls call = .accepted method start ∧
    w' = { login := ⟨some ⟨start.loginId, method⟩, false⟩
           calls := Function.update w.calls call .idle
           trace := w.trace ++ [.started call start.loginId] }

lemma moves_self (a : Action) (w : LoginWorld) (call : ℕ) : Moves a w w :=
  ⟨call, w.calls call, w.login, .completed, .inl rfl,
    by rw [w.setLogin_self, w.setCall_self], fun h => .inl h⟩

lemma moves_setLogin (a : Action) (w : LoginWorld) {l : LoginState} (hl : Clears w.login l)
    (cause : Cause) (call : ℕ) : Moves a w (w.setLogin l cause) :=
  ⟨call, w.calls call, l, cause, hl, ((w.setLogin l cause).setCall_self call).symm,
    fun h => .inl h⟩

/-- A call that is in progress afterwards was in progress before. -/
lemma moves_call (a : Action) (w : LoginWorld) {l : LoginState} (hl : Clears w.login l)
    (cause : Cause) {call : ℕ} {c : Call} (hc : c.inProgress → (w.calls call).inProgress) :
    Moves a w ((w.setLogin l cause).setCall call c) :=
  ⟨call, c, l, cause, hl, rfl, fun h => .inl (hc h)⟩

lemma moves_setCall (a : Action) (w : LoginWorld) {call : ℕ} {c : Call}
    (hc : c.inProgress → (w.calls call).inProgress) : Moves a w (w.setCall call c) := by
  have hm := moves_call a w (.inl rfl : Clears w.login w.login) .completed hc
  rwa [w.setLogin_self] at hm

/-- What a critical section can do. -/
lemma step_cases {a : Action} {w w' : LoginWorld} (h : step a w = some w') :
    Moves a w w' ∨ Stores w w' := by
  cases a with
  | checkStart call method =>
    simp only [step] at h
    split at h
    · cases h
      left
      split
      · exact moves_self _ w call
      · next hp =>
        refine ⟨call, .starting method, w.login, .completed, .inl rfl, ?_,
          fun _ => .inr ⟨⟨_, rfl⟩, ?_⟩⟩
        · rw [w.setLogin_self]
        · simpa using hp
    · cases h
  | requestStart call drained response =>
    simp only [step] at h
    split at h
    · next method hcall =>
      have hprogress : (w.calls call).inProgress := by rw [hcall]; rfl
      left
      split at h
      · cases h
        exact moves_call _ w (rpc_clears ..) _ (fun _ => hprogress)
      · cases h
        exact moves_call _ w (rpc_clears ..) _ (fun _ => hprogress)
    · cases h
  | storeLogin call =>
    simp only [step] at h
    split at h
    · next method start hcall =>
      cases h
      exact .inr ⟨call, method, start, hcall, rfl⟩
    · cases h
  | checkCancel call loginId =>
    simp only [step] at h
    split at h
    · cases h
      left
      split
      · exact moves_setCall _ w (fun hc => by cases hc)
      · exact moves_self _ w call
    · cases h
  | requestCancel call drained response =>
    simp only [step] at h
    split at h
    · left
      split at h
      · cases h
        exact moves_call _ w (rpc_clears ..) _ (fun hc => by cases hc)
      · cases h
        exact moves_call _ w (rpc_clears ..) _ (fun hc => by cases hc)
    · cases h
  | clearCancelled call =>
    simp only [step] at h
    split at h
    · cases h
      left
      split
      · exact moves_call _ w (.inr rfl) _ (fun hc => by cases hc)
      · exact moves_setCall _ w (fun hc => by cases hc)
    · cases h
  | requestLogout call drained response =>
    simp only [step] at h
    split at h
    · left
      split at h
      · cases h
        exact moves_call _ w (rpc_clears ..) _ (fun hc => by cases hc)
      · cases h
        exact moves_setLogin _ w (rpc_clears ..) _ call
    · cases h
  | clearLoggedOut call =>
    simp only [step] at h
    split at h
    · cases h
      left
      exact moves_call _ w (.inr rfl) _ (fun hc => by cases hc)
    · cases h
  | takeExpired =>
    cases h
    exact .inl (moves_setLogin _ w (.inr rfl) _ 0)
  | notify secure notification =>
    cases h
    exact .inl (moves_setLogin _ w (applyNotification_clears ..) _ 0)

/-! ## Runs -/

/-- The condition on a section, which is about the calls that start a login: none checks while
another one is in progress. -/
def NoOverlap (a : Action) (w : LoginWorld) : Prop :=
  ∀ call method, a = .checkStart call method → ∀ other, (w.calls other).inProgress = false

/-- The sections of a run all meet the condition. -/
def NoOverlaps : List Action → LoginWorld → Prop
  | [], _ => True
  | a :: actions, w => NoOverlap a w ∧ ∀ w', step a w = some w' → NoOverlaps actions w'

/-- The trace alternates and ends with the pending login, and at most one call is in progress,
while no login is pending. -/
structure Inv (w : LoginWorld) : Prop where
  alternates : Alternates w.trace
  pending : outstanding w.trace = w.login.pendingId
  none_pending : ∀ call, (w.calls call).inProgress → w.login.pendingLogin = none
  exclusive : ∀ call other, (w.calls call).inProgress → (w.calls other).inProgress → call = other

lemma inv_start : Inv .start where
  alternates := Trace.always_nil
  pending := rfl
  none_pending := fun _ h => by cases h
  exclusive := fun _ _ h => by cases h

/-- The trace when the pending login stays or is cleared. -/
lemma trace_setLogin {w : LoginWorld} (hi : Inv w) {l : LoginState} (hl : Clears w.login l)
    (cause : Cause) :
    Alternates (w.setLogin l cause).trace ∧
      outstanding (w.setLogin l cause).trace = l.pendingId := by
  have hout := hi.pending
  unfold LoginWorld.setLogin
  rcases hl with hl | hl
  · have hid : l.pendingId = w.login.pendingId := by simp [LoginState.pendingId, hl]
    rw [hid]
    cases hw : w.login.pendingId with
    | none => simpa [hw] using ⟨hi.alternates, hout.trans hw⟩
    | some loginId => simpa [hw] using ⟨hi.alternates, hout.trans hw⟩
  · have hid : l.pendingId = none := by simp [LoginState.pendingId, hl]
    rw [hid]
    cases hw : w.login.pendingId with
    | none => simpa [hw] using ⟨hi.alternates, hout.trans hw⟩
    | some loginId =>
      rw [hw] at hout
      exact ⟨Trace.Always.concat hi.alternates hout, outstanding_ended ..⟩

lemma Moves.inv {a : Action} {w w' : LoginWorld} (hi : Inv w) (hno : NoOverlap a w)
    (h : Moves a w w') : Inv w' := by
  obtain ⟨call, c, l, cause, hl, rfl, hc⟩ := h
  obtain ⟨halt, hout⟩ := trace_setLogin hi hl cause
  have hnone : w.login.pendingLogin = none → l.pendingLogin = none := by
    intro hw
    rcases hl with hl | hl
    · rw [hl, hw]
    · exact hl
  refine ⟨halt, hout, ?_, ?_⟩
  · intro other hp
    by_cases heq : other = call
    · subst heq
      have hp' : c.inProgress := by simpa [LoginWorld.setCall] using hp
      rcases hc hp' with hbefore | ⟨-, hw⟩
      · exact hnone (hi.none_pending other hbefore)
      · exact hnone hw
    · have hp' : (w.calls other).inProgress := by simpa [LoginWorld.setCall, heq] using hp
      exact hnone (hi.none_pending other hp')
  · -- a call that has just checked is alone, by the condition
    have hown : ∀ other, ((w.setLogin l cause).setCall call c).calls other |>.inProgress →
        other ≠ call → (w.calls other).inProgress := by
      intro other hp hne
      simpa [LoginWorld.setCall, hne] using hp
    have halone : ∀ other, c.inProgress → (w.calls other).inProgress → other ≠ call → False := by
      intro other hp hother hne
      rcases hc hp with hbefore | ⟨⟨method, ha⟩, -⟩
      · exact hne (hi.exclusive other call hother hbefore)
      · rw [hno call method ha other] at hother
        cases hother
    intro x y hx hy
    by_cases hxc : x = call
    · by_cases hyc : y = call
      · rw [hxc, hyc]
      · have hc' : c.inProgress := by simpa [LoginWorld.setCall, hxc] using hx
        exact (halone y hc' (hown y hy hyc) hyc).elim
    · by_cases hyc : y = call
      · have hc' : c.inProgress := by simpa [LoginWorld.setCall, hyc] using hy
        exact (halone x hc' (hown x hx hxc) hxc).elim
      · exact hi.exclusive x y (hown x hx hxc) (hown y hy hyc)

lemma Stores.inv {w w' : LoginWorld} (hi : Inv w) (h : Stores w w') : Inv w' := by
  obtain ⟨call, method, start, hcall, rfl⟩ := h
  have hprogress : (w.calls call).inProgress := by rw [hcall]; rfl
  have hout : outstanding w.trace = none := by
    rw [hi.pending, LoginState.pendingId, hi.none_pending call hprogress]
    rfl
  -- the call that stores was the only one in progress
  have hidle : ∀ other, (Function.update w.calls call .idle other).inProgress → False := by
    intro other hp
    by_cases heq : other = call
    · subst heq
      rw [Function.update_self] at hp
      cases hp
    · rw [Function.update_of_ne heq] at hp
      exact heq (hi.exclusive other call hp hprogress)
  refine ⟨Trace.Always.concat hi.alternates hout, outstanding_started .., ?_, ?_⟩
  · intro other hp
    exact (hidle other hp).elim
  · intro x y hx
    exact (hidle x hx).elim

lemma step_inv {a : Action} {w w' : LoginWorld} (hno : NoOverlap a w) (h : step a w = some w')
    (hi : Inv w) : Inv w' := by
  rcases step_cases h with h | h
  · exact h.inv hi hno
  · exact h.inv hi

lemma run_inv {actions : List Action} {w w' : LoginWorld} (h : run actions w = some w')
    (hno : NoOverlaps actions w) (hi : Inv w) : Inv w' := by
  induction actions generalizing w with
  | nil =>
    cases h
    exact hi
  | cons a actions ih =>
    obtain ⟨w₁, hstep, hrun⟩ := Option.bind_eq_some_iff.1 h
    exact ih hrun (hno.2 w₁ hstep) (step_inv hno.1 hstep hi)

/-- In a run whose starting calls do not overlap, a login starts only when none is outstanding,
and between two of them the earlier one is completed, cancelled, expired or logged out. -/
theorem logins_alternate {actions : List Action} {w : LoginWorld}
    (h : run actions .start = some w) (hno : NoOverlaps actions .start) :
    Alternates w.trace ∧ EndsBetween w.trace ∧ outstanding w.trace = w.login.pendingId := by
  have hi := run_inv h hno inv_start
  exact ⟨hi.alternates, hi.alternates.endsBetween, hi.pending⟩

/-- A response that accepts a login in the browser. -/
def acceptsBrowser (loginId : String) : Json :=
  .object [("type", .string "chatgpt"), ("loginId", .string loginId),
    ("authUrl", .string "https://a")]

/-- A login, its completion, and the next one. -/
def twoLogins : List Action :=
  [.checkStart 0 .browser, .requestStart 0 [] (.ok (acceptsBrowser "x")), .storeLogin 0,
    .notify true ⟨"account/login/completed",
      .object [("loginId", .string "x"), ("success", .bool true)]⟩,
    .checkStart 1 .browser, .requestStart 1 [] (.ok (acceptsBrowser "y")), .storeLogin 1]

lemma noOverlaps_twoLogins : NoOverlaps twoLogins .start := by
  have hno : ∀ {a : Action} {w : LoginWorld}, (∀ call method, a ≠ .checkStart call method) →
      NoOverlap a w := fun h call method ha => (h call method ha).elim
  refine ⟨fun _ _ _ _ => rfl, fun w₁ h₁ => ?_⟩
  obtain rfl := Option.some.inj h₁
  refine ⟨hno (fun _ _ h => by cases h), fun w₂ h₂ => ?_⟩
  obtain rfl := Option.some.inj h₂
  refine ⟨hno (fun _ _ h => by cases h), fun w₃ h₃ => ?_⟩
  obtain rfl := Option.some.inj h₃
  refine ⟨hno (fun _ _ h => by cases h), fun w₄ h₄ => ?_⟩
  obtain rfl := Option.some.inj h₄
  refine ⟨fun _ _ _ other => ?_, fun w₅ h₅ => ?_⟩
  · cases other <;> rfl
  obtain rfl := Option.some.inj h₅
  refine ⟨hno (fun _ _ h => by cases h), fun w₆ h₆ => ?_⟩
  obtain rfl := Option.some.inj h₆
  exact ⟨hno (fun _ _ h => by cases h), fun _ _ => trivial⟩

theorem logins_alternate_two :
    ∃ w, run twoLogins .start = some w ∧ NoOverlaps twoLogins .start ∧
      w.trace = [.started 0 "x", .ended "x" .completed, .started 1 "y"] ∧
      EndsBetween w.trace := by
  refine ⟨_, rfl, noOverlaps_twoLogins, rfl, ?_⟩
  exact (logins_alternate rfl noOverlaps_twoLogins).2.1

/-- Two calls check before either stores its login, and the second login overwrites the first. -/
theorem logins_overlap :
    ∃ w, run [.checkStart 0 .browser, .checkStart 1 .browser,
        .requestStart 0 [] (.ok (acceptsBrowser "x")),
        .requestStart 1 [] (.ok (acceptsBrowser "y")), .storeLogin 0, .storeLogin 1] .start =
          some w ∧
      w.trace = [.started 0 "x", .started 1 "y"] ∧ ¬ EndsBetween w.trace := by
  refine ⟨_, rfl, rfl, ?_⟩
  intro h
  obtain ⟨cause, hmem⟩ := h [] 0 "x" [] 1 "y" [] rfl
  cases hmem

end WayfinderRouter.Codex
