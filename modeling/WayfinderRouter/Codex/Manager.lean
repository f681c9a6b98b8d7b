import WayfinderRouter.Codex.Session

/-!
# Callers of the app server

A caller takes the session out of the slot, or connects a new one, and puts it back when it may
be used again. A request to the account or to the models applies the notifications that it has
drained. A chat starts a thread and a turn, and takes notifications until the turn is completed;
when it stops earlier it interrupts the turn and waits for the confirmation. The slot is locked
meanwhile, while the pending login is not: other tasks change it before each notification that is
applied.

## Main definitions

- `rpcOn`, `chatOn` — what a caller does with its session, and whether it puts it back
- `interruptTurnAndConfirm` — the end of a turn that is not completed
- `Manager`, `stepManager`, `runAll` — the slot, and the callers one after the other
-/

namespace WayfinderRouter.Codex

open Hoare

/-! ## The pending login -/

/-- What other tasks do to the login state. -/
inductive Other where
  /-- `start_login` stores its login. -/
  | stored (login : PendingLogin)
  /-- `cancel_login` clears its login. -/
  | cancelled (loginId : String)
  | loggedOut
  /-- `account` takes a login that is expired. -/
  | expired
  /-- `account` takes the failure. -/
  | failureTaken

def Other.apply : Other → LoginState → LoginState
  | .stored login, _ => ⟨some login, false⟩
  | .cancelled loginId, l =>
    if l.pendingId = some loginId then { l with pendingLogin := none } else l
  | .loggedOut, _ => ⟨none, false⟩
  | .expired, l => { l with pendingLogin := none }
  | .failureTaken, l => { l with loginFailed := false }

/-- A change of the login state. -/
inductive Change where
  | other (action : Other) (before : LoginState)
  | taken (taken : Taken)

def Change.before : Change → LoginState
  | .other _ before => before
  | .taken t => t.before

def Change.after : Change → LoginState
  | .other action before => action.apply before
  | .taken t => t.after

structure Hold where
  link : Link
  login : LoginState
  changes : List Change
  /-- Before each notification that is taken: what other tasks do, and whether the permissions of
  the credential store are secure then. -/
  gaps : List (List Other × Bool)
  activeTurn : Option (String × String)
  terminalSeen : Bool

/-- Computations of a caller that holds the session. -/
abbrev Caller (α : Type) := EStateM Stop Hold α

def onSession {α : Type} (c : Exchange α) : Caller α :=
  zoom Hold.link (fun l h => { h with link := l }) c

def Hold.act (h : Hold) (action : Other) : Hold :=
  { h with login := action.apply h.login, changes := h.changes ++ [.other action h.login] }

def interfere : Caller Bool := fun h =>
  match h.gaps with
  | [] => .ok true h
  | (others, secure) :: gaps => .ok secure { others.foldl Hold.act h with gaps := gaps }

/-- The login state after a notification is taken. -/
def useNotification (use : Use) (secure : Bool) (notification : Notification) (l : LoginState) :
    LoginState × Except CodexAppServerError Unit :=
  match use with
  | .applied => applyNotification secure notification l
  | .discarded => (l, .ok ())

def settle (use : Use) (notification : Notification) (secure : Bool) :
    Caller (Except CodexAppServerError Unit) := fun h =>
  let (after, result) := useNotification use secure notification h.login
  let taken : Taken := ⟨notification, use, h.login, after⟩
  .ok result { h with
    link := { h.link with session :=
      { h.link.session with taken := h.link.session.taken ++ [taken] } }
    login := after
    changes := h.changes ++ [.taken taken] }

/-- A notification is applied, or goes without being applied. -/
def takeNotification (use : Use) (notification : Notification) : Caller Unit := do
  let secure ← interfere
  let result ← settle use notification secure
  ofExcept result

/-! ## Requests to the account and the models -/

inductive RpcCall where
  | readAccount
  | listModels (cursor : Option String)
  | startLogin (method : LoginMethod)
  | cancelLogin (loginId : String)
  | logout

def RpcCall.method : RpcCall → String
  | .readAccount => "account/read"
  | .listModels _ => "model/list"
  | .startLogin _ => "account/login/start"
  | .cancelLogin _ => "account/login/cancel"
  | .logout => "account/logout"

def RpcCall.params : RpcCall → Json
  | .readAccount => .object [("refreshToken", .bool false)]
  | .listModels cursor => .object [("cursor", (cursor.map Json.string).getD .null),
      ("includeHidden", .bool false), ("limit", .nat 100)]
  | .startLogin .browser => .object [("type", .string "chatgpt"),
      ("useHostedLoginSuccessPage", .bool true), ("appBrand", .string "chatgpt")]
  | .startLogin .deviceCode => .object [("type", .string "chatgptDeviceCode")]
  | .cancelLogin loginId => .object [("loginId", .string loginId)]
  | .logout => .object []

/-- The session may be put back after this result. -/
def reusable {α : Type} : Except CodexAppServerError α → Bool
  | .ok _ => true
  | .error e => !isFatalError e

/-- Whether the session is put back, and the result. -/
def rpcOn (call : RpcCall) : Caller (Bool × Except CodexAppServerError Json) := do
  let result ← onSession (attempt (Session.request call.method call.params))
  let notifications ← onSession Session.drainNotifications
  match ← attempt (notifications.forM (takeNotification .applied)) with
  | .error e => pure (false, .error e)
  | .ok () => pure (reusable result, result)

/-! ## Preparing a chat -/

inductive ChatRole where
  | system
  | developer
  | user
  | assistant
deriving DecidableEq

structure ChatMessage where
  role : ChatRole
  content : String

structure ChatRequest where
  model : String
  messages : List ChatMessage

structure PreparedChat where
  instructions : String
  history : List Json
  prompt : String

def maxTranscriptBytes : ℕ := 1048576

def maxInstructionsBytes : ℕ := 32768

def historyItem (role type text : String) : Json :=
  .object [("type", .string "message"), ("role", .string role),
    ("content", .array [.object [("type", .string type), ("text", .string text)]])]

def addInstructions (heading content : String) (prepared : PreparedChat) :
    Except CodexAppServerError PreparedChat :=
  let separator := if prepared.instructions = "" then "" else "\n\n"
  let instructions := prepared.instructions ++ separator ++ heading ++ content
  if maxInstructionsBytes < instructions.utf8ByteSize then .error .requestTooLarge
  else .ok { prepared with instructions := instructions }

/-- One message before the last one. -/
def prepareMessage (message : ChatMessage) (prepared : PreparedChat) :
    Except CodexAppServerError PreparedChat :=
  match message.role with
  | .system => addInstructions "System context:\n" message.content prepared
  | .developer => addInstructions "Developer context:\n" message.content prepared
  | .user => .ok { prepared with
      history := prepared.history ++ [historyItem "user" "input_text" message.content] }
  | .assistant => .ok { prepared with
      history := prepared.history ++ [historyItem "assistant" "output_text" message.content] }

/-- The messages, after some bytes of the transcript. -/
def prepareMessages : List ChatMessage → ℕ → PreparedChat → Except CodexAppServerError PreparedChat
  | [], _, prepared => .ok prepared
  | message :: rest, bytes, prepared =>
    if message.content = "" then .error .invalidRequest
    else if maxTranscriptBytes < bytes + message.content.utf8ByteSize then .error .requestTooLarge
    else if rest = [] then .ok { prepared with prompt := message.content }
    else do
      let prepared ← prepareMessage message prepared
      prepareMessages rest (bytes + message.content.utf8ByteSize) prepared

def prepareChat (request : ChatRequest) : Except CodexAppServerError PreparedChat := do
  validateIdentifier request.model
  if request.messages = [] ∨ 128 < request.messages.length then throw .invalidRequest
  if request.messages.getLast?.map ChatMessage.role ≠ some .user then throw .invalidRequest
  prepareMessages request.messages 0 ⟨"", [], ""⟩

/-! ## Chats -/

/-- A value under a path of keys. -/
def lookupPath : List String → Json → Option Json
  | [], value => some value
  | key :: path, value => (value.get key).bind (lookupPath path)

def nestedIdentifier (value : Json) (path : List String) :
    Except CodexAppServerError String := do
  let identifier ← require ((lookupPath path value).bind Json.asStr)
  validateIdentifier identifier
  pure identifier

/-- A canonical path that is the one of the workspace. -/
def checkWorkspace (config : RuntimeConfig) (path : Option Json) :
    Except CodexAppServerError Unit := do
  let path ← require (path.bind Json.asStr)
  config.checkPath path config.workspace

def validateThreadStart (config : RuntimeConfig) (model : String) (response : Json) :
    Except CodexAppServerError Unit := do
  let field := fun key => (response.get key).bind Json.asStr
  if field "approvalPolicy" ≠ some "never" ∨ field "model" ≠ some model ∨
      field "modelProvider" ≠ some "openai" then
    throw .invalidConfiguration
  let thread ← require ((response.get "thread").bind Json.asObject)
  if (((Json.object thread).get "ephemeral").bind Json.asBool) ≠ some true then
    throw .invalidConfiguration
  checkWorkspace config (response.get "cwd")
  let profile ← require ((response.get "activePermissionProfile").bind Json.asObject)
  let extended : Bool := match (Json.object profile).get "extends" with
    | none | some .null => false
    | some _ => true
  if (((Json.object profile).get "id").bind Json.asStr) ≠ some "wayfinder-chat" ∨ extended then
    throw .invalidConfiguration
  let roots ← require ((response.get "runtimeWorkspaceRoots").bind Json.asArray)
  if roots.length ≠ 1 then throw .invalidConfiguration
  checkWorkspace config roots.head?
  let sandbox ← require ((response.get "sandbox").bind Json.asObject)
  if (((Json.object sandbox).get "type").bind Json.asStr) ≠ some "readOnly" ∨
      (((Json.object sandbox).get "networkAccess").bind Json.asBool) ≠ some false then
    throw .invalidConfiguration
  let sources ← require ((response.get "instructionSources").bind Json.asArray)
  if !sources.isEmpty then throw .invalidConfiguration

def generalChatInstructions : String :=
  "You are the text-only assistant inside Wayfinder Chat. Answer the user's request directly. " ++
  "Never use tools, execute commands, inspect or modify files, browse, invoke apps or plugins, " ++
  "delegate to agents, request approvals, or perform computer actions. If a request would " ++
  "require any such action, explain that this chat surface cannot perform it."

/-- The features that are disabled. -/
def disabledFeatures : List String :=
  ["apps", "auth_elicitation", "browser_use", "browser_use_external",
    "browser_use_full_cdp_access", "code_mode", "code_mode_host", "computer_use", "goals",
    "guardian_approval", "hooks", "image_generation", "in_app_browser", "memories",
    "mentions_v2", "multi_agent", "remote_plugin", "plugins", "plugin_sharing",
    "request_permissions_tool", "shell_snapshot", "shell_tool", "skill_search",
    "skill_mcp_dependency_install", "tool_call_mcp_elicitation", "unified_exec",
    "network_proxy", "workspace_dependencies"]

def threadStartParams (config : RuntimeConfig) (model instructions : String) : Json :=
  .object [("model", .string model), ("cwd", .string config.workspace),
    ("approvalPolicy", .string "never"), ("ephemeral", .bool true),
    ("baseInstructions", .string generalChatInstructions),
    ("developerInstructions", .string instructions),
    ("config", .object [("approval_policy", .string "never"),
      ("default_permissions", .string "wayfinder-chat"), ("web_search", .string "disabled"),
      ("features", .object (disabledFeatures.map fun feature => (feature, .bool false)))])]

def injectItemsParams (threadId : String) (history : List Json) : Json :=
  .object [("threadId", .string threadId), ("items", .array history)]

def turnStartParams (config : RuntimeConfig) (threadId model prompt : String) : Json :=
  .object [("threadId", .string threadId),
    ("input", .array [.object [("type", .string "text"), ("text", .string prompt)]]),
    ("model", .string model), ("cwd", .string config.workspace),
    ("approvalPolicy", .string "never")]

def turnInterruptParams (threadId turnId : String) : Json :=
  .object [("threadId", .string threadId), ("turnId", .string turnId)]

structure ChatResponse where
  content : String
  threadId : String
  turnId : String

/-- What a chat has taken so far. -/
structure Progress where
  /-- The deltas that were given to `on_event`. -/
  deltas : List String
  deltaBytes : ℕ
  finalContent : Option String
  terminalError : Option CodexAppServerError

def maxStreamDeltaEscapedBytes : ℕ := 61440

def validateStreamDeltaSize (delta : String) : Except CodexAppServerError Unit :=
  if maxStreamDeltaEscapedBytes < (Json.object [("delta", .string delta)]).bytes.length then
    .error .responseTooLarge
  else .ok ()

def ensureEventIdentity (params : Json) (threadId turnId : String) :
    Except CodexAppServerError Unit := do
  let eventThread ← boundedString params "threadId" maxIdentifierBytes
  let eventTurn ← boundedString params "turnId" maxIdentifierBytes
  if eventThread ≠ threadId ∨ eventTurn ≠ turnId then throw .correlationFailed

def benignNotification (method : String) : Bool :=
  ["thread/started", "turn/started", "thread/tokenUsage/updated", "account/login/completed",
    "account/updated", "account/rateLimits/updated"].contains method

def classifyTurnError (error : Json) : CodexAppServerError :=
  match (error.get "codexErrorInfo").bind Json.asStr with
  | some info =>
    if info = "unauthorized" then .authenticationRequired
    else if info = "usageLimitExceeded" ∨ info = "sessionBudgetExceeded" then .usageLimitReached
    else .turnFailed
  | none => .turnFailed

/-- The callback of a chat: what it returns, from the deltas up to the present one. -/
abbrev OnEvent := List String → Except CodexAppServerError Unit

section Turn

variable (threadId turnId : String)

def onDelta (onEvent : OnEvent) (params : Json) (p : Progress) :
    Except CodexAppServerError Progress := do
  ensureEventIdentity params threadId turnId
  let delta ← boundedString params "delta" maxResponseBytes
  validateStreamDeltaSize delta
  if maxResponseBytes < p.deltaBytes + delta.utf8ByteSize then throw .responseTooLarge
  onEvent (p.deltas ++ [delta])
  pure { p with deltas := p.deltas ++ [delta], deltaBytes := p.deltaBytes + delta.utf8ByteSize }

def onItem (completed : Bool) (params : Json) (p : Progress) :
    Except CodexAppServerError Progress := do
  ensureEventIdentity params threadId turnId
  let item ← require (params.get "item")
  let itemType ← require ((item.get "type").bind Json.asStr)
  if ¬ ["userMessage", "agentMessage", "reasoning"].contains itemType then throw .forbiddenAction
  if completed ∧ itemType = "agentMessage" then do
    let text ← boundedString item "text" maxResponseBytes
    pure { p with finalContent := some text }
  else pure p

def onError (params : Json) (p : Progress) : Except CodexAppServerError Progress := do
  ensureEventIdentity params threadId turnId
  let _ ← require ((params.get "willRetry").bind Json.asBool)
  let error ← require ((params.get "error").bind Json.asObject)
  pure { p with terminalError := some (classifyTurnError (.object error)) }

/-- The turn that a notification completes. -/
def completedTurn (params : Json) : Except CodexAppServerError Json := do
  let eventThread ← boundedString params "threadId" maxIdentifierBytes
  if eventThread ≠ threadId then throw .correlationFailed
  let turn ← require (params.get "turn")
  let eventTurn ← boundedString turn "id" maxIdentifierBytes
  if eventTurn ≠ turnId then throw .correlationFailed
  pure turn

/-- The outcome of a turn that is completed. -/
def outcomeOf (turn : Json) (p : Progress) : Except CodexAppServerError ChatResponse :=
  match (turn.get "status").bind Json.asStr with
  | some status =>
    if status = "completed" then
      match p.finalContent with
      | some content => .ok ⟨content, threadId, turnId⟩
      | none => .error .malformedProtocol
    else if status = "interrupted" then .error .interrupted
    else if status = "failed" then .error (p.terminalError.getD .turnFailed)
    else .error .malformedProtocol
  | none => .error .malformedProtocol

/-- A notification of the turn: the chat goes on, or the turn is completed. -/
def onNotification (onEvent : OnEvent) (n : Notification) (p : Progress) :
    Except CodexAppServerError (Progress ⊕ Except CodexAppServerError ChatResponse) :=
  if n.method = "item/agentMessage/delta" then
    (onDelta threadId turnId onEvent n.params p).map .inl
  else if n.method = "item/started" ∨ n.method = "item/completed" then
    (onItem threadId turnId (n.method = "item/completed") n.params p).map .inl
  else if n.method = "turn/completed" then do
    let turn ← completedTurn threadId turnId n.params
    pure (.inr (outcomeOf threadId turnId turn p))
  else if n.method = "error" then (onError threadId turnId n.params p).map .inl
  else if benignNotification n.method then .ok (.inl p)
  else .error .forbiddenAction

/-- The loop takes a notification in each iteration. -/
def chatLoop (onEvent : OnEvent) : ℕ → Progress → Caller ChatResponse
  | 0, _ => throw .dropped
  | fuel + 1, p => do
    if ← onSession Session.isCancelled then fail .interrupted
    let notification ← onSession (Session.nextNotification true)
    takeNotification .applied notification
    match ← ofExcept (onNotification threadId turnId onEvent notification p) with
    | .inl p => chatLoop onEvent fuel p
    | .inr outcome => do
      modify fun h => { h with terminalSeen := true }
      ofExcept outcome

/-- The notification confirms that the turn is interrupted. -/
def confirms (params : Json) : Except CodexAppServerError Bool := do
  let eventThread ← boundedString params "threadId" maxIdentifierBytes
  let turn ← require (params.get "turn")
  let eventTurn ← boundedString turn "id" maxIdentifierBytes
  let status ← require ((turn.get "status").bind Json.asStr)
  pure (eventThread = threadId ∧ eventTurn = turnId ∧ status = "interrupted")

def confirmLoop : ℕ → Caller Unit
  | 0 => throw .dropped
  | fuel + 1 => do
    let notification ← onSession (Session.nextNotification false)
    takeNotification .discarded notification
    if notification.method ≠ "turn/completed" then confirmLoop fuel
    else
      match ← ofExcept (confirms threadId turnId notification.params) with
      | true => pure ()
      | false => confirmLoop fuel

def interruptTurnAndConfirm : Caller Bool := do
  let result ← attempt do
    let _ ← onSession (Session.request "turn/interrupt" (turnInterruptParams threadId turnId))
    confirmLoop threadId turnId (← onSession Session.steps)
  match result with
  | .ok () => pure true
  | .error _ => pure false

end Turn

section Chat

variable (config : RuntimeConfig) (request : ChatRequest) (prepared : PreparedChat)
variable (onEvent : OnEvent)

/-- The thread and the turn, until the outcome of the turn. -/
def turnOutcome : Caller ChatResponse := do
  let threadResponse ← onSession (Session.request "thread/start"
    (threadStartParams config request.model prepared.instructions))
  ofExcept (validateThreadStart config request.model threadResponse)
  let threadId ← ofExcept (nestedIdentifier threadResponse ["thread", "id"])
  if prepared.history ≠ [] then
    let _ ← onSession (Session.request "thread/inject_items"
      (injectItemsParams threadId prepared.history))
  let turnResponse ← onSession (Session.request "turn/start"
    (turnStartParams config threadId request.model prepared.prompt))
  let turnId ← ofExcept (nestedIdentifier turnResponse ["turn", "id"])
  modify fun h => { h with activeTurn := some (threadId, turnId) }
  if ← onSession Session.isCancelled then fail .interrupted
  chatLoop threadId turnId onEvent (← onSession Session.steps) ⟨[], 0, none, none⟩

/-- The turn is over, or it is interrupted. -/
def confirmEnd : Caller Bool := do
  let h ← get
  if h.terminalSeen then pure true
  else
    match h.activeTurn with
    | some (threadId, turnId) => interruptTurnAndConfirm threadId turnId
    | none => pure true

/-- Whether the session is put back, and the result. -/
def chatOn : Caller (Bool × Except CodexAppServerError ChatResponse) := do
  match ← attempt (turnOutcome config request prepared onEvent) with
  | .ok response => pure (true, .ok response)
  | .error e => do
    let confirmed ← confirmEnd
    pure (!isFatalError e && confirmed, .error e)

end Chat

/-! ## The slot -/

def maxRuntimeRestarts : ℕ := 2

structure Manager where
  slot : Option Session
  login : LoginState
  changes : List Change
  sessionStarted : Bool
  restartCount : ℕ
  cancelledSessionRestart : Bool
  /-- The sessions that were terminated or dropped. -/
  retired : List Session

def Manager.start : Manager := ⟨none, ⟨none, false⟩, [], false, 0, false, []⟩

/-- What the environment of a caller does. -/
structure Environment where
  /-- The start of a process, when one is needed. -/
  spawn : Except CodexAppServerError Unit
  script : Script
  gaps : List (List Other × Bool)

/-- A session that is not put back; when its caller was dropped, its restart is not counted. -/
def Manager.retire (m : Manager) (session : Session) (dropped : Bool) : Manager :=
  { m with
    slot := none
    cancelledSessionRestart := m.cancelledSessionRestart || dropped
    retired := m.retired ++ [session] }

/-- The number of restarts is bounded. -/
def Manager.countRestart (m : Manager) : Manager × Except CodexAppServerError Unit :=
  if m.sessionStarted then
    if m.cancelledSessionRestart then ({ m with cancelledSessionRestart := false }, .ok ())
    else
      ({ m with restartCount := m.restartCount + 1 },
        if maxRuntimeRestarts ≤ m.restartCount then .error .runtimeUnavailable else .ok ())
  else ({ m with sessionStarted := true }, .ok ())

/-- The session of the slot or a new one, with the rest of the script. -/
def ensureSession (config : RuntimeConfig) (e : Environment) (m : Manager) :
    Manager × Option (Except CodexAppServerError Link) :=
  match m.slot with
  | some session => (m, some (.ok ⟨session, e.script⟩))
  | none =>
    match m.countRestart, e.spawn with
    | (m', .error error), _ => (m', some (.error error))
    | (m', .ok ()), .error error => (m', some (.error error))
    | (m', .ok ()), .ok () =>
      match Session.connect config ⟨.fresh, e.script⟩ with
      | .ok () l => ({ m' with slot := some l.session }, some (.ok l))
      | .error (.failed error) l => (m'.retire l.session false, some (.error error))
      | .error .dropped l => (m'.retire l.session true, none)

/-- A caller takes the session out of the slot and puts it back or not. A caller that is dropped
has no result. -/
def hold {α : Type} (use : Caller (Bool × Except CodexAppServerError α)) (config : RuntimeConfig)
    (e : Environment) (m : Manager) : Manager × Option (Except CodexAppServerError α) :=
  match ensureSession config e m with
  | (m', none) => (m', none)
  | (m', some (.error error)) => (m', some (.error error))
  | (m', some (.ok link)) =>
    match use ⟨link, m'.login, m'.changes, e.gaps, none, false⟩ with
    | .ok (true, result) h =>
      ({ m' with slot := some h.link.session, login := h.login, changes := h.changes },
        some result)
    | .ok (false, result) h =>
      (({ m' with login := h.login, changes := h.changes } : Manager).retire h.link.session false,
        some result)
    | .error _ h =>
      (({ m' with login := h.login, changes := h.changes } : Manager).retire h.link.session true,
        none)

inductive Command where
  | rpc (call : RpcCall)
  | chat (request : ChatRequest) (onEvent : OnEvent)
  | shutdown
  | other (action : Other)

def stepManager (config : RuntimeConfig) (command : Command) (e : Environment) (m : Manager) :
    Manager :=
  match command with
  | .rpc call => (hold (rpcOn call) config e m).1
  | .chat request onEvent =>
    match prepareChat request with
    | .error _ => m
    | .ok prepared => (hold (chatOn config request prepared onEvent) config e m).1
  | .shutdown =>
    match m.slot with
    | some session => m.retire session false
    | none => m
  | .other action =>
    { m with login := action.apply m.login, changes := m.changes ++ [.other action m.login] }

/-- Callers one after the other. -/
def runAll (config : RuntimeConfig) : List (Command × Environment) → Manager → Manager
  | [], m => m
  | (command, e) :: rest, m => runAll config rest (stepManager config command e m)

/-! ## Invariants -/

/-- What callers keep: of the session in the slot, of the sessions that are gone, and of the
login state. -/
structure Upholds (config : RuntimeConfig) (slot gone : Session → Prop)
    (login : List Change → LoginState → Prop) : Prop where
  gone_of_slot : ∀ s, slot s → gone s
  connect : Spec (fun s => s = .fresh) (Session.connect config) (fun _ => slot) (fun _ => gone)
  other : ∀ action changes l, login changes l →
    login (changes ++ [.other action l]) (action.apply l)
  rpc : ∀ call, Triple
    (fun h => slot h.link.session ∧ login h.changes h.login ∧ h.activeTurn = none ∧
      h.terminalSeen = false) (rpcOn call)
    (fun result h => (result.1 = true → slot h.link.session) ∧ gone h.link.session ∧
      login h.changes h.login)
    (fun _ h => gone h.link.session ∧ login h.changes h.login)
  chat : ∀ request prepared onEvent, Triple
    (fun h => slot h.link.session ∧ login h.changes h.login ∧ h.activeTurn = none ∧
      h.terminalSeen = false) (chatOn config request prepared onEvent)
    (fun result h => (result.1 = true → slot h.link.session) ∧ gone h.link.session ∧
      login h.changes h.login)
    (fun _ h => gone h.link.session ∧ login h.changes h.login)

/-- What holds of a manager. -/
structure Upheld (slot gone : Session → Prop) (login : List Change → LoginState → Prop)
    (m : Manager) : Prop where
  slot : ∀ s, m.slot = some s → slot s
  retired : ∀ s ∈ m.retired, gone s
  login : login m.changes m.login

section Invariants

variable {config : RuntimeConfig} {slot gone : Session → Prop}
variable {login : List Change → LoginState → Prop} {m : Manager}

lemma Upheld.retire (h : Upheld slot gone login m) {s : Session} (hs : gone s) (dropped : Bool) :
    Upheld slot gone login (m.retire s dropped) where
  slot := fun _ h => by cases h
  retired := by
    intro s' hs'
    rcases List.mem_append.1 hs' with hs' | hs'
    · exact h.retired s' hs'
    · rw [List.mem_singleton.1 hs']
      exact hs
  login := h.login

lemma Upheld.countRestart (h : Upheld slot gone login m) :
    Upheld slot gone login m.countRestart.1 := by
  unfold Manager.countRestart
  split
  · split
    · exact ⟨h.slot, h.retired, h.login⟩
    · exact ⟨h.slot, h.retired, h.login⟩
  · exact ⟨h.slot, h.retired, h.login⟩

lemma Upheld.ensureSession (hup : Upholds config slot gone login)
    (h : Upheld slot gone login m) (e : Environment) :
    Upheld slot gone login (ensureSession config e m).1 ∧
      ∀ l, (ensureSession config e m).2 = some (.ok l) → slot l.session := by
  have hcount := h.countRestart
  unfold Codex.ensureSession
  cases hslot : m.slot with
  | some s =>
    refine ⟨h, ?_⟩
    intro l hl
    cases hl
    exact h.slot s hslot
  | none =>
    rcases hrestart : m.countRestart with ⟨m', allowed⟩
    rw [hrestart] at hcount
    cases allowed with
    | error error => exact ⟨hcount, fun _ hl => by cases hl⟩
    | ok _ =>
      cases e.spawn with
      | error error => exact ⟨hcount, fun _ hl => by cases hl⟩
      | ok _ =>
        have hconnect := hup.connect ⟨.fresh, e.script⟩ rfl
        dsimp only
        revert hconnect
        cases Session.connect config ⟨.fresh, e.script⟩ with
        | ok _ l =>
          intro hl
          refine ⟨⟨?_, hcount.retired, hcount.login⟩, ?_⟩
          · intro s hs
            cases hs
            exact hl
          · intro l' hl'
            cases hl'
            exact hl
        | error stop l =>
          intro hl
          cases stop with
          | failed error => exact ⟨hcount.retire hl false, fun _ hl => by cases hl⟩
          | dropped => exact ⟨hcount.retire hl true, fun _ hl => by cases hl⟩

/-- One caller. -/
lemma Upheld.hold {α : Type} {use : Caller (Bool × Except CodexAppServerError α)}
    (hup : Upholds config slot gone login)
    (huse : Triple
      (fun h => slot h.link.session ∧ login h.changes h.login ∧ h.activeTurn = none ∧
        h.terminalSeen = false) use
      (fun result h => (result.1 = true → slot h.link.session) ∧ gone h.link.session ∧
        login h.changes h.login)
      (fun _ h => gone h.link.session ∧ login h.changes h.login))
    (h : Upheld slot gone login m) (e : Environment) :
    Upheld slot gone login (hold use config e m).1 := by
  obtain ⟨hkept, hlink⟩ := h.ensureSession hup e
  unfold Codex.hold
  rcases hensure : Codex.ensureSession config e m with ⟨m', link⟩
  rw [hensure] at hkept hlink
  rcases link with - | error | link
  · exact hkept
  · exact hkept
  · have hheld := huse ⟨link, m'.login, m'.changes, e.gaps, none, false⟩
      ⟨hlink link rfl, hkept.login, rfl, rfl⟩
    dsimp only
    revert hheld
    cases use ⟨link, m'.login, m'.changes, e.gaps, none, false⟩ with
    | ok result h' =>
      obtain ⟨put, result⟩ := result
      rintro ⟨hslot, hgone, hlogin⟩
      cases put with
      | true =>
        refine ⟨?_, hkept.retired, hlogin⟩
        intro s hs
        cases hs
        exact hslot rfl
      | false => exact (⟨hkept.slot, hkept.retired, hlogin⟩ : Upheld slot gone login
          { m' with login := h'.login, changes := h'.changes }).retire hgone false
    | error stop h' =>
      rintro ⟨hgone, hlogin⟩
      exact (⟨hkept.slot, hkept.retired, hlogin⟩ : Upheld slot gone login
        { m' with login := h'.login, changes := h'.changes }).retire hgone true

lemma Upheld.step (hup : Upholds config slot gone login) (h : Upheld slot gone login m)
    (command : Command) (e : Environment) :
    Upheld slot gone login (stepManager config command e m) := by
  cases command with
  | rpc call => exact h.hold hup (hup.rpc call) e
  | chat request onEvent =>
    simp only [stepManager]
    cases prepareChat request with
    | error error => exact h
    | ok prepared => exact h.hold hup (hup.chat request prepared onEvent) e
  | shutdown =>
    simp only [stepManager]
    cases hslot : m.slot with
    | none => exact h
    | some s => exact h.retire (hup.gone_of_slot s (h.slot s hslot)) false
  | other action => exact ⟨h.slot, h.retired, hup.other action _ _ h.login⟩

/-- **Runs**: what every caller keeps holds of every manager that is reached. -/
theorem Upheld.runAll (hup : Upholds config slot gone login) (h : Upheld slot gone login m)
    (commands : List (Command × Environment)) :
    Upheld slot gone login (runAll config commands m) := by
  induction commands generalizing m with
  | nil => exact h
  | cons head rest ih => exact ih (h.step hup head.1 head.2)

/-- A manager that has just been started. -/
lemma upheld_start (hlogin : login [] ⟨none, false⟩) : Upheld slot gone login .start where
  slot := fun _ h => by cases h
  retired := fun _ h => by cases h
  login := hlogin

end Invariants

end WayfinderRouter.Codex
