import WayfinderRouter.Gateway.CacheKey
import WayfinderRouter.Gateway.Establishment
import WayfinderRouter.Gateway.Request
import WayfinderRouter.Gateway.ResponseCache
import WayfinderRouter.SharedState.Cache.Model

/-!
# Chat requests and the response cache

A chat request that may be replayed is looked up before it is delivered, under the model that is
planned, and its response is stored after it was delivered, under the model that served it.

What the handler decides before the lookup (the key of the caller, the privacy posture, the route)
is part of the request, and so is what becomes of the request between the lookup and the delivery
(the delivery plan, a refusal). The outside world is a part of it too: the clock, the providers and
the shared backend. JSON is read and written by another crate, and a digest is computed by one.

## Main definitions

- `isCacheable`, `isStorable` — the requests and the responses that may be cached
- `requestBody` — the body that is keyed and delivered
- `getCachedResponse`, `putCachedResponse` — the local cache or the shared one
- `chatCompletions` — the answer to a request
-/

namespace WayfinderRouter.Gateway.Chat

open ResponseCache (CachedResponse CacheError)

/-! ## What may be cached -/

section Cacheable

variable (asF64 : String → Option ℚ)

/-- `python_truthy`. -/
def pythonTruthy : Json → Bool
  | .null => false
  | .bool value => value
  | .number text => asF64 text ≠ some 0
  | .string value => !value.isEmpty
  | .array values => !values.isEmpty
  | .object values => !values.isEmpty

/-- `python_numeric_equal`. -/
def pythonNumericEqual (value : Json) (expected : ℚ) : Bool :=
  match value with
  | .bool value => (if value then 1 else 0) = expected
  | .number text => asF64 text = some expected
  | _ => false

/-- A field that a replay needs to have its default. -/
def isDefault (expected : ℚ) : Json → Bool
  | .null => true
  | value => pythonNumericEqual asF64 value expected

/-- `Value::is_null`. -/
def isNull : Json → Bool
  | .null => true
  | _ => false

/-- A message of plain text. -/
def isPlainMessage (message : Json) : Bool := ((message.get "content").bind Json.asStr).isSome

/-- `is_cacheable`. -/
def isCacheable (body : Json) : Bool :=
  body.asObject.isSome &&
    ((body.get "stream").bind Json.asBool) ≠ some true &&
    (body.get "temperature").all (isDefault asF64 0) &&
    (body.get "top_p").all (isDefault asF64 1) &&
    (body.get "n").all (isDefault asF64 1) &&
    (body.get "seed").all isNull &&
    (["tools", "tool_choice", "logit_bias"].all fun name =>
      !(body.get name).any (pythonTruthy asF64)) &&
    ((body.get "messages").bind Json.asArray).any fun messages =>
      !messages.isEmpty && messages.all isPlainMessage

/-- `content_type.contains("json")`. -/
def mentionsJson (contentType : String) : Bool := "json".toList <:+: contentType.toList

/-- The message of the first choice of a completion. -/
def firstMessage (response : Json) : Option Json :=
  (((response.get "choices").bind Json.asArray).bind List.head?).bind fun choice =>
    (choice.get "message").filter fun message => message.asObject.isSome

/-- `is_storable`. -/
def isStorable (status : ℕ) (contentType : String) (response : Json) : Bool :=
  status = 200 && mentionsJson contentType && response.asObject.isSome &&
    (response.get "error").all isNull &&
    (firstMessage response).any fun message =>
      !(message.get "tool_calls").any (pythonTruthy asF64) &&
        (message.getStr "content").any fun content => !content.isEmpty

end Cacheable

/-! ## Requests -/

/-- `TUNING_FIELD`. -/
def tuningField : String := "wayfinder_tuning"

/-- The body that is keyed and delivered, up to the order of its members: the received one without
the tuning field, and with the messages as a slash directive leaves them. -/
def requestBody (received : IndexMap Json) (messages : Option Json) : IndexMap Json :=
  match messages with
  | none => received.shiftRemove tuningField
  | some messages => (received.shiftRemove tuningField).insert "messages" messages

/-- What is decided before the cache is asked. -/
structure Selected where
  keyId : Option String
  request : RoutingRequest
  offline : Bool
  promptEstimate : ℕ
  mode : String
  presetName : Option String
  deliveryName : String
  messages : Option Json
  debug : Bool
  messages_wellFormed : ∀ value ∈ messages, CacheKey.WellFormed value

/-- A request is answered without a delivery, or it is to be delivered. -/
inductive Decision where
  | answered (status : ℕ)
  | selected (selected : Selected)

/-- What a provider answers beside its status. -/
structure Answer where
  contentTypeHeader : Option (List UInt8)
  body : List UInt8

/-- `BufferedDeliveryResponse`. -/
structure Received where
  status : ℕ
  contentType : String
  body : List UInt8
deriving DecidableEq

/-- The content type of an answer. The answers of native providers are translated. -/
def Answer.contentType (answer : Answer) : ProviderKind → String
  | .openAiCompatible => (answer.contentTypeHeader.bind headerText).getD "application/json"
  | _ => "application/json"

/-- `AccountedUsage`. -/
structure AccountedUsage where
  promptTokens : ℕ
  completionTokens : ℕ
  estimated : Bool

/-- A script that is sent to the shared backend may not run, and its reply may not arrive. -/
structure Exchange where
  serverTime : ℕ
  runs : Bool
  arrives : Bool

/-- The world of a request. -/
structure World where
  clock : List Event → ℚ
  sharedGrants : List Event → String → Bool
  upstream : List Event → ConfiguredModel → Outcome
  signals : List Event → DeploymentSelectionPolicy → Signals
  answer : ConfiguredModel → Answer
  plan : List String
  refusal : Option FailureStatus
  usage : Option AccountedUsage
  lookup : Exchange
  store : Exchange
  storeTime : ℚ
  injectDebugDecision : List UInt8 → List UInt8

structure ChatRequest where
  received : IndexMap Json
  received_wellFormed : CacheKey.WellFormed (.object received.entries)
  decision : Decision
  world : World

/-! ## The gateway -/

/-- The part of `AppState` that stays, with the functions of other crates. -/
structure App where
  parsers : Parsers
  models : List ConfiguredModel
  retries : ℕ
  cacheGeneration : String
  cacheSettings : ResponseCache.Configured
  sharedCacheEnabled : Bool
  sha256 : List UInt8 → List UInt8
  asF64 : String → Option ℚ
  parseJson : Json.Parser
  encodeSharedResponse : CachedResponse → List UInt8
  decodeSharedResponse : List UInt8 → Option CachedResponse

structure AppState where
  reliability : GatewayState
  responseCache : ResponseCache.State
  sharedCache : Cache.State

section Cached

variable (app : App)

/-- `AppState::cache_enabled`. -/
def cacheEnabled (s : AppState) : Bool :=
  if app.sharedCacheEnabled then app.cacheSettings.enabled else s.responseCache.settings.enabled

/-- `AppState::get_cached_response`. -/
def getCachedResponse (key : String) (exchange : Exchange) (now : ℚ) (s : AppState) :
    Except CacheError (Option CachedResponse) × AppState :=
  if app.sharedCacheEnabled then
    if exchange.runs then
      let (result, sharedCache) :=
        Cache.sharedCacheGet app.cacheGeneration key exchange.serverTime s.sharedCache
      let value := if exchange.arrives then result.toOption.join else none
      (.ok (value.bind app.decodeSharedResponse), { s with sharedCache })
    else (.ok none, s)
  else
    let (result, responseCache) := s.responseCache.getAt key now
    (result, { s with responseCache })

/-- `AppState::put_cached_response`. -/
def putCachedResponse (key : String) (response : CachedResponse) (exchange : Exchange) (now : ℚ)
    (s : AppState) : AppState :=
  if app.sharedCacheEnabled then
    if exchange.runs then
      { s with
        sharedCache := (Cache.sharedCachePut
          { generation := app.cacheGeneration
            key
            value := app.encodeSharedResponse response
            bodyBytes := response.body.length
            ttlSeconds := app.cacheSettings.ttlSeconds
            maxEntries := app.cacheSettings.maxEntries
            maxBytes := app.cacheSettings.maxBytes } exchange.serverTime s.sharedCache).2 }
    else s
  else { s with responseCache := (s.responseCache.putAt key response now).2.2 }

/-- `privacy_posture_name`. -/
def privacyPostureName : PrivacyPosture → String
  | .onDeviceOnly => "on-device-only"
  | .localDevices => "local-devices"
  | .hostedAllowed => "hosted-allowed"

/-- `cache_partition`. -/
def cachePartition (selected : Selected) : String :=
  selected.keyId.getD "local" ++ ":" ++ privacyPostureName selected.request.privacyPosture

/-- `cache_route`. -/
def cacheRoute (selected : Selected) : String :=
  match selected.presetName with
  | none => selected.mode ++ ":" ++ selected.deliveryName
  | some name => "@route/" ++ name

/-- The key of a request under a provider model. -/
def requestKey (selected : Selected) (providerModel : String) (body : IndexMap Json) :
    Except CacheKey.CacheKeyError String :=
  CacheKey.cacheKeyWithVersion app.sha256 app.cacheGeneration (cachePartition selected)
    (cacheRoute selected) providerModel (.object body.entries)

inductive RecentOutcome where
  | streaming
  | succeeded
  | failed
  | cancelled
  | cacheHit
deriving DecidableEq

/-- What `update_delivery` writes into the entry of a request. -/
structure DeliveryReceipt where
  servedBy : String
  executionBoundary : ExecutionBoundary
  outcome : RecentOutcome
  httpStatus : Option ℕ
  errorType : Option String
deriving DecidableEq

/-- The response to a request. A response that is delivered is sent with the `served-by` header,
and not at all when the alias is no text of a header. -/
inductive ChatResponse where
  | answered (status : ℕ)
  | failed (failure : FailureStatus)
  | replayed (response : Received) (servedBy : String) (receipt : DeliveryReceipt)
  | delivered (received : Received) (servedBy : String) (receipt : DeliveryReceipt)
    (sent : Option (List UInt8))
  | streamed (response : StreamResponse)

/-- `HeaderValue::from_str` accepts the text. -/
def isHeaderValue (text : String) : Bool :=
  text.toList.all fun c => c = '\t' || (32 ≤ c.toNat && c.toNat ≠ 127)

/-- `wayfinder_router_state_error`. -/
def stateError : FailureStatus := ⟨500, "wayfinder_router_state_error"⟩

/-- `wayfinder_router_misconfigured`. -/
def misconfigured : FailureStatus := ⟨500, "wayfinder_router_misconfigured"⟩

/-! ### The lookup -/

/-- What the cache says about a request. -/
inductive CacheLookup where
  | bypassed
  | failed
  | hit (cached : CachedResponse)
  | missed

/-- `cacheable`. -/
def mayCache (selected : Selected) (target : ConfiguredModel) (body : IndexMap Json)
    (s : AppState) : Bool :=
  cacheEnabled app s && target.provider ≠ .codexAppServer && !selected.debug &&
    isCacheable app.asF64 (.object body.entries)

def lookupResponse (selected : Selected) (target : ConfiguredModel) (body : IndexMap Json)
    (exchange : Exchange) (now : ℚ) (s : AppState) : CacheLookup × AppState :=
  if mayCache app selected target body s then
    match requestKey app selected target.providerModel body with
    | .error _ => (.failed, s)
    | .ok key =>
      match getCachedResponse app key exchange now s with
      | (.error _, s) => (.failed, s)
      | (.ok none, s) => (.missed, s)
      | (.ok (some cached), s) => (.hit cached, s)
  else (.bypassed, s)

/-- The response of a hit. -/
def replay (selected : Selected) (cached : CachedResponse) : ChatResponse :=
  if cached.status < 100 ∨ 1000 ≤ cached.status then .failed stateError
  else if isHeaderValue selected.deliveryName then
    .replayed
      ⟨cached.status,
        if isHeaderValue cached.contentType then cached.contentType else "application/json",
        cached.body⟩
      selected.deliveryName
      ⟨selected.deliveryName, .onDevice, .cacheHit, some cached.status, none⟩
  else .failed misconfigured

/-! ### The delivery -/

/-- `response_value`. -/
def responseValue (received : Received) : Json :=
  if received.body ≠ [] ∧ mentionsJson received.contentType then
    (app.parseJson received.body).getD .null
  else .null

/-- The response is stored under the model of the alias that served it. -/
def storeResponse (selected : Selected) (body : IndexMap Json) (servedBy : String)
    (received : Received) (usage : AccountedUsage) (world : World) (s : AppState) : AppState :=
  if isStorable app.asF64 received.status received.contentType (responseValue app received) then
    match findModel app.models servedBy with
    | none => s
    | some served =>
      if served.provider = .codexAppServer then s
      else
        match requestKey app selected served.providerModel body with
        | .error _ => s
        | .ok key =>
          putCachedResponse app key
            { status := received.status
              contentType := received.contentType
              body := received.body
              promptTokens := usage.promptTokens
              completionTokens := usage.completionTokens
              estimated := usage.estimated } world.store world.storeTime s
  else s

/-- What `update_delivery` writes for a buffered response. -/
def bufferedReceipt (servedBy : String) (target : ConfiguredModel) (status : ℕ) :
    DeliveryReceipt where
  servedBy := servedBy
  executionBoundary := modelExecutionBoundary app.parsers target
  outcome := if isSuccess status then .succeeded else .failed
  httpStatus := some status
  errorType := if isSuccess status then none else some "wayfinder_router_upstream_error"

/-- `account_buffered_success`. -/
def accountBufferedSuccess (world : World) (status : ℕ) : Option AccountedUsage :=
  if 400 ≤ status then none else world.usage

/-- A response is stored when the cache was asked for it and missed. -/
def storeMissed (selected : Selected) (body : IndexMap Json) (missed : Bool) (servedBy : String)
    (received : Received) (accounted : Option AccountedUsage) (world : World) (s : AppState) :
    AppState :=
  match missed, accounted with
  | true, some usage => storeResponse app selected body servedBy received usage world s
  | _, _ => s

/-- The response of a delivery. -/
def finish (selected : Selected) (body : IndexMap Json) (missed : Bool) (world : World)
    (servedBy : String) (target : ConfiguredModel) (status : ℕ) (s : AppState) :
    ChatResponse × AppState :=
  let answer := world.answer target
  let received : Received := ⟨status, answer.contentType target.provider, answer.body⟩
  let sent := if selected.debug then world.injectDebugDecision received.body else received.body
  (.delivered received servedBy (bufferedReceipt app servedBy target status)
      (if isHeaderValue servedBy then some sent else none),
    storeMissed app selected body missed servedBy received (accountBufferedSuccess world status)
      world s)

/-- The environment of the attempts. -/
def environment (selected : Selected) (world : World) : Environment where
  parsers := app.parsers
  models := app.models
  retries := app.retries
  request := selected.request
  offline := selected.offline
  promptEstimate := selected.promptEstimate
  clock := world.clock
  sharedGrants := world.sharedGrants
  upstream := world.upstream
  signals := world.signals

/-- The delivery of a request that the cache did not answer. -/
def deliver (selected : Selected) (body : IndexMap Json) (missed : Bool) (world : World)
    (s : AppState) : ChatResponse × AppState :=
  match world.refusal with
  | some failure => (.failed failure, s)
  | none =>
    let env := environment app selected world
    if requestsStream (.object body.entries) then
      let (response, reliability) := streamPlan env world.plan .init s.reliability
      (.streamed response, { s with reliability })
    else
      match deliverPlan env world.plan "no upstream available" s.reliability with
      | (.served servedBy target _ status, reliability) =>
        finish app selected body missed world servedBy target status { s with reliability }
      | (.exhausted _, reliability) =>
        (.failed ⟨502, "wayfinder_router_upstream_error"⟩, { s with reliability })
      | (.misconfigured _, reliability) => (.failed misconfigured, { s with reliability })
      | (.fatal e, reliability) => (.failed (fatalDeliveryStatus e), { s with reliability })

/-- A request that is to be delivered. -/
def answerSelected (selected : Selected) (body : IndexMap Json) (world : World) (now : ℚ)
    (s : AppState) : ChatResponse × AppState :=
  match findModel app.models selected.deliveryName with
  | none => (.failed misconfigured, s)
  | some target =>
    if selected.offline ∧ modelIsProvenLocal app.parsers target = false then
      (.failed ⟨503, "wayfinder_router_offline_unavailable"⟩, s)
    else
      match lookupResponse app selected target body world.lookup now s with
      | (.failed, s) => (.failed stateError, s)
      | (.hit cached, s) => (replay selected cached, s)
      | (.missed, s) => deliver app selected body true world s
      | (.bypassed, s) => deliver app selected body false world s

/-- `chat_completions`, as a service of the gateway. -/
def chatCompletions : Timed.Service ℚ AppState ChatRequest ChatResponse := fun now request s =>
  match request.decision with
  | .answered status => (.answered status, s)
  | .selected selected =>
    answerSelected app selected (requestBody request.received selected.messages) request.world now s

end Cached

end WayfinderRouter.Gateway.Chat
