import WayfinderRouter.Access.VirtualKeys
import WayfinderRouter.Operator.Tokens
import WayfinderRouter.Trace

/-!
# The operator authenticator

Operator requests share a cached set of keys. A request whose key is not in the cached set waits
for a lock, looks again, and fetches a new set unless the last attempt was a moment ago. Every
access of the shared state is a step of its own, so the steps of requests interleave, and requests
may be cancelled between them.

Times of the monotonic clock are in nanoseconds.

## Main definitions

- `World`, `step` — the requests and the shared state, and what they do
- `Event` — what is presented, fetched, looked up and authorized
- `Justified` — why a request is authorized

## Main results

- `authorized_justified` — every authorization of a run is justified
-/

namespace WayfinderRouter.Operator

open Access (KeyPolicy parseDigest)

/-! ## Requests and the shared state -/

/-- Where a request is, between its accesses of the shared state. -/
inductive Phase where
  | idle
  /-- `keys_for` begins. -/
  | lookup (token : SignedToken)
  /-- The set does not have the key, and the lock is next. -/
  | waiting (token : SignedToken)
  | locked (token : SignedToken)
  /-- The set still does not have the key. -/
  | missed (token : SignedToken)
  /-- The last attempt was a moment ago. -/
  | cooling (token : SignedToken)
  | refreshing (token : SignedToken)
  /-- A new set is stored, and the lock is released next. -/
  | stored (token : SignedToken)
  | refreshed (token : SignedToken)

inductive Event where
  | presented (request : ℕ) (policy : Option KeyPolicy) (authorization : Option String) (wall : ℚ)
  /-- A refresh has begun. -/
  | attempted (time : ℕ)
  | failed (time : ℕ)
  | fetched (time : ℕ) (response : Option JwksResponse) (keys : List RsaJwk)
  /-- The answer of `keys_for`. -/
  | looked (request time : ℕ) (answer : Except OperatorAuthFailure (List RsaJwk))
  | authorized (request time : ℕ) (actor : String)

structure CachedKeys where
  fetched : ℕ
  keys : List RsaJwk

structure World where
  now : ℕ
  /-- `unix_seconds`. -/
  wall : ℚ
  keys : Option CachedKeys
  refreshAttempted : Option ℕ
  /-- The request that holds the lock of `refresh_attempted`. -/
  holder : Option ℕ
  phases : ℕ → Phase
  trace : List Event

inductive Action where
  | tick (elapsed : ℕ) (wall : ℚ)
  | present (request : ℕ) (policy : Option KeyPolicy) (authorization : Option String)
  | lookup (request : ℕ)
  | acquire (request : ℕ)
  | recheck (request : ℕ)
  | checkCooldown (request : ℕ)
  | readCooling (request : ℕ)
  | refresh (request : ℕ) (response : Option JwksResponse)
  | release (request : ℕ)
  | readRefreshed (request : ℕ)
  | cancel (request : ℕ)

def jwksCacheTtl : ℕ := 300 * 10 ^ 9

def jwksRefreshCooldown : ℕ := 5 * 10 ^ 9

/-- The keys of a set with an id. -/
def matching (kid : String) (keys : List RsaJwk) : List RsaJwk :=
  keys.filter fun key => key.kid = kid

namespace World

/-- Before any request. -/
def start (wall : ℚ) : World := ⟨0, wall, none, none, none, fun _ => .idle, []⟩

def setPhase (w : World) (request : ℕ) (phase : Phase) : World :=
  { w with phases := Function.update w.phases request phase }

def log (w : World) (event : Event) : World := { w with trace := w.trace ++ [event] }

/-- `OperatorAuthenticator::cached_keys_for`. -/
def cachedKeysFor (w : World) (kid : String) : Option (List RsaJwk) :=
  match w.keys with
  | none => none
  | some cached =>
    if w.now - cached.fetched < jwksCacheTtl then
      let keys := matching kid cached.keys
      if keys.isEmpty then none else some keys
    else none

end World

variable (d : Decoders) (config : AuthConfig) (sha256 : List UInt8 → List UInt8)

/-- A key of the list verifies the signature. -/
def verified (token : SignedToken) (keys : List RsaJwk) : Bool :=
  keys.any fun key =>
    d.verify key.modulus key.exponent (utf8 token.message.toList) token.signature

/-- `keys_for` answers, and the keys are tried. -/
def World.conclude (w : World) (request : ℕ) (token : SignedToken)
    (answer : Except OperatorAuthFailure (List RsaJwk)) : World :=
  let w := (w.setPhase request .idle).log (.looked request w.now answer)
  match answer with
  | .ok keys =>
    if verified d token keys then w.log (.authorized request w.now token.actor) else w
  | .error _ => w

/-- The virtual key of a request, when the policy requires one. -/
def virtualKeyActor (policy : Option KeyPolicy) (authorization : Option String) :
    Option String :=
  policy.bind fun policy =>
    (if policy.requiresAuthentication then policy.authenticate sha256 authorization
      else none).bind policy.keyId

/-- `OperatorAuthenticator::authorize`, up to the lookup of the keys. -/
def World.present (w : World) (request : ℕ) (policy : Option KeyPolicy)
    (authorization : Option String) : World :=
  let w := w.log (.presented request policy authorization w.wall)
  match config.mode, virtualKeyActor sha256 policy authorization with
  | .both, some actor => w.log (.authorized request w.now ("vkey:" ++ actor))
  | _, _ =>
    match bearerToken authorization with
    | none => w
    | some token =>
      match readToken d config w.wall token with
      | .error _ => w
      | .ok signed => w.setPhase request (.lookup signed)

/-- An access of the shared state, when it is the next one of the request. -/
def step : Action → World → Option World
  | .tick elapsed wall, w => some { w with now := w.now + elapsed, wall }
  | .present request policy authorization, w =>
    match w.phases request with
    | .idle => some (w.present d config sha256 request policy authorization)
    | _ => none
  | .lookup request, w =>
    match w.phases request with
    | .lookup token =>
      match w.cachedKeysFor token.kid with
      | some keys => some (w.conclude d request token (.ok keys))
      | none => some (w.setPhase request (.waiting token))
    | _ => none
  | .acquire request, w =>
    match w.phases request, w.holder with
    | .waiting token, none => some { w.setPhase request (.locked token) with holder := request }
    | _, _ => none
  | .recheck request, w =>
    match w.phases request with
    | .locked token =>
      match w.cachedKeysFor token.kid with
      | some keys => some ({ w with holder := none }.conclude d request token (.ok keys))
      | none => some (w.setPhase request (.missed token))
    | _ => none
  | .checkCooldown request, w =>
    match w.phases request with
    | .missed token =>
      if w.refreshAttempted.any fun attempted => w.now - attempted < jwksRefreshCooldown then
        some (w.setPhase request (.cooling token))
      else
        some (({ w with refreshAttempted := some w.now }.setPhase request (.refreshing token)).log
          (.attempted w.now))
    | _ => none
  | .readCooling request, w =>
    match w.phases request with
    | .cooling token =>
      some ({ w with holder := none }.conclude d request token
        (.error (if w.keys.isSome then .unauthorized else .unavailable)))
    | _ => none
  | .refresh request response, w =>
    match w.phases request with
    | .refreshing token =>
      match readJwks d response with
      | some keys =>
        some (({ w with keys := some ⟨w.now, keys⟩ }.setPhase request (.stored token)).log
          (.fetched w.now response keys))
      | none =>
        some (({ w with holder := none }.log (.failed w.now)).conclude d request token
          (.error .unavailable))
    | _ => none
  | .release request, w =>
    match w.phases request with
    | .stored token => some { w.setPhase request (.refreshed token) with holder := none }
    | _ => none
  | .readRefreshed request, w =>
    match w.phases request with
    | .refreshed token =>
      let keys := matching token.kid ((w.keys.map CachedKeys.keys).getD [])
      some (w.conclude d request token
        (if keys.isEmpty then .error .unauthorized else .ok keys))
    | _ => none
  | .cancel request, w =>
    -- a request that holds the lock gives it back
    some { w.setPhase request .idle with
      holder := if w.holder = some request then none else w.holder }

def run : List Action → World → Option World
  | [], w => some w
  | a :: actions, w => (step d config sha256 a w).bind (run actions)

/-! ## Justified authorizations -/

namespace Event

/-- The event begins the request. -/
def Presents (request : ℕ) : Event → Prop
  | presented r .. => r = request
  | _ => False

/-- The set that the event stores, and when. -/
def fetch? : Event → Option (ℕ × List RsaJwk)
  | fetched time _ keys => some (time, keys)
  | _ => none

end Event

/-- The most recently fetched set. -/
def lastFetched (trace : List Event) : Option (ℕ × List RsaJwk) :=
  (trace.filterMap Event.fetch?).getLast?

/-- The caller presented a configured virtual key, which the policy requires. -/
def ByVirtualKey (policy : Option KeyPolicy) (authorization : Option String) (actor : String) :
    Prop :=
  config.mode = .both ∧ ∃ p id, policy = some p ∧ p.requiresAuthentication = true ∧
    p.Presents sha256 authorization id ∧ actor = "vkey:" ++ id

/-- The caller presented a token whose signature verifies under a key of the last set, which was
fetched since then or recently. -/
def ByToken (before since : List Event) (authorization : Option String) (wall : ℚ) (time : ℕ)
    (actor : String) : Prop :=
  ∃ token signed headerSegment claimsSegment signatureSegment,
    bearerToken authorization = some token ∧
    TokenAccepted d config wall token signed headerSegment claimsSegment signatureSegment ∧
    actor = signed.actor ∧
    ∃ fetched keys, lastFetched before = some (fetched, keys) ∧
      (lastFetched since = some (fetched, keys) ∨ time < fetched + jwksCacheTtl) ∧
      ∃ key ∈ keys, key.kid = signed.kid ∧ (∃ document, key.Acceptable d document) ∧
        d.verify key.modulus key.exponent (utf8 signed.message.toList) signed.signature = true

/-- Why an event may follow the events before it. -/
def Justified (before : List Event) : Event → Prop
  | .fetched _ response keys => readJwks d response = some keys
  | .authorized request time actor =>
    ∃ earlier policy authorization wall since,
      before = earlier ++ .presented request policy authorization wall :: since ∧
      (∀ event ∈ since, ¬ event.Presents request) ∧
      (ByVirtualKey config sha256 policy authorization actor ∨
        ByToken d config before since authorization wall time actor)
  | _ => True

/-! ## What a step keeps -/

section Events

variable {trace since : List Event} {event : Event}

theorem lastFetched_log (h : event.fetch? = none) :
    lastFetched (trace ++ [event]) = lastFetched trace := by
  rw [lastFetched, List.filterMap_append, List.filterMap_cons_none h, List.filterMap_nil,
    List.append_nil, lastFetched]

theorem lastFetched_fetched (trace : List Event) (time : ℕ) (response : Option JwksResponse)
    (keys : List RsaJwk) :
    lastFetched (trace ++ [.fetched time response keys]) = some (time, keys) := by
  rw [lastFetched, List.filterMap_append]
  exact List.getLast?_concat

/-- What was fetched in a part of the trace was fetched last if anything was fetched there. -/
theorem lastFetched_append (trace since : List Event) (h : (lastFetched since).isSome) :
    lastFetched (trace ++ since) = lastFetched since := by
  unfold lastFetched at h ⊢
  rw [List.filterMap_append, List.getLast?_append]
  obtain ⟨last, hlast⟩ := Option.isSome_iff_exists.mp h
  rw [hlast]
  rfl

end Events

/-- The request of a token has begun, and these events have happened since. -/
def Began (trace : List Event) (request : ℕ) (signed : SignedToken) (since : List Event) : Prop :=
  ∃ earlier policy authorization wall token headerSegment claimsSegment signatureSegment,
    trace = earlier ++ .presented request policy authorization wall :: since ∧
    (∀ event ∈ since, ¬ event.Presents request) ∧
    bearerToken authorization = some token ∧
    TokenAccepted d config wall token signed headerSegment claimsSegment signatureSegment

theorem Began.log {trace since : List Event} {request : ℕ} {signed : SignedToken}
    (h : Began d config trace request signed since) (event : Event)
    (hevent : ¬ event.Presents request) :
    Began d config (trace ++ [event]) request signed (since ++ [event]) := by
  obtain ⟨earlier, policy, authorization, wall, token, header, claims, signature, rfl, hsince,
    hrest⟩ := h
  refine ⟨earlier, policy, authorization, wall, token, header, claims, signature, by simp, ?_,
    hrest⟩
  intro e he
  rcases List.mem_append.mp he with he | he
  · exact hsince e he
  · rw [List.mem_singleton.mp he]
    exact hevent

namespace Phase

/-- The token of a request in progress. -/
def token? : Phase → Option SignedToken
  | idle => none
  | lookup token | waiting token | locked token | missed token | cooling token
  | refreshing token | stored token | refreshed token => some token

/-- The request has stored a set. -/
def Own : Phase → Prop
  | stored _ | refreshed _ => True
  | _ => False

end Phase

structure Inv (w : World) : Prop where
  justified : Trace.Always (Justified d config sha256) w.trace
  /-- The cached set is the one fetched last. -/
  cache : w.keys.map (fun cached => (cached.fetched, cached.keys)) = lastFetched w.trace
  acceptable : ∀ cached ∈ w.keys, ∀ key ∈ cached.keys, ∃ document, key.Acceptable d document
  pending : ∀ request token, (w.phases request).token? = some token →
    ∃ since, Began d config w.trace request token since ∧
      ((w.phases request).Own → (lastFetched since).isSome)

theorem inv_start (wall : ℚ) : Inv d config sha256 (.start wall) where
  justified := Trace.always_nil
  cache := rfl
  acceptable := by simp [World.start]
  pending := by simp [World.start, Phase.token?]

section Steps

variable {d config sha256} {w w' : World} {request : ℕ} {token : SignedToken} {event : Event}

/-- An event that stores no set and begins no request that is in progress. -/
theorem Inv.log (h : Inv d config sha256 w) (hevent : Justified d config sha256 w.trace event)
    (hbegins : ∀ request, event.Presents request → (w.phases request).token? = none)
    (hfetches : event.fetch? = none) :
    Inv d config sha256 (w.log event) where
  justified := h.justified.concat hevent
  cache := h.cache.trans (lastFetched_log hfetches).symm
  acceptable := h.acceptable
  pending := by
    intro request token htoken
    obtain ⟨since, hbegan, hown⟩ := h.pending request token htoken
    have hbegins' : ¬ event.Presents request := by
      intro hpresents
      cases (hbegins request hpresents).symm.trans htoken
    refine ⟨since ++ [event], hbegan.log d config event hbegins', ?_⟩
    rw [lastFetched_log hfetches]
    exact hown

theorem Inv.setPhase (h : Inv d config sha256 w) {phase : Phase}
    (hphase : ∀ token, phase.token? = some token →
      ∃ since, Began d config w.trace request token since ∧
        (phase.Own → (lastFetched since).isSome)) :
    Inv d config sha256 (w.setPhase request phase) where
  justified := h.justified
  cache := h.cache
  acceptable := h.acceptable
  pending := by
    intro other token hother
    by_cases heq : other = request
    · subst heq
      have hsame : (w.setPhase other phase).phases other = phase := Function.update_self _ _ _
      rw [hsame] at hother ⊢
      exact hphase token hother
    · have hsame : (w.setPhase request phase).phases other = w.phases other :=
        Function.update_of_ne heq _ _
      rw [hsame] at hother ⊢
      exact h.pending other token hother

/-- A request goes on with its token. -/
theorem Inv.advance (h : Inv d config sha256 w) (hphase : (w.phases request).token? = some token)
    {phase : Phase} (htoken : phase.token? = some token)
    (hown : phase.Own → (w.phases request).Own) :
    Inv d config sha256 (w.setPhase request phase) := by
  apply h.setPhase
  intro signed hsigned
  cases htoken.symm.trans hsigned
  obtain ⟨since, hbegan, hsince⟩ := h.pending request token hphase
  exact ⟨since, hbegan, fun hphase => hsince (hown hphase)⟩

/-- The request ends. -/
theorem Inv.setIdle (h : Inv d config sha256 w) (request : ℕ) :
    Inv d config sha256 (w.setPhase request .idle) := by
  apply h.setPhase
  intro token htoken
  cases htoken

/-- The lock, the last attempt and the clocks are not part of the invariant. -/
theorem Inv.congr (h : Inv d config sha256 w) (hkeys : w'.keys = w.keys)
    (hphases : w'.phases = w.phases) (htrace : w'.trace = w.trace) : Inv d config sha256 w' := by
  obtain ⟨justified, cache, acceptable, pending⟩ := h
  constructor
  · rw [htrace]
    exact justified
  · rw [hkeys, htrace]
    exact cache
  · rw [hkeys]
    exact acceptable
  · rw [hphases, htrace]
    exact pending

/-- What was fetched since the request began is what was fetched last. -/
theorem Began.lastFetched_eq {trace since : List Event}
    (h : Began d config trace request token since) (hsince : (lastFetched since).isSome) :
    lastFetched trace = lastFetched since := by
  obtain ⟨earlier, policy, authorization, wall, -, -, -, -, rfl, -⟩ := h
  rw [List.append_cons]
  exact lastFetched_append _ since hsince

/-- The answer of `keys_for` is from the cached set, which is recent or was stored by the request
itself. -/
theorem Inv.conclude (h : Inv d config sha256 w) (hphase : (w.phases request).token? = some token)
    {answer : Except OperatorAuthFailure (List RsaJwk)}
    (hanswer : ∀ keys, answer = .ok keys → ∃ cached, w.keys = some cached ∧
      (∀ key ∈ keys, key ∈ cached.keys ∧ key.kid = token.kid) ∧
      ((w.phases request).Own ∨ w.now - cached.fetched < jwksCacheTtl)) :
    Inv d config sha256 (w.conclude d request token answer) := by
  have hlooked : Inv d config sha256
      ((w.setPhase request .idle).log (.looked request w.now answer)) :=
    (h.setIdle request).log trivial (fun _ hpresents => hpresents.elim) rfl
  cases answer with
  | error e => exact hlooked
  | ok keys =>
    unfold World.conclude
    dsimp only
    split
    · rename_i hverified
      refine hlooked.log ?_ (fun _ hpresents => hpresents.elim) rfl
      obtain ⟨since, hbegan, hown⟩ := h.pending request token hphase
      obtain ⟨cached, hcached, hmembers, hrecent⟩ := hanswer keys rfl
      obtain ⟨key, hkey, hverify⟩ := List.any_eq_true.mp hverified
      have hlast : lastFetched w.trace = some (cached.fetched, cached.keys) := by
        rw [← h.cache, hcached]
        rfl
      have hrecent' : lastFetched since = some (cached.fetched, cached.keys) ∨
          w.now < cached.fetched + jwksCacheTtl := by
        rcases hrecent with hmine | hrecent
        · exact .inl ((hbegan.lastFetched_eq (hown hmine)).symm.trans hlast)
        · right
          omega
      obtain ⟨earlier, policy, authorization, wall, text, header, claims, signature, htrace,
        hsince, hbearer, haccepted⟩ :=
          hbegan.log d config (.looked request w.now (.ok keys)) fun hpresents => hpresents
      refine ⟨earlier, policy, authorization, wall, _, htrace, hsince, .inr ⟨text, token, header,
        claims, signature, hbearer, haccepted, rfl, cached.fetched, cached.keys, ?_, ?_, key,
        (hmembers key hkey).1, (hmembers key hkey).2,
        h.acceptable cached hcached key (hmembers key hkey).1, hverify⟩⟩
      · exact (lastFetched_log rfl).trans hlast
      · rw [lastFetched_log rfl]
        exact hrecent'
    · exact hlooked

/-- A new set is stored. -/
theorem Inv.store (h : Inv d config sha256 w) (hphase : (w.phases request).token? = some token)
    {response : Option JwksResponse} {keys : List RsaJwk}
    (hkeys : readJwks d response = some keys) :
    Inv d config sha256 (({ w with keys := some ⟨w.now, keys⟩ }.setPhase request
      (.stored token)).log (.fetched w.now response keys)) where
  justified := h.justified.concat hkeys
  cache := (lastFetched_fetched _ _ _ _).symm
  acceptable := by
    intro cached hcached key hkey
    cases hcached
    exact acceptable_of_readJwks d hkeys key hkey
  pending := by
    intro other signed hother
    have hbefore : (w.phases other).token? = some signed := by
      by_cases heq : other = request
      · subst heq
        change (Function.update w.phases other (.stored token) other).token? = some signed at hother
        rw [Function.update_self] at hother
        exact hphase.trans hother
      · change (Function.update w.phases request _ other).token? = some signed at hother
        rwa [Function.update_of_ne heq] at hother
    obtain ⟨since, hbegan, -⟩ := h.pending other signed hbefore
    let event : Event := .fetched w.now response keys
    refine ⟨since ++ [event], hbegan.log d config event fun hpresents => hpresents, fun _ => ?_⟩
    rw [lastFetched_fetched]
    rfl

/-- The keys that `cached_keys_for` finds. -/
theorem mem_cachedKeysFor {kid : String} {keys : List RsaJwk}
    (h : w.cachedKeysFor kid = some keys) :
    ∃ cached, w.keys = some cached ∧ (∀ key ∈ keys, key ∈ cached.keys ∧ key.kid = kid) ∧
      w.now - cached.fetched < jwksCacheTtl := by
  unfold World.cachedKeysFor at h
  split at h
  · cases h
  · rename_i cached hcached
    dsimp only at h
    split_ifs at h with hrecent hempty
    cases h
    refine ⟨cached, hcached, ?_, hrecent⟩
    intro key hkey
    simpa [matching] using hkey

/-- A virtual key that is required is presented. -/
theorem byVirtualKey_of_virtualKeyActor {policy : Option KeyPolicy} {authorization : Option String}
    {actor : String} (hmode : config.mode = .both)
    (h : virtualKeyActor sha256 policy authorization = some actor) :
    ByVirtualKey config sha256 policy authorization ("vkey:" ++ actor) := by
  obtain ⟨p, hp, h⟩ := Option.bind_eq_some_iff.mp h
  obtain ⟨grant, hgrant, hid⟩ := Option.bind_eq_some_iff.mp h
  split_ifs at hgrant with hrequired
  exact ⟨hmode, p, actor, hp, hrequired, KeyPolicy.presents_of_keyId hgrant hid, rfl⟩

/-- `authorize` begins. -/
theorem Inv.present (h : Inv d config sha256 w) (hidle : w.phases request = .idle)
    (policy : Option KeyPolicy) (authorization : Option String) :
    Inv d config sha256 (w.present d config sha256 request policy authorization) := by
  have hlogged : Inv d config sha256
      (w.log (.presented request policy authorization w.wall)) := by
    refine h.log trivial ?_ rfl
    intro other hother
    cases hother
    rw [hidle]
    rfl
  unfold World.present
  dsimp only
  split
  · rename_i actor hmode hactor
    refine hlogged.log ?_ (fun _ hpresents => hpresents.elim) rfl
    exact ⟨w.trace, policy, authorization, w.wall, [], rfl, fun _ he => absurd he List.not_mem_nil,
      .inl (byVirtualKey_of_virtualKeyActor hmode hactor)⟩
  · split
    · exact hlogged
    rename_i text hbearer
    split
    · exact hlogged
    rename_i signed hsigned
    obtain ⟨header, claims, signature, haccepted⟩ := tokenAccepted_of_readToken d config hsigned
    apply hlogged.setPhase
    intro token htoken
    cases htoken
    exact ⟨[], ⟨w.trace, policy, authorization, w.wall, text, header, claims, signature, rfl,
      fun _ he => absurd he List.not_mem_nil, hbearer, haccepted⟩, fun hown => hown.elim⟩

theorem inv_step {a : Action} (h : Inv d config sha256 w)
    (hstep : step d config sha256 a w = some w') : Inv d config sha256 w' := by
  cases a with
  | tick elapsed wall =>
    cases hstep
    exact h.congr rfl rfl rfl
  | present request policy authorization =>
    simp only [step] at hstep
    split at hstep
    · rename_i hidle
      cases hstep
      exact h.present hidle policy authorization
    · cases hstep
  | lookup request =>
    simp only [step] at hstep
    split at hstep
    · rename_i token hphase
      split at hstep
      · rename_i keys hkeys
        cases hstep
        apply h.conclude (by rw [hphase]; rfl)
        intro keys' heq
        cases heq
        obtain ⟨cached, hcached, hmembers, hrecent⟩ := mem_cachedKeysFor hkeys
        exact ⟨cached, hcached, hmembers, .inr hrecent⟩
      · cases hstep
        exact h.advance (by rw [hphase]; rfl) rfl fun hown => hown.elim
    · cases hstep
  | acquire request =>
    simp only [step] at hstep
    split at hstep
    · rename_i token hphase _
      cases hstep
      have hlocked : Inv d config sha256 (w.setPhase request (.locked token)) :=
        h.advance (by rw [hphase]; rfl) rfl fun hown => hown.elim
      exact hlocked.congr rfl rfl rfl
    · cases hstep
  | recheck request =>
    simp only [step] at hstep
    split at hstep
    · rename_i token hphase
      split at hstep
      · rename_i keys hkeys
        cases hstep
        have hreleased : Inv d config sha256 { w with holder := none } := h.congr rfl rfl rfl
        apply hreleased.conclude (by rw [hphase]; rfl)
        intro keys' heq
        cases heq
        obtain ⟨cached, hcached, hmembers, hrecent⟩ := mem_cachedKeysFor hkeys
        exact ⟨cached, hcached, hmembers, .inr hrecent⟩
      · cases hstep
        exact h.advance (by rw [hphase]; rfl) rfl fun hown => hown.elim
    · cases hstep
  | checkCooldown request =>
    simp only [step] at hstep
    split at hstep
    · rename_i token hphase
      split at hstep
      · cases hstep
        exact h.advance (by rw [hphase]; rfl) rfl fun hown => hown.elim
      · cases hstep
        have hrefreshing : Inv d config sha256 (w.setPhase request (.refreshing token)) :=
          h.advance (by rw [hphase]; rfl) rfl fun hown => hown.elim
        have hattempted : Inv d config sha256
            ({ w with refreshAttempted := some w.now }.setPhase request (.refreshing token)) :=
          hrefreshing.congr rfl rfl rfl
        exact hattempted.log trivial (fun _ hpresents => hpresents.elim) rfl
    · cases hstep
  | readCooling request =>
    simp only [step] at hstep
    split at hstep
    · rename_i token hphase
      cases hstep
      have hreleased : Inv d config sha256 { w with holder := none } := h.congr rfl rfl rfl
      apply hreleased.conclude (by rw [hphase]; rfl)
      intro keys heq
      cases heq
    · cases hstep
  | refresh request response =>
    simp only [step] at hstep
    split at hstep
    · rename_i token hphase
      split at hstep
      · rename_i keys hkeys
        cases hstep
        exact h.store (by rw [hphase]; rfl) hkeys
      · cases hstep
        have hreleased : Inv d config sha256 { w with holder := none } := h.congr rfl rfl rfl
        have hfailed : Inv d config sha256 ({ w with holder := none }.log (.failed w.now)) :=
          hreleased.log trivial (fun _ hpresents => hpresents.elim) rfl
        apply hfailed.conclude
        · change (w.phases request).token? = some token
          rw [hphase]
          rfl
        · intro keys heq
          cases heq
    · cases hstep
  | release request =>
    simp only [step] at hstep
    split at hstep
    · rename_i token hphase
      cases hstep
      have hrefreshed : Inv d config sha256 (w.setPhase request (.refreshed token)) :=
        h.advance (by rw [hphase]; rfl) rfl fun _ => by rw [hphase]; trivial
      exact hrefreshed.congr rfl rfl rfl
    · cases hstep
  | readRefreshed request =>
    simp only [step] at hstep
    split at hstep
    · rename_i token hphase
      cases hstep
      apply h.conclude (by rw [hphase]; rfl)
      intro keys heq
      split_ifs at heq with hempty
      cases heq
      -- the set that the request stored may have been replaced, but not removed
      cases hcached : w.keys with
      | none =>
        rw [hcached] at hempty
        exact absurd rfl hempty
      | some cached =>
        refine ⟨cached, rfl, ?_, .inl (by rw [hphase]; trivial)⟩
        intro key hkey
        simpa [matching] using hkey
    · cases hstep
  | cancel request =>
    cases hstep
    exact (h.setIdle request).congr rfl rfl rfl

theorem inv_run {actions : List Action} (h : Inv d config sha256 w)
    (hrun : run d config sha256 actions w = some w') : Inv d config sha256 w' := by
  induction actions generalizing w with
  | nil =>
    cases hrun
    exact h
  | cons a actions ih =>
    obtain ⟨next, hstep, hrest⟩ := Option.bind_eq_some_iff.mp hrun
    exact ih (inv_step h hstep) hrest

end Steps

/-- Whenever a request is authorized, it presented a virtual key that is required, or a token whose
signature verifies under a key of the set fetched last, which is recent or was fetched while the
request was looking for it. -/
theorem authorized_justified {actions : List Action} {wall : ℚ} {w : World}
    (hrun : run d config sha256 actions (.start wall) = some w) :
    Trace.Always (Justified d config sha256) w.trace :=
  (inv_run (inv_start d config sha256 wall) hrun).justified

/-! ## A virtual key in the place of a token -/

/-- A gateway where operators present a virtual key or a token. -/
def bothConfig : AuthConfig := ⟨.both, "https://id.example", "wayfinder", "admin"⟩

/-- No text is a token here. -/
def noDecoders : Decoders where
  base64 _ := none
  header _ := none
  claims _ := none
  documents _ := none
  asF64 _ := none
  verify _ _ _ _ := false

/-- The digest of `wf-example`. -/
def exampleDigest : String := "5a41a8e23e22d241c76385d4f388118985f151c46500d9bc02f668aa08d1461c"

/-- SHA-256 on the one key that is presented. -/
def exampleSha256 (input : List UInt8) : List UInt8 :=
  if input = utf8 "wf-example".toList then (parseDigest exampleDigest).getD [] else []

/-- A policy that requires the one key. -/
def examplePolicy : KeyPolicy := ⟨[⟨"ops", exampleDigest, []⟩], false⟩

/-- An operator is authorized by the key. -/
theorem authorized_justified_virtual_key :
    Trace.Always (Justified noDecoders bothConfig exampleSha256)
      [.presented 0 (some examplePolicy) (some "Bearer wf-example") 0,
        .authorized 0 0 "vkey:ops"] := by
  have hactor : virtualKeyActor exampleSha256 (some examplePolicy) (some "Bearer wf-example") =
      some "ops" := by decide +kernel
  have hpresent : ∃ w, run noDecoders bothConfig exampleSha256
      [.present 0 (some examplePolicy) (some "Bearer wf-example")] (.start 0) = some w ∧
        w.trace = [.presented 0 (some examplePolicy) (some "Bearer wf-example") 0,
          .authorized 0 0 "vkey:ops"] := by
    refine ⟨_, rfl, ?_⟩
    simp only [World.present, hactor]
    rfl
  obtain ⟨w, hrun, htrace⟩ := hpresent
  rw [← htrace]
  exact authorized_justified noDecoders bothConfig exampleSha256 hrun

end WayfinderRouter.Operator
