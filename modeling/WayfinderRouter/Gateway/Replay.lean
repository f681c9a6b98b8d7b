import WayfinderRouter.Gateway.Chat
import WayfinderRouter.SharedState.Cache.Provenance

/-!
# Replayed responses

What a gateway keeps in a cache, it received for an earlier request that has the same key. The key
is read back into its parts: the partition into the key of the caller and the privacy posture, and
the body into its members.

The parts are not the request itself. The model in a key is the model at the provider, which two
aliases may share, and the body is the one that is delivered. The partition of a caller without a
key is that of a key named `local`.

## Main definitions

- `Holds` — all that the caches keep has a property
- `Stored` — an earlier request stored a response under a key
- `Replays` — an earlier request received what a later one is answered with

## Main results

- `replay_received` — every replayed response was received by an earlier request of the same key
-/

namespace WayfinderRouter.Gateway.Chat

open CacheKey
open ResponseCache (CachedResponse CacheSettings)

/-! ## What a cache keeps -/

section Holds

variable {app : App} {P Q : String → CachedResponse → Prop} {s : AppState} {key : String}
  {response : CachedResponse} {now : ℚ}

/-- All that the local cache keeps. -/
def Responses (P : String → CachedResponse → Prop) (s : ResponseCache.State) : Prop :=
  ∀ e ∈ s.store.entries, P e.1 e.2.response

/-- All that the two caches keep has the property. The shared cache keeps encoded responses. -/
structure Holds (app : App) (P : String → CachedResponse → Prop) (s : AppState) : Prop where
  responses : Responses P s.responseCache
  shared : Cache.Values (fun key value => ∃ response, P key response ∧
    value = app.encodeSharedResponse response) s.sharedCache

theorem Holds.mono (h : Holds app P s) (hPQ : ∀ key response, P key response → Q key response) :
    Holds app Q s where
  responses e he := hPQ _ _ (h.responses e he)
  shared := h.shared.mono fun _ _ ⟨response, hP, heq⟩ => ⟨response, hPQ _ _ hP, heq⟩

theorem Responses.getAt {s : ResponseCache.State} (h : Responses P s) (key : String) (now : ℚ) :
    Responses P (s.getAt key now).2 ∧
      ∀ response, (s.getAt key now).1 = .ok (some response) → P key response := by
  rw [ResponseCache.State.getAt]
  split_ifs with hnow hoff
  · exact ⟨h, fun response heq => (by cases heq)⟩
  · exact ⟨h, fun response heq => (by cases heq)⟩
  · cases hget : s.store.get key with
    | none => exact ⟨h, fun response heq => (by cases heq)⟩
    | some stored =>
      have hmem := IndexMap.get_eq_some_iff.mp hget
      have hremoved : ∀ e ∈ (s.store.shiftRemove key).entries, P e.1 e.2.response :=
        fun e he => h e (List.mem_of_mem_filter he)
      dsimp only
      split_ifs with hexpired
      · exact ⟨hremoved, fun response heq => (by cases heq)⟩
      · refine ⟨fun e he => ?_, fun response heq => ?_⟩
        · rcases IndexMap.mem_insert.mp he with rfl | ⟨he, -⟩
          · exact h _ hmem
          · exact hremoved e he
        · rw [← Option.some.inj (Except.ok.inj heq)]
          exact h _ hmem

theorem Responses.evict {s : ResponseCache.State} (h : Responses P s) : Responses P s.evict.2 := by
  intro e he
  have hkept : e ∈ s.eviction.dropped ++ s.eviction.kept := List.mem_append_right _ he
  rw [ResponseCache.State.eviction, Recency.evict_append] at hkept
  exact h e hkept

theorem Responses.putAt {s : ResponseCache.State} (h : Responses P s) (key : String)
    (response : CachedResponse) (now : ℚ) :
    Responses (fun k r => P k r ∨ k = key ∧ r = response) (s.putAt key response now).2.2 := by
  rw [ResponseCache.State.putAt]
  split
  · exact fun e he => .inl (h e he)
  split
  · exact fun e he => .inl (h e he)
  · refine Responses.evict fun e he => ?_
    rcases IndexMap.mem_insert.mp he with rfl | ⟨he, -⟩
    · exact .inr ⟨rfl, rfl⟩
    · exact .inl (h e (List.mem_of_mem_filter he))

theorem eq_ok_of_join {ε α : Type} {result : Except ε (Option α)} {value : α}
    (h : result.toOption.join = some value) : result = .ok (some value) := by
  cases result with
  | error e => cases h
  | ok found => exact congrArg Except.ok h

/-- What a shared cache answers with is decoded. -/
def Decodes (app : App) : Prop :=
  app.sharedCacheEnabled = true →
    ∀ response, app.decodeSharedResponse (app.encodeSharedResponse response) = some response

theorem Holds.getCachedResponse (h : Holds app P s) (hdecodes : Decodes app) (key : String)
    (exchange : Exchange) (now : ℚ) :
    Holds app P (getCachedResponse app key exchange now s).2 ∧
      ∀ response, (getCachedResponse app key exchange now s).1 = .ok (some response) →
        P key response := by
  rw [Chat.getCachedResponse]
  split
  · next henabled =>
    split
    · have hget := h.shared.sharedCacheGet app.cacheGeneration key exchange.serverTime
      refine ⟨⟨h.responses, hget.1⟩, fun response heq => ?_⟩
      obtain ⟨value, hvalue, hdecoded⟩ := Option.bind_eq_some_iff.mp (Except.ok.inj heq)
      split at hvalue
      · obtain ⟨response', hP, rfl⟩ := hget.2 value (eq_ok_of_join hvalue)
        rw [hdecodes henabled, Option.some.injEq] at hdecoded
        rwa [← hdecoded]
      · cases hvalue
    · exact ⟨h, fun response heq => (by cases heq)⟩
  · have hget := h.responses.getAt key now
    exact ⟨⟨hget.1, h.shared⟩, hget.2⟩

theorem Holds.putCachedResponse (h : Holds app P s) (key : String) (response : CachedResponse)
    (exchange : Exchange) (now : ℚ) :
    Holds app (fun k r => P k r ∨ k = key ∧ r = response)
      (putCachedResponse app key response exchange now s) := by
  have hmono := h.mono fun k r (hP : P k r) => Or.inl (b := k = key ∧ r = response) hP
  rw [Chat.putCachedResponse]
  split
  · split
    · refine ⟨hmono.responses, (h.shared.sharedCachePut _).mono ?_⟩
      rintro k value (⟨r, hP, rfl⟩ | ⟨rfl, rfl⟩)
      · exact ⟨r, .inl hP, rfl⟩
      · exact ⟨response, .inr ⟨rfl, rfl⟩, rfl⟩
    · exact hmono
  · exact ⟨h.responses.putAt key response now, hmono.shared⟩

end Holds

/-! ## What a request stores -/

section Step

variable {app : App} {P : String → CachedResponse → Prop} {s : AppState} {selected : Selected}
  {body : IndexMap Json} {servedBy : String} {received : Received} {world : World}

theorem toNat_ofNat_byte {n : ℕ} (h : n < 256) : (Char.ofNat n).toNat = n := by
  have hvalid : n.isValidChar := .inl (h.trans (by decide))
  rw [Char.ofNat, dif_pos hvalid]
  rfl

theorem isHeaderValue_contentType (answer : Answer) (kind : ProviderKind) :
    isHeaderValue (answer.contentType kind) = true := by
  have htext : ∀ value text, headerText value = some text → isHeaderValue text = true := by
    intro value text h
    rw [headerText] at h
    split at h
    · next hall =>
      rw [← Option.some.inj h, isHeaderValue, String.toList_ofList, List.all_map, List.all_eq_true]
      intro b hb
      have hvisible := List.all_eq_true.mp hall b hb
      simp only [Bool.or_eq_true, Bool.and_eq_true, decide_eq_true_eq, UInt8.le_iff_toNat_le,
        UInt8.lt_iff_toNat_lt] at hvisible
      simp only [Function.comp_apply, Bool.or_eq_true, Bool.and_eq_true, decide_eq_true_eq]
      rw [toNat_ofNat_byte b.toNat_lt]
      rcases hvisible with rfl | ⟨hlow, hhigh⟩
      · exact .inl rfl
      · exact .inr ⟨hlow, hhigh.ne⟩
    · cases h
  cases kind with
  | openAiCompatible =>
    rw [Answer.contentType]
    cases hheader : answer.contentTypeHeader.bind headerText with
    | none => decide
    | some text =>
      obtain ⟨value, -, hvalue⟩ := Option.bind_eq_some_iff.mp hheader
      exact htext value text hvalue
  | _ => exact (by decide : isHeaderValue "application/json" = true)

/-- The response was received from the alias, and the key is that of the request under the model
of the alias. -/
structure Keyed (app : App) (selected : Selected) (body : IndexMap Json) (servedBy : String)
    (received : Received) (key : String) (response : CachedResponse) : Prop where
  received_eq : received = ⟨response.status, response.contentType, response.body⟩
  status_eq : response.status = 200
  keyed : ∃ served, findModel app.models servedBy = some served ∧
    requestKey app selected served.providerModel body = .ok key

theorem isStorable_status {asF64 : String → Option ℚ} {status : ℕ} {contentType : String}
    {value : Json} (h : isStorable asF64 status contentType value = true) : status = 200 := by
  simp only [isStorable, Bool.and_eq_true, decide_eq_true_eq] at h
  exact h.1.1.1.1

theorem Holds.storeResponse (h : Holds app P s) (usage : AccountedUsage) :
    Holds app (fun key response => P key response ∨
        Keyed app selected body servedBy received key response)
      (storeResponse app selected body servedBy received usage world s) := by
  have hkeep : Holds app (fun key response => P key response ∨
      Keyed app selected body servedBy received key response) s := h.mono fun _ _ => .inl
  rw [Chat.storeResponse]
  split
  · next hstorable =>
    cases hfound : findModel app.models servedBy with
    | none => exact hkeep
    | some served =>
      dsimp only
      split
      · exact hkeep
      · cases hkey : requestKey app selected served.providerModel body with
        | error e => exact hkeep
        | ok key =>
          refine (h.putCachedResponse key _ world.store world.storeTime).mono ?_
          rintro k r (hP | ⟨rfl, rfl⟩)
          · exact .inl hP
          · exact .inr ⟨rfl, isStorable_status hstorable, served, hfound, hkey⟩
  · exact hkeep

/-- The response to the request is what it received and stored under the key. -/
def Delivers (app : App) (selected : Selected) (body : IndexMap Json) (reply : ChatResponse)
    (key : String) (response : CachedResponse) : Prop :=
  ∃ received servedBy receipt sent, reply = .delivered received servedBy receipt sent ∧
    isHeaderValue received.contentType = true ∧
    Keyed app selected body servedBy received key response

/-- What is kept after an answer: what was kept before, and what the answer stored. -/
abbrev HoldsAfter (app : App) (P : String → CachedResponse → Prop) (selected : Selected)
    (body : IndexMap Json) (answer : ChatResponse × AppState) : Prop :=
  Holds app (fun key response => P key response ∨
    Delivers app selected body answer.1 key response) answer.2

theorem Holds.after (h : Holds app P s) {reply : ChatResponse} {s' : AppState}
    (hresponses : s'.responseCache = s.responseCache) (hshared : s'.sharedCache = s.sharedCache) :
    HoldsAfter app P selected body (reply, s') := by
  refine Holds.mono ⟨?_, ?_⟩ fun key response (hP : P key response) => .inl hP
  · rw [hresponses]
    exact h.responses
  · rw [hshared]
    exact h.shared

theorem Holds.storeMissed (h : Holds app P s) (missed : Bool) (accounted : Option AccountedUsage) :
    Holds app (fun key response => P key response ∨
        Keyed app selected body servedBy received key response)
      (storeMissed app selected body missed servedBy received accounted world s) := by
  cases missed with
  | false => exact h.mono fun _ _ => .inl
  | true =>
    cases accounted with
    | none => exact h.mono fun _ _ => .inl
    | some usage => exact h.storeResponse usage

theorem Holds.finish (h : Holds app P s) (missed : Bool) (target : ConfiguredModel)
    (status : ℕ) :
    HoldsAfter app P selected body
      (finish app selected body missed world servedBy target status s) := by
  refine (h.storeMissed missed (accountBufferedSuccess world status)).mono
    fun key response hP => hP.imp_right fun hkeyed => ?_
  exact ⟨_, servedBy, _, _, rfl, isHeaderValue_contentType _ _, hkeyed⟩

theorem Holds.deliver (h : Holds app P s) (missed : Bool) :
    HoldsAfter app P selected body (deliver app selected body missed world s) := by
  rw [Chat.deliver]
  split
  · exact h.after rfl rfl
  dsimp only
  split
  · exact h.after rfl rfl
  split
  · next servedBy target _ status reliability _ =>
    have hreliability : Holds app P { s with reliability } := ⟨h.responses, h.shared⟩
    exact hreliability.finish missed target status
  · exact h.after rfl rfl
  · exact h.after rfl rfl
  · exact h.after rfl rfl

/-- A delivery is no replay. -/
theorem deliver_ne_replayed {missed : Bool} {response : Received} {receipt : DeliveryReceipt} :
    (deliver app selected body missed world s).1 ≠ .replayed response servedBy receipt := by
  rw [deliver]
  split
  · exact fun h => by cases h
  dsimp only
  split
  · exact fun h => by cases h
  split
  · exact fun h => by cases h
  · exact fun h => by cases h
  · exact fun h => by cases h
  · exact fun h => by cases h

theorem Holds.lookupResponse (h : Holds app P s) (hdecodes : Decodes app) (selected : Selected)
    (body : IndexMap Json) (target : ConfiguredModel) (exchange : Exchange) (now : ℚ) :
    Holds app P (lookupResponse app selected target body exchange now s).2 ∧
      ∀ cached, (lookupResponse app selected target body exchange now s).1 = .hit cached →
        ∃ key, requestKey app selected target.providerModel body = .ok key ∧ P key cached := by
  rw [Chat.lookupResponse]
  split
  · cases hkey : requestKey app selected target.providerModel body with
    | error e => exact ⟨h, fun cached heq => by cases heq⟩
    | ok key =>
      have hget := h.getCachedResponse hdecodes key exchange now
      dsimp only
      rcases hresult : Chat.getCachedResponse app key exchange now s with ⟨_ | _ | cached, s'⟩
      · rw [hresult] at hget
        exact ⟨hget.1, fun cached heq => by cases heq⟩
      · rw [hresult] at hget
        exact ⟨hget.1, fun cached heq => by cases heq⟩
      · rw [hresult] at hget
        refine ⟨hget.1, fun cached' heq => ⟨key, rfl, ?_⟩⟩
        cases heq
        exact hget.2 cached rfl
  · exact ⟨h, fun cached heq => by cases heq⟩

/-- **Step lemma**: an answer keeps what was kept, and stores what it received. A replayed response
is kept under the key of the request for the planned alias. -/
theorem Holds.answerSelected (h : Holds app P s) (hdecodes : Decodes app) (now : ℚ) :
    HoldsAfter app P selected body (answerSelected app selected body world now s) ∧
      ∀ response servedBy receipt, (answerSelected app selected body world now s).1 =
          .replayed response servedBy receipt →
        ∃ target key cached, findModel app.models selected.deliveryName = some target ∧
          requestKey app selected target.providerModel body = .ok key ∧ P key cached ∧
          replay selected cached = .replayed response servedBy receipt := by
  rw [Chat.answerSelected]
  cases hfound : findModel app.models selected.deliveryName with
  | none => exact ⟨h.after rfl rfl, fun response servedBy receipt heq => by cases heq⟩
  | some target =>
    dsimp only
    split
    · exact ⟨h.after rfl rfl, fun response servedBy receipt heq => by cases heq⟩
    · have hlookup := h.lookupResponse hdecodes selected body target world.lookup now
      rcases hresult : Chat.lookupResponse app selected target body world.lookup now s with
        ⟨_ | _ | cached | _, s'⟩
      · rw [hresult] at hlookup
        exact ⟨hlookup.1.deliver false, fun _ _ _ heq => absurd heq deliver_ne_replayed⟩
      · rw [hresult] at hlookup
        exact ⟨hlookup.1.after rfl rfl, fun response servedBy receipt heq => by cases heq⟩
      · rw [hresult] at hlookup
        obtain ⟨key, hkey, hP⟩ := hlookup.2 cached rfl
        exact ⟨hlookup.1.after rfl rfl,
          fun response servedBy receipt heq => ⟨target, key, cached, rfl, hkey, hP, heq⟩⟩
      · rw [hresult] at hlookup
        exact ⟨hlookup.1.deliver true, fun _ _ _ heq => absurd heq deliver_ne_replayed⟩

end Step

/-! ## Keys and their parts -/

section Parts

variable {app : App} {selected earlier : Selected}

/-- The keys of two callers are one key, or there is none and one of the name `local`. -/
def SameKey (key key' : Option String) : Prop :=
  key = key' ∨ key = none ∧ key' = some "local" ∨ key = some "local" ∧ key' = none

theorem sameKey_of_getD {key key' : Option String}
    (h : key.getD "local" = key'.getD "local") : SameKey key key' := by
  cases key with
  | none =>
    cases key' with
    | none => exact .inl rfl
    | some key' => exact .inr (.inl ⟨rfl, congrArg some h.symm⟩)
  | some key =>
    cases key' with
    | none => exact .inr (.inr ⟨congrArg some h, rfl⟩)
    | some key' => exact .inl (congrArg some h)

/-- The names of the postures end in different letters. -/
theorem privacyPostureName_inj {posture posture' : PrivacyPosture}
    (h : (privacyPostureName posture).toList.getLast? =
      (privacyPostureName posture').toList.getLast?) : posture = posture' := by
  cases posture <;> cases posture' <;> first | rfl | exact absurd h (by decide)

theorem getLast?_cachePartition (selected : Selected) :
    (cachePartition selected).toList.getLast? =
      (privacyPostureName selected.request.privacyPosture).toList.getLast? := by
  rw [cachePartition, String.toList_append, List.getLast?_append]
  cases selected.request.privacyPosture <;> rfl

/-- A partition is that of a key and a posture. -/
theorem cachePartition_inj (h : cachePartition selected = cachePartition earlier) :
    SameKey selected.keyId earlier.keyId ∧
      selected.request.privacyPosture = earlier.request.privacyPosture := by
  have hposture : selected.request.privacyPosture = earlier.request.privacyPosture := by
    apply privacyPostureName_inj
    rw [← getLast?_cachePartition, ← getLast?_cachePartition, h]
  refine ⟨sameKey_of_getD ?_, hposture⟩
  rw [cachePartition, cachePartition, hposture, String.append_left_inj,
    String.append_left_inj] at h
  exact h

/-- An object is well formed when its values are. -/
theorem wellFormed_object {m : IndexMap Json} (h : ∀ e ∈ m.entries, WellFormed e.2) :
    WellFormed (.object m.entries) where
  distinct := ⟨m.nodup, .of_forall fun e he => (h e he).distinct⟩
  numbers := Json.NumbersAreEntries.of_forall fun e he => (h e he).numbers

theorem wellFormed_requestBody (request : ChatRequest) (selected : Selected) :
    WellFormed (.object (requestBody request.received selected.messages).entries) := by
  have hreceived : ∀ e ∈ (request.received.shiftRemove tuningField).entries, WellFormed e.2 := by
    intro e he
    have hmem : e ∈ request.received.entries := List.mem_of_mem_filter he
    exact ⟨DistinctMembers.of_mem request.received_wellFormed.distinct.2 e hmem,
      Json.NumbersAreEntries.of_mem request.received_wellFormed.numbers e hmem⟩
  have hmessages := selected.messages_wellFormed
  refine wellFormed_object fun e he => ?_
  cases hfound : selected.messages with
  | none =>
    rw [hfound] at he
    exact hreceived e he
  | some messages =>
    rw [hfound] at he
    rcases IndexMap.mem_insert.mp he with rfl | ⟨he, -⟩
    · exact hmessages messages hfound
    · exact hreceived e he

/-- Two requests have one key only for the same parts. -/
theorem requestKey_inj (hsha256 : Function.Injective app.sha256) {request request' : ChatRequest}
    {model model' key : String}
    (h : requestKey app selected model (requestBody request.received selected.messages) = .ok key)
    (h' : requestKey app earlier model' (requestBody request'.received earlier.messages) =
      .ok key) :
    cachePartition selected = cachePartition earlier ∧ cacheRoute selected = cacheRoute earlier ∧
      model = model' ∧
      SameUpToOrder
        (.object (projected (requestBody request.received selected.messages).entries))
        (.object (projected (requestBody request'.received earlier.messages).entries)) := by
  have hencoded := (Except.ok.inj h).trans (Except.ok.inj h').symm
  have hbytes := hsha256 (encoded_injective hencoded)
  rw [envelope_bytes_eq_iff (wellFormed_requestBody request selected)
    (wellFormed_requestBody request' earlier)] at hbytes
  exact hbytes.2

end Parts

/-! ## Runs -/

abbrev ChatEvent := Timed.Event ℚ ChatRequest ChatResponse

/-- The gateway before its first request. -/
def AppState.new (settings : CacheSettings) (reliability : GatewayState) : AppState where
  reliability := reliability
  responseCache := .new settings
  sharedCache := Cache.initial

/-- The request stored the response under the key. -/
def Stored (app : App) (e : ChatEvent) (key : String) (response : CachedResponse) : Prop :=
  ∃ selected, e.call.decision = .selected selected ∧
    Delivers app selected (requestBody e.call.received selected.messages) e.reply key response

/-- The earlier request received what the later one is answered with, and its key has the same
parts. -/
structure Replays (app : App) (request : ChatRequest) (selected : Selected) (response : Received)
    (servedBy : String) (e : ChatEvent) (earlier : Selected) (server : String) : Prop where
  decision : e.call.decision = .selected earlier
  received : ∃ receipt sent, e.reply = .delivered response server receipt sent
  key : SameKey selected.keyId earlier.keyId
  posture : selected.request.privacyPosture = earlier.request.privacyPosture
  route : cacheRoute selected = cacheRoute earlier
  body : SameUpToOrder
    (.object (projected (requestBody request.received selected.messages).entries))
    (.object (projected (requestBody e.call.received earlier.messages).entries))
  model : ∃ target served, findModel app.models servedBy = some target ∧
    findModel app.models server = some served ∧ target.providerModel = served.providerModel

section Runs

variable {app : App} {settings : CacheSettings} {reliability : GatewayState}
  {h : List ChatEvent} {s : AppState}

/-- **Run lemma**: all that is kept was stored by a request of the run. -/
theorem holds_run (hdecodes : Decodes app)
    (run : (chatCompletions app).Run Timed.Service.Any (.new settings reliability) h s) :
    Holds app (fun key response => ∃ e ∈ h, Stored app e key response) s := by
  refine run.invariant (I := fun h s => Holds app (fun key response => ∃ e ∈ h,
    Stored app e key response) s) ⟨?_, Cache.values_initial⟩ ?_
  · exact fun e he => absurd he List.not_mem_nil
  · intro h s now request hkept _ _
    have hmono : ∀ {P : String → CachedResponse → Prop} {s' : AppState},
        Holds app (fun key response => (∃ e ∈ h, Stored app e key response) ∨
          P key response) s' →
        (∀ key response, P key response → Stored app
          ((chatCompletions app).event now request s) key response) →
        Holds app (fun key response => ∃ e ∈ (chatCompletions app).event now request s :: h,
          Stored app e key response) s' := by
      intro P s' hP hstored
      refine hP.mono fun key response hor => ?_
      rcases hor with ⟨e, he, hs⟩ | hnew
      · exact ⟨e, .tail _ he, hs⟩
      · exact ⟨_, .head _, hstored key response hnew⟩
    cases hdecision : request.decision with
    | answered status =>
      refine hmono (P := fun _ _ => False) ?_ fun _ _ => False.elim
      rw [chatCompletions, hdecision]
      exact hkept.mono fun _ _ => .inl
    | selected selected =>
      have hanswer : chatCompletions app now request s = answerSelected app selected
          (requestBody request.received selected.messages) request.world now s := by
        rw [chatCompletions, hdecision]
      rw [hanswer]
      refine hmono (hkept.answerSelected hdecodes now).1 fun key response hdelivers => ?_
      refine ⟨selected, hdecision, ?_⟩
      show Delivers app selected _ (chatCompletions app now request s).1 key response
      rw [hanswer]
      exact hdelivers

/-- The content type of a response that was stored is sent as it is. -/
theorem replay_eq {selected : Selected} {cached : CachedResponse} {response : Received}
    {servedBy : String} {receipt : DeliveryReceipt}
    (hcontent : isHeaderValue cached.contentType = true)
    (h : replay selected cached = .replayed response servedBy receipt) :
    response = ⟨cached.status, cached.contentType, cached.body⟩ ∧
      servedBy = selected.deliveryName ∧ receipt.servedBy = servedBy := by
  rw [replay, if_pos hcontent] at h
  split at h
  · cases h
  · split at h
    · cases h
      exact ⟨rfl, rfl, rfl⟩
    · cases h

/-- In every run a replayed response was received from upstream by an earlier request under the
same key of the caller, posture and route, with the same body up to the order of its members, from
an alias with the same provider model as the alias that the replay names. -/
theorem replay_received (hsha256 : Function.Injective app.sha256) (hdecodes : Decodes app)
    (run : (chatCompletions app).Run Timed.Service.Any (.new settings reliability) h s) {now : ℚ}
    {request : ChatRequest} {response : Received} {servedBy : String} {receipt : DeliveryReceipt}
    (hreply : (chatCompletions app now request s).1 = .replayed response servedBy receipt) :
    ∃ selected, request.decision = .selected selected ∧ servedBy = selected.deliveryName ∧
      receipt.servedBy = servedBy ∧
      ∃ e ∈ h, ∃ earlier server,
        Replays app request selected response servedBy e earlier server := by
  rw [chatCompletions] at hreply
  cases hdecision : request.decision with
  | answered status =>
    rw [hdecision] at hreply
    cases hreply
  | selected selected =>
    rw [hdecision] at hreply
    obtain ⟨target, key, cached, htarget, hkey, ⟨e, he, earlier, hearlier, hdelivers⟩, hreplay⟩ :=
      ((holds_run hdecodes run).answerSelected hdecodes now).2 response servedBy receipt hreply
    obtain ⟨received, server, receipt', sent, hdelivered, hcontent, hkeyed⟩ := hdelivers
    obtain ⟨served, hserved, hkey'⟩ := hkeyed.keyed
    have hreceived := hkeyed.received_eq
    subst hreceived
    obtain ⟨rfl, rfl, hreceipt⟩ := replay_eq hcontent hreplay
    obtain ⟨hpartition, hroute, hmodel, hbody⟩ := requestKey_inj hsha256 hkey hkey'
    obtain ⟨hsame, hposture⟩ := cachePartition_inj hpartition
    exact ⟨selected, rfl, rfl, hreceipt, e, he, earlier, server, hearlier,
      ⟨receipt', sent, hdelivered⟩, hsame, hposture, hroute, hbody,
      ⟨target, served, htarget, hserved, hmodel⟩⟩

end Runs

/-! ## Two aliases of one provider model -/

def greeting : Json := .array [.object [("role", .string "user"), ("content", .string "hi")]]

def completion : Json :=
  .object [("choices", .array [.object [("message", .object [("content", .string "hello")])]])]

/-- The text of the key of the greeting. -/
def greetingText : List UInt8 :=
  (envelope "v2" "local:hosted-allowed" "scored:fast" "m" [("messages", greeting)]).bytes

/-- The SHA-256 digest of this text, and longer texts for the others. -/
def keyDigest (text : List UInt8) : List UInt8 :=
  if text = greetingText then
    [178, 104, 205, 222, 169, 152, 201, 7, 48, 147, 246, 104, 144, 26, 178, 17, 12, 159, 124, 138,
      237, 210, 97, 46, 115, 131, 102, 189, 53, 168, 44, 194]
  else List.replicate 33 0 ++ text

theorem keyDigest_injective : Function.Injective keyDigest := by
  intro text text' h
  simp only [keyDigest] at h
  split at h
  · next heq =>
    split at h
    · next heq' => rw [heq, heq']
    · exact absurd (congrArg List.length h) (by simp)
  · split at h
    · exact absurd (congrArg List.length h) (by simp)
    · exact List.append_cancel_left h

def chatModel (name : String) (fallbacks : List String) : ConfiguredModel where
  name := name
  endpoint := "https://one.example/v1"
  providerModel := "m"
  provider := .openAiCompatible
  tier := none
  apiKeyEnv := none
  keyReady := true
  baseKeyReady := true
  costPer1k := none
  fallbacks := fallbacks
  contextWindow := none
  deployments := []
  deploymentSelection := .default
  deploymentId := none

/-- The alias `spare` is the fallback of `fast`, and both are served by the model `m`. -/
def twoAliases : App where
  parsers := ⟨fun _ => none, fun _ => none⟩
  models := [chatModel "fast" ["spare"], chatModel "spare" []]
  retries := 0
  cacheGeneration := cacheKeySchemaVersion
  cacheSettings := ⟨true, .finite 300, 1024, 67108864⟩
  sharedCacheEnabled := false
  sha256 := keyDigest
  asF64 := fun _ => none
  parseJson := Json.Parser.ofValues [completion]
  encodeSharedResponse := fun _ => []
  decodeSharedResponse := fun _ => none

def fiveMinutes : CacheSettings := ⟨true, 300, 1024, 67108864, by norm_num⟩

def firstState : AppState := .new fiveMinutes ⟨.new 3 (.finite 30), fun _ => 0, []⟩

/-- The alias `fast` answers with the status, and its fallback with a completion. -/
def worldOf (fast : ℕ) : World where
  clock _ := 0
  sharedGrants _ _ := true
  upstream _ target := .ok (if target.name = "fast" then fast else 200)
  signals _ _ := ⟨fun _ => false, fun _ _ => true⟩
  answer _ := ⟨none, completion.bytes⟩
  plan := ["fast", "spare"]
  refusal := none
  usage := some ⟨1, 1, true⟩
  lookup := ⟨0, true, true⟩
  store := ⟨0, true, true⟩
  storeTime := 0
  injectDebugDecision body := body

/-- A body whose values are well formed. -/
def Body := {body : IndexMap Json // ∀ e ∈ body.entries, WellFormed e.2}

theorem wellFormed_greeting : WellFormed greeting where
  distinct := ⟨⟨by decide, trivial, trivial, trivial⟩, trivial⟩
  numbers := ⟨⟨trivial, trivial, trivial⟩, trivial⟩

def plainBody : Body :=
  ⟨⟨[("messages", greeting)], by decide⟩, List.forall_mem_singleton.mpr wellFormed_greeting⟩

/-- The same body with a tuning field. -/
def tunedBody : Body :=
  ⟨⟨[("wayfinder_tuning", .object []), ("messages", greeting)], by decide⟩,
    List.forall_mem_cons.mpr ⟨⟨⟨by decide, trivial⟩, trivial⟩,
      List.forall_mem_singleton.mpr wellFormed_greeting⟩⟩

/-- A scored request for the alias `fast`. -/
def scoredRequest (keyId : Option String) (body : Body) (fast : ℕ) : ChatRequest where
  received := body.1
  received_wellFormed := wellFormed_object body.2
  decision := .selected
    { keyId
      request := ⟨"request", "hi", .hostedAllowed, ⟨none, false, false, false, .text⟩⟩
      offline := false
      promptEstimate := 1
      mode := "scored"
      presetName := none
      deliveryName := "fast"
      messages := none
      debug := false
      messages_wellFormed := fun value h => by cases h }
  world := worldOf fast

/-- The first request of a run, answered. -/
def firstEvent (request : ChatRequest) : ChatEvent :=
  (chatCompletions twoAliases).event 0 request firstState

/-- What a response says that it replays. -/
def ChatResponse.replay? : ChatResponse → Option (Received × String)
  | .replayed response servedBy _ => some (response, servedBy)
  | _ => none

theorem ChatResponse.replay?_eq_some {reply : ChatResponse} {response : Received}
    {servedBy : String} (h : reply.replay? = some (response, servedBy)) :
    ∃ receipt, reply = .replayed response servedBy receipt := by
  cases reply with
  | replayed response' servedBy' receipt =>
    cases h
    exact ⟨receipt, rfl⟩
  | _ => cases h

/-- The second request is answered with the response to the first one. -/
abbrev Hits (first second : ChatRequest) : Prop :=
  let s := (chatCompletions twoAliases 0 first firstState).2
  (chatCompletions twoAliases 1 second s).1.replay? =
    some (⟨200, "application/json", completion.bytes⟩, "fast")

theorem run_firstEvent (request : ChatRequest) :
    (chatCompletions twoAliases).Run Timed.Service.Any firstState [firstEvent request]
      (chatCompletions twoAliases 0 request firstState).2 :=
  .cons 0 request .nil (fun _ he => absurd he List.not_mem_nil) trivial

/-- After a failure of `fast` its fallback has served the response that is replayed. -/
theorem hits_fallback :
    Hits (scoredRequest none plainBody 503) (scoredRequest none plainBody 200) := by
  decide +kernel

theorem hits_tuned :
    Hits (scoredRequest none tunedBody 200) (scoredRequest none plainBody 200) := by
  decide +kernel

theorem hits_local :
    Hits (scoredRequest none plainBody 200) (scoredRequest (some "local") plainBody 200) := by
  decide +kernel

theorem replay_received_fallback :
    ∃ selected, (scoredRequest none plainBody 200).decision = .selected selected ∧
      "fast" = selected.deliveryName ∧
      ∃ e ∈ [firstEvent (scoredRequest none plainBody 503)], ∃ earlier server,
        Replays twoAliases (scoredRequest none plainBody 200) selected
          ⟨200, "application/json", completion.bytes⟩ "fast" e earlier server := by
  obtain ⟨receipt, hreply⟩ := ChatResponse.replay?_eq_some hits_fallback
  have hdecodes : Decodes twoAliases := fun h => by cases h
  obtain ⟨selected, hdecision, hname, -, hearlier⟩ :=
    replay_received keyDigest_injective hdecodes (run_firstEvent _) hreply
  exact ⟨selected, hdecision, hname, hearlier⟩

/-- In every run, every replayed response has an earlier request of the given kind. -/
def EveryReplay (app : App) (P : ChatRequest → Received → String → ChatEvent → Prop) : Prop :=
  ∀ settings reliability h s,
    (chatCompletions app).Run Timed.Service.Any (.new settings reliability) h s →
      ∀ now request response servedBy receipt,
        (chatCompletions app now request s).1 = .replayed response servedBy receipt →
          ∃ e ∈ h, P request response servedBy e

theorem not_everyReplay {P : ChatRequest → Received → String → ChatEvent → Prop}
    {first second : ChatRequest} (hhits : Hits first second)
    (hP : ¬ P second ⟨200, "application/json", completion.bytes⟩ "fast" (firstEvent first)) :
    ¬ EveryReplay twoAliases P := by
  intro hall
  obtain ⟨receipt, hreply⟩ := ChatResponse.replay?_eq_some hhits
  obtain ⟨e, he, hPe⟩ := hall _ _ _ _ (run_firstEvent first) 1 second _ _ receipt hreply
  rw [List.mem_singleton.mp he] at hPe
  exact hP hPe

/-- The alias that served a response. -/
def ChatResponse.server? : ChatResponse → Option String
  | .delivered _ servedBy _ _ => some servedBy
  | _ => none

/-- The key of the caller. -/
def ChatRequest.keyId (request : ChatRequest) : Option String :=
  match request.decision with
  | .answered _ => none
  | .selected selected => selected.keyId

/-- A replay can name an alias that did not serve it, answer another body than the one that was
received before, and answer the key `local` with what a caller without a key was served. -/
theorem replay_of_another_request :
    ¬ EveryReplay twoAliases (fun _ _ servedBy e => e.reply.server? = some servedBy) ∧
    ¬ EveryReplay twoAliases (fun request _ _ e => SameUpToOrder
      (.object (projected request.received.entries))
      (.object (projected e.call.received.entries))) ∧
    ¬ EveryReplay twoAliases (fun request _ _ e => request.keyId = e.call.keyId) := by
  refine ⟨not_everyReplay hits_fallback (by decide +kernel), not_everyReplay hits_tuned ?_,
    not_everyReplay hits_local (by decide)⟩
  rintro ⟨hnames, -⟩
  exact absurd ((hnames "wayfinder_tuning").mpr (.head _)) (by decide)

end WayfinderRouter.Gateway.Chat
