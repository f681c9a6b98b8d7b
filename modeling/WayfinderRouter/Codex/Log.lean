import WayfinderRouter.Codex.Manager
import WayfinderRouter.Trace

/-!
# The log of a session

What the log of a session says about its requests and turns, and how the computations on a
session change it. A session without open requests has none after a request, unless the error of
the request ends the session; there are two exceptions, which are messages of the server: the
denial of a request that is too large to be sent, and a turn with an id that is refused.

## Main definitions

- `Clean` — the log of a session without open requests and turns
- `Conforming` — a log without the two kinds of messages
- `Ordered` — ids increase, and results answer the request that was sent last

## Main results

- `requestInner_spec`, `nextNotification_spec` — what a caller leaves behind on a session
-/

namespace WayfinderRouter.Codex

open Hoare

/-! ## Logs -/

/-- The message is the response to the request. -/
def Answers (r : Request) (message : Json) : Prop :=
  ∃ result error, classifyMessage message = .ok (.response r.id result error)

/-- The request has been answered. -/
def Answered (log : List Event) (r : Request) : Prop :=
  ∃ message, .received (some r) message ∈ log ∧ Answers r message

/-- The server has accepted to start a turn. -/
def Accepted (log : List Event) (r : Request) (result : Json) : Prop :=
  r.method = "turn/start" ∧ ∃ message, .received (some r) message ∈ log ∧
    classifyMessage message = .ok (.response r.id (some result) none)

/-- The thread of a request to start a turn. -/
def threadOf (r : Request) : Option String := (r.params.get "threadId").bind Json.asStr

/-- The id of the turn, in a response or in a notification. -/
def turnOf (value : Json) : Option String := (lookupPath ["turn", "id"] value).bind Json.asStr

def Arrived (log : List Event) (n : Notification) : Prop :=
  ∃ awaiting message, .received awaiting message ∈ log ∧
    classifyMessage message = .ok (.notification n)

/-- The turn has been reported completed. -/
def Reported (log : List Event) (threadId turnId : String) : Prop :=
  ∃ n, Arrived log n ∧ n.method = "turn/completed" ∧
    (n.params.get "threadId").bind Json.asStr = some threadId ∧ turnOf n.params = some turnId

/-- The turns that were accepted are completed, up to some of them. -/
def SettledBut (running : Request → Json → Prop) (log : List Event) : Prop :=
  ∀ r result, Accepted log r result → running r result ∨
    ∃ threadId turnId, threadOf r = some threadId ∧ turnOf result = some turnId ∧
      Reported log threadId turnId

/-- No turn is running. -/
abbrev noTurn : Request → Json → Prop := fun _ _ => False

/-- Only this turn is running. -/
def thisTurn (threadId turnId : String) : Request → Json → Prop :=
  fun r result => threadOf r = some threadId ∧ turnOf result = some turnId

/-- Every request was answered, and every turn that was accepted is completed. -/
structure Clean (log : List Event) : Prop where
  answered : ∀ r, .sent r ∈ log → Answered log r
  settled : SettledBut noTurn log

/-- The request that was sent last. -/
def lastSent (log : List Event) : Option Request :=
  (log.filterMap fun
    | .sent r => some r
    | _ => none).getLast?

/-- What an event requires of the events before it. -/
def Event.Fits (before : List Event) : Event → Prop
  | .sent r => ∀ r', .sent r' ∈ before → r'.id < r.id
  | .received none _ => True
  | .received (some r) _ => lastSent before = some r
  | .returned r result => ∃ earlier message, before = earlier ++ [.received (some r) message] ∧
      classifyMessage message = .ok (.response r.id (some result) none)

/-- The ids of requests increase strictly, a response is awaited for the request that was sent
last, and a result that is returned is the one of the response with that id. -/
def Ordered (log : List Event) : Prop := Trace.Always Event.Fits log

/-! ## The condition -/

/-- Requests after whose failure the session may be put back. -/
def Retained (method : String) : Prop := method ≠ "initialize" ∧ method ≠ "turn/interrupt"

instance (method : String) : Decidable (Retained method) :=
  inferInstanceAs (Decidable (_ ∧ _))

/-- While a response is awaited, a request of the server can be denied, and a turn that is
accepted has a valid id. -/
def Event.allowed : Event → Bool
  | .received (some r) message =>
    match classifyMessage message with
    | .ok (.serverRequest id) =>
      !decide (Retained r.method) || (denial id).bytes.length ≤ maxJsonlLineBytes
    | .ok (.response id (some result) none) =>
      id ≠ r.id || r.method ≠ "turn/start" || (turnOf result).all validIdentifier
    | _ => true
  | _ => true

def Conforming (log : List Event) : Prop := ∀ event ∈ log, event.allowed

section Logs

variable {log : List Event} {event : Event} {r : Request} {running : Request → Json → Prop}

@[simp] lemma lastSent_sent : lastSent (log ++ [.sent r]) = some r := by simp [lastSent]

@[simp] lemma lastSent_received {awaiting : Option Request} {message : Json} :
    lastSent (log ++ [.received awaiting message]) = lastSent log := by simp [lastSent]

lemma Conforming.of_concat (h : Conforming (log ++ [event])) : Conforming log :=
  fun e he => h e (List.mem_append_left _ he)

lemma Conforming.last (h : Conforming (log ++ [event])) : event.allowed :=
  h event (by simp)

/-- A request of the server can be denied. -/
lemma Conforming.deniable {message id : Json}
    (h : Conforming (log ++ [.received (some r) message]))
    (hm : classifyMessage message = .ok (.serverRequest id)) (hr : Retained r.method) :
    (denial id).bytes.length ≤ maxJsonlLineBytes := by
  have hlast := h.last
  simpa [Event.allowed, hm, hr] using hlast

/-- A turn that is accepted has a valid id. -/
lemma Conforming.validTurn {message result : Json} {turnId : String}
    (h : Conforming (log ++ [.received (some r) message]))
    (hm : classifyMessage message = .ok (.response r.id (some result) none))
    (hmethod : r.method = "turn/start") (hturn : turnOf result = some turnId) :
    validIdentifier turnId := by
  have hlast := h.last
  simpa [Event.allowed, hm, hmethod, hturn] using hlast

/-- A request that was sent, when one more event is not a request. -/
lemma sent_of_concat (he : ∀ r, event ≠ .sent r) (h : .sent r ∈ log ++ [event]) :
    .sent r ∈ log := by
  rcases List.mem_append.1 h with h | h
  · exact h
  · exact absurd (List.mem_singleton.1 h).symm (he r)

lemma Answered.concat (h : Answered log r) : Answered (log ++ [event]) r := by
  obtain ⟨message, hmem, ha⟩ := h
  exact ⟨message, List.mem_append_left _ hmem, ha⟩

lemma Arrived.concat {n : Notification} (h : Arrived log n) : Arrived (log ++ [event]) n := by
  obtain ⟨awaiting, message, hmem, hn⟩ := h
  exact ⟨awaiting, message, List.mem_append_left _ hmem, hn⟩

lemma Reported.concat {threadId turnId : String} (h : Reported log threadId turnId) :
    Reported (log ++ [event]) threadId turnId := by
  obtain ⟨n, harrived, hn⟩ := h
  exact ⟨n, harrived.concat, hn⟩

/-- A turn that is accepted after one more event was accepted before, or is accepted by it. -/
lemma Accepted.of_concat {result : Json} (h : Accepted (log ++ [event]) r result) :
    Accepted log r result ∨ r.method = "turn/start" ∧ ∃ message,
      event = .received (some r) message ∧
        classifyMessage message = .ok (.response r.id (some result) none) := by
  obtain ⟨hmethod, message, hmem, hclass⟩ := h
  rcases List.mem_append.1 hmem with hmem | hmem
  · exact .inl ⟨hmethod, message, hmem, hclass⟩
  · exact .inr ⟨hmethod, message, (List.mem_singleton.1 hmem).symm, hclass⟩

/-- One more event, after which no further turn runs. -/
lemma SettledBut.concat (h : SettledBut running log)
    (he : ∀ r result message, event = .received (some r) message → r.method = "turn/start" →
      classifyMessage message = .ok (.response r.id (some result) none) → running r result) :
    SettledBut running (log ++ [event]) := by
  intro r result ha
  rcases ha.of_concat with ha | ⟨hmethod, message, heq, hclass⟩
  · rcases h r result ha with hr | ⟨threadId, turnId, ht, hu, hrep⟩
    · exact .inl hr
    · exact .inr ⟨threadId, turnId, ht, hu, hrep.concat⟩
  · exact .inl (he r result message heq hmethod hclass)

lemma SettledBut.mono {running' : Request → Json → Prop} (h : SettledBut running log)
    (hr : ∀ r result, running r result → running' r result) : SettledBut running' log := by
  intro r result ha
  exact (h r result ha).imp (hr r result) id

/-- The turn that is running is reported. -/
lemma SettledBut.completed {threadId turnId : String}
    (h : SettledBut (thisTurn threadId turnId) log) (hr : Reported log threadId turnId) :
    SettledBut noTurn log := by
  intro r result ha
  rcases h r result ha with ⟨ht, hu⟩ | h
  · exact .inr ⟨threadId, turnId, ht, hu, hr⟩
  · exact .inr h

end Logs

/-! ## Sessions -/

/-- What always holds of a session. -/
structure Sound (s : Session) : Prop where
  ordered : Ordered s.log
  ids : ∀ r, .sent r ∈ s.log → r.id < s.nextId
  arrived : ∀ n ∈ s.notifications, Arrived s.log n

/-- The session is sound; and when `p` holds and its log conforms, it has no open request, and
only some turns are running. -/
structure Good (p : Prop) (running : Request → Json → Prop) (s : Session) : Prop where
  sound : Sound s
  answered : p → Conforming s.log → ∀ r, .sent r ∈ s.log → Answered s.log r
  settled : p → Conforming s.log → SettledBut running s.log

/-- The session waits for the response to `r`. -/
structure Waiting (p : Prop) (running : Request → Json → Prop) (r : Request) (s : Session) :
    Prop where
  sound : Sound s
  last : lastSent s.log = some r
  answered : p → Conforming s.log → ∀ r', .sent r' ∈ s.log → r' = r ∨ Answered s.log r'
  settled : p → Conforming s.log → SettledBut running s.log

lemma good_fresh : Good True noTurn .fresh where
  sound := ⟨Trace.always_nil, fun _ h => (by cases h), fun _ h => (by cases h)⟩
  answered := fun _ _ _ h => by cases h
  settled := fun _ _ _ _ h => by
    obtain ⟨_, _, h, _⟩ := h
    cases h

section Sessions

variable {p q : Prop} {running running' : Request → Json → Prop} {s : Session} {r : Request}

lemma Good.mono (h : Good p running s) (hp : q → p)
    (hr : ∀ r result, running r result → running' r result) : Good q running' s where
  sound := h.sound
  answered := fun hq => h.answered (hp hq)
  settled := fun hq hc => (h.settled (hp hq) hc).mono hr

lemma Good.weaken (h : Good p running s) (hp : q → p) : Good q running s :=
  h.mono hp (fun _ _ h => h)

lemma Sound.good (h : Sound s) (hp : ¬ p) : Good p running s where
  sound := h
  answered := fun h => absurd h hp
  settled := fun h => absurd h hp

lemma Waiting.sound_good (h : Waiting p running r s) (hq : ¬ q) : Good q running' s :=
  h.sound.good hq

/-- An event that is not a request. -/
lemma Sound.logged (h : Sound s) {event : Event} (he : ∀ r, event ≠ .sent r)
    (hf : event.Fits s.log) : Sound (s.logged event) where
  ordered := Trace.Always.concat h.ordered hf
  ids := fun r' hr' => h.ids r' (sent_of_concat he hr')
  arrived := fun n hn => (h.arrived n hn).concat

/-- An event that is not a request and accepts no turn. -/
lemma Good.logged (h : Good p running s) {event : Event} (he : ∀ r, event ≠ .sent r)
    (hr : ∀ r message, event ≠ .received (some r) message) (hf : event.Fits s.log) :
    Good p running (s.logged event) where
  sound := h.sound.logged he hf
  answered := fun hp hc r' hr' =>
    (h.answered hp hc.of_concat r' (sent_of_concat he hr')).concat
  settled := fun hp hc =>
    (h.settled hp hc.of_concat).concat fun r' _ message heq => absurd heq (hr r' message)

/-- A request is sent. -/
lemma Good.sent (h : Good p running s) (hid : ∀ r', .sent r' ∈ s.log → r'.id < r.id)
    (hnext : r.id < s.nextId) : Waiting p running r (s.logged (.sent r)) where
  sound :=
    { ordered := Trace.Always.concat h.sound.ordered hid
      ids := by
        intro r' hr'
        rcases List.mem_append.1 hr' with hr' | hr'
        · exact h.sound.ids r' hr'
        · cases List.mem_singleton.1 hr'
          exact hnext
      arrived := fun n hn => (h.sound.arrived n hn).concat }
  last := lastSent_sent
  answered := by
    intro hp hc r' hr'
    rcases List.mem_append.1 hr' with hr' | hr'
    · exact .inr (h.answered hp hc.of_concat r' hr').concat
    · cases List.mem_singleton.1 hr'
      exact .inl rfl
  settled := fun hp hc => (h.settled hp hc.of_concat).concat fun _ _ _ heq => by cases heq

lemma Waiting.received_sound (h : Waiting p running r s) (message : Json) :
    Sound (s.logged (.received (some r) message)) :=
  h.sound.logged (fun _ heq => by cases heq) h.last

/-- A message is read that accepts no turn. -/
lemma Waiting.received (h : Waiting p running r s) {message : Json}
    (hm : ∀ result, classifyMessage message ≠ .ok (.response r.id (some result) none)) :
    Waiting p running r (s.logged (.received (some r) message)) where
  sound := h.received_sound message
  last := lastSent_received.trans h.last
  answered := fun hp hc r' hr' =>
    (h.answered hp hc.of_concat r' (sent_of_concat (fun _ heq => by cases heq) hr')).imp id
      Answered.concat
  settled := by
    intro hp hc
    refine (h.settled hp hc.of_concat).concat ?_
    intro r' result message' heq _ hclass
    cases heq
    exact absurd hclass (hm result)

/-- The response is read. -/
lemma Waiting.answer (h : Waiting p running r s) {message : Json} (ha : Answers r message)
    (hr : ∀ result, classifyMessage message = .ok (.response r.id (some result) none) →
      running' r result)
    (hmono : ∀ r result, running r result → running' r result) :
    Good p running' (s.logged (.received (some r) message)) where
  sound := h.received_sound message
  answered := by
    intro hp hc r' hr'
    rcases h.answered hp hc.of_concat r' (sent_of_concat (fun _ heq => by cases heq) hr')
      with rfl | ha'
    · exact ⟨message, List.mem_append_right _ List.mem_cons_self, ha⟩
    · exact ha'.concat
  settled := by
    intro hp hc
    refine ((h.settled hp hc.of_concat).mono hmono).concat ?_
    intro r' result message' heq _ hclass
    cases heq
    exact hr result hclass

/-- A notification is queued. -/
lemma Waiting.queued (h : Waiting p running r s) {n : Notification} (hn : Arrived s.log n) :
    Waiting p running r { s with notifications := s.notifications ++ [n] } where
  sound :=
    { ordered := h.sound.ordered
      ids := h.sound.ids
      arrived := by
        intro n' hn'
        rcases List.mem_append.1 hn' with hn' | hn'
        · exact h.sound.arrived n' hn'
        · rw [List.mem_singleton.1 hn']
          exact hn }
  last := h.last
  answered := h.answered
  settled := h.settled

end Sessions

/-! ## Requests -/

section Requests

open Session

variable {p : Prop} {running : Request → Json → Prop}

/-- A result adds the turn that it starts to the running ones. -/
def orTurn (running : Request → Json → Prop) (r : Request) (result : Json) :
    Request → Json → Prop :=
  fun r' result' => running r' result' ∨ r' = r ∧ result' = result

/-- After an error the session is good if the error spares it. -/
def Ends (p : Prop) (running : Request → Json → Prop) (method : String) (stop : Stop) :
    Session → Prop :=
  Good (p ∧ Spares stop ∧ Retained method) running

lemma Sound.ends {s : Session} (h : Sound s) {method : String} {stop : Stop}
    (hstop : ¬ Spares stop) : Ends p running method stop s :=
  h.good fun hp => hstop hp.2.1

/-- The result of a request, and what is known of the turn that it starts. -/
def Returns (p : Prop) (running : Request → Json → Prop) (r : Request) (result : Json)
    (s : Session) : Prop :=
  Good p (orTurn running r result) s ∧
    (Conforming s.log → r.method = "turn/start" → ∀ turnId, turnOf result = some turnId →
      validIdentifier turnId)

lemma queue_spec {r : Request} {n : Notification} {E : Stop → Session → Prop}
    (hE : ∀ stop s, ¬ Spares stop → Sound s → E stop s) :
    Spec (fun s => Waiting p running r s ∧ Arrived s.log n) (queue n)
      (fun _ => Waiting p running r) E := by
  intro l hl
  unfold queue
  by_cases hfull : maxNotificationQueue ≤ l.session.notifications.length
  · rw [if_pos hfull]
    exact hE _ _ (by simp [Spares, isFatalError]) hl.1.sound
  · rw [if_neg hfull]
    exact hl.1.queued hl.2

/-- A response that was read while it was awaited. -/
lemma Waiting.returns {s : Session} {r : Request} {message result : Json}
    (h : Waiting p running r s)
    (hm : classifyMessage message = .ok (.response r.id (some result) none)) :
    Returns p running r result
      ((s.logged (.received (some r) message)).logged (.returned r result)) := by
  refine ⟨?_, ?_⟩
  · have hgood : Good p (orTurn running r result) (s.logged (.received (some r) message)) := by
      refine h.answer ⟨_, _, hm⟩ ?_ (fun _ _ => .inl)
      intro result' hm'
      rw [hm] at hm'
      cases hm'
      exact .inr ⟨rfl, rfl⟩
    exact hgood.logged (fun _ heq => by cases heq) (fun _ _ heq => by cases heq)
      ⟨s.log, message, rfl, hm⟩
  · intro hc hmethod turnId hturn
    exact hc.of_concat.validTurn hm hmethod hturn

/-- A response with an error. -/
lemma Waiting.rejected {s : Session} {r : Request} {message error : Json}
    (h : Waiting p running r s)
    (hm : classifyMessage message = .ok (.response r.id none (some error))) :
    Good p running (s.logged (.received (some r) message)) := by
  refine h.answer ⟨_, _, hm⟩ ?_ (fun _ _ hr => hr)
  intro result hm'
  rw [hm] at hm'
  cases hm'

/-- A request of the server that cannot be denied is not allowed. -/
lemma Waiting.undeniable {s : Session} {r : Request} {message id : Json}
    (h : Waiting p running r s) (hm : classifyMessage message = .ok (.serverRequest id))
    (hlarge : maxJsonlLineBytes < (denial id).bytes.length) {stop : Stop} :
    Ends p running r.method stop (s.logged (.received (some r) message)) := by
  have hfalse : Retained r.method → ¬ Conforming (s.log ++ [.received (some r) message]) := by
    intro hr hc
    exact absurd (hc.deniable hm hr) (by omega)
  exact
    { sound := h.received_sound message
      answered := fun hp hc => absurd hc (hfalse hp.2.2)
      settled := fun hp hc => absurd hc (hfalse hp.2.2) }

lemma waitForResponse_spec (r : Request) (fuel : ℕ) :
    Spec (Waiting p running r) (waitForResponse r fuel) (Returns p running r)
      (Ends p running r.method) := by
  induction fuel with
  | zero => exact Triple.throw _ fun l hl => hl.sound.ends id
  | succ fuel ih =>
    unfold waitForResponse
    refine Spec.bind (readMessage_spec (fun stop s hstop hs => hs.sound.ends hstop)
      (fun stop s message hstop hs => (hs.received_sound message).ends hstop)) fun w => ?_
    have hfatal : ∀ {s : Session} (e : CodexAppServerError), isFatalError e = true →
        (∃ s₀ message, Waiting p running r s₀ ∧ s = s₀.logged (.received (some r) message) ∧
          classifyMessage message = .ok w) → Ends p running r.method (.failed e) s := by
      rintro s e he ⟨s₀, message, hs₀, rfl, -⟩
      exact (hs₀.received_sound message).ends (by simp [Spares, he])
    cases w with
    | response id result error =>
      by_cases hid : id = r.id
      · subst hid
        simp only [ne_eq, not_true_eq_false, if_false]
        rcases result with - | result <;> rcases error with - | error
        · exact fail_spec fun s hs => hfatal _ rfl hs
        · refine fail_spec ?_
          rintro s ⟨s₀, message, hs₀, rfl, hm⟩
          exact (hs₀.rejected hm).weaken And.left
        · refine Spec.bind (record_spec ?_ : Spec _ _ (fun _ => Returns p running r result) _)
            fun _ => Spec.pure _ fun _ h => h
          rintro s ⟨s₀, message, hs₀, rfl, hm⟩
          exact hs₀.returns hm
        · exact fail_spec fun s hs => hfatal _ rfl hs
      · simp only [ne_eq, hid, not_false_eq_true, if_true]
        exact fail_spec fun s hs => hfatal _ rfl hs
    | notification n =>
      refine Spec.bind (Q := fun _ => Waiting p running r) ?_ fun _ => ih
      refine (queue_spec fun stop s hstop hs => hs.ends hstop).weaken_pre ?_
      rintro s ⟨s₀, message, hs₀, rfl, hm⟩
      refine ⟨hs₀.received fun result hm' => ?_, _, message,
        List.mem_append_right _ List.mem_cons_self, hm⟩
      rw [hm] at hm'
      cases hm'
    | serverRequest id =>
      refine Spec.bind (denyServerRequest_spec ?_ ?_ ?_) fun _ =>
        fail_spec fun s hs => hfatal _ rfl hs
      · rintro hlarge s ⟨s₀, message, hs₀, rfl, hm⟩
        exact hs₀.undeniable hm hlarge
      · intro h
        cases h
      · rintro stop s hstop ⟨s₀, message, hs₀, rfl, hm⟩
        exact (hs₀.received_sound message).ends hstop

/-- The id is new. -/
lemma allocate_spec (first : Bool) {E : Stop → Session → Prop}
    (hE : ∀ stop s, ¬ Spares stop → Sound s → E stop s) :
    Spec (Good p running) (allocate first)
      (fun id s => Good p running s ∧ (∀ r, .sent r ∈ s.log → r.id < id) ∧ id < s.nextId) E := by
  intro l hl
  unfold allocate
  split_ifs with hpending hnext
  · exact hE _ _ (by simp [Spares, isFatalError]) hl.sound
  · exact hE _ _ (by simp [Spares, isFatalError]) hl.sound
  · refine ⟨⟨⟨hl.sound.ordered, ?_, hl.sound.arrived⟩, hl.answered, hl.settled⟩, hl.sound.ids,
      Nat.lt_succ_self _⟩
    intro r hr
    exact Nat.lt_succ_of_lt (hl.sound.ids r hr)

/-- A request that is too large is not sent. -/
lemma sendValue_spec (r : Request) :
    Spec (fun s => Good p running s ∧ (∀ r', .sent r' ∈ s.log → r'.id < r.id) ∧ r.id < s.nextId)
      (sendValue r.value (some r)) (fun _ => Waiting p running r) (Ends p running r.method) := by
  refine Spec.bind (checkSize_spec fun _ s hs => hs.1.weaken And.left) fun _ => ?_
  refine Spec.bind (record_spec fun s hs => hs.1.sent hs.2.1 hs.2.2 :
    Spec _ _ (fun _ => Waiting p running r) _) fun _ => ?_
  exact write_spec fun stop s hstop hs => hs.sound.ends hstop

/-- **Requests**: a session without open requests has none afterwards, unless the error of the
request ends it. -/
lemma requestInner_spec (method : String) (params : Json) (first : Bool) :
    Spec (Good p running) (requestInner method params first)
      (fun result s => ∃ r : Request, r.method = method ∧ r.params = params ∧
        Returns p running r result s) (Ends p running method) := by
  refine Spec.bind (allocate_spec first fun stop s hstop hs => hs.ends hstop) fun id => ?_
  refine Spec.bind (attempt_spec (Spec.bind (sendValue_spec ⟨id, method, params⟩) fun _ =>
    Spec.bind steps_spec fun fuel => waitForResponse_spec ⟨id, method, params⟩ fuel))
    fun result => ?_
  cases result with
  | ok result =>
    refine Spec.bind (updateSession_spec fun s hs => ?_ :
      Spec _ _ (fun _ => Returns p running ⟨id, method, params⟩ result) _) fun _ => ?_
    · exact ⟨⟨⟨hs.1.sound.ordered, hs.1.sound.ids, hs.1.sound.arrived⟩, hs.1.answered,
        hs.1.settled⟩, hs.2⟩
    · exact Spec.pure _ fun s hs => ⟨_, rfl, rfl, hs⟩
  | error e =>
    refine Spec.bind (updateSession_spec fun s hs => ?_ :
      Spec _ _ (fun _ => Ends p running method (.failed e)) _) fun _ => fail_spec fun s hs => hs
    exact ⟨⟨hs.sound.ordered, hs.sound.ids, hs.sound.arrived⟩, hs.answered, hs.settled⟩

/-- A request that is not `turn/start` starts no turn. -/
lemma requestInner_other {method : String} (hmethod : method ≠ "turn/start") (params : Json)
    (first : Bool) :
    Spec (Good p running) (requestInner method params first) (fun _ => Good p running)
      (Ends p running method) := by
  refine (requestInner_spec method params first).consequence (fun _ h => h) ?_ (fun _ _ h => h)
  rintro result s ⟨r, rfl, rfl, hgood, -⟩
  refine ⟨hgood.sound, hgood.answered, ?_⟩
  intro hp hc r' result' ha
  rcases hgood.settled hp hc r' result' ha with (hr | ⟨rfl, rfl⟩) | hreported
  · exact .inl hr
  · exact absurd ha.1 hmethod
  · exact .inr hreported

/-! ## Notifications and new sessions -/

lemma popNotification_spec {E : Stop → Session → Prop} :
    Spec (Good p running) popNotification
      (fun n s => Good p running s ∧ ∀ n', n = some n' → Arrived s.log n') E := by
  intro l hl
  unfold popNotification
  cases hn : l.session.notifications with
  | nil => exact ⟨hl, fun _ h => by cases h⟩
  | cons n notifications =>
    have harrived := hl.sound.arrived
    rw [hn] at harrived
    refine ⟨⟨⟨hl.sound.ordered, hl.sound.ids, ?_⟩, hl.answered, hl.settled⟩, ?_⟩
    · exact fun n' hn' => harrived n' (List.mem_cons_of_mem _ hn')
    · intro n' hn'
      cases hn'
      exact harrived n List.mem_cons_self

/-- No request is open while a notification is awaited, so nothing is lost by an error. -/
lemma nextNotification_spec (cancellable : Bool) :
    Spec (Good p running) (nextNotification cancellable)
      (fun n s => Good p running s ∧ Arrived s.log n) (fun _ => Good p running) := by
  have hlogged : ∀ {s : Session} {message : Json}, Good p running s →
      Good p running (s.logged (.received none message)) := fun hs =>
    hs.logged (fun _ heq => by cases heq) (fun _ _ heq => by cases heq) trivial
  refine Spec.bind popNotification_spec fun popped => ?_
  cases popped with
  | some n => exact Spec.pure _ fun s hs => ⟨hs.1, hs.2 n rfl⟩
  | none =>
    refine Spec.bind ((readMessage_spec (P := Good p running) (fun _ _ _ hs => hs)
      (fun _ _ _ _ hs => hlogged hs)).weaken_pre fun s hs => hs.1) fun w => ?_
    have hgood : ∀ s, (∃ s₀ message, Good p running s₀ ∧
        s = s₀.logged (.received none message) ∧ classifyMessage message = .ok w) →
          Good p running s := by
      rintro s ⟨s₀, message, hs₀, rfl, -⟩
      exact hlogged hs₀
    cases w with
    | notification n =>
      refine Spec.pure _ fun s hs => ⟨hgood s hs, ?_⟩
      obtain ⟨s₀, message, hs₀, rfl, hm⟩ := hs
      exact ⟨none, message, List.mem_append_right _ List.mem_cons_self, hm⟩
    | response id result error => exact fail_spec hgood
    | serverRequest id =>
      exact Spec.bind (denyServerRequest_spec (fun _ => hgood) (fun _ => hgood)
        (fun _ s _ => hgood s)) fun _ => fail_spec hgood

lemma drainNotifications_spec {E : Stop → Session → Prop} :
    Spec (Good p running) drainNotifications (fun _ => Good p running) E := by
  intro l hl
  exact ⟨⟨hl.sound.ordered, hl.sound.ids, fun _ h => by cases h⟩, hl.answered, hl.settled⟩

lemma connect_spec (config : RuntimeConfig) :
    Spec (Good True noTurn) (connect config) (fun _ => Good True noTurn) (fun _ => Sound) := by
  unfold connect
  refine Spec.bind ((requestInner_other (by decide) _ true).weaken_error
    fun _ _ h => h.sound) fun result => ?_
  refine Spec.bind (ofExcept_spec fun _ _ _ hs => hs.sound) fun _ => ?_
  refine Spec.bind (Spec.bind ((checkSize_spec fun _ s hs => hs.sound).weaken_pre
    fun _ hs => hs.2) fun _ => write_spec fun _ _ _ hs => hs.sound) fun _ => ?_
  refine updateSession_spec fun s hs => ?_
  exact ⟨⟨hs.sound.ordered, hs.sound.ids, hs.sound.arrived⟩, hs.answered, hs.settled⟩

end Requests

end WayfinderRouter.Codex
