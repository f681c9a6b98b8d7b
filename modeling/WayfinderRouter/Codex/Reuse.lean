import WayfinderRouter.Codex.Log
import WayfinderRouter.Fallible

/-!
# Sessions that are used again

A session that is put back has no request without an answer and no turn that is still running,
when its log conforms. The two kinds of messages that do not conform end in errors after which
the session is put back.

## Main definitions

- `Stopped`, `OutcomeFails` — what a chat leaves behind

## Main results

- `sessions_clean` — sessions that are put back
-/

namespace WayfinderRouter.Codex

open Hoare

/-! ## Completed turns -/

lemma boundedString_eq_ok {value : Json} {field string : String} {maximum : ℕ}
    (h : boundedString value field maximum = .ok string) :
    (value.get field).bind Json.asStr = some string := by
  unfold boundedString at h
  split at h
  · cases h
  · next heq =>
    split at h
    · cases h
    · cases h
      exact heq

lemma require_eq_ok {α : Type} {o : Option α} {a : α} (h : require o = .ok a) : o = some a := by
  cases o with
  | none => cases h
  | some a' =>
    cases h
    rfl

lemma turnOf_eq {params turn : Json} {turnId : String} (hturn : params.get "turn" = some turn)
    (hid : (turn.get "id").bind Json.asStr = some turnId) : turnOf params = some turnId := by
  simp [turnOf, lookupPath, hturn, hid]

lemma completedTurn_eq_ok {threadId turnId : String} {params turn : Json}
    (h : completedTurn threadId turnId params = .ok turn) :
    (params.get "threadId").bind Json.asStr = some threadId ∧ turnOf params = some turnId := by
  obtain ⟨eventThread, hthread, h⟩ := bind_eq_ok.1 h
  split at h
  · cases h
  · next hsame =>
    obtain ⟨turn', hget, h⟩ := bind_eq_ok.1 h
    obtain ⟨eventTurn, hid, h⟩ := bind_eq_ok.1 h
    split at h
    · cases h
    · next hsame' =>
      rw [boundedString_eq_ok hthread, not_not.1 hsame]
      rw [not_not.1 hsame'] at hid
      exact ⟨rfl, turnOf_eq (require_eq_ok hget) (boundedString_eq_ok hid)⟩

/-- A notification that ends the loop of a chat completes its turn. -/
lemma completed_of_onNotification {threadId turnId : String} {onEvent : OnEvent}
    {n : Notification} {progress : Progress} {outcome : Except CodexAppServerError ChatResponse}
    (h : onNotification threadId turnId onEvent n progress = .ok (.inr outcome)) :
    n.method = "turn/completed" ∧ (n.params.get "threadId").bind Json.asStr = some threadId ∧
      turnOf n.params = some turnId := by
  have hleft : ∀ {x : Except CodexAppServerError Progress},
      x.map Sum.inl ≠ Except.ok (Sum.inr outcome) := by
    intro x hx
    cases x <;> cases hx
  unfold onNotification at h
  split at h
  · exact absurd h hleft
  split at h
  · exact absurd h hleft
  split at h
  · next hmethod =>
    obtain ⟨turn, hturn, -⟩ := bind_eq_ok.1 h
    exact ⟨hmethod, completedTurn_eq_ok hturn⟩
  split at h
  · exact absurd h hleft
  split at h
  · cases h
  · cases h

lemma confirms_eq_true {threadId turnId : String} {params : Json}
    (h : confirms threadId turnId params = .ok true) :
    (params.get "threadId").bind Json.asStr = some threadId ∧ turnOf params = some turnId := by
  obtain ⟨eventThread, hthread, h⟩ := bind_eq_ok.1 h
  obtain ⟨turn, hget, h⟩ := bind_eq_ok.1 h
  obtain ⟨eventTurn, hid, h⟩ := bind_eq_ok.1 h
  obtain ⟨status, -, h⟩ := bind_eq_ok.1 h
  obtain ⟨rfl, rfl, -⟩ := of_decide_eq_true (Except.ok.inj h)
  exact ⟨boundedString_eq_ok hthread, turnOf_eq (require_eq_ok hget) (boundedString_eq_ok hid)⟩

/-! ## Callers -/

/-- An assertion about the session, with the variables of a chat. -/
def At (turn : Option (String × String)) (seen : Bool) (P : Session → Prop) (h : Hold) : Prop :=
  P h.link.session ∧ h.activeTurn = turn ∧ h.terminalSeen = seen

section Callers

variable {α : Type} {turn : Option (String × String)} {seen : Bool} {P : Session → Prop}

lemma onSession_spec {Q : α → Session → Prop} {E : Stop → Session → Prop} {c : Exchange α}
    (h : Spec P c Q E) :
    Triple (At turn seen P) (onSession c) (fun a => At turn seen (Q a))
      (fun stop => At turn seen (E stop)) :=
  Triple.zoom h (fun _ _ => rfl) (fun _ _ hf => hf)

lemma foldl_act_link (others : List Other) (h : Hold) :
    (others.foldl Hold.act h).link = h.link ∧ (others.foldl Hold.act h).activeTurn = h.activeTurn ∧
      (others.foldl Hold.act h).terminalSeen = h.terminalSeen := by
  induction others generalizing h with
  | nil => exact ⟨rfl, rfl, rfl⟩
  | cons action others ih => exact ih (h.act action)

lemma interfere_spec {E : Stop → Hold → Prop} :
    Triple (At turn seen P) interfere (fun _ => At turn seen P) E := by
  intro h hh
  unfold interfere
  cases h.gaps with
  | nil => exact hh
  | cons gap gaps =>
    obtain ⟨hlink, hturn, hseen⟩ := foldl_act_link gap.1 h
    refine ⟨?_, hturn.trans hh.2.1, hseen.trans hh.2.2⟩
    show P (gap.1.foldl Hold.act h).link.session
    rw [hlink]
    exact hh.1

/-- Taking a notification changes nothing that the assertion reads. -/
lemma takeNotification_spec (hP : ∀ s taken, P s → P { s with taken := taken }) (use : Use)
    (n : Notification) :
    Triple (At turn seen P) (takeNotification use n) (fun _ => At turn seen P)
      (fun _ => At turn seen P) := by
  refine Triple.bind interfere_spec fun secure => ?_
  refine Triple.bind (Q := fun _ => At turn seen P) ?_ fun result => ?_
  · intro h hh
    exact ⟨hP _ _ hh.1, hh.2⟩
  · exact (ofExcept_triple fun _ _ _ h => h).consequence (fun _ h => h) (fun _ _ h => h.2)
      (fun _ _ h => h)

lemma takeAll_spec (hP : ∀ s taken, P s → P { s with taken := taken })
    (notifications : List Notification) :
    Triple (At turn seen P) (notifications.forM (takeNotification .applied))
      (fun _ => At turn seen P) (fun _ => At turn seen P) := by
  induction notifications with
  | nil => exact Triple.pure _ fun _ h => h
  | cons n notifications ih =>
    exact Triple.bind (takeNotification_spec hP .applied n) fun _ => ih

end Callers

lemma Good.taken {p : Prop} {running : Request → Json → Prop} {s : Session}
    (h : Good p running s) (taken : List Taken) : Good p running { s with taken := taken } :=
  ⟨⟨h.sound.ordered, h.sound.ids, h.sound.arrived⟩, h.answered, h.settled⟩

/-- The turn is completed. -/
lemma Good.completed {p : Prop} {threadId turnId : String} {s : Session} {n : Notification}
    (h : Good p (thisTurn threadId turnId) s) (harrived : Arrived s.log n)
    (hn : n.method = "turn/completed" ∧ (n.params.get "threadId").bind Json.asStr = some threadId ∧
      turnOf n.params = some turnId) : Good p noTurn s where
  sound := h.sound
  answered := h.answered
  settled := fun hp hc => (h.settled hp hc).completed ⟨n, harrived, hn⟩

section Turns

variable {p : Prop} (threadId turnId : String)

/-- A notification is taken from the session. -/
lemma nextTaken_spec {turn : Option (String × String)} {seen : Bool}
    {running : Request → Json → Prop} (use : Use) (n : Notification) :
    Triple (At turn seen fun s => Good p running s ∧ Arrived s.log n) (takeNotification use n)
      (fun _ => At turn seen fun s => Good p running s ∧ Arrived s.log n)
      (fun _ => At turn seen (Good p running)) := by
  refine (takeNotification_spec ?_ use n).weaken_error ?_
  · exact fun s taken hs => ⟨hs.1.taken taken, hs.2⟩
  · exact fun _ h hh => ⟨hh.1.1, hh.2⟩

/-- What a chat leaves behind when it stops: a turn that runs, unless its end was seen. -/
def Stopped (p : Prop) (h : Hold) : Prop :=
  Good p (thisTurn threadId turnId) h.link.session ∧ h.activeTurn = some (threadId, turnId) ∧
    (h.terminalSeen → Good p noTurn h.link.session)

lemma At.stopped {h : Hold}
    (hh : At (some (threadId, turnId)) false (Good p (thisTurn threadId turnId)) h) :
    Stopped threadId turnId p h :=
  ⟨hh.1, hh.2.1, fun hseen => by rw [hh.2.2] at hseen; cases hseen⟩

lemma chatLoop_spec (onEvent : OnEvent) (fuel : ℕ) (progress : Progress) :
    Triple (At (some (threadId, turnId)) false (Good p (thisTurn threadId turnId)))
      (chatLoop threadId turnId onEvent fuel progress) (fun _ h => Good p noTurn h.link.session)
      (fun _ => Stopped threadId turnId p) := by
  induction fuel generalizing progress with
  | zero => exact Triple.throw _ fun _ hh => hh.stopped
  | succ fuel ih =>
    unfold chatLoop
    have hstop : ∀ (_ : Stop) (h : Hold),
        At (some (threadId, turnId)) false (Good p (thisTurn threadId turnId)) h →
          Stopped threadId turnId p h := fun _ _ hh => hh.stopped
    refine Triple.bind ((onSession_spec isCancelled_spec).weaken_error hstop) fun cancelled => ?_
    cases cancelled with
    | true => exact fail_bind_triple fun _ hh => hh.stopped
    | false =>
      refine Triple.bind ((onSession_spec (nextNotification_spec true)).weaken_error hstop)
        fun n => ?_
      refine Triple.bind ((nextTaken_spec .applied n).weaken_error hstop) fun _ => ?_
      refine Triple.bind (ofExcept_triple fun e _ h hh => At.stopped threadId turnId
        ⟨hh.1.1, hh.2⟩) fun next => ?_
      cases next with
      | inl progress' => exact (ih progress').weaken_pre fun h hh => ⟨hh.2.1.1, hh.2.2⟩
      | inr outcome =>
        refine Triple.bind
          (Q := fun _ h => Good p noTurn h.link.session ∧ Stopped threadId turnId p h) ?_
          fun _ => ?_
        · rintro h ⟨hn, ⟨hgood, harrived⟩, hturn, -⟩
          have hdone := hgood.completed harrived (completed_of_onNotification hn)
          exact ⟨hdone, hgood, hturn, fun _ => hdone⟩
        · exact (ofExcept_triple fun _ _ _ hh => hh.2).consequence (fun _ h => h)
            (fun _ _ h => h.2.1) (fun _ _ h => h)

/-- A loop that ends has seen the turn completed. -/
lemma confirmLoop_spec {turn : Option (String × String)} {seen : Bool} (fuel : ℕ) :
    Triple (At turn seen (Good p (thisTurn threadId turnId))) (confirmLoop threadId turnId fuel)
      (fun _ h => Good p noTurn h.link.session) (fun _ h => Sound h.link.session) := by
  induction fuel with
  | zero => exact Triple.throw _ fun _ hh => hh.1.sound
  | succ fuel ih =>
    unfold confirmLoop
    refine Triple.bind ((onSession_spec (nextNotification_spec false)).weaken_error
      fun _ _ hh => hh.1.sound) fun n => ?_
    refine Triple.bind ((nextTaken_spec .discarded n).weaken_error
      fun _ _ hh => hh.1.sound) fun _ => ?_
    by_cases hmethod : n.method = "turn/completed"
    · rw [if_neg (not_not.2 hmethod)]
      refine Triple.bind (ofExcept_triple fun _ _ _ hh => hh.1.1.sound) fun confirmed => ?_
      cases confirmed with
      | true =>
        refine Triple.pure _ ?_
        rintro h ⟨hn, ⟨hgood, harrived⟩, -⟩
        exact hgood.completed harrived ⟨hmethod, confirms_eq_true hn⟩
      | false => exact ih.weaken_pre fun h hh => ⟨hh.2.1.1, hh.2.2⟩
    · rw [if_pos hmethod]
      exact ih.weaken_pre fun h hh => ⟨hh.1.1, hh.2⟩

lemma interruptTurnAndConfirm_spec {turn : Option (String × String)} {seen : Bool} :
    Triple (At turn seen (Good p (thisTurn threadId turnId)))
      (interruptTurnAndConfirm threadId turnId)
      (fun confirmed h => Good (p ∧ confirmed = true) noTurn h.link.session)
      (fun _ h => Sound h.link.session) := by
  have hloop : Triple (At turn seen (Good p (thisTurn threadId turnId)))
      (do
        let _ ← onSession (Session.request "turn/interrupt" (turnInterruptParams threadId turnId))
        confirmLoop threadId turnId (← onSession Session.steps))
      (fun _ h => Good p noTurn h.link.session) (fun _ h => Sound h.link.session) := by
    refine Triple.bind ((onSession_spec (requestInner_other (by decide) _ false)).weaken_error
      fun _ _ hh => hh.1.sound) fun _ => ?_
    refine Triple.bind ((onSession_spec (steps_spec (E := fun _ => Sound))).weaken_error
      fun _ _ hh => hh.1) fun fuel => ?_
    exact confirmLoop_spec threadId turnId fuel
  refine Triple.bind (attempt_triple hloop) fun result => ?_
  cases result with
  | ok _ => exact Triple.pure _ fun h hh => hh.weaken And.left
  | error e => exact Triple.pure _ fun h hh => hh.good fun hc => by cases hc.2

end Turns

/-! ## Holds -/

section Holds

variable (config : RuntimeConfig) (request : ChatRequest) (prepared : PreparedChat)
variable (onEvent : OnEvent)

/-- How a chat stops before its turn: nothing is running, unless the error ends the session. -/
def StoppedEarly (stop : Stop) : Hold → Prop := At none false (Good (Spares stop) noTurn)

/-- How the outcome of a chat fails. -/
def OutcomeFails (stop : Stop) (h : Hold) : Prop :=
  StoppedEarly stop h ∨ ∃ threadId turnId, Stopped threadId turnId (Spares stop) h

lemma request_early {method : String} (hmethod : method ≠ "turn/start") (hr : Retained method)
    (params : Json) :
    Triple (At none false (Good True noTurn)) (onSession (Session.request method params))
      (fun _ => At none false (Good True noTurn)) OutcomeFails := by
  refine (onSession_spec (requestInner_other hmethod params false)).weaken_error ?_
  exact fun stop h hh => .inl ⟨hh.1.weaken fun hs => ⟨trivial, hs, hr⟩, hh.2⟩

lemma ofExcept_early {α : Type} {x : Except CodexAppServerError α} :
    Triple (At none false (Good True noTurn)) (ofExcept x)
      (fun a h => x = .ok a ∧ At none false (Good True noTurn) h) OutcomeFails :=
  ofExcept_triple fun _ _ _ hh => .inl ⟨hh.1.weaken fun _ => trivial, hh.2⟩

/-- An id that is missing ends the session, and one that is not valid does not. -/
lemma nestedIdentifier_turn (value : Json) :
    match nestedIdentifier value ["turn", "id"] with
    | .ok turnId => turnOf value = some turnId
    | .error e => isFatalError e = true ∨
        ∃ turnId, turnOf value = some turnId ∧ ¬ validIdentifier turnId := by
  show match (do
      let identifier ← require (turnOf value)
      validateIdentifier identifier
      pure identifier : Except CodexAppServerError String) with
    | .ok turnId => turnOf value = some turnId
    | .error e => isFatalError e = true ∨
        ∃ turnId, turnOf value = some turnId ∧ ¬ validIdentifier turnId
  cases hturn : turnOf value with
  | none => exact .inl rfl
  | some turnId =>
    by_cases hvalid : validIdentifier turnId
    · simp [require, validateIdentifier, hvalid, bind, Except.bind, pure, Except.pure]
    · simp [require, validateIdentifier, hvalid, bind, Except.bind]

/-- The turn that was accepted is the one that the chat takes to be active. -/
lemma Returns.thisTurn {s : Session} {r : Request} {result : Json} {threadId turnId : String}
    (h : Returns True noTurn r result s) (hthread : threadOf r = some threadId)
    (hturn : turnOf result = some turnId) : Good True (thisTurn threadId turnId) s := by
  refine h.1.mono id ?_
  rintro r' result' (hfalse | ⟨rfl, rfl⟩)
  · exact hfalse.elim
  · exact ⟨hthread, hturn⟩

/-- A turn that was accepted, and whose id is refused. -/
lemma Returns.refused {s : Session} {r : Request} {result : Json} {e : CodexAppServerError}
    (h : Returns True noTurn r result s) (hmethod : r.method = "turn/start")
    (he : isFatalError e = true ∨
      ∃ turnId, turnOf result = some turnId ∧ ¬ validIdentifier turnId) :
    Good (Spares (.failed e)) noTurn s := by
  have hfalse : Spares (.failed e) → ¬ Conforming s.log := by
    intro hspares hc
    rcases he with he | ⟨turnId, hturn, hinvalid⟩
    · rw [Spares, he] at hspares
      cases hspares
    · exact hinvalid (h.2 hc hmethod turnId hturn)
  exact ⟨h.1.sound, fun hs hc => absurd hc (hfalse hs), fun hs hc => absurd hc (hfalse hs)⟩

/-- A turn is started and becomes the active one. -/
lemma turnStart_spec (threadId : String) {f : String → Caller ChatResponse}
    (hf : ∀ turnId, Triple (At none false (Good True (thisTurn threadId turnId))) (f turnId)
      (fun _ h => Good True noTurn h.link.session) OutcomeFails) :
    Triple (At none false (Good True noTurn))
      (do
        let turnResponse ← onSession (Session.request "turn/start"
          (turnStartParams config threadId request.model prepared.prompt))
        let turnId ← ofExcept (nestedIdentifier turnResponse ["turn", "id"])
        f turnId)
      (fun _ h => Good True noTurn h.link.session) OutcomeFails := by
  refine Triple.bind ((onSession_spec (requestInner_spec _ _ false)).weaken_error ?_)
    fun turnResponse => ?_
  · intro stop h hh
    exact .inl ⟨hh.1.weaken fun hs => ⟨trivial, hs, by decide, by decide⟩, hh.2⟩
  have hnested := nestedIdentifier_turn turnResponse
  refine Triple.bind (ofExcept_triple ?_) fun turnId => ?_
  · rintro e he h ⟨⟨r, hmethod, -, hreturns⟩, hh⟩
    rw [he] at hnested
    exact .inl ⟨hreturns.refused hmethod hnested, hh⟩
  · refine (hf turnId).weaken_pre ?_
    rintro h ⟨hok, ⟨r, -, hparams, hreturns⟩, hh⟩
    rw [hok] at hnested
    refine ⟨hreturns.thisTurn ?_ hnested, hh⟩
    rw [threadOf, hparams]
    rfl

/-- The notifications of the active turn. -/
lemma activeTurn_spec (threadId turnId : String) :
    Triple (At none false (Good True (thisTurn threadId turnId)))
      (do
        modify fun h => { h with activeTurn := some (threadId, turnId) }
        if ← onSession Session.isCancelled then fail .interrupted
        chatLoop threadId turnId onEvent (← onSession Session.steps) ⟨[], 0, none, none⟩)
      (fun _ h => Good True noTurn h.link.session) OutcomeFails := by
  have hstop : ∀ (stop : Stop) (h : Hold), Stopped threadId turnId True h → OutcomeFails stop h :=
    fun stop h hh => .inr ⟨threadId, turnId, hh.1.weaken fun _ => trivial, hh.2.1,
      fun hseen => (hh.2.2 hseen).weaken fun _ => trivial⟩
  refine Triple.bind
    (Q := fun _ => At (some (threadId, turnId)) false (Good True (thisTurn threadId turnId)))
    (fun h hh => ⟨hh.1, rfl, hh.2.2⟩) fun _ => ?_
  refine Triple.bind ((onSession_spec isCancelled_spec).weaken_error
    fun stop h hh => hstop stop h hh.stopped) fun cancelled => ?_
  cases cancelled with
  | true => exact fail_bind_triple fun h hh => hstop _ h hh.stopped
  | false =>
    refine Triple.bind ((onSession_spec steps_spec).weaken_error
      fun stop h hh => hstop stop h hh.stopped) fun fuel => ?_
    exact (chatLoop_spec threadId turnId onEvent fuel _).weaken_error hstop

lemma turnOutcome_spec :
    Triple (At none false (Good True noTurn)) (turnOutcome config request prepared onEvent)
      (fun _ h => Good True noTurn h.link.session) OutcomeFails := by
  unfold turnOutcome
  refine Triple.bind (request_early (by decide) ⟨by decide, by decide⟩ _) fun threadResponse => ?_
  refine Triple.bind ofExcept_early fun _ => ?_
  refine Triple.bind (ofExcept_early.weaken_pre fun _ h => h.2) fun threadId => ?_
  have hturn := turnStart_spec config request prepared threadId
    (activeTurn_spec onEvent threadId)
  by_cases hhistory : prepared.history = []
  · rw [if_neg (not_not.2 hhistory)]
    exact hturn.weaken_pre fun _ h => h.2
  · rw [if_pos hhistory]
    exact Triple.bind ((request_early (by decide) ⟨by decide, by decide⟩ _).weaken_pre
      fun _ h => h.2) fun _ => hturn

/-- The end of a chat. -/
lemma confirmEnd_spec {e : CodexAppServerError} :
    Triple (OutcomeFails (.failed e)) confirmEnd
      (fun confirmed h => Good (isFatalError e = false ∧ confirmed = true) noTurn h.link.session)
      (fun _ h => Sound h.link.session) := by
  refine Triple.bind (Q := fun h₀ h => h₀ = h ∧ OutcomeFails (.failed e) h)
    (fun h hh => ⟨rfl, hh⟩) fun h₀ => ?_
  cases hseen : h₀.terminalSeen with
  | true =>
    refine Triple.pure _ ?_
    rintro h ⟨rfl, hearly | ⟨threadId, turnId, hstopped⟩⟩
    · rw [hearly.2.2] at hseen
      cases hseen
    · exact (hstopped.2.2 hseen).weaken And.left
  | false =>
    cases hturn : h₀.activeTurn with
    | none =>
      refine Triple.pure _ ?_
      rintro h ⟨rfl, hearly | ⟨threadId, turnId, hstopped⟩⟩
      · exact hearly.1.weaken And.left
      · rw [hstopped.2.1] at hturn
        cases hturn
    | some turn =>
      refine (@interruptTurnAndConfirm_spec (isFatalError e = false) turn.1 turn.2 (some turn)
        false).weaken_pre ?_
      rintro h ⟨rfl, hearly | ⟨threadId, turnId, hstopped⟩⟩
      · rw [hearly.2.1] at hturn
        cases hturn
      · rw [hstopped.2.1] at hturn
        cases hturn
        exact ⟨hstopped.1, hstopped.2.1, hseen⟩

/-- **Chats**: a session that is put back is clean. -/
lemma chatOn_spec :
    Triple (At none false (Good True noTurn)) (chatOn config request prepared onEvent)
      (fun result h => Good (result.1 = true) noTurn h.link.session)
      (fun _ h => Sound h.link.session) := by
  unfold chatOn
  have houtcome := attempt_triple (turnOutcome_spec config request prepared onEvent)
  refine Triple.bind (houtcome.weaken_error ?_) fun outcome => ?_
  · rintro stop h (hearly | ⟨threadId, turnId, hstopped⟩)
    · exact hearly.1.sound
    · exact hstopped.1.sound
  cases outcome with
  | ok response => exact Triple.pure _ fun h hh => hh.weaken fun _ => trivial
  | error e =>
    refine Triple.bind confirmEnd_spec fun confirmed => ?_
    refine Triple.pure _ fun h hh => hh.weaken fun hput => ?_
    simpa using hput

/-- **Requests to the account and the models**: a session that is put back is clean. -/
lemma rpcOn_spec (call : RpcCall) :
    Triple (At none false (Good True noTurn)) (rpcOn call)
      (fun result h => Good (result.1 = true) noTurn h.link.session)
      (fun _ h => Sound h.link.session) := by
  have hmethod : call.method ≠ "turn/start" ∧ Retained call.method := by
    cases call <;> simp [RpcCall.method, Retained]
  unfold rpcOn
  refine Triple.bind (Q := fun result => At none false (Good (reusable result = true) noTurn))
    ((onSession_spec (attempt_spec (requestInner_other hmethod.1 call.params false))).consequence
      (fun _ h => h) ?_ fun _ _ hh => hh.1.sound) fun result => ?_
  · intro result h hh
    cases result with
    | ok a => exact ⟨hh.1.weaken fun _ => trivial, hh.2⟩
    | error e =>
      refine ⟨hh.1.weaken fun hr => ⟨trivial, ?_, hmethod.2⟩, hh.2⟩
      simpa [reusable, Spares] using hr
  refine Triple.bind ((onSession_spec (drainNotifications_spec (E := fun _ => Sound))).weaken_error
    fun _ _ hh => hh.1) fun notifications => ?_
  refine Triple.bind ((attempt_triple (takeAll_spec (fun s taken hs => hs.taken taken)
    notifications)).weaken_error
      fun _ _ hh => hh.1.sound)
    fun applied => ?_
  cases applied with
  | error e => exact Triple.pure _ fun h hh => hh.1.sound.good (by simp)
  | ok _ => exact Triple.pure _ fun h hh => hh.1

end Holds

/-! ## Runs -/

/-- The session in the slot stays good, and all others stay sound. -/
lemma upholds_good (config : RuntimeConfig) :
    Upholds config (Good True noTurn) Sound (fun _ _ => True) where
  gone_of_slot := fun _ hs => hs.sound
  connect := (connect_spec config).weaken_pre fun _ hs => hs ▸ good_fresh
  other := fun _ _ _ _ => trivial
  rpc := fun call => (rpcOn_spec call).consequence (fun _ hh => ⟨hh.1, hh.2.2⟩)
    (fun _ _ hh => ⟨fun hput => hh.weaken fun _ => hput, hh.sound, trivial⟩)
    (fun _ _ hh => ⟨hh, trivial⟩)
  chat := fun request prepared onEvent =>
    (chatOn_spec config request prepared onEvent).consequence (fun _ hh => ⟨hh.1, hh.2.2⟩)
      (fun _ _ hh => ⟨fun hput => hh.weaken fun _ => hput, hh.sound, trivial⟩)
      (fun _ _ hh => ⟨hh, trivial⟩)

/-- In every run, the session in the slot is clean if its log conforms: no later caller meets a
request or a turn of an earlier one. On every session the ids of requests increase, and a result
that is returned belongs to the request that was sent last. -/
theorem sessions_clean (config : RuntimeConfig) (commands : List (Command × Environment)) :
    (∀ s, (runAll config commands .start).slot = some s → Conforming s.log → Clean s.log) ∧
    ∀ s, (runAll config commands .start).slot = some s ∨
      s ∈ (runAll config commands .start).retired → Ordered s.log := by
  have hkept := (upheld_start trivial).runAll (upholds_good config) commands
  refine ⟨?_, ?_⟩
  · intro s hs hc
    have hgood := hkept.slot s hs
    exact ⟨hgood.answered trivial hc, hgood.settled trivial hc⟩
  · rintro s (hs | hs)
    · exact (hkept.slot s hs).sound.ordered
    · exact (hkept.retired s hs).ordered

/-! ### Runs on fixed scripts -/

def exampleConfig : RuntimeConfig := ⟨"/h", "/w", "1", some, "unix", "linux"⟩

def respond (id : ℕ) (result : Json) : Read :=
  .message (.object [("id", .nat id), ("result", result)])

def notify (method : String) (params : Json) : Read :=
  .message (.object [("method", .string method), ("params", params)])

def initializeResult : Json :=
  .object [("codexHome", .string "/h"), ("platformFamily", .string "unix"),
    ("platformOs", .string "linux"), ("userAgent", .string "wayfinder/0.145.0-alpha.18")]

/-- An environment in which the process starts and all writes succeed. -/
def exampleEnvironment (reads : List Read) (cancels : List Bool) : Environment :=
  ⟨.ok (), ⟨respond 1 initializeResult :: reads, List.replicate 6 .written, cancels⟩, []⟩

/-- A notification and then the response; the session is put back. -/
def readsAccount : List (Command × Environment) :=
  [(.rpc .readAccount,
    exampleEnvironment [notify "account/rateLimits/updated" .null, respond 2 .null] [])]

theorem sessions_clean_account :
    ∃ s, (runAll exampleConfig readsAccount .start).slot = some s ∧ Conforming s.log ∧
      Clean s.log ∧ Ordered s.log := by
  have hrun : ((runAll exampleConfig readsAccount .start).slot.any
      fun s => s.log.all Event.allowed) = true := by
    decide +kernel
  obtain ⟨s, hs, hall⟩ := (Option.any_eq_true _ _).1 hrun
  have hc : Conforming s.log := List.all_eq_true.1 hall
  obtain ⟨hclean, hordered⟩ := sessions_clean exampleConfig readsAccount
  exact ⟨s, hs, hc, hclean s hs hc, hordered s (.inl hs)⟩

def threadResult : Json :=
  .object [("approvalPolicy", .string "never"), ("model", .string "m"),
    ("modelProvider", .string "openai"),
    ("thread", .object [("id", .string "t"), ("ephemeral", .bool true)]),
    ("cwd", .string "/w"), ("activePermissionProfile", .object [("id", .string "wayfinder-chat")]),
    ("runtimeWorkspaceRoots", .array [.string "/w"]),
    ("sandbox", .object [("type", .string "readOnly"), ("networkAccess", .bool false)]),
    ("instructionSources", .array [])]

def turnResult (turnId : String) : Json :=
  .object [("turn", .object [("id", .string turnId)])]

/-- A chat whose turn is accepted with this id, and then some more messages. -/
def exampleChat (turnId : String) (reads : List Read) (cancels : List Bool) :
    Command × Environment :=
  (.chat ⟨"m", [⟨.user, "hi"⟩]⟩ (fun _ => .ok ()),
    exampleEnvironment ([respond 2 threadResult, respond 3 (turnResult turnId)] ++ reads) cancels)

/-- The event accepts a turn. -/
def Event.accepts : Event → Bool
  | .received (some r) message =>
    match classifyMessage message with
    | .ok (.response id (some _) none) => id = r.id && r.method = "turn/start"
    | _ => false
  | _ => false

/-- The event is a notification. -/
def Event.notifies : Event → Bool
  | .received _ message =>
    match classifyMessage message with
    | .ok (.notification _) => true
    | _ => false
  | _ => false

/-- A turn that was accepted is not reported without a notification. -/
lemma not_clean {log : List Event} (ha : log.any Event.accepts)
    (hn : log.all fun event => !event.notifies) : ¬ Clean log := by
  intro hclean
  obtain ⟨event, hmem, hevent⟩ := List.any_eq_true.1 ha
  have haccepted : ∃ r result, Accepted log r result := by
    unfold Event.accepts at hevent
    split at hevent
    · next r message =>
      split at hevent
      · next id result hm =>
        obtain ⟨hid, hmethod⟩ := Bool.and_eq_true_iff.1 hevent
        rw [of_decide_eq_true hid] at hm
        exact ⟨r, result, of_decide_eq_true hmethod, message, hmem, hm⟩
      · cases hevent
    · cases hevent
  obtain ⟨r, result, haccepted⟩ := haccepted
  rcases hclean.settled r result haccepted with hfalse | ⟨_, _, _, _, n, harrived, _⟩
  · exact hfalse
  · obtain ⟨awaiting, message, hmem, hm⟩ := harrived
    have hsilent := List.all_eq_true.1 hn _ hmem
    simp [Event.notifies, hm] at hsilent

/-- The server accepts a turn with an empty id: the chat fails, and the session is put back while
the turn is running. -/
theorem sessions_unclean_refused_id :
    ∃ s, (runAll exampleConfig [exampleChat "" [] []] .start).slot = some s ∧ ¬ Clean s.log := by
  have hrun : ((runAll exampleConfig [exampleChat "" [] []] .start).slot.any
      fun s => s.log.any Event.accepts && s.log.all fun event => !event.notifies) = true := by
    decide +kernel
  obtain ⟨s, hs, hall⟩ := (Option.any_eq_true _ _).1 hrun
  obtain ⟨ha, hn⟩ := Bool.and_eq_true_iff.1 hall
  exact ⟨s, hs, not_clean ha hn⟩

end WayfinderRouter.Codex
