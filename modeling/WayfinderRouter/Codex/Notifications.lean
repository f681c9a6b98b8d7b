import WayfinderRouter.Codex.Reuse

/-!
# Notifications of a login

The notifications that are read from a session are those that were taken from it and those that
are still queued. A completion of the pending login that is taken is applied, and clears it,
unless it is taken while an interrupted turn is confirmed. The failure of a login is recorded only
for a completion of the pending login, except that a completion without an id passes for one when
no login is pending.

## Main definitions

- `arrivals` — the notifications that were read
- `Taken.Honored` — a completion of the pending login is applied
- `Change.Fair` — the failure of a login is recorded
- `Chained` — the changes of the login state, one after the other

## Main results

- `completions_applied` — completions on sessions that are put back
-/

namespace WayfinderRouter.Codex

open Hoare

/-! ## Completions -/

/-- The notifications that were read. -/
def arrivals (log : List Event) : List Notification :=
  log.filterMap fun
    | .received _ message =>
      match classifyMessage message with
      | .ok (.notification n) => some n
      | _ => none
    | _ => none

def loginIdOf (n : Notification) : Option String := (n.params.get "loginId").bind Json.asStr

/-- The notification is the completion of the login that is pending. -/
def Taken.completesPending (t : Taken) : Bool :=
  t.notification.method = "account/login/completed" && t.before.pendingId.isSome &&
    t.before.pendingId = loginIdOf t.notification

/-- A completion of the pending login is applied, and the login is cleared. -/
def Taken.Honored (t : Taken) : Prop :=
  t.completesPending → t.use = .applied ∧ t.after.pendingLogin = none

/-- The notification reports that the pending login has failed. -/
def Taken.Fails (t : Taken) : Prop :=
  t.use = .applied ∧ t.completesPending ∧
    (t.notification.params.get "success").bind Json.asBool = some false

/-- The failure is recorded only for a completion of the pending login. -/
def Change.Fair (c : Change) : Prop :=
  c.before.loginFailed = false → c.after.loginFailed = true → ∃ t, c = .taken t ∧ t.Fails

/-- The changes lead from one login state to another. -/
def Chained : LoginState → List Change → LoginState → Prop
  | l, [], l' => l = l'
  | l, c :: changes, l' => c.before = l ∧ Chained c.after changes l'

/-! ## The condition -/

/-- While an interrupted turn is confirmed, no completion of the pending login is taken; and a
failed completion without an id is applied only while a login is pending. -/
def Taken.allowed (t : Taken) : Bool :=
  match t.use with
  | .discarded => !t.completesPending
  | .applied => !(t.notification.method = "account/login/completed" &&
      loginIdOf t.notification = none && t.before.pendingId = none &&
      (t.notification.params.get "success").bind Json.asBool = some false)

def Change.allowed : Change → Bool
  | .other _ _ => true
  | .taken t => t.allowed

/-! ## Changes of the login state -/

lemma Chained.concat {l l' : LoginState} {changes : List Change} {c : Change}
    (h : Chained l changes l') (hc : c.before = l') : Chained l (changes ++ [c]) c.after := by
  induction changes generalizing l with
  | nil => exact ⟨hc.trans h.symm, rfl⟩
  | cons head changes ih => exact ⟨h.1, ih h.2⟩

lemma other_loginFailed (action : Other) (l : LoginState) (h : l.loginFailed = false) :
    (action.apply l).loginFailed = false := by
  cases action with
  | stored login => rfl
  | cancelled loginId =>
    simp only [Other.apply]
    split
    · exact h
    · exact h
  | loggedOut => rfl
  | expired => exact h
  | failureTaken => rfl

/-- The failure is recorded by a failed completion whose id is the pending one, or is missing
when no login is pending. -/
lemma applyNotification_loginFailed {secure : Bool} {n : Notification} {l : LoginState}
    (hbefore : l.loginFailed = false)
    (hafter : (applyNotification secure n l).1.loginFailed = true) :
    n.method = "account/login/completed" ∧ l.pendingId = loginIdOf n ∧
      (n.params.get "success").bind Json.asBool = some false := by
  have hsame : l.loginFailed ≠ true := by simp [hbefore]
  unfold applyNotification at hafter
  split at hafter
  · next hmethod =>
    unfold applyCompleted at hafter
    split at hafter
    · exact absurd hafter hsame
    · next success hsuccess =>
      split at hafter
      · next hid =>
        split at hafter
        · exact absurd hafter hsame
        · exact absurd hafter hsame
        · exact ⟨hmethod, hid, hsuccess⟩
      · exact absurd hafter hsame
  · split at hafter
    · unfold applyUpdated at hafter
      split at hafter
      · split at hafter
        · split at hafter
          · exact absurd hafter hsame
          · exact absurd hafter hsame
        · exact absurd hafter hsame
      · exact absurd hafter hsame
      · exact absurd hafter hsame
    · exact absurd hafter hsame

/-- A completion that is applied without an error clears the pending login. -/
lemma applyNotification_clears_pending {secure : Bool} {n : Notification} {l : LoginState}
    (hmethod : n.method = "account/login/completed") (hid : l.pendingId = loginIdOf n)
    (hok : (applyNotification secure n l).2 = .ok ()) :
    (applyNotification secure n l).1.pendingLogin = none := by
  rw [applyNotification, if_pos hmethod] at hok ⊢
  unfold applyCompleted at hok ⊢
  cases hsuccess : (n.params.get "success").bind Json.asBool with
  | none =>
    rw [hsuccess] at hok
    cases hok
  | some success =>
    simp only [hsuccess] at hok ⊢
    rw [if_pos (show l.pendingId = (n.params.get "loginId").bind Json.asStr from hid)] at hok ⊢
    cases success with
    | false => rfl
    | true =>
      cases secure with
      | false => cases hok
      | true => rfl

/-- The errors of a notification end the session. -/
lemma applyNotification_fatal {secure : Bool} {n : Notification} {l : LoginState}
    {e : CodexAppServerError} (h : (applyNotification secure n l).2 = .error e) :
    ¬ Spares (.failed e) := by
  have hfatal : isFatalError e = true := by
    unfold applyNotification at h
    split at h
    · unfold applyCompleted at h
      split at h
      · cases h
        rfl
      · split at h
        · split at h
          · cases h
            rfl
          · cases h
          · cases h
        · cases h
    · split at h
      · unfold applyUpdated at h
        split at h
        · split at h
          · split at h
            · cases h
            · cases h
              rfl
          · cases h
            rfl
        · cases h
        · cases h
          rfl
      · cases h
  simp [Spares, hfatal]

/-! ## Sessions -/

/-- The notifications that were read are those that were taken, some that are being taken, and
those that are queued. -/
def Conserved (underway : List Notification) (s : Session) : Prop :=
  arrivals s.log = s.taken.map Taken.notification ++ underway ++ s.notifications

/-- When `q` holds, no notification is lost. -/
def Tracks (q : Prop) (underway : List Notification) (s : Session) : Prop :=
  q → Conserved underway s ∧ ∀ t ∈ s.taken, t.allowed → t.Honored

section Sessions

open Session

variable {q : Prop} {underway : List Notification} {s : Session}

lemma Tracks.weaken {q' : Prop} (h : Tracks q underway s) (hq : q' → q) : Tracks q' underway s :=
  fun hq' => h (hq hq')

@[simp] lemma arrivals_sent (log : List Event) (r : Request) :
    arrivals (log ++ [.sent r]) = arrivals log := by
  simp [arrivals]

@[simp] lemma arrivals_returned (log : List Event) (r : Request) (result : Json) :
    arrivals (log ++ [.returned r result]) = arrivals log := by
  simp [arrivals]

lemma arrivals_notification (log : List Event) {awaiting : Option Request} {message : Json}
    {n : Notification} (h : classifyMessage message = .ok (.notification n)) :
    arrivals (log ++ [.received awaiting message]) = arrivals log ++ [n] := by
  simp [arrivals, h]

lemma arrivals_other (log : List Event) {awaiting : Option Request} {message : Json}
    (h : ∀ n, classifyMessage message ≠ .ok (.notification n)) :
    arrivals (log ++ [.received awaiting message]) = arrivals log := by
  simp only [arrivals, List.filterMap_append, List.filterMap_cons, List.filterMap_nil]
  exact List.append_nil _

/-- An event with which no notification arrives. -/
lemma Tracks.logged (h : Tracks q underway s) {event : Event}
    (he : arrivals (s.log ++ [event]) = arrivals s.log) : Tracks q underway (s.logged event) :=
  fun hq => ⟨he.trans (h hq).1, (h hq).2⟩

/-- A message that is not a notification. -/
lemma Tracks.received (h : Tracks q underway s) {awaiting : Option Request} {message : Json}
    {w : WireMessage} (hm : classifyMessage message = .ok w) (hw : ∀ n, w ≠ .notification n) :
    Tracks q underway (s.logged (.received awaiting message)) := by
  refine h.logged (arrivals_other s.log ?_)
  intro n hn
  rw [hm] at hn
  exact hw n (Except.ok.inj hn)

lemma waitForResponse_tracks (r : Request) (fuel : ℕ) :
    Spec (Tracks q []) (waitForResponse r fuel) (fun _ => Tracks q [])
      (fun stop => Tracks (q ∧ Spares stop) []) := by
  induction fuel with
  | zero => exact Triple.throw _ fun _ hl => hl.weaken And.left
  | succ fuel ih =>
    unfold waitForResponse
    have hends : ∀ (stop : Stop) (s : Session), ¬ Spares stop → Tracks (q ∧ Spares stop) [] s :=
      fun stop s hstop hs => absurd hs.2 hstop
    refine Spec.bind (readMessage_spec (fun stop s hstop _ => hends stop s hstop)
      (fun stop s message hstop _ => hends stop _ hstop)) fun w => ?_
    cases w with
    | response id result error =>
      have hkeep : ∀ s, (∃ s₀ message, Tracks q [] s₀ ∧
          s = s₀.logged (.received (some r) message) ∧
            classifyMessage message = .ok (.response id result error)) → Tracks q [] s := by
        rintro s ⟨s₀, message, hs₀, rfl, hm⟩
        exact hs₀.received hm fun _ h => by cases h
      by_cases hid : id = r.id
      · subst hid
        simp only [ne_eq, not_true_eq_false, if_false]
        rcases result with - | result <;> rcases error with - | error
        · exact fail_spec fun s hs => (hkeep s hs).weaken And.left
        · exact fail_spec fun s hs => (hkeep s hs).weaken And.left
        · refine Spec.bind (record_spec fun s hs => (hkeep s hs).logged (arrivals_returned ..) :
            Spec _ _ (fun _ => Tracks q []) _) fun _ => Spec.pure _ fun _ h => h
        · exact fail_spec fun s hs => (hkeep s hs).weaken And.left
      · simp only [ne_eq, hid, not_false_eq_true, if_true]
        exact fail_spec fun s hs => (hkeep s hs).weaken And.left
    | notification n =>
      refine Spec.bind (Q := fun _ => Tracks q []) ?_ fun _ => ih
      rintro l ⟨s₀, message, hs₀, heq, hm⟩
      unfold queue
      by_cases hfull : maxNotificationQueue ≤ l.session.notifications.length
      · rw [if_pos hfull]
        exact hends _ _ (by simp [Spares, isFatalError])
      · rw [if_neg hfull]
        intro hq
        obtain ⟨hlog, hhonored⟩ := hs₀ hq
        unfold Conserved at *
        simp only [heq, Session.logged, arrivals_notification _ hm, hlog, List.append_assoc,
          List.append_nil, true_and]
        exact hhonored
    | serverRequest id =>
      have hkeep : ∀ s, (∃ s₀ message, Tracks q [] s₀ ∧
          s = s₀.logged (.received (some r) message) ∧
            classifyMessage message = .ok (.serverRequest id)) → Tracks q [] s := by
        rintro s ⟨s₀, message, hs₀, rfl, hm⟩
        exact hs₀.received hm fun _ h => by cases h
      refine Spec.bind (denyServerRequest_spec (fun _ s hs => (hkeep s hs).weaken And.left)
        (fun _ s hs => (hkeep s hs).weaken And.left) (fun _ s _ hs => (hkeep s hs).weaken And.left))
        fun _ => fail_spec fun s hs => (hkeep s hs).weaken And.left

lemma requestInner_tracks (method : String) (params : Json) (first : Bool) :
    Spec (Tracks q []) (requestInner method params first) (fun _ => Tracks q [])
      (fun stop => Tracks (q ∧ Spares stop) []) := by
  have hleft : ∀ {stop : Stop} {s : Session}, Tracks q [] s → Tracks (q ∧ Spares stop) [] s :=
    fun h => h.weaken And.left
  refine Spec.bind (Q := fun _ => Tracks q []) ?_ fun id => ?_
  · intro l hl
    unfold allocate
    split_ifs with hpending hnext
    · exact hleft hl
    · exact hleft hl
    · exact hl
  have hsend : Spec (Tracks q [])
      (do
        sendValue (Request.value ⟨id, method, params⟩) (some ⟨id, method, params⟩)
        waitForResponse ⟨id, method, params⟩ (← steps))
      (fun _ => Tracks q []) (fun stop => Tracks (q ∧ Spares stop) []) := by
    refine Spec.bind (Spec.bind (checkSize_spec fun _ s hs => hleft hs) fun _ =>
      Spec.bind (record_spec fun s hs => hs.logged (arrivals_sent ..)) fun _ =>
        write_spec fun _ s _ hs => hleft hs) fun _ => ?_
    exact Spec.bind steps_spec fun fuel => waitForResponse_tracks _ fuel
  refine Spec.bind (attempt_spec hsend) fun result => ?_
  cases result with
  | ok result =>
    exact Spec.bind (Q := fun _ => Tracks q []) (fun _ hl => hl) fun _ =>
      Spec.pure _ fun _ hs => hs
  | error e =>
    exact Spec.bind (Q := fun _ => Tracks (q ∧ Spares (.failed e)) []) (fun _ hl => hl) fun _ =>
      fail_spec fun _ hs => hs

/-- The notification that is returned is underway. -/
lemma nextNotification_tracks (cancellable : Bool) :
    Spec (Tracks q []) (nextNotification cancellable) (fun n => Tracks q [n])
      (fun stop => Tracks (q ∧ Spares stop) []) := by
  refine Spec.bind (Q := fun popped s => Tracks q popped.toList s ∧
    (popped = none → s.notifications = [])) ?_ fun popped => ?_
  · intro l hl
    unfold popNotification
    cases hn : l.session.notifications with
    | nil => exact ⟨hl, fun _ => hn⟩
    | cons n notifications =>
      refine ⟨fun hq => ?_, fun h => by cases h⟩
      obtain ⟨hlog, hhonored⟩ := hl hq
      refine ⟨?_, hhonored⟩
      unfold Conserved at *
      rw [hn] at hlog
      simpa using hlog
  cases popped with
  | some n => exact Spec.pure _ fun _ hs => hs.1
  | none =>
    refine Spec.bind ((readMessage_spec (P := fun s => Tracks q [] s ∧ s.notifications = [])
      (fun stop s hstop _ hs => absurd hs.2 hstop)
      (fun stop s message hstop _ hs => absurd hs.2 hstop)).weaken_pre
        fun s hs => ⟨hs.1, hs.2 rfl⟩) fun w => ?_
    cases w with
    | notification n =>
      refine Spec.pure _ ?_
      rintro s ⟨s₀, message, ⟨hs₀, hempty⟩, rfl, hm⟩ hq
      obtain ⟨hlog, hhonored⟩ := hs₀ hq
      refine ⟨?_, hhonored⟩
      unfold Conserved at *
      rw [hempty] at hlog
      simp only [Session.logged, arrivals_notification _ hm, hlog, hempty, List.append_nil]
    | response id result error =>
      refine fail_spec ?_
      rintro s ⟨s₀, message, ⟨hs₀, -⟩, rfl, hm⟩
      exact (hs₀.received hm fun _ h => by cases h).weaken And.left
    | serverRequest id =>
      have hkeep : ∀ {stop : Stop} (s : Session), (∃ s₀ message,
          (Tracks q [] s₀ ∧ s₀.notifications = []) ∧ s = s₀.logged (.received none message) ∧
            classifyMessage message = .ok (.serverRequest id)) →
              Tracks (q ∧ Spares stop) [] s := by
        rintro stop s ⟨s₀, message, ⟨hs₀, -⟩, rfl, hm⟩
        exact (hs₀.received hm fun _ h => by cases h).weaken And.left
      exact Spec.bind (denyServerRequest_spec (fun _ => hkeep) (fun _ => hkeep)
        (fun _ s _ => hkeep s)) fun _ => fail_spec hkeep

lemma connect_tracks (config : RuntimeConfig) :
    Spec (Tracks True []) (connect config) (fun _ => Tracks True []) (fun _ _ => True) := by
  unfold connect
  refine Spec.bind ((requestInner_tracks _ _ true).weaken_error fun _ _ _ => trivial)
    fun result => ?_
  refine Spec.bind (ofExcept_spec fun _ _ _ _ => trivial) fun _ => ?_
  refine Spec.bind (Spec.bind ((checkSize_spec fun _ _ _ => trivial).weaken_pre
    fun _ hs => hs.2) fun _ => write_spec fun _ _ _ _ => trivial) fun _ => ?_
  exact updateSession_spec fun s hs => hs

end Sessions

/-! ## Callers -/

/-- The changes of the login state so far. -/
structure LoginFair (changes : List Change) (login : LoginState) : Prop where
  chained : Chained ⟨none, false⟩ changes login
  fair : ∀ c ∈ changes, c.allowed → c.Fair

/-- The session and the login state of a caller. -/
def Held (q : Prop) (underway : List Notification) (h : Hold) : Prop :=
  Tracks q underway h.link.session ∧ LoginFair h.changes h.login

lemma LoginFair.concat {changes : List Change} {login : LoginState}
    (h : LoginFair changes login) {c : Change} (hbefore : c.before = login)
    (hfair : c.allowed → c.Fair) : LoginFair (changes ++ [c]) c.after where
  chained := h.chained.concat hbefore
  fair := by
    intro c' hc'
    rcases List.mem_append.1 hc' with hc' | hc'
    · exact h.fair c' hc'
    · rw [List.mem_singleton.1 hc']
      exact hfair

lemma LoginFair.other {changes : List Change} {login : LoginState}
    (h : LoginFair changes login) (action : Other) :
    LoginFair (changes ++ [.other action login]) (action.apply login) := by
  refine @LoginFair.concat _ _ h (.other action login) rfl ?_
  intro _ hbefore hafter
  rw [show Change.after (.other action login) = action.apply login from rfl,
    other_loginFailed action login hbefore] at hafter
  cases hafter

section Callers

variable {α : Type} {q : Prop} {underway : List Notification}

lemma Held.weaken {q' : Prop} {h : Hold} (hh : Held q underway h) (hq : q' → q) :
    Held q' underway h :=
  ⟨hh.1.weaken hq, hh.2⟩

lemma onSession_held {P : Session → Prop} {Q : α → Session → Prop} {E : Stop → Session → Prop}
    {c : Exchange α} (h : Spec P c Q E) :
    Triple (fun h => P h.link.session ∧ LoginFair h.changes h.login) (onSession c)
      (fun a h => Q a h.link.session ∧ LoginFair h.changes h.login)
      (fun stop h => E stop h.link.session ∧ LoginFair h.changes h.login) :=
  Triple.zoom h (fun _ _ => rfl) (fun _ _ hf => hf)

lemma foldl_act_fair (others : List Other) {h : Hold} (hh : LoginFair h.changes h.login) :
    LoginFair (others.foldl Hold.act h).changes (others.foldl Hold.act h).login := by
  induction others generalizing h with
  | nil => exact hh
  | cons action others ih => exact ih (hh.other action)

lemma interfere_held {E : Stop → Hold → Prop} :
    Triple (Held q underway) interfere (fun _ => Held q underway) E := by
  intro h hh
  unfold interfere
  cases h.gaps with
  | nil => exact hh
  | cons gap gaps =>
    refine ⟨?_, foldl_act_fair gap.1 hh.2⟩
    show Tracks q underway (gap.1.foldl Hold.act h).link.session
    rw [(foldl_act_link gap.1 h).1]
    exact hh.1

/-- The notification that is taken, with the login state before and afterwards. -/
def taking (use : Use) (secure : Bool) (n : Notification) (login : LoginState) : Taken :=
  ⟨n, use, login, (useNotification use secure n login).1⟩

/-- The failure is recorded for a completion of the pending login. -/
lemma fair_taking (use : Use) (secure : Bool) (n : Notification) (login : LoginState)
    (hallowed : (taking use secure n login).allowed) :
    Change.Fair (.taken (taking use secure n login)) := by
  intro hbefore hafter
  have hbefore' : login.loginFailed = false := hbefore
  have hafter' : (useNotification use secure n login).1.loginFailed = true := hafter
  refine ⟨_, rfl, ?_⟩
  cases use with
  | discarded =>
    rw [useNotification, hbefore'] at hafter'
    cases hafter'
  | applied =>
    obtain ⟨hmethod, hid, hsuccess⟩ := applyNotification_loginFailed hbefore' hafter'
    refine ⟨rfl, ?_, hsuccess⟩
    -- the id is not missing, by the condition
    cases hpending : login.pendingId with
    | none =>
      rw [hpending] at hid
      simp [taking, Taken.allowed, hmethod, ← hid, hpending, hsuccess] at hallowed
    | some loginId =>
      rw [hpending] at hid
      simp [taking, Taken.completesPending, hmethod, hpending, ← hid]

/-- A completion of the pending login is applied. -/
lemma honored_taking (use : Use) (secure : Bool) (n : Notification) (login : LoginState)
    (hok : (useNotification use secure n login).2 = .ok ())
    (hallowed : (taking use secure n login).allowed) : (taking use secure n login).Honored := by
  intro hcompletes
  cases use with
  | discarded =>
    have hnot : (!(taking .discarded secure n login).completesPending) = true := hallowed
    rw [hcompletes] at hnot
    cases hnot
  | applied =>
    simp only [taking, Taken.completesPending, Bool.and_eq_true] at hcompletes
    exact ⟨rfl, applyNotification_clears_pending (of_decide_eq_true hcompletes.1.1)
      (of_decide_eq_true hcompletes.2) hok⟩

/-- The errors of a notification end the session. -/
lemma useNotification_fatal {use : Use} {secure : Bool} {n : Notification} {l : LoginState}
    {e : CodexAppServerError} (h : (useNotification use secure n l).2 = .error e) :
    ¬ Spares (.failed e) := by
  cases use with
  | applied => exact applyNotification_fatal h
  | discarded => cases h

lemma settle_eq (use : Use) (n : Notification) (secure : Bool) (h : Hold) :
    settle use n secure h = .ok (useNotification use secure n h.login).2
      { h with
        link := { h.link with session :=
          { h.link.session with
            taken := h.link.session.taken ++ [taking use secure n h.login] } }
        login := (useNotification use secure n h.login).1
        changes := h.changes ++ [.taken (taking use secure n h.login)] } := rfl

lemma settle_held (use : Use) (n : Notification) (secure : Bool) {E : Stop → Hold → Prop} :
    Triple (Held q (n :: underway)) (settle use n secure)
      (fun result h => LoginFair h.changes h.login ∧ match result with
        | .ok _ => Tracks q underway h.link.session
        | .error e => ¬ Spares (.failed e)) E := by
  rintro h ⟨htracks, hfair⟩
  rw [settle_eq]
  have hfair' := @LoginFair.concat _ _ hfair (.taken (taking use secure n h.login)) rfl
    (fair_taking use secure n h.login)
  cases hresult : (useNotification use secure n h.login).2 with
  | error e => exact ⟨hfair', useNotification_fatal hresult⟩
  | ok _ =>
    refine ⟨hfair', fun hq => ?_⟩
    obtain ⟨hlog, hhonored⟩ := htracks hq
    refine ⟨?_, ?_⟩
    · unfold Conserved at *
      simpa [taking] using hlog
    · intro t ht
      rcases List.mem_append.1 ht with ht | ht
      · exact hhonored t ht
      · rw [List.mem_singleton.1 ht]
        exact honored_taking use secure n h.login hresult

/-- A notification that is underway is taken; an error ends the session. -/
lemma takeNotification_held (use : Use) (n : Notification) :
    Triple (Held q (n :: underway)) (takeNotification use n) (fun _ => Held q underway)
      (fun stop h => ¬ Spares stop ∧ LoginFair h.changes h.login) := by
  refine Triple.bind interfere_held fun secure => ?_
  refine Triple.bind (settle_held use n secure) fun result => ?_
  cases result with
  | ok _ => exact Triple.pure _ fun h hh => ⟨hh.2, hh.1⟩
  | error e => exact fail_triple fun h hh => ⟨hh.2, hh.1⟩

lemma takeAll_held (notifications : List Notification) :
    Triple (Held q notifications) (notifications.forM (takeNotification .applied))
      (fun _ => Held q []) (fun stop h => ¬ Spares stop ∧ LoginFair h.changes h.login) := by
  induction notifications with
  | nil => exact Triple.pure _ fun _ h => h
  | cons n notifications ih => exact Triple.bind (takeNotification_held .applied n) fun _ => ih

/-- After an error the session has lost no notification if the error spares it. -/
def Spared (stop : Stop) : Hold → Prop := Held (Spares stop) []

lemma LoginFair.spared {stop : Stop} {h : Hold} (hstop : ¬ Spares stop)
    (hfair : LoginFair h.changes h.login) : Spared stop h :=
  ⟨fun hs => absurd hs hstop, hfair⟩

lemma request_held (method : String) (params : Json) :
    Triple (Held q []) (onSession (Session.request method params)) (fun _ => Held q [])
      (fun stop => Held (q ∧ Spares stop) []) :=
  onSession_held (requestInner_tracks method params false)

/-- A notification is read and taken. -/
lemma nextTaken_held (use : Use) {cancellable : Bool} {β : Type} {f : Notification → Caller β}
    {Q : β → Hold → Prop} {E : Stop → Hold → Prop}
    (hf : ∀ n, Triple (Held q []) (f n) Q E)
    (hE : ∀ stop h, Held (q ∧ Spares stop) [] h → E stop h) :
    Triple (Held q [])
      (do
        let n ← onSession (Session.nextNotification cancellable)
        takeNotification use n
        f n) Q E := by
  refine Triple.bind ((onSession_held (nextNotification_tracks cancellable)).weaken_error hE)
    fun n => ?_
  refine Triple.bind ((takeNotification_held use n).weaken_error ?_) fun _ => hf n
  exact fun stop h hh => hE stop h ⟨fun hs => absurd hs.2 hh.1, hh.2⟩

end Callers

section Chats

variable (config : RuntimeConfig) (request : ChatRequest) (prepared : PreparedChat)
variable (onEvent : OnEvent) (threadId turnId : String)

lemma Held.spared {stop : Stop} {h : Hold} (hh : Held (True ∧ Spares stop) [] h) :
    Spared stop h := hh.weaken fun hs => ⟨trivial, hs⟩

lemma Held.spares {stop : Stop} {h : Hold} (hh : Held True [] h) : Spared stop h :=
  hh.weaken fun _ => trivial

lemma ofExcept_held {α : Type} {x : Except CodexAppServerError α} :
    Triple (Held True []) (ofExcept x) (fun _ => Held True []) Spared :=
  (ofExcept_triple fun _ _ _ hh => hh.spares).consequence (fun _ h => h) (fun _ _ h => h.2)
    (fun _ _ h => h)

lemma isCancelled_held {α : Type} {f : Bool → Caller α} {Q : α → Hold → Prop}
    (hf : ∀ cancelled, Triple (Held True []) (f cancelled) Q Spared) :
    Triple (Held True []) (onSession Session.isCancelled >>= f) Q Spared :=
  Triple.bind ((onSession_held (isCancelled_spec (E := fun _ => Tracks True []))).weaken_error
    fun _ _ hh => Held.spares hh) hf

lemma chatLoop_held (fuel : ℕ) (progress : Progress) :
    Triple (Held True []) (chatLoop threadId turnId onEvent fuel progress)
      (fun _ => Held True []) Spared := by
  induction fuel generalizing progress with
  | zero => exact Triple.throw _ fun _ hh => hh.spares
  | succ fuel ih =>
    unfold chatLoop
    refine isCancelled_held fun cancelled => ?_
    cases cancelled with
    | true => exact fail_bind_triple fun _ hh => hh.spares
    | false =>
      refine nextTaken_held .applied (fun n => ?_) fun _ _ hh => hh.spared
      refine Triple.bind ofExcept_held fun next => ?_
      cases next with
      | inl progress' => exact ih progress'
      | inr outcome =>
        exact Triple.bind (Q := fun _ => Held True []) (fun _ hh => hh) fun _ => ofExcept_held

lemma confirmLoop_held {q : Prop} (fuel : ℕ) :
    Triple (Held q []) (confirmLoop threadId turnId fuel) (fun _ => Held q [])
      (fun _ h => LoginFair h.changes h.login) := by
  induction fuel with
  | zero => exact Triple.throw _ fun _ hh => hh.2
  | succ fuel ih =>
    unfold confirmLoop
    refine nextTaken_held .discarded (fun n => ?_) fun _ _ hh => hh.2
    by_cases hmethod : n.method = "turn/completed"
    · rw [if_neg (not_not.2 hmethod)]
      refine Triple.bind (ofExcept_triple fun _ _ _ hh => hh.2) fun confirmed => ?_
      cases confirmed with
      | true => exact Triple.pure _ fun _ hh => hh.2
      | false => exact ih.weaken_pre fun _ hh => hh.2
    · rw [if_pos hmethod]
      exact ih

lemma interruptTurnAndConfirm_held {q : Prop} :
    Triple (Held q []) (interruptTurnAndConfirm threadId turnId)
      (fun confirmed => Held (q ∧ confirmed = true) [])
      (fun _ h => LoginFair h.changes h.login) := by
  have hloop : Triple (Held q [])
      (do
        let _ ← onSession (Session.request "turn/interrupt" (turnInterruptParams threadId turnId))
        confirmLoop threadId turnId (← onSession Session.steps))
      (fun _ => Held q []) (fun _ h => LoginFair h.changes h.login) := by
    refine Triple.bind ((request_held _ _).weaken_error fun _ _ hh => hh.2) fun _ => ?_
    refine Triple.bind ((onSession_held (steps_spec (E := fun _ _ => True))).weaken_error
      fun _ _ hh => hh.2) fun fuel => confirmLoop_held threadId turnId fuel
  refine Triple.bind (attempt_triple hloop) fun result => ?_
  cases result with
  | ok _ => exact Triple.pure _ fun _ hh => hh.weaken And.left
  | error e => exact Triple.pure _ fun _ hh => ⟨fun hc => (by cases hc.2), hh⟩

lemma turnOutcome_held :
    Triple (Held True []) (turnOutcome config request prepared onEvent) (fun _ => Held True [])
      Spared := by
  have hrequest : ∀ method params, Triple (Held True [])
      (onSession (Session.request method params)) (fun _ => Held True []) Spared :=
    fun method params => (request_held method params).weaken_error fun _ _ hh => hh.spared
  unfold turnOutcome
  refine Triple.bind (hrequest _ _) fun threadResponse => ?_
  refine Triple.bind ofExcept_held fun _ => ?_
  refine Triple.bind ofExcept_held fun threadId => ?_
  have hturn : Triple (Held True [])
      (do
        let turnResponse ← onSession (Session.request "turn/start"
          (turnStartParams config threadId request.model prepared.prompt))
        let turnId ← ofExcept (nestedIdentifier turnResponse ["turn", "id"])
        modify fun h => { h with activeTurn := some (threadId, turnId) }
        if ← onSession Session.isCancelled then fail .interrupted
        chatLoop threadId turnId onEvent (← onSession Session.steps) ⟨[], 0, none, none⟩)
      (fun _ => Held True []) Spared := by
    refine Triple.bind (hrequest _ _) fun turnResponse => ?_
    refine Triple.bind ofExcept_held fun turnId => ?_
    refine Triple.bind (Q := fun _ => Held True []) (fun _ hh => hh) fun _ => ?_
    refine isCancelled_held fun cancelled => ?_
    cases cancelled with
    | true => exact fail_bind_triple fun _ hh => hh.spares
    | false =>
      exact Triple.bind ((onSession_held (steps_spec (E := fun _ => Tracks True []))).weaken_error
        fun _ _ hh => Held.spares hh) fun fuel => chatLoop_held onEvent threadId turnId fuel _
  by_cases hhistory : prepared.history = []
  · rw [if_neg (not_not.2 hhistory)]
    exact hturn
  · rw [if_pos hhistory]
    exact Triple.bind (hrequest _ _) fun _ => hturn

lemma confirmEnd_held {q : Prop} :
    Triple (Held q []) confirmEnd (fun confirmed => Held (q ∧ confirmed = true) [])
      (fun _ h => LoginFair h.changes h.login) := by
  refine Triple.bind (Q := fun _ => Held q []) (fun _ hh => hh) fun h₀ => ?_
  split
  · exact Triple.pure _ fun _ hh => hh.weaken And.left
  · split
    · exact interruptTurnAndConfirm_held _ _
    · exact Triple.pure _ fun _ hh => hh.weaken And.left

/-- A chat that puts its session back has lost no notification. -/
lemma chatOn_held :
    Triple (Held True []) (chatOn config request prepared onEvent)
      (fun result => Held (result.1 = true) []) (fun _ h => LoginFair h.changes h.login) := by
  unfold chatOn
  have houtcome := attempt_triple (turnOutcome_held config request prepared onEvent)
  refine Triple.bind (houtcome.weaken_error fun _ _ hh => hh.2) fun outcome => ?_
  cases outcome with
  | ok response => exact Triple.pure _ fun _ hh => hh.weaken fun _ => trivial
  | error e =>
    refine Triple.bind confirmEnd_held fun confirmed => ?_
    refine Triple.pure _ fun _ hh => hh.weaken fun hput => ?_
    simpa [Spares] using hput

/-- A request that puts its session back has lost no notification. -/
lemma rpcOn_held (call : RpcCall) :
    Triple (Held True []) (rpcOn call) (fun result => Held (result.1 = true) [])
      (fun _ h => LoginFair h.changes h.login) := by
  unfold rpcOn
  refine Triple.bind (Q := fun result => Held (reusable result = true) [])
    ((onSession_held (attempt_spec (requestInner_tracks _ _ false))).consequence (fun _ h => h) ?_
      fun _ _ hh => hh.2) fun result => ?_
  · intro result h hh
    cases result with
    | ok a => exact ⟨hh.1.weaken fun _ => trivial, hh.2⟩
    | error e =>
      refine ⟨hh.1.weaken fun hr => ⟨trivial, ?_⟩, hh.2⟩
      simpa [reusable, Spares] using hr
  refine Triple.bind (Q := fun notifications => Held (reusable result = true) notifications) ?_
    fun notifications => ?_
  · rintro h ⟨htracks, hfair⟩
    refine ⟨fun hr => ?_, hfair⟩
    obtain ⟨hlog, hhonored⟩ := htracks hr
    refine ⟨?_, hhonored⟩
    unfold Conserved at *
    simpa using hlog
  refine Triple.bind ((attempt_triple (takeAll_held notifications)).weaken_error
    fun _ _ hh => hh.2) fun applied => ?_
  cases applied with
  | error e => exact Triple.pure _ fun _ hh => ⟨fun hput => (by cases hput), hh.2⟩
  | ok _ => exact Triple.pure _ fun _ hh => hh

end Chats

/-! ## Runs -/

/-- The session in the slot has lost no notification, and the login state is fair. -/
lemma upholds_tracks (config : RuntimeConfig) :
    Upholds config (Tracks True []) (fun _ => True) LoginFair where
  gone_of_slot := fun _ _ => trivial
  connect := (connect_tracks config).weaken_pre fun s hs => by
    subst hs
    exact fun _ => ⟨rfl, fun _ h => by cases h⟩
  other := fun action _ _ h => h.other action
  rpc := fun call => (rpcOn_held call).consequence (fun _ hh => ⟨hh.1, hh.2.1⟩)
    (fun _ _ hh => ⟨fun hput => hh.1.weaken fun _ => hput, trivial, hh.2⟩)
    (fun _ _ hh => ⟨trivial, hh⟩)
  chat := fun request prepared onEvent =>
    (chatOn_held config request prepared onEvent).consequence (fun _ hh => ⟨hh.1, hh.2.1⟩)
      (fun _ _ hh => ⟨fun hput => hh.1.weaken fun _ => hput, trivial, hh.2⟩)
      (fun _ _ hh => ⟨trivial, hh⟩)

/-- In every run, the notifications that were read from the session in the slot were taken or are
still queued, and a completion of the pending login that was taken was applied and has cleared it,
unless it was taken while an interrupted turn was confirmed. The login state changes step by step,
and the failure of a login is recorded only for a failed completion of the pending login, unless
no login was pending and the completion had no id. -/
theorem completions_applied (config : RuntimeConfig) (commands : List (Command × Environment)) :
    (∀ s, (runAll config commands .start).slot = some s →
      arrivals s.log = s.taken.map Taken.notification ++ s.notifications ∧
      ∀ t ∈ s.taken, t.allowed → t.Honored) ∧
    Chained ⟨none, false⟩ (runAll config commands .start).changes
      (runAll config commands .start).login ∧
    ∀ c ∈ (runAll config commands .start).changes, c.allowed → c.Fair := by
  have hstart : LoginFair [] ⟨none, false⟩ := ⟨rfl, fun _ h => by cases h⟩
  have hfollowed := (upheld_start hstart).runAll (upholds_tracks config) commands
  refine ⟨?_, hfollowed.login.chained, hfollowed.login.fair⟩
  intro s hs
  obtain ⟨hlog, hhonored⟩ := hfollowed.slot s hs trivial
  refine ⟨?_, hhonored⟩
  unfold Conserved at hlog
  simpa using hlog

/-! ### Runs on fixed scripts -/

/-- A login is pending. -/
def pendingX : Command × Environment :=
  (.other (.stored ⟨"x", .browser⟩), exampleEnvironment [] [])

/-- The login is completed. -/
def completedX : Read :=
  notify "account/login/completed" (.object [("loginId", .string "x"), ("success", .bool true)])

/-- The completion arrives before a response. -/
def readsCompletion : List (Command × Environment) :=
  [pendingX, (.rpc .readAccount, exampleEnvironment [completedX, respond 2 .null] [])]

theorem completions_applied_account :
    ∃ s t, (runAll exampleConfig readsCompletion .start).slot = some s ∧ t ∈ s.taken ∧
      t.allowed ∧ t.completesPending ∧ t.use = .applied ∧ t.after.pendingLogin = none := by
  have hrun : ((runAll exampleConfig readsCompletion .start).slot.any
      fun s => s.taken.any fun t => t.allowed && t.completesPending) = true := by
    decide +kernel
  obtain ⟨s, hs, hany⟩ := (Option.any_eq_true _ _).1 hrun
  obtain ⟨t, ht, hboth⟩ := List.any_eq_true.1 hany
  obtain ⟨hallowed, hcompletes⟩ := Bool.and_eq_true_iff.1 hboth
  have hhonored := ((completions_applied exampleConfig readsCompletion).1 s hs).2 t ht hallowed
  exact ⟨s, t, hs, ht, hallowed, hcompletes, hhonored hcompletes⟩

/-- A chat is cancelled, and the completion arrives before the turn is interrupted. -/
def interruptsCompletion : List (Command × Environment) :=
  [pendingX, exampleChat "u" [respond 4 .null, completedX,
    notify "turn/completed" (.object [("threadId", .string "t"),
      ("turn", .object [("id", .string "u"), ("status", .string "interrupted")])])] [true]]

/-- The completion is taken without being applied: the session is put back, and the login stays
pending. -/
theorem completion_lost_interrupt :
    ∃ s t, (runAll exampleConfig interruptsCompletion .start).slot = some s ∧ t ∈ s.taken ∧
      t.completesPending ∧ ¬ t.Honored ∧
      (runAll exampleConfig interruptsCompletion .start).login.pendingId = some "x" := by
  have hrun : ((runAll exampleConfig interruptsCompletion .start).slot.any
      (fun s => s.taken.any fun t => t.completesPending && decide (t.use = .discarded)) &&
      decide ((runAll exampleConfig interruptsCompletion .start).login.pendingId = some "x")) =
        true := by
    decide +kernel
  obtain ⟨hslot, hpending⟩ := Bool.and_eq_true_iff.1 hrun
  obtain ⟨s, hs, hany⟩ := (Option.any_eq_true _ _).1 hslot
  obtain ⟨t, ht, hboth⟩ := List.any_eq_true.1 hany
  obtain ⟨hcompletes, hdiscarded⟩ := Bool.and_eq_true_iff.1 hboth
  refine ⟨s, t, hs, ht, hcompletes, ?_, of_decide_eq_true hpending⟩
  intro hhonored
  have happlied := (hhonored hcompletes).1
  rw [of_decide_eq_true hdiscarded] at happlied
  cases happlied

end WayfinderRouter.Codex
