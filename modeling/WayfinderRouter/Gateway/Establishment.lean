import WayfinderRouter.Gateway.Attempts

/-!
# Establishing a stream

`streamPlan` is the loop of a streaming request, `deliverPlan` that of a buffered one. Both go
through the aliases of the plan, the deployments of each alias and the retries of each
deployment. The buffered loop returns at the first decisive outcome. The streaming loop leaves
only the retries when a send succeeds, so it goes on with the other deployments of the alias.

## Main definitions

- `streamPlan`, `deliverPlan` — the two loops
- `StopsAtFirstSuccess` — no send follows a success, and the success is served
- `SameDelivery` — the two loops contact the same targets and serve the same one
- `LoneSuccess` — no deployment after the first success can be tried
-/

namespace WayfinderRouter.Gateway

variable (env : Environment)

/-! ## The streaming loop -/

/-- An established stream. -/
structure Established where
  servedBy : String
  target : ConfiguredModel
  selectionReason : String
  attempt : CircuitAttempt

/-- The variables of the streaming loop. -/
structure StreamAcc where
  lastError : String
  lastFailure : FailureStatus
  established : Option Established

inductive StreamResponse where
  | streamed (established : Established)
  | relayed (servedBy : String) (target : ConfiguredModel) (status : ℕ)
  | failed (failure : FailureStatus) (message : String)

/-- How the attempts at a target end. -/
inductive StreamEnd where
  | established
  | relayed (status : ℕ)
  | failed
  | exhausted

/-- One `send_stream`. Without an end the attempt may be repeated. -/
def streamSend (target : ConfiguredModel) (attempt : CircuitAttempt) (acc : StreamAcc)
    (s : GatewayState) : Option StreamEnd × StreamAcc × GatewayState :=
  let outcome := env.upstream s.log target
  let s := s.push (.sent target outcome)
  match outcome with
  | .ok status =>
    if isSuccess status then (some .established, acc, s)
    else if isRetryable status then
      (none, { acc with lastError := "upstream returned " ++ toString status }, s)
    else
      (some (.relayed status), acc, s.complete env target.deliveryId (!isAuthFailure status))
  | .error e =>
    let acc := { acc with lastError := e.text, lastFailure := fatalDeliveryStatus e }
    if e = .provider .transport then (none, acc, s)
    else
      (some .failed, acc,
        if streamFailureAffectsReliability e then s.complete env target.deliveryId false
        else s.release env target.deliveryId attempt)

def streamAttempts (target : ConfiguredModel) (attempt : CircuitAttempt) :
    ℕ → StreamAcc → GatewayState → StreamEnd × StreamAcc × GatewayState
  | retries, acc, s =>
    match streamSend env target attempt acc s with
    | (some ended, acc, s) => (ended, acc, s)
    | (none, acc, s) =>
      match retries with
      | 0 => (.exhausted, acc, s.complete env target.deliveryId false)
      | retries + 1 => streamAttempts target attempt retries acc s

/-- Drop a stream together with its lease. -/
def dropEstablished (established : Option Established) (s : GatewayState) : GatewayState :=
  match established with
  | none => s
  | some e => s.abandon env e.target.deliveryId e.attempt

/-- The deployments of an alias. -/
def streamTargets (name reason : String) : List ConfiguredModel → StreamAcc → GatewayState →
    Option StreamResponse × StreamAcc × GatewayState
  | [], acc, s => (none, acc, s)
  | target :: targets, acc, s =>
    if target.deploymentId.isSome ∧ target.keyReady = false then
      streamTargets name reason targets { acc with
        lastError := "deployment '" ++ target.deliveryId ++ "' credential is unavailable" } s
    else
      match s.beginReliabilityAttempt env target.deliveryId with
      | (none, s) => streamTargets name reason targets acc s
      | (some attempt, s) =>
        match streamAttempts env target attempt env.retries acc s with
        | (.exhausted, acc, s) => streamTargets name reason targets acc s
        | (.established, acc, s) =>
          -- The new stream takes the place of an earlier one.
          streamTargets name reason targets
            { acc with established := some ⟨name, target, reason, attempt⟩ }
            (dropEstablished env acc.established s)
        | (.relayed status, acc, s) =>
          (some (.relayed name target status), acc, dropEstablished env acc.established s)
        | (.failed, acc, s) =>
          (some (.failed acc.lastFailure acc.lastError), acc,
            dropEstablished env acc.established s)

/-- What the loop returns after the plan. -/
def StreamAcc.response (acc : StreamAcc) : StreamResponse :=
  match acc.established with
  | some e => .streamed e
  | none => .failed acc.lastFailure acc.lastError

/-- The establishment loop of `streaming_chat_response`. -/
def streamPlan : List String → StreamAcc → GatewayState → StreamResponse × GatewayState
  | [], acc, s => (acc.response, s)
  | name :: plan, acc, s =>
    let configured := s.deploymentCandidates env name
    let eligible := eligibleDeploymentTargets env.parsers configured.1 env.request env.offline
      env.promptEstimate
    let selection := selectDeployments env name eligible configured.2
    if configured.1 = [] then
      streamPlan plan { acc with
        lastError := "configured delivery target '" ++ name ++ "' is missing" } configured.2
    else if eligible = [] then
      streamPlan plan { acc with
        lastError := "configured delivery target '" ++ name ++
          "' has no eligible deployment for this request" } configured.2
    else if selection.targets = [] then
      streamPlan plan { acc with
        lastError := "configured delivery target '" ++ name ++
          "' is excluded by its deployment price ceiling" } configured.2
    else
      match streamTargets env name selection.reason selection.targets acc configured.2 with
      | (some response, _, s) => (response, s)
      | (none, acc, s) =>
        if acc.established.isSome then (acc.response, s) else streamPlan plan acc s

/-- The variables at the start of the streaming loop. -/
def StreamAcc.init : StreamAcc :=
  ⟨"upstream stream could not be established", ⟨502, "wayfinder_router_upstream_error"⟩, none⟩

/-! ## The buffered loop -/

inductive BufferedResponse where
  | served (servedBy : String) (target : ConfiguredModel) (selectionReason : String) (status : ℕ)
  | exhausted (message : String)
  | fatal (error : DeliveryError)
  | misconfigured (message : String)

inductive BufferedEnd where
  | served (status : ℕ)
  | fatal (error : DeliveryError)
  | exhausted

/-- One `send`. Without an end the attempt may be repeated. -/
def bufferedSend (target : ConfiguredModel) (attempt : CircuitAttempt) (lastError : String)
    (s : GatewayState) : Option BufferedEnd × String × GatewayState :=
  let outcome := env.upstream s.log target
  let s := s.push (.sent target outcome)
  match outcome with
  | .ok status =>
    if isRetryable status then (none, "upstream returned " ++ toString status, s)
    else
      (some (.served status), lastError,
        s.complete env target.deliveryId (!isAuthFailure status))
  | .error e =>
    if e = .provider .transport then (none, e.text, s)
    else (some (.fatal e), lastError, s.release env target.deliveryId attempt)

def bufferedAttempts (target : ConfiguredModel) (attempt : CircuitAttempt) :
    ℕ → String → GatewayState → BufferedEnd × String × GatewayState
  | retries, lastError, s =>
    match bufferedSend env target attempt lastError s with
    | (some ended, lastError, s) => (ended, lastError, s)
    | (none, lastError, s) =>
      match retries with
      | 0 => (.exhausted, lastError, s.complete env target.deliveryId false)
      | retries + 1 => bufferedAttempts target attempt retries lastError s

/-- The deployments of an alias. -/
def bufferedTargets (name reason : String) : List ConfiguredModel → String → GatewayState →
    Option BufferedResponse × String × GatewayState
  | [], lastError, s => (none, lastError, s)
  | target :: targets, lastError, s =>
    if target.deploymentId.isSome ∧ target.keyReady = false then
      bufferedTargets name reason targets
        ("deployment '" ++ target.deliveryId ++ "' credential is unavailable") s
    else
      match s.beginReliabilityAttempt env target.deliveryId with
      | (none, s) => bufferedTargets name reason targets lastError s
      | (some attempt, s) =>
        match bufferedAttempts env target attempt env.retries lastError s with
        | (.exhausted, lastError, s) => bufferedTargets name reason targets lastError s
        | (.served status, lastError, s) =>
          (some (.served name target reason status), lastError, s)
        | (.fatal e, lastError, s) => (some (.fatal e), lastError, s)

/-- `deliver_with_reliability`. -/
def deliverPlan : List String → String → GatewayState → BufferedResponse × GatewayState
  | [], lastError, s => (.exhausted lastError, s)
  | name :: plan, lastError, s =>
    let configured := s.deploymentCandidates env name
    let eligible := eligibleDeploymentTargets env.parsers configured.1 env.request env.offline
      env.promptEstimate
    let selection := selectDeployments env name eligible configured.2
    if configured.1 = [] then
      (.misconfigured ("no gateway endpoint configured for model '" ++ name ++ "'"),
        configured.2)
    else if eligible = [] then
      deliverPlan plan ("configured delivery target '" ++ name ++
        "' has no eligible deployment for this request") configured.2
    else if selection.targets = [] then
      deliverPlan plan ("configured delivery target '" ++ name ++
        "' is excluded by its deployment price ceiling") configured.2
    else
      match bufferedTargets env name selection.reason selection.targets lastError configured.2 with
      | (some response, _, s) => (response, s)
      | (none, lastError, s) => deliverPlan plan lastError s

/-! ## The streaming loop and the search -/

/-- What the streaming loop makes of the attempts at a target. -/
def streamFinish (target : ConfiguredModel) (attempt : CircuitAttempt) :
    Option Outcome × GatewayState → StreamEnd × GatewayState
  | (none, s) => (.exhausted, s.complete env target.deliveryId false)
  | (some (.ok status), s) =>
    if isSuccess status then (.established, s)
    else (.relayed status, s.complete env target.deliveryId (!isAuthFailure status))
  | (some (.error e), s) =>
    (.failed, if streamFailureAffectsReliability e then s.complete env target.deliveryId false
      else s.release env target.deliveryId attempt)

variable {env} {target : ConfiguredModel} {attempt : CircuitAttempt} {s s' : GatewayState}
  {name reason : String} {targets : List ConfiguredModel}

theorem streamSend_retryable (acc : StreamAcc) (attempt : CircuitAttempt)
    (h : (env.upstream s.log target).Retryable) :
    ∃ acc', acc'.established = acc.established ∧
      streamSend env target attempt acc s =
        (none, acc', s.push (.sent target (env.upstream s.log target))) := by
  unfold streamSend
  cases ho : env.upstream s.log target with
  | ok status =>
    rw [ho] at h
    have hstatus : isRetryable status = true := h
    have hsuccess : ¬ isSuccess status = true := fun hs =>
      Outcome.Success.not_retryable (o := .ok status) hs h
    refine ⟨{ acc with lastError := "upstream returned " ++ toString status }, rfl, ?_⟩
    simp [hstatus, hsuccess]
  | error e =>
    rw [ho] at h
    have htransport : e = .provider .transport := h
    refine ⟨{ acc with lastError := e.text, lastFailure := fatalDeliveryStatus e }, rfl, ?_⟩
    simp [htransport]

theorem streamSend_decisive (acc : StreamAcc) (attempt : CircuitAttempt)
    (h : ¬ (env.upstream s.log target).Retryable) :
    ∃ acc' ended, acc'.established = acc.established ∧
      streamFinish env target attempt (some (env.upstream s.log target),
        s.push (.sent target (env.upstream s.log target))) = ended ∧
      streamSend env target attempt acc s = (some ended.1, acc', ended.2) := by
  unfold streamSend
  cases ho : env.upstream s.log target with
  | ok status =>
    rw [ho] at h
    have hstatus : ¬ isRetryable status = true := h
    refine ⟨acc, _, rfl, rfl, ?_⟩
    by_cases hsuccess : isSuccess status = true
    · simp [streamFinish, hsuccess]
    · simp [streamFinish, hsuccess, hstatus]
  | error e =>
    rw [ho] at h
    have htransport : ¬ e = .provider .transport := h
    refine ⟨{ acc with lastError := e.text, lastFailure := fatalDeliveryStatus e }, _, rfl, rfl,
      ?_⟩
    simp [streamFinish, htransport]

/-- The attempts at a target follow the decisive outcome. -/
theorem streamAttempts_eq (env : Environment) (target : ConfiguredModel) (acc : StreamAcc)
    (attempt : CircuitAttempt) (retries : ℕ) (s : GatewayState) :
    ∃ acc' ended, acc'.established = acc.established ∧
      streamFinish env target attempt (decisive env target retries s) = ended ∧
      streamAttempts env target attempt retries acc s = (ended.1, acc', ended.2) := by
  induction retries generalizing acc s with
  | zero =>
    rw [streamAttempts, decisive]
    by_cases hretry : (env.upstream s.log target).Retryable
    · obtain ⟨acc', hacc, hsend⟩ := streamSend_retryable acc attempt hretry
      rw [hsend, if_pos hretry]
      exact ⟨acc', _, hacc, rfl, rfl⟩
    · obtain ⟨acc', ended, hacc, hended, hsend⟩ := streamSend_decisive acc attempt hretry
      rw [hsend, if_neg hretry]
      exact ⟨acc', ended, hacc, hended, rfl⟩
  | succ retries ih =>
    rw [streamAttempts, decisive]
    by_cases hretry : (env.upstream s.log target).Retryable
    · obtain ⟨acc', hacc, hsend⟩ := streamSend_retryable acc attempt hretry
      obtain ⟨acc'', ended, hacc', hended, hrest⟩ :=
        ih acc' (s.push (.sent target (env.upstream s.log target)))
      rw [hsend, if_pos hretry]
      exact ⟨acc'', ended, hacc'.trans hacc, hended, hrest⟩
    · obtain ⟨acc', ended, hacc, hended, hsend⟩ := streamSend_decisive acc attempt hretry
      rw [hsend, if_neg hretry]
      exact ⟨acc', ended, hacc, hended, rfl⟩

/-- A target that is not tried changes at most the last error. -/
theorem streamTargets_skip (acc : StreamAcc) (h : admitTarget env target s = (none, s')) :
    ∃ acc', acc'.established = acc.established ∧
      streamTargets env name reason (target :: targets) acc s =
        streamTargets env name reason targets acc' s' := by
  unfold admitTarget at h
  rw [streamTargets]
  split at h
  · rename_i hkey
    cases h
    rw [if_pos hkey]
    exact ⟨{ acc with
      lastError := "deployment '" ++ target.deliveryId ++ "' credential is unavailable" },
      rfl, rfl⟩
  · rename_i hkey
    rw [if_neg hkey, h]
    exact ⟨acc, rfl, rfl⟩

/-- A target that is tried. -/
theorem streamTargets_try (acc : StreamAcc) (h : admitTarget env target s = (some attempt, s')) :
    ∃ acc' ended, acc'.established = acc.established ∧
      streamFinish env target attempt (decisive env target env.retries s') = ended ∧
      streamTargets env name reason (target :: targets) acc s =
        match ended with
        | (.exhausted, s) => streamTargets env name reason targets acc' s
        | (.established, s) =>
          streamTargets env name reason targets
            { acc' with established := some ⟨name, target, reason, attempt⟩ }
            (dropEstablished env acc'.established s)
        | (.relayed status, s) =>
          (some (.relayed name target status), acc', dropEstablished env acc'.established s)
        | (.failed, s) =>
          (some (.failed acc'.lastFailure acc'.lastError), acc',
            dropEstablished env acc'.established s) := by
  unfold admitTarget at h
  rw [streamTargets]
  split at h
  · cases h
  · rename_i hkey
    obtain ⟨acc', ended, hacc, hended, hattempts⟩ :=
      streamAttempts_eq env target acc attempt env.retries s'
    refine ⟨acc', ended, hacc, hended, ?_⟩
    rw [if_neg hkey, h]
    dsimp only
    rw [hattempts]
    rcases ended with ⟨_ | _ | _ | _, s''⟩
    · rfl
    · rfl
    · rfl
    · rfl

theorem streamTargets_none (name reason : String) (acc : StreamAcc)
    (h : search env targets s = (none, s')) :
    ∃ acc', acc'.established = acc.established ∧
      streamTargets env name reason targets acc s = (none, acc', s') := by
  induction targets generalizing acc s with
  | nil =>
    cases h
    exact ⟨acc, rfl, rfl⟩
  | cons target targets ih =>
    rw [search] at h
    rcases ha : admitTarget env target s with ⟨_ | attempt, s₁⟩
    · rw [ha] at h
      obtain ⟨acc₁, hacc₁, hskip⟩ := streamTargets_skip acc ha
      obtain ⟨acc₂, hacc₂, hrest⟩ := ih acc₁ h
      exact ⟨acc₂, hacc₂.trans hacc₁, hskip.trans hrest⟩
    · rw [ha] at h
      dsimp only at h
      obtain ⟨acc₁, ended, hacc₁, hended, htry⟩ := streamTargets_try acc ha
      rcases hd : decisive env target env.retries s₁ with ⟨_ | outcome, s₂⟩
      · rw [hd] at h hended
        subst hended
        obtain ⟨acc₂, hacc₂, hrest⟩ := ih acc₁ h
        exact ⟨acc₂, hacc₂.trans hacc₁, htry.trans hrest⟩
      · rw [hd] at h
        cases h

/-- What the streaming loop does from a decisive outcome on. -/
def streamResult (env : Environment) (name reason : String) (found : Found) (acc : StreamAcc)
    (s : GatewayState) : Option StreamResponse × StreamAcc × GatewayState :=
  match streamFinish env found.target found.attempt (some found.outcome, s) with
  | (.established, s) =>
    streamTargets env name reason found.rest
      { acc with established := some ⟨name, found.target, reason, found.attempt⟩ } s
  | (.relayed status, s) => (some (.relayed name found.target status), acc, s)
  | (_, s) => (some (.failed acc.lastFailure acc.lastError), acc, s)

theorem streamTargets_found (name reason : String) (acc : StreamAcc)
    (hacc : acc.established = none) {found : Found} (h : search env targets s = (some found, s')) :
    ∃ acc', streamTargets env name reason targets acc s =
      streamResult env name reason found acc' s' := by
  induction targets generalizing acc s with
  | nil => cases h
  | cons target targets ih =>
    rw [search] at h
    rcases ha : admitTarget env target s with ⟨_ | attempt, s₁⟩
    · rw [ha] at h
      obtain ⟨acc₁, hacc₁, hskip⟩ := streamTargets_skip acc ha
      obtain ⟨acc₂, hrest⟩ := ih acc₁ (hacc₁.trans hacc) h
      exact ⟨acc₂, hskip.trans hrest⟩
    · rw [ha] at h
      dsimp only at h
      obtain ⟨acc₁, ended, hacc₁, hended, htry⟩ := streamTargets_try acc ha
      rcases hd : decisive env target env.retries s₁ with ⟨_ | outcome, s₂⟩
      · rw [hd] at h hended
        subst hended
        obtain ⟨acc₂, hrest⟩ := ih acc₁ (hacc₁.trans hacc) h
        exact ⟨acc₂, htry.trans hrest⟩
      · rw [hd] at h hended
        cases h
        refine ⟨acc₁, htry.trans ?_⟩
        have hnone := hacc₁.trans hacc
        unfold streamResult
        rw [hended, hnone]
        rcases ended with ⟨_ | _ | _ | _, s₃⟩
        · rfl
        · rfl
        · rfl
        · -- a decisive outcome does not exhaust the attempts
          exfalso
          cases outcome with
          | ok status =>
            simp only [streamFinish] at hended
            split at hended <;> cases hended
          | error e => cases hended

/-! ## After a success -/

theorem streamTargets_unusable (name reason : String) (acc : StreamAcc)
    (h : Unusable env targets s) :
    ∃ acc' s', acc'.established = acc.established ∧ Grows s s' [] ∧
      streamTargets env name reason targets acc s = (none, acc', s') := by
  induction targets generalizing acc s with
  | nil => exact ⟨acc, s, rfl, Grows.refl s, rfl⟩
  | cons target targets ih =>
    obtain ⟨hskipped, hrest⟩ := h
    have hadmit : admitTarget env target s = (none, (admitTarget env target s).2) :=
      Prod.ext hskipped rfl
    obtain ⟨acc₁, hacc₁, hskip⟩ := streamTargets_skip acc hadmit
    obtain ⟨acc₂, s₂, hacc₂, hgrows, heq⟩ := ih acc₁ hrest
    exact ⟨acc₂, s₂, hacc₂.trans hacc₁, (grows_admitTarget env target s).trans hgrows,
      hskip.trans heq⟩

theorem contacts_dropEstablished (env : Environment) (established : Option Established)
    (s : GatewayState) : contacts (dropEstablished env established s).log = contacts s.log := by
  cases established with
  | none => rfl
  | some e => rfl

theorem grows_streamFinish (env : Environment) (target : ConfiguredModel)
    (attempt : CircuitAttempt) (ended : Option Outcome × GatewayState) :
    Grows ended.2 (streamFinish env target attempt ended).2 [] := by
  rcases ended with ⟨_ | e | status, s⟩
  · exact grows_complete env _ _ s
  · simp only [streamFinish]
    split
    · exact grows_complete env _ _ s
    · exact grows_release env _ _ s
  · simp only [streamFinish]
    split
    · exact Grows.refl s
    · exact grows_complete env _ _ s

/-- The loop loses no contact, and it makes one when a target is tried. -/
theorem contacts_streamTargets (env : Environment) (name reason : String)
    (targets : List ConfiguredModel) (acc : StreamAcc) (s : GatewayState) :
    ∃ more, contacts (streamTargets env name reason targets acc s).2.2.log =
      more ++ contacts s.log ∧ (¬ Unusable env targets s → more ≠ []) := by
  induction targets generalizing acc s with
  | nil => exact ⟨[], rfl, fun h => absurd trivial h⟩
  | cons target targets ih =>
    have hadmit := grows_admitTarget env target s
    rcases ha : admitTarget env target s with ⟨_ | attempt, s₁⟩
    · rw [ha] at hadmit
      obtain ⟨acc₁, -, hskip⟩ := streamTargets_skip acc ha
      obtain ⟨more, hmore, hne⟩ := ih acc₁ s₁
      refine ⟨more, ?_, ?_⟩
      · rw [hskip, hmore, hadmit.contacts, List.nil_append]
      · intro hunusable
        apply hne
        intro hrest
        exact hunusable (by rw [Unusable, ha]; exact ⟨rfl, hrest⟩)
    · rw [ha] at hadmit
      obtain ⟨acc₁, ended, -, hended, htry⟩ := streamTargets_try acc ha
      have hsent : ∃ more c, contacts ended.2.log = more ++ c :: contacts s.log := by
        obtain ⟨more, c, hdecisive⟩ := contacts_decisive env target env.retries s₁
        refine ⟨more, c, ?_⟩
        rw [← hended, (grows_streamFinish env target attempt _).contacts, List.nil_append,
          hdecisive, hadmit.contacts, List.nil_append]
      obtain ⟨more, c, hsent⟩ := hsent
      rw [htry]
      rcases ended with ⟨_ | status | _ | _, s₂⟩
      · obtain ⟨more', hmore', -⟩ := ih
          { acc₁ with established := some ⟨name, target, reason, attempt⟩ }
          (dropEstablished env acc₁.established s₂)
        refine ⟨more' ++ more ++ [c], ?_, by simp⟩
        rw [hmore', contacts_dropEstablished, hsent]
        simp
      · refine ⟨more ++ [c], ?_, by simp⟩
        dsimp only
        rw [contacts_dropEstablished, hsent]
        simp
      · refine ⟨more ++ [c], ?_, by simp⟩
        dsimp only
        rw [contacts_dropEstablished, hsent]
        simp
      · obtain ⟨more', hmore', -⟩ := ih acc₁ s₂
        refine ⟨more' ++ more ++ [c], ?_, by simp⟩
        rw [hmore', hsent]
        simp

/-! ## The plan -/

/-- What the streaming loop does after the deployments of an alias. -/
def streamRest (env : Environment) (plan : List String) :
    Option StreamResponse × StreamAcc × GatewayState → StreamResponse × GatewayState
  | (some response, _, s) => (response, s)
  | (none, acc, s) =>
    if acc.established.isSome then (acc.response, s) else streamPlan env plan acc s

theorem select_nil (signals : Signals) (policy : DeploymentSelectionPolicy) :
    (select signals policy []).targets = [] := by
  unfold select applyPriceCeiling
  split
  · rfl
  · rfl

theorem targetsOf_of_not_configured (h : (s.deploymentCandidates env name).1 = []) :
    (targetsOf env name s).1.targets = [] := by
  unfold targetsOf selectDeployments
  dsimp only
  rw [h]
  exact select_nil _ _

theorem targetsOf_of_not_eligible
    (h : eligibleDeploymentTargets env.parsers (s.deploymentCandidates env name).1 env.request
      env.offline env.promptEstimate = []) : (targetsOf env name s).1.targets = [] := by
  unfold targetsOf selectDeployments
  dsimp only
  rw [h]
  exact select_nil _ _

theorem streamPlan_cons (acc : StreamAcc) (hacc : acc.established = none) (plan : List String)
    (env : Environment) (name : String) (s : GatewayState) :
    ∃ acc', acc'.established = none ∧ streamPlan env (name :: plan) acc s =
      streamRest env plan (streamTargets env name (targetsOf env name s).1.reason
        (targetsOf env name s).1.targets acc' (targetsOf env name s).2) := by
  -- an alias without targets changes only the last error
  have hempty : ∀ message, (targetsOf env name s).1.targets = [] → ∃ acc',
      acc'.established = none ∧
      streamPlan env plan { acc with lastError := message } (targetsOf env name s).2 =
        streamRest env plan (streamTargets env name (targetsOf env name s).1.reason
          (targetsOf env name s).1.targets acc' (targetsOf env name s).2) := by
    intro message htargets
    refine ⟨{ acc with lastError := message }, hacc, ?_⟩
    rw [htargets, streamTargets, streamRest, hacc]
    rfl
  rw [streamPlan]
  split
  · rename_i h
    exact hempty _ (targetsOf_of_not_configured h)
  · split
    · rename_i h
      exact hempty _ (targetsOf_of_not_eligible h)
    · split
      · rename_i h
        exact hempty _ h
      · refine ⟨acc, hacc, ?_⟩
        show _ = streamRest env plan (streamTargets env name (targetsOf env name s).1.reason
          (targetsOf env name s).1.targets acc (targetsOf env name s).2)
        unfold streamRest targetsOf
        rfl

theorem streamPlan_none {plan : List String} (acc : StreamAcc) (hacc : acc.established = none)
    (h : searchPlan env plan s = (none, s')) :
    ∃ failure message, streamPlan env plan acc s = (.failed failure message, s') := by
  induction plan generalizing acc s with
  | nil =>
    cases h
    exact ⟨acc.lastFailure, acc.lastError, by rw [streamPlan, StreamAcc.response, hacc]⟩
  | cons name plan ih =>
    obtain ⟨acc₁, hacc₁, hcons⟩ := streamPlan_cons acc hacc plan env name s
    rw [searchPlan] at h
    rcases hsearch : search env (targetsOf env name s).1.targets (targetsOf env name s).2 with
      ⟨_ | found, s₁⟩
    · rw [hsearch] at h
      obtain ⟨acc₂, hacc₂, htargets⟩ := streamTargets_none name
        (targetsOf env name s).1.reason acc₁ hsearch
      have hnone := hacc₂.trans hacc₁
      rw [hcons, htargets, streamRest, hnone]
      exact ih acc₂ hnone h
    · rw [hsearch] at h
      cases h

theorem streamPlan_found {plan : List String} (acc : StreamAcc) (hacc : acc.established = none)
    {found : Found} (h : searchPlan env plan s = (some (name, reason, found), s')) :
    ∃ acc' rest, streamPlan env plan acc s =
      streamRest env rest (streamResult env name reason found acc' s') := by
  induction plan generalizing acc s with
  | nil => cases h
  | cons first plan ih =>
    obtain ⟨acc₁, hacc₁, hcons⟩ := streamPlan_cons acc hacc plan env first s
    rw [searchPlan] at h
    rcases hsearch : search env (targetsOf env first s).1.targets (targetsOf env first s).2 with
      ⟨_ | found₁, s₁⟩
    · rw [hsearch] at h
      obtain ⟨acc₂, hacc₂, htargets⟩ := streamTargets_none first
        (targetsOf env first s).1.reason acc₁ hsearch
      have hnone := hacc₂.trans hacc₁
      rw [hcons, htargets, streamRest, hnone]
      exact ih acc₂ hnone h
    · rw [hsearch] at h
      obtain ⟨acc₂, htargets⟩ := streamTargets_found first
        (targetsOf env first s).1.reason acc₁ hacc₁ hsearch
      cases h
      exact ⟨acc₂, plan, by rw [hcons, htargets]⟩

theorem contacts_streamPlan (env : Environment) (plan : List String) (acc : StreamAcc)
    (hacc : acc.established = none) (s : GatewayState) :
    ∃ more, contacts (streamPlan env plan acc s).2.log = more ++ contacts s.log := by
  induction plan generalizing acc s with
  | nil => exact ⟨[], rfl⟩
  | cons name plan ih =>
    obtain ⟨acc₁, hacc₁, hcons⟩ := streamPlan_cons acc hacc plan env name s
    obtain ⟨more, hmore, -⟩ := contacts_streamTargets env name (targetsOf env name s).1.reason
      (targetsOf env name s).1.targets acc₁ (targetsOf env name s).2
    have hcandidates := (grows_candidates env name s).contacts
    have hstart : (targetsOf env name s).2 = (s.deploymentCandidates env name).2 := rfl
    rw [hstart, hcandidates, List.nil_append] at hmore
    rw [hcons, hstart]
    rcases hresult : streamTargets env name (targetsOf env name s).1.reason
      (targetsOf env name s).1.targets acc₁ (s.deploymentCandidates env name).2 with
      ⟨_ | response, acc₂, s₂⟩
    · rw [hresult] at hmore
      rw [streamRest]
      split
      · exact ⟨more, hmore⟩
      · rename_i hnone
        obtain ⟨more', hmore'⟩ := ih acc₂ (Option.not_isSome_iff_eq_none.mp hnone) s₂
        refine ⟨more' ++ more, ?_⟩
        rw [hmore', hmore, List.append_assoc]
    · rw [hresult] at hmore
      exact ⟨more, hmore⟩

theorem contacts_streamRest (env : Environment) (plan : List String)
    (result : Option StreamResponse × StreamAcc × GatewayState) :
    ∃ more, contacts (streamRest env plan result).2.log = more ++ contacts result.2.2.log := by
  rcases result with ⟨_ | response, acc, s⟩
  · rw [streamRest]
    split
    · exact ⟨[], rfl⟩
    · rename_i hnone
      exact contacts_streamPlan env plan acc (Option.not_isSome_iff_eq_none.mp hnone) s
  · exact ⟨[], rfl⟩

/-! ## The buffered loop and the search -/

/-- What the buffered loop makes of the attempts at a target. -/
def bufferedFinish (env : Environment) (target : ConfiguredModel) (attempt : CircuitAttempt) :
    Option Outcome × GatewayState → BufferedEnd × GatewayState
  | (none, s) => (.exhausted, s.complete env target.deliveryId false)
  | (some (.ok status), s) =>
    (.served status, s.complete env target.deliveryId (!isAuthFailure status))
  | (some (.error e), s) => (.fatal e, s.release env target.deliveryId attempt)

theorem bufferedSend_retryable (lastError : String) (attempt : CircuitAttempt)
    (h : (env.upstream s.log target).Retryable) :
    ∃ lastError', bufferedSend env target attempt lastError s =
      (none, lastError', s.push (.sent target (env.upstream s.log target))) := by
  unfold bufferedSend
  cases ho : env.upstream s.log target with
  | ok status =>
    rw [ho] at h
    have hstatus : isRetryable status = true := h
    exact ⟨"upstream returned " ++ toString status, by simp [hstatus]⟩
  | error e =>
    rw [ho] at h
    have htransport : e = .provider .transport := h
    exact ⟨e.text, by simp [htransport]⟩

theorem bufferedSend_decisive (lastError : String) (attempt : CircuitAttempt)
    (h : ¬ (env.upstream s.log target).Retryable) :
    ∃ ended, bufferedFinish env target attempt (some (env.upstream s.log target),
        s.push (.sent target (env.upstream s.log target))) = ended ∧
      bufferedSend env target attempt lastError s = (some ended.1, lastError, ended.2) := by
  unfold bufferedSend
  cases ho : env.upstream s.log target with
  | ok status =>
    rw [ho] at h
    have hstatus : ¬ isRetryable status = true := h
    exact ⟨_, rfl, by simp [bufferedFinish, hstatus]⟩
  | error e =>
    rw [ho] at h
    have htransport : ¬ e = .provider .transport := h
    exact ⟨_, rfl, by simp [bufferedFinish, htransport]⟩

theorem bufferedAttempts_eq (env : Environment) (target : ConfiguredModel) (lastError : String)
    (attempt : CircuitAttempt) (retries : ℕ) (s : GatewayState) :
    ∃ lastError' ended, bufferedFinish env target attempt (decisive env target retries s) = ended ∧
      bufferedAttempts env target attempt retries lastError s =
        (ended.1, lastError', ended.2) := by
  induction retries generalizing lastError s with
  | zero =>
    rw [bufferedAttempts, decisive]
    by_cases hretry : (env.upstream s.log target).Retryable
    · obtain ⟨lastError', hsend⟩ := bufferedSend_retryable lastError attempt hretry
      rw [hsend, if_pos hretry]
      exact ⟨lastError', _, rfl, rfl⟩
    · obtain ⟨ended, hended, hsend⟩ := bufferedSend_decisive lastError attempt hretry
      rw [hsend, if_neg hretry]
      exact ⟨lastError, ended, hended, rfl⟩
  | succ retries ih =>
    rw [bufferedAttempts, decisive]
    by_cases hretry : (env.upstream s.log target).Retryable
    · obtain ⟨lastError', hsend⟩ := bufferedSend_retryable lastError attempt hretry
      obtain ⟨lastError'', ended, hended, hrest⟩ :=
        ih lastError' (s.push (.sent target (env.upstream s.log target)))
      rw [hsend, if_pos hretry]
      exact ⟨lastError'', ended, hended, hrest⟩
    · obtain ⟨ended, hended, hsend⟩ := bufferedSend_decisive lastError attempt hretry
      rw [hsend, if_neg hretry]
      exact ⟨lastError, ended, hended, rfl⟩

/-- What the buffered loop returns for a decisive outcome. -/
def bufferedResult (env : Environment) (name reason : String) (found : Found)
    (s : GatewayState) : BufferedResponse × GatewayState :=
  match found.outcome with
  | .ok status =>
    (.served name found.target reason status,
      s.complete env found.target.deliveryId (!isAuthFailure status))
  | .error e => (.fatal e, s.release env found.target.deliveryId found.attempt)

theorem bufferedTargets_eq (env : Environment) (name reason : String)
    (targets : List ConfiguredModel) (lastError : String) (s : GatewayState) :
    ∃ lastError', bufferedTargets env name reason targets lastError s =
      match search env targets s with
      | (none, s') => (none, lastError', s')
      | (some found, s') =>
        (some (bufferedResult env name reason found s').1, lastError',
          (bufferedResult env name reason found s').2) := by
  induction targets generalizing lastError s with
  | nil => exact ⟨lastError, rfl⟩
  | cons target targets ih =>
    rw [bufferedTargets, search]
    unfold admitTarget
    by_cases hkey : target.deploymentId.isSome ∧ target.keyReady = false
    · rw [if_pos hkey, if_pos hkey]
      exact ih _ s
    · rw [if_neg hkey, if_neg hkey]
      rcases s.beginReliabilityAttempt env target.deliveryId with ⟨_ | attempt, s₁⟩
      · exact ih lastError s₁
      · dsimp only
        obtain ⟨lastError', ended, hended, hattempts⟩ :=
          bufferedAttempts_eq env target lastError attempt env.retries s₁
        rw [hattempts]
        rcases hd : decisive env target env.retries s₁ with ⟨_ | e | status, s₂⟩
        · rw [hd] at hended
          subst hended
          exact ih lastError' _
        · rw [hd] at hended
          subst hended
          exact ⟨lastError', rfl⟩
        · rw [hd] at hended
          subst hended
          exact ⟨lastError', rfl⟩

theorem deploymentCandidates_ne_nil (h : findModel env.models name ≠ none) :
    (s.deploymentCandidates env name).1 ≠ [] := by
  change (rotateDeployments env.models name s.cursors).1 ≠ []
  unfold rotateDeployments
  split
  · rename_i hnone
    exact absurd hnone h
  · dsimp only
    split
    · simp
    · rename_i hmany
      intro hnil
      have hlength := congrArg List.length hnil
      simp only [List.length_map, List.length_rotate, List.length_nil] at hlength
      omega

/-- The buffered loop follows the search when every alias of the plan is configured. -/
theorem deliverPlan_eq {plan : List String} (lastError : String) (s : GatewayState)
    (hplan : ∀ name ∈ plan, findModel env.models name ≠ none) :
    ∃ message, deliverPlan env plan lastError s =
      match searchPlan env plan s with
      | (none, s') => (.exhausted message, s')
      | (some (name, reason, found), s') => bufferedResult env name reason found s' := by
  induction plan generalizing lastError s with
  | nil => exact ⟨lastError, rfl⟩
  | cons name plan ih =>
    have hrest := fun lastError s =>
      ih lastError s fun name' hname' => hplan name' (List.mem_cons_of_mem _ hname')
    have hempty : ∀ message, (targetsOf env name s).1.targets = [] → ∃ message',
        deliverPlan env plan message (targetsOf env name s).2 =
          match searchPlan env (name :: plan) s with
          | (none, s') => (.exhausted message', s')
          | (some (name, reason, found), s') => bufferedResult env name reason found s' := by
      intro message htargets
      rw [searchPlan, htargets, search]
      exact hrest message _
    rw [deliverPlan]
    rw [if_neg (deploymentCandidates_ne_nil (hplan name List.mem_cons_self))]
    split
    · rename_i h
      exact hempty _ (targetsOf_of_not_eligible h)
    · split
      · rename_i h
        exact hempty _ h
      · obtain ⟨lastError', htargets⟩ := bufferedTargets_eq env name (targetsOf env name s).1.reason
          (targetsOf env name s).1.targets lastError (targetsOf env name s).2
        rw [searchPlan]
        show ∃ message, (match bufferedTargets env name (targetsOf env name s).1.reason
          (targetsOf env name s).1.targets lastError (targetsOf env name s).2 with
          | (some response, _, s) => (response, s)
          | (none, lastError, s) => deliverPlan env plan lastError s) = _
        rw [htargets]
        rcases search env (targetsOf env name s).1.targets (targetsOf env name s).2 with
          ⟨_ | found, s₁⟩
        · exact hrest lastError' s₁
        · exact ⟨lastError', rfl⟩

/-! ## Stopping at the first success -/

/-- The alias and the target that serve the request. -/
def StreamResponse.servedTarget : StreamResponse → Option (String × ConfiguredModel)
  | .streamed e => some (e.servedBy, e.target)
  | .relayed servedBy target _ => some (servedBy, target)
  | .failed _ _ => none

/-- The alias and the target that serve the request. -/
def BufferedResponse.servedTarget : BufferedResponse → Option (String × ConfiguredModel)
  | .served servedBy target _ _ => some (servedBy, target)
  | _ => none

/-- A gateway that has not done anything for the request. -/
def GatewayState.fresh (breaker : CircuitBreaker) (cursors : String → ℕ) : GatewayState :=
  ⟨breaker, cursors, []⟩

/-- No send follows a success, the success is served, and no lease is abandoned. -/
structure StopsAtFirstSuccess (result : StreamResponse × GatewayState) : Prop where
  last : ∀ c ∈ (contacts result.2.log).tail, ¬ c.2.Success
  serves : ∀ c, (contacts result.2.log).head? = some c → c.2.Success →
    ∃ e, result.1 = .streamed e ∧ e.target = c.1
  keeps : ∀ target, .abandoned target ∉ result.2.log

/-- The two loops contact the same targets in the same order and serve the same one. -/
structure SameDelivery (stream : StreamResponse × GatewayState)
    (buffered : BufferedResponse × GatewayState) : Prop where
  contacts : contacts stream.2.log = contacts buffered.2.log
  served : stream.1.servedTarget = buffered.1.servedTarget

/-- When a send succeeds, no later deployment of the alias can be tried. -/
def LoneSuccess (env : Environment) (plan : List String) (s : GatewayState) : Prop :=
  ∀ name reason found s', searchPlan env plan s = (some (name, reason, found), s') →
    found.outcome.Success → Unusable env found.rest s'

/-- The target that serves the request after a decisive outcome. -/
def Found.servedTarget (found : Found) (name : String) : Option (String × ConfiguredModel) :=
  match found.outcome with
  | .ok _ => some (name, found.target)
  | .error _ => none

theorem bufferedResult_served (env : Environment) (name reason : String) (found : Found)
    (s : GatewayState) :
    Grows s (bufferedResult env name reason found s).2 [] ∧
    (bufferedResult env name reason found s).1.servedTarget = found.servedTarget name := by
  unfold bufferedResult Found.servedTarget
  cases found.outcome with
  | ok status => exact ⟨grows_complete env _ _ s, rfl⟩
  | error e => exact ⟨grows_release env _ _ s, rfl⟩

section Found

variable {plan : List String} {found : Found} (acc : StreamAcc) (hacc : acc.established = none)
  (h : searchPlan env plan s = (some (name, reason, found), s'))

include hacc h

/-- A success goes on with the other deployments of the alias. -/
theorem streamPlan_success (hsuccess : found.outcome.Success) :
    ∃ acc' rest, acc'.established = some ⟨name, found.target, reason, found.attempt⟩ ∧
      streamPlan env plan acc s =
        streamRest env rest (streamTargets env name reason found.rest acc' s') := by
  obtain ⟨acc', rest, hplan⟩ := streamPlan_found acc hacc h
  refine ⟨{ acc' with established := some ⟨name, found.target, reason, found.attempt⟩ }, rest,
    rfl, ?_⟩
  rw [hplan, streamResult]
  cases ho : found.outcome with
  | ok status =>
    rw [ho] at hsuccess
    have hstatus : isSuccess status = true := hsuccess
    simp only [streamFinish, hstatus, if_true]
  | error e =>
    rw [ho] at hsuccess
    exact absurd hsuccess id

/-- Any other decisive outcome ends the loop. -/
theorem streamPlan_decisive (hsuccess : ¬ found.outcome.Success) :
    ∃ response s'', streamPlan env plan acc s = (response, s'') ∧ Grows s' s'' [] ∧
      response.servedTarget = found.servedTarget name := by
  obtain ⟨acc', rest, hplan⟩ := streamPlan_found acc hacc h
  have hgrows := grows_streamFinish env found.target found.attempt (some found.outcome, s')
  rw [hplan, streamResult]
  unfold Found.servedTarget
  cases ho : found.outcome with
  | ok status =>
    rw [ho] at hsuccess hgrows
    have hstatus : ¬ isSuccess status = true := hsuccess
    simp only [streamFinish, hstatus] at hgrows ⊢
    exact ⟨_, _, rfl, hgrows, rfl⟩
  | error e =>
    rw [ho] at hgrows
    exact ⟨_, _, rfl, hgrows, rfl⟩

/-- The success is served when no later deployment can be tried. -/
theorem streamPlan_lone (hsuccess : found.outcome.Success) (hlone : Unusable env found.rest s') :
    ∃ e s'', streamPlan env plan acc s = (.streamed e, s'') ∧ Grows s' s'' [] ∧
      e.target = found.target ∧ e.servedBy = name := by
  obtain ⟨acc₁, rest, hacc₁, hplan⟩ := streamPlan_success acc hacc h hsuccess
  obtain ⟨acc₂, s₂, hacc₂, hgrows, htargets⟩ :=
    streamTargets_unusable name reason acc₁ hlone
  have hsome := hacc₂.trans hacc₁
  rw [hplan, htargets, streamRest, hsome, StreamAcc.response, hsome]
  exact ⟨_, s₂, rfl, hgrows, rfl, rfl⟩

/-- A success that is followed by a usable deployment is followed by a send. -/
theorem contacts_after_success (hsuccess : found.outcome.Success)
    (husable : ¬ Unusable env found.rest s') :
    ∃ more, contacts (streamPlan env plan acc s).2.log = more ++ contacts s'.log ∧
      more ≠ [] := by
  obtain ⟨acc₁, rest, -, hplan⟩ := streamPlan_success acc hacc h hsuccess
  obtain ⟨more, hmore, hne⟩ := contacts_streamTargets env name reason found.rest acc₁ s'
  obtain ⟨more', hmore'⟩ := contacts_streamRest env rest
    (streamTargets env name reason found.rest acc₁ s')
  refine ⟨more' ++ more, ?_, ?_⟩
  · rw [hplan, hmore', hmore, List.append_assoc]
  · simp [hne husable]

end Found

section Stops

variable {plan : List String} {breaker : CircuitBreaker} {cursors : String → ℕ}

/-- What a search from a fresh state has contacted. -/
theorem contacts_searchPlan {result : Option (String × String × Found)}
    (h : searchPlan env plan (.fresh breaker cursors) = (result, s')) :
    ∃ older : List (ConfiguredModel × Outcome), (∀ c ∈ older, ¬ c.2.Success) ∧
      contacts s'.log = (result.map fun found => found.2.2.contact).toList ++ older ∧
      ∀ target, .abandoned target ∉ s'.log := by
  obtain ⟨older, holder, -, hgrows⟩ := tried_searchPlan env plan (.fresh breaker cursors)
  rw [h] at hgrows
  refine ⟨older, ?_, ?_, ?_⟩
  · intro c hc hsuccess
    exact hsuccess.not_retryable (holder c hc)
  · simpa [GatewayState.fresh, contacts] using hgrows.contacts
  · intro target htarget
    simpa [GatewayState.fresh] using hgrows.abandoned target htarget

/-- The streaming loop stops at the first success exactly when no later deployment of its alias
can be tried. -/
theorem streamPlan_stops :
    StopsAtFirstSuccess (streamPlan env plan .init (.fresh breaker cursors)) ↔
      LoneSuccess env plan (.fresh breaker cursors) := by
  constructor
  · intro hstops name reason found s' h hsuccess
    by_contra husable
    obtain ⟨more, hmore, hne⟩ := contacts_after_success .init rfl h hsuccess husable
    obtain ⟨older, -, hcontacts, -⟩ := contacts_searchPlan h
    refine hstops.last found.contact ?_ hsuccess
    rw [hmore, hcontacts]
    cases more with
    | nil => exact absurd rfl hne
    | cons c more => simp
  · intro hlone
    rcases h : searchPlan env plan (.fresh breaker cursors) with ⟨_ | ⟨name, reason, found⟩, s'⟩
    · obtain ⟨failure, message, hplan⟩ := streamPlan_none .init rfl h
      obtain ⟨older, holder, hcontacts, habandoned⟩ := contacts_searchPlan h
      rw [hplan]
      refine ⟨?_, ?_, habandoned⟩
      · intro c hc
        rw [hcontacts] at hc
        exact holder c (List.mem_of_mem_tail hc)
      · intro c hc hsuccess
        rw [hcontacts] at hc
        exact absurd hsuccess (holder c (List.mem_of_mem_head? hc))
    · obtain ⟨older, holder, hcontacts, habandoned⟩ := contacts_searchPlan h
      have hlast : ∀ s'', Grows s' s'' [] → contacts s''.log = found.contact :: older := by
        intro s'' hgrows
        rw [hgrows.contacts, hcontacts]
        rfl
      by_cases hsuccess : found.outcome.Success
      · obtain ⟨e, s'', hplan, hgrows, htarget, -⟩ := streamPlan_lone .init rfl h hsuccess
          (hlone name reason found s' h hsuccess)
        rw [hplan]
        refine ⟨?_, ?_, fun target ht => habandoned target (hgrows.abandoned target ht)⟩
        · rw [hlast s'' hgrows]
          exact holder
        · intro c hc _
          rw [hlast s'' hgrows, List.head?_cons, Option.some.injEq] at hc
          exact ⟨e, rfl, by rw [← hc, htarget]; rfl⟩
      · obtain ⟨response, s'', hplan, hgrows, -⟩ := streamPlan_decisive .init rfl h hsuccess
        rw [hplan]
        refine ⟨?_, ?_, fun target ht => habandoned target (hgrows.abandoned target ht)⟩
        · rw [hlast s'' hgrows]
          exact holder
        · intro c hc hc'
          rw [hlast s'' hgrows, List.head?_cons, Option.some.injEq] at hc
          exact absurd hc' (hc ▸ hsuccess)

/-- On a configured plan the two loops deliver alike under the same condition. -/
theorem sameDelivery_iff (message : String)
    (hplan : ∀ name ∈ plan, findModel env.models name ≠ none) :
    SameDelivery (streamPlan env plan .init (.fresh breaker cursors))
        (deliverPlan env plan message (.fresh breaker cursors)) ↔
      LoneSuccess env plan (.fresh breaker cursors) := by
  obtain ⟨message', hdeliver⟩ := deliverPlan_eq message (.fresh breaker cursors) hplan
  rcases h : searchPlan env plan (.fresh breaker cursors) with ⟨_ | ⟨name, reason, found⟩, s'⟩
  · rw [h] at hdeliver
    obtain ⟨failure, text, hstream⟩ := streamPlan_none .init rfl h
    rw [hstream, hdeliver]
    refine ⟨fun _ name reason found s'' h' => ?_, fun _ => ⟨rfl, rfl⟩⟩
    rw [h] at h'
    cases h'
  · rw [h] at hdeliver
    obtain ⟨hgrows, hserved⟩ := bufferedResult_served env name reason found s'
    rw [hdeliver]
    constructor
    · intro hsame name' reason' found' s'' h' hsuccess
      rw [h] at h'
      cases h'
      by_contra husable
      obtain ⟨more, hmore, hne⟩ := contacts_after_success .init rfl h hsuccess husable
      have hcontacts := hsame.contacts
      rw [hmore, hgrows.contacts] at hcontacts
      exact hne (by simpa using hcontacts)
    · intro hlone
      by_cases hsuccess : found.outcome.Success
      · obtain ⟨e, s'', hstream, hgrows', htarget, hname⟩ := streamPlan_lone .init rfl h hsuccess
          (hlone name reason found s' h hsuccess)
        rw [hstream]
        refine ⟨hgrows'.contacts.trans hgrows.contacts.symm, ?_⟩
        rw [hserved, Found.servedTarget, StreamResponse.servedTarget, htarget, hname]
        cases ho : found.outcome with
        | ok status => rfl
        | error e =>
          rw [ho] at hsuccess
          exact absurd hsuccess id
      · obtain ⟨response, s'', hstream, hgrows', hserved'⟩ :=
          streamPlan_decisive .init rfl h hsuccess
        rw [hstream]
        exact ⟨hgrows'.contacts.trans hgrows.contacts.symm, hserved'.trans hserved.symm⟩

end Stops

/-- An alias with two deployments. -/
def pooledModel : ConfiguredModel where
  name := "chat"
  endpoint := "https://one.example/v1"
  providerModel := "model"
  provider := .openAiCompatible
  tier := none
  apiKeyEnv := none
  keyReady := true
  baseKeyReady := true
  costPer1k := none
  fallbacks := []
  contextWindow := none
  deployments := [.new "two" "https://two.example/v1" "model" none true 1]
  deploymentSelection := .default
  deploymentId := none

/-- A request for streamed text, and providers that all succeed. -/
def pooledEnvironment (models : List ConfiguredModel) : Environment where
  parsers := ⟨fun _ => none, fun _ => none⟩
  models := models
  retries := 2
  request := ⟨"request", "hello", .hostedAllowed, ⟨none, false, false, true, .text⟩⟩
  offline := false
  promptEstimate := 1
  clock _ := 0
  sharedGrants _ _ := true
  upstream _ _ := .ok 200
  signals _ _ := ⟨fun _ => false, fun _ _ => true⟩

end WayfinderRouter.Gateway
