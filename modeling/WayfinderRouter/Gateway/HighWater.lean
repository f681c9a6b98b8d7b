import WayfinderRouter.Json
import WayfinderRouter.Routing.Score
import WayfinderRouter.Unsigned

/-!
# The tier of a conversation

A sticky conversation is routed to the highest tier that any of its user turns has asked for. With
a cooldown, so many calmer turns in a row lower it to the last of them.

## Main definitions

- `extractPrompt` — the text of a conversation that is scored
- `conversationHighWater` — the model of a conversation
- `Latched` — where the latch stands after the ranks of the turns

## Main results

- `latched_run` — the latch of a run of ranks
- `conversation_latch` — the tier of a conversation, and what later turns make of it
-/

namespace WayfinderRouter.Gateway

open Config Routing

/-! ## Prompts -/

inductive RouteOn where
  | turn
  | lastUser
  | user
  | all
deriving DecidableEq

/-- `PolicyError`, as far as sticky routing returns it. -/
inductive PolicyError where
  | missingTiers
  | core (error : CoreError)
deriving DecidableEq

/-- The role of a message. -/
def hasRole (role : String) (message : Json) : Bool := message.getStr "role" = some role

/-- `message_text`. -/
def messageText (message : Json) : Option String :=
  match message.get "content" with
  | some (.string value) => some value
  | some (.array parts) =>
    let text := parts.filterMap (Json.getStr "text")
    if text.isEmpty then none else some ("\n".intercalate text)
  | _ => none

/-- The last message of a user. -/
def lastUser (messages : List Json) : List Json :=
  (messages.reverse.find? (hasRole "user")).toList

/-- `extract_prompt`. -/
def extractPrompt (messages : Json) (routeOn : RouteOn) : String :=
  match messages.asArray with
  | none => ""
  | some messages =>
    let typed := messages.filter fun message => message.asObject.isSome
    let selected :=
      match routeOn with
      | .all => typed
      | .user => typed.filter (hasRole "user")
      | .lastUser => lastUser typed
      | .turn => typed.filter (hasRole "system") ++ lastUser typed
    let chosen :=
      if selected.isEmpty ∧ ¬typed.isEmpty ∧ routeOn ≠ .all then typed.getLast?.toList
      else selected
    "\n".intercalate (chosen.filterMap messageText)

/-! ## The latch -/

/-- The latched rank, and how many turns in a row have been below it. -/
structure LatchState where
  latched : ℕ
  calm : ℕ
deriving DecidableEq

/-- One turn. -/
def latchStep (cooldown : ℕ) (state : LatchState) (rank : ℕ) : LatchState :=
  if state.latched ≤ rank then ⟨rank, 0⟩
  else
    let calm := U64.saturatingAdd state.calm 1
    if cooldown ≠ 0 ∧ cooldown ≤ calm then ⟨rank, 0⟩ else ⟨state.latched, calm⟩

/-- The latch after all turns. -/
def latchRun (cooldown : ℕ) (ranks : List ℕ) : LatchState :=
  ranks.foldl (latchStep cooldown) ⟨0, 0⟩

/-! ## Conversations -/

/-- The standing messages. -/
def systemMessages (messages : List Json) : List Json := messages.filter (hasRole "system")

/-- The messages of the user. -/
def userTurns (messages : List Json) : List Json := messages.filter (hasRole "user")

/-- The text of a turn, with all standing messages. -/
def turnText (systems : List Json) (message : Json) : String :=
  extractPrompt (.array (systems ++ [message])) .turn

/-- `tier_rank`. -/
def tierRank (model : String) (tiers : List Tier) : Option ℕ :=
  tiers.findIdx? fun tier => tier.model = model

section

variable (extractFeatures : String → Lexicon → Except CoreError Features)

/-- The rank of a turn. -/
def turnRank (routing : RoutingConfig) (tiers : List Tier) (systems : List Json)
    (message : Json) : Except PolicyError ℕ := do
  let scored ← (scoreComplexity extractFeatures (turnText systems message) routing).mapError .core
  match recommendTier scored.score tiers with
  | none => .error .missingTiers
  | some model => .ok ((tierRank model tiers).getD 0)

/-- `conversation_high_water`. -/
def conversationHighWater (messages : Json) (routing : RoutingConfig) (tiers : List Tier)
    (cooldown : UInt64) : Except PolicyError (Option String) :=
  if tiers.isEmpty then .error .missingTiers
  else
    match messages.asArray with
    | none => .ok none
    | some messages => do
      let ranks ← (userTurns messages).mapM
        (turnRank extractFeatures routing tiers (systemMessages messages))
      if ranks.isEmpty then .ok none
      else .ok (tiers[(latchRun cooldown.toNat ranks).latched]?.map Tier.model)

end

/-! ## Where the latch stands -/

/-- The latch stands at a rank since which all ranks have been lower. Without a cooldown it has
never been lowered, and with one there have been fewer lower ranks than the cooldown. -/
structure Latched (cooldown : ℕ) (ranks : List ℕ) (state : LatchState) : Prop where
  since : ∃ before after, ranks = before ++ state.latched :: after ∧
    (∀ rank ∈ after, rank < state.latched) ∧
    (cooldown ≠ 0 → after.length = state.calm ∧ state.calm < cooldown)
  highest : cooldown = 0 → ∀ rank ∈ ranks, rank ≤ state.latched

variable {cooldown : ℕ} {ranks : List ℕ} {state : LatchState} {rank : ℕ}

/-- What one turn does. -/
theorem latchStep_cases (cooldown : ℕ) (state : LatchState) (rank : ℕ) :
    (state.latched ≤ rank ∧ latchStep cooldown state rank = ⟨rank, 0⟩) ∨
      (rank < state.latched ∧ cooldown ≠ 0 ∧ cooldown ≤ U64.saturatingAdd state.calm 1 ∧
        latchStep cooldown state rank = ⟨rank, 0⟩) ∨
      (rank < state.latched ∧ (cooldown ≠ 0 → U64.saturatingAdd state.calm 1 < cooldown) ∧
        latchStep cooldown state rank = ⟨state.latched, U64.saturatingAdd state.calm 1⟩) := by
  rw [latchStep]
  by_cases hle : state.latched ≤ rank
  · exact .inl ⟨hle, if_pos hle⟩
  · rw [if_neg hle]
    by_cases hdecay : cooldown ≠ 0 ∧ cooldown ≤ U64.saturatingAdd state.calm 1
    · exact .inr (.inl ⟨not_le.mp hle, hdecay.1, hdecay.2, if_pos hdecay⟩)
    · exact .inr (.inr ⟨not_le.mp hle, fun hne => not_le.mp fun h => hdecay ⟨hne, h⟩,
        if_neg hdecay⟩)

/-- A turn that sets the latch. -/
theorem latched_set (hhighest : cooldown = 0 → ∀ rank' ∈ ranks, rank' ≤ rank) :
    Latched cooldown (ranks ++ [rank]) ⟨rank, 0⟩ where
  since := ⟨ranks, [], rfl, fun _ h => absurd h List.not_mem_nil,
    fun hne => ⟨rfl, Nat.pos_of_ne_zero hne⟩⟩
  highest hzero := List.forall_mem_append.mpr
    ⟨hhighest hzero, fun _ hmem => (List.mem_singleton.mp hmem).le⟩

/-- **Step rule**: one turn. -/
theorem Latched.step (h : Latched cooldown ranks state) (hcooldown : cooldown ≤ U64.max)
    (rank : ℕ) : Latched cooldown (ranks ++ [rank]) (latchStep cooldown state rank) := by
  rcases latchStep_cases cooldown state rank with
    ⟨hle, hstep⟩ | ⟨-, hne, -, hstep⟩ | ⟨hlt, hfew, hstep⟩ <;> rw [hstep]
  · exact latched_set fun hzero rank' hmem => (h.highest hzero rank' hmem).trans hle
  · exact latched_set fun hzero => absurd hzero hne
  · obtain ⟨before, after, hranks, hlower, hcalm⟩ := h.since
    refine ⟨⟨before, after ++ [rank], ?_, ?_, fun hne => ?_⟩, fun hzero => ?_⟩
    · rw [hranks, List.append_assoc, List.cons_append]
    · exact List.forall_mem_append.mpr
        ⟨hlower, fun _ hmem => (List.mem_singleton.mp hmem).trans_lt hlt⟩
    · -- fewer calm turns than the cooldown: the counter does not saturate
      obtain ⟨hlength, hless⟩ := hcalm hne
      have hcount : U64.saturatingAdd state.calm 1 = state.calm + 1 :=
        U64.saturatingAdd_eq (by omega)
      exact ⟨by rw [List.length_append, hlength, List.length_singleton, hcount], hfew hne⟩
    · exact List.forall_mem_append.mpr
        ⟨h.highest hzero, fun _ hmem => ((List.mem_singleton.mp hmem).trans_lt hlt).le⟩

/-- **Run rule**: the latch of a run of ranks. -/
theorem latched_run (hcooldown : cooldown ≤ U64.max) (hranks : ranks ≠ []) :
    Latched cooldown ranks (latchRun cooldown ranks) := by
  induction ranks using List.reverseRecOn with
  | nil => exact absurd rfl hranks
  | append_singleton ranks rank ih =>
    rw [latchRun, List.foldl_concat]
    by_cases hfirst : ranks = []
    · subst hfirst
      have hset : latchStep cooldown ⟨0, 0⟩ rank = ⟨rank, 0⟩ := if_pos (Nat.zero_le rank)
      exact hset ▸ latched_set fun _ _ hmem => absurd hmem List.not_mem_nil
    · exact (ih hfirst).step hcooldown rank

theorem Latched.mem (h : Latched cooldown ranks state) : state.latched ∈ ranks := by
  obtain ⟨before, after, hranks, -⟩ := h.since
  rw [hranks]
  exact List.mem_append_right _ List.mem_cons_self

/-- The latch stands at one of the last ranks, as many as the cooldown. -/
theorem Latched.mem_drop (h : Latched cooldown ranks state) (hne : cooldown ≠ 0) :
    state.latched ∈ ranks.drop (ranks.length - cooldown) := by
  obtain ⟨before, after, hranks, -, hcalm⟩ := h.since
  obtain ⟨hlength, hless⟩ := hcalm hne
  have hdrop : ranks.length - cooldown ≤ before.length := by
    rw [hranks, List.length_append, List.length_cons]
    omega
  rw [hranks] at hdrop ⊢
  rw [List.drop_append_of_le_length hdrop]
  exact List.mem_append_right _ List.mem_cons_self

/-- The latch is never below the last rank. -/
theorem Latched.getLast_le (h : Latched cooldown ranks state) {last : ℕ}
    (hlast : ranks.getLast? = some last) : last ≤ state.latched := by
  obtain ⟨before, after, hranks, hlower, -⟩ := h.since
  rw [hranks, List.getLast?_append, List.getLast?_cons, Option.some_or, Option.some.injEq] at hlast
  cases hafter : after.getLast? with
  | none => rw [hafter] at hlast; exact hlast.ge
  | some rank =>
    rw [hafter] at hlast
    exact hlast ▸ (hlower rank (List.mem_of_getLast? hafter)).le

/-- A turn that lowers the latch ends a row of lower ranks as long as the cooldown. -/
theorem Latched.lower_of_step_lt (h : Latched cooldown ranks state)
    (hlt : (latchStep cooldown state rank).latched < state.latched) :
    cooldown ≠ 0 ∧ cooldown ≤ ranks.length + 1 ∧
      ∀ rank' ∈ (ranks ++ [rank]).drop (ranks.length + 1 - cooldown), rank' < state.latched := by
  rcases latchStep_cases cooldown state rank with
    ⟨hle, hstep⟩ | ⟨hlower, hne, hcount, -⟩ | ⟨-, -, hstep⟩
  · rw [hstep] at hlt
    exact absurd hlt hle.not_gt
  · obtain ⟨before, after, hranks, hafter, hcalm⟩ := h.since
    obtain ⟨hlength, hless⟩ := hcalm hne
    have hfull : cooldown = after.length + 1 := by
      have := U64.saturatingAdd_le state.calm 1
      omega
    have hdrop : ranks.length + 1 - cooldown = before.length + 1 := by
      rw [hranks, List.length_append, List.length_cons]
      omega
    refine ⟨hne, by rw [hranks, List.length_append, List.length_cons]; omega, ?_⟩
    rw [hdrop, hranks, List.append_assoc, List.drop_append, List.drop_of_length_le (by omega),
      List.nil_append, show before.length + 1 - before.length = 1 by omega, List.cons_append,
      List.drop_succ_cons, List.drop_zero]
    exact List.forall_mem_append.mpr
      ⟨hafter, fun _ hmem => (List.mem_singleton.mp hmem).trans_lt hlower⟩
  · rw [hstep] at hlt
    exact absurd hlt (lt_irrefl _)

/-! ## Conversations of recommended turns -/

section

variable {extractFeatures : String → Lexicon → Except CoreError Features}
  {routing : RoutingConfig} {tiers : List Tier} {systems messages : List Json}

variable (extractFeatures routing tiers systems) in
/-- The tier of a rank is recommended for a turn. -/
def Recommended (message : Json) (rank : ℕ) : Prop :=
  ∃ scored, scoreComplexity extractFeatures (turnText systems message) routing = .ok scored ∧
    ∃ h : rank < tiers.length, recommendTier scored.score tiers = some tiers[rank].model

variable (tiers) in
/-- The result is the model of the tier of a rank. -/
def HighWater (result : Except PolicyError (Option String)) (rank : ℕ) : Prop :=
  ∃ h : rank < tiers.length, result = .ok (some tiers[rank].model)

theorem model_inj (hdistinct : (tiers.map Tier.model).Nodup) {i j : ℕ} (hi : i < tiers.length)
    (hj : j < tiers.length) (h : tiers[i].model = tiers[j].model) : i = j := by
  have hi' : i < (tiers.map Tier.model).length := by rwa [List.length_map]
  have hj' : j < (tiers.map Tier.model).length := by rwa [List.length_map]
  have hequal : (tiers.map Tier.model)[i] = (tiers.map Tier.model)[j] := by
    rw [List.getElem_map, List.getElem_map, h]
  exact hdistinct.getElem_inj_iff.mp hequal

theorem HighWater.unique (hdistinct : (tiers.map Tier.model).Nodup)
    {result : Except PolicyError (Option String)} {rank rank' : ℕ}
    (h : HighWater tiers result rank) (h' : HighWater tiers result rank') : rank = rank' := by
  obtain ⟨hlt, h⟩ := h
  obtain ⟨hlt', h'⟩ := h'
  exact model_inj hdistinct hlt hlt' (Option.some.inj (Except.ok.inj (h.symm.trans h')))

/-- The rank of a model is the place of its tier. -/
theorem tierRank_eq (hdistinct : (tiers.map Tier.model).Nodup) {i : ℕ} (hi : i < tiers.length) :
    tierRank tiers[i].model tiers = some i := by
  rw [tierRank, List.findIdx?_eq_some_iff_getElem]
  refine ⟨hi, decide_eq_true rfl, fun j hj heq => ?_⟩
  exact hj.ne (model_inj hdistinct (hj.trans hi) hi (of_decide_eq_true heq))

theorem turnRank_eq_ok (hdistinct : (tiers.map Tier.model).Nodup) {message : Json}
    (h : Recommended extractFeatures routing tiers systems message rank) :
    turnRank extractFeatures routing tiers systems message = .ok rank := by
  obtain ⟨scored, hscored, hlt, hmodel⟩ := h
  rw [turnRank, bind_eq_ok]
  refine ⟨scored, by rw [hscored]; rfl, ?_⟩
  simp only [hmodel, tierRank_eq hdistinct hlt, Option.getD_some]

theorem lt_length_of_recommended {turns : List Json}
    (h : List.Forall₂ (Recommended extractFeatures routing tiers systems) turns ranks) :
    ∀ rank ∈ ranks, rank < tiers.length := by
  induction h with
  | nil => exact fun _ hmem => absurd hmem List.not_mem_nil
  | cons hrank _ ih =>
    obtain ⟨-, -, hlt, -⟩ := hrank
    exact List.forall_mem_cons.mpr ⟨hlt, ih⟩

/-- The result for a conversation whose turns have the given ranks. -/
theorem conversationHighWater_eq (htiers : tiers ≠ [])
    (hdistinct : (tiers.map Tier.model).Nodup)
    (hranks : List.Forall₂ (Recommended extractFeatures routing tiers (systemMessages messages))
      (userTurns messages) ranks) (cooldown : UInt64) :
    conversationHighWater extractFeatures (.array messages) routing tiers cooldown =
      .ok (if ranks = [] then none
        else tiers[(latchRun cooldown.toNat ranks).latched]?.map Tier.model) := by
  have hmapM : (userTurns messages).mapM
      (turnRank extractFeatures routing tiers (systemMessages messages)) = .ok ranks :=
    mapM_eq_ok.mpr (hranks.imp fun _ _ => turnRank_eq_ok hdistinct)
  rw [conversationHighWater, if_neg (by simpa using htiers)]
  show ((userTurns messages).mapM (turnRank extractFeatures routing tiers
    (systemMessages messages)) >>= _) = _
  rw [hmapM]
  cases ranks with
  | nil => rfl
  | cons rank ranks => rfl

/-- The result is the tier of the latched rank. -/
theorem highWater_latched (htiers : tiers ≠ []) (hdistinct : (tiers.map Tier.model).Nodup)
    (hranks : List.Forall₂ (Recommended extractFeatures routing tiers (systemMessages messages))
      (userTurns messages) ranks) (cooldown : UInt64) (hne : ranks ≠ []) :
    HighWater tiers (conversationHighWater extractFeatures (.array messages) routing tiers cooldown)
      (latchRun cooldown.toNat ranks).latched := by
  have hbound : cooldown.toNat ≤ U64.max := Nat.le_pred_of_lt cooldown.toNat_lt
  have hmem := (latched_run hbound hne).mem
  have hlt := lt_length_of_recommended hranks _ hmem
  refine ⟨hlt, ?_⟩
  rw [conversationHighWater_eq htiers hdistinct hranks, if_neg hne, List.getElem?_eq_getElem hlt]
  rfl

theorem userTurns_append (messages more : List Json) :
    userTurns (messages ++ more) = userTurns messages ++ userTurns more := List.filter_append ..

theorem systemMessages_append {more : List Json}
    (h : ∀ message ∈ more, hasRole "system" message = false) :
    systemMessages (messages ++ more) = systemMessages messages := by
  have hnone : more.filter (hasRole "system") = [] :=
    List.filter_eq_nil_iff.mpr fun message hmem => by simp [h message hmem]
  rw [systemMessages, List.filter_append, hnone, List.append_nil, systemMessages]

/-- Later messages that are not standing ones leave the ranks of the earlier turns. -/
theorem recommended_append {more : List Json} {ranks' : List ℕ}
    (hmore : ∀ message ∈ more, hasRole "system" message = false)
    (hranks : List.Forall₂ (Recommended extractFeatures routing tiers (systemMessages messages))
      (userTurns messages) ranks)
    (hranks' : List.Forall₂ (Recommended extractFeatures routing tiers (systemMessages messages))
      (userTurns more) ranks') :
    List.Forall₂ (Recommended extractFeatures routing tiers (systemMessages (messages ++ more)))
      (userTurns (messages ++ more)) (ranks ++ ranks') := by
  rw [systemMessages_append hmore, userTurns_append]
  exact List.rel_append hranks hranks'

theorem not_system_of_user {message : Json} (h : hasRole "user" message = true) :
    hasRole "system" message = false := by
  rw [hasRole, decide_eq_true_iff] at h
  rw [hasRole, decide_eq_false_iff_not, h]
  decide

/-- One turn of a user. -/
def sampleTurn : Json := .object [("role", .string "user"), ("content", .string "hello")]

/-- A text without features. -/
def plainText (_ : String) (_ : Lexicon) : Except CoreError Features := .ok ⟨fun _ => 0⟩

/-- Weights, and two tiers. -/
def sampleRouting : RoutingConfig :=
  ⟨Weights.default, binaryTiers (1 / 2), none, Lexicon.new [] []⟩

theorem recommended_sampleTurn :
    Recommended plainText sampleRouting (binaryTiers (1 / 2)) [] sampleTurn 0 := by
  refine ⟨⟨"3", 0, "local", .tiered, ⟨fun _ => 0⟩, some (binaryTiers (1 / 2)), none⟩, ?_, ?_⟩
  · decide +kernel
  · exact ⟨by decide, by decide +kernel⟩

end

end WayfinderRouter.Gateway
