import WayfinderRouter.Providers.NativeStream

/-!
# The blocks of native message streams

What the adapter emits for a whole stream: the texts of its deltas, the tool calls in the order of
their blocks, and for each tool the fragments of its block. The fragments of the open blocks are
followed through the run by `Owed`, the arguments that the remaining events hold for a tool.

## Main definitions

- `Applied`, `Run` — an event that is translated, and the events of a run
- `WellNumbered` — the open blocks belong to different tools
- `Owed` — what the remaining events hold for a tool
-/

namespace WayfinderRouter.Providers

open Transducer

/-! ## One event -/

/-- What an event does that is translated. -/
inductive Applied (s : NativeState) : MessagesEvent → NativeState → List Chunk → Prop
  | messageStart (id model : String) (inputTokens : ℕ) :
    Applied s (.messageStart id model inputTokens)
      { s with id := id, model := model, inputTokens := inputTokens } [.role id model]
  | textStart (index : ℕ) :
    Applied s (.textStart index)
      { s with active := Ordered.upsert index (fun _ => .text) s.active } []
  | toolStart (index : ℕ) (callId name : Json) (hcount : s.toolCount < maxToolCalls) :
    Applied s (.toolStart index callId name)
      { s with
          toolCount := s.toolCount + 1
          active := Ordered.upsert index (fun _ => .tool s.toolCount false) s.active }
      [.toolCall s.id s.model s.toolCount callId name]
  | textDelta (index : ℕ) (text : String)
    (hopen : Ordered.lookup index s.active = some .text) :
    Applied s (.textDelta index text) s [.content s.id s.model text]
  | inputJsonDelta (index : ℕ) (partialJson : String) (toolIndex : ℕ) (saw : Bool)
    (hopen : Ordered.lookup index s.active = some (.tool toolIndex saw)) :
    Applied s (.inputJsonDelta index partialJson)
      { s with active := Ordered.upsert index (fun _ => .tool toolIndex true) s.active }
      [.arguments s.id s.model toolIndex partialJson]
  | blockStop (index : ℕ) (block : ActiveBlock)
    (hopen : Ordered.lookup index s.active = some block)
    (hblock : ∀ toolIndex, block ≠ .tool toolIndex false) :
    Applied s (.blockStop index) { s with active := Ordered.erase index s.active } []
  | emptyBlockStop (index toolIndex : ℕ)
    (hopen : Ordered.lookup index s.active = some (.tool toolIndex false)) :
    Applied s (.blockStop index) { s with active := Ordered.erase index s.active }
      [.arguments s.id s.model toolIndex "\x7b\x7d"]
  | messageDelta (reason : Option String) (outputTokens : ℕ) :
    Applied s (.messageDelta reason outputTokens) { s with finishSent := true }
      [.finish s.id s.model (openaiFinishReason reason) s.inputTokens outputTokens]
  | messageStop (hclosed : s.active = []) :
    Applied s .messageStop { s with terminal := true }
      ((if s.finishSent then [] else [.stop s.id s.model]) ++ [.done])
  | error (message errorType : String) :
    Applied s (.error message errorType) { s with terminal := true }
      [.error message errorType, .done]

section Apply

variable {s s' : NativeState} {event : MessagesEvent} {events : List MessagesEvent}
  {chunks : List Chunk}

/-- **Inversion rule**: an event that is translated. -/
theorem applied_of_apply (h : NativeState.apply event s = (s', .ok chunks)) :
    Applied s event s' chunks := by
  cases event with
  | messageStart id model inputTokens =>
    obtain ⟨rfl, hchunks⟩ := Prod.mk.inj h
    rw [← Except.ok.inj hchunks]
    exact .messageStart id model inputTokens
  | textStart index =>
    obtain ⟨rfl, hchunks⟩ := Prod.mk.inj h
    rw [← Except.ok.inj hchunks]
    exact .textStart index
  | toolStart index callId name =>
    rw [NativeState.apply] at h
    split_ifs at h with hcount
    · exact (nomatch (Prod.mk.inj h).2)
    · obtain ⟨rfl, hchunks⟩ := Prod.mk.inj h
      rw [← Except.ok.inj hchunks]
      exact .toolStart index callId name (Nat.not_le.mp hcount)
  | textDelta index text =>
    rw [NativeState.apply] at h
    split at h
    · next hopen =>
      obtain ⟨rfl, hchunks⟩ := Prod.mk.inj h
      rw [← Except.ok.inj hchunks]
      exact .textDelta index text hopen
    · exact (nomatch (Prod.mk.inj h).2)
  | inputJsonDelta index partialJson =>
    rw [NativeState.apply] at h
    split at h
    · next toolIndex saw hopen =>
      obtain ⟨rfl, hchunks⟩ := Prod.mk.inj h
      rw [← Except.ok.inj hchunks]
      exact .inputJsonDelta index partialJson toolIndex saw hopen
    · exact (nomatch (Prod.mk.inj h).2)
  | blockStop index =>
    rw [NativeState.apply] at h
    split at h
    · next toolIndex hopen =>
      obtain ⟨rfl, hchunks⟩ := Prod.mk.inj h
      rw [← Except.ok.inj hchunks]
      exact .emptyBlockStop index toolIndex hopen
    · next block hblock hopen =>
      obtain ⟨rfl, hchunks⟩ := Prod.mk.inj h
      rw [← Except.ok.inj hchunks]
      exact .blockStop index block hopen hblock
    · exact (nomatch (Prod.mk.inj h).2)
  | messageDelta reason outputTokens =>
    obtain ⟨rfl, hchunks⟩ := Prod.mk.inj h
    rw [← Except.ok.inj hchunks]
    exact .messageDelta reason outputTokens
  | messageStop =>
    rw [NativeState.apply] at h
    split_ifs at h with hclosed hsent
    · exact (nomatch (Prod.mk.inj h).2)
    · obtain ⟨rfl, hchunks⟩ := Prod.mk.inj h
      rw [← Except.ok.inj hchunks]
      have hstop := Applied.messageStop (Decidable.not_not.mp hclosed)
      rw [if_pos hsent] at hstop
      exact hstop
    · obtain ⟨rfl, hchunks⟩ := Prod.mk.inj h
      rw [← Except.ok.inj hchunks]
      have hstop := Applied.messageStop (Decidable.not_not.mp hclosed)
      rw [if_neg hsent] at hstop
      exact hstop
  | error message errorType =>
    obtain ⟨rfl, hchunks⟩ := Prod.mk.inj h
    rw [← Except.ok.inj hchunks]
    exact .error message errorType

/-- The events of a run, one after the other. -/
inductive Run : NativeState → List MessagesEvent → NativeState → List Chunk → Prop
  | nil (s : NativeState) : Run s [] s []
  | cons {s s₁ s' : NativeState} {event : MessagesEvent} {events : List MessagesEvent}
    {first rest : List Chunk} (hfirst : Applied s event s₁ first) (hrest : Run s₁ events s' rest) :
    Run s (event :: events) s' (first ++ rest)

theorem run_of_feed (h : feed NativeState.apply events s = (s', .ok chunks)) :
    Run s events s' chunks := by
  induction events generalizing s chunks with
  | nil =>
    obtain ⟨rfl, hchunks⟩ := Prod.mk.inj h
    rw [← Except.ok.inj hchunks]
    exact .nil s
  | cons event events ih =>
    obtain ⟨s₁, first, rest, hfirst, hrest, rfl⟩ := feed_cons_eq_ok h
    exact .cons (applied_of_apply hfirst) (ih hrest)

theorem Applied.contents (h : Applied s event s' chunks) :
    chunks.filterMap Chunk.content? = event.text?.toList := by
  cases h with
  | messageStop hclosed =>
    cases s.finishSent with
    | true => rfl
    | false => rfl
  | _ => rfl

/-- The contents of the chunks are the texts of the deltas. -/
theorem Run.contents (h : Run s events s' chunks) :
    chunks.filterMap Chunk.content? = events.filterMap MessagesEvent.text? := by
  induction h with
  | nil s => rfl
  | @cons _ _ _ event events first rest hfirst hrest ih =>
    rw [List.filterMap_append, hfirst.contents, ih, List.filterMap_cons]
    cases event.text? with
    | none => rfl
    | some text => rfl

/-- The tool calls that are announced. -/
def announcements (n : ℕ) (tools : List StartedTool) : List (ℕ × Json × Json) :=
  (tools.zipIdx n).map fun entry => (entry.2, entry.1.id, entry.1.name)

/-- The tool blocks are announced in their order. -/
theorem Run.announcements (h : Run s events s' chunks) :
    chunks.filterMap Chunk.toolCall? = announcements s.toolCount (startedTools events) := by
  induction h with
  | nil s => rfl
  | @cons s _ _ event events first rest hfirst hrest ih =>
    rw [List.filterMap_append, ih]
    cases hfirst with
    | toolStart index callId name hcount => rfl
    | messageStop hclosed =>
      cases s.finishSent with
      | true => rfl
      | false => rfl
    | _ => rfl

/-! ## Blocks -/

/-- The tools of the open blocks are different tools that were announced. -/
structure WellNumbered (s : NativeState) : Prop where
  sorted : Ordered.Sorted s.active
  announced : ∀ i k saw, Ordered.lookup i s.active = some (.tool k saw) → k < s.toolCount
  unique : ∀ i j k saw saw', Ordered.lookup i s.active = some (.tool k saw) →
    Ordered.lookup j s.active = some (.tool k saw') → i = j

/-- A block under an index where no other block has its tool. -/
theorem WellNumbered.upsert (h : WellNumbered s) {index n : ℕ} {block : ActiveBlock}
    (hn : s.toolCount ≤ n) (hblock : ∀ k saw, block = .tool k saw → k < n ∧
      ∀ i saw', Ordered.lookup i s.active = some (.tool k saw') → i = index) :
    WellNumbered { s with
      toolCount := n, active := Ordered.upsert index (fun _ => block) s.active } where
  sorted := h.sorted.upsert
  announced := by
    intro i k saw hi
    rw [Ordered.lookup_upsert h.sorted] at hi
    split_ifs at hi with hindex
    · exact (hblock k saw (Option.some.inj hi)).1
    · exact (h.announced i k saw hi).trans_le hn
  unique := by
    intro i j k saw saw' hi hj
    rw [Ordered.lookup_upsert h.sorted] at hi hj
    split_ifs at hi hj with hindex hindex' hindex'
    · rw [hindex, hindex']
    · exact hindex.trans ((hblock k saw (Option.some.inj hi)).2 j saw' hj).symm
    · exact ((hblock k saw' (Option.some.inj hj)).2 i saw hi).trans hindex'.symm
    · exact h.unique i j k saw saw' hi hj

theorem lookup_erase (i index : ℕ) (active : List (ℕ × ActiveBlock)) :
    Ordered.lookup i (Ordered.erase index active) =
      if i = index then none else Ordered.lookup i active := by
  split_ifs with hindex
  · rw [hindex]
    exact Ordered.lookup_eq_none_iff.mpr fun hmem => (Ordered.mem_keys_erase.mp hmem).1 rfl
  · exact Ordered.lookup_erase_of_ne hindex

theorem WellNumbered.erase (h : WellNumbered s) (index : ℕ) :
    WellNumbered { s with active := Ordered.erase index s.active } where
  sorted := h.sorted.erase index
  announced := by
    intro i k saw hi
    rw [lookup_erase] at hi
    split_ifs at hi
    exact h.announced i k saw hi
  unique := by
    intro i j k saw saw' hi hj
    rw [lookup_erase] at hi hj
    split_ifs at hi hj
    exact h.unique i j k saw saw' hi hj

/-- **Step lemma**: an event keeps the numbering. -/
theorem WellNumbered.applied (h : WellNumbered s) (hstep : Applied s event s' chunks) :
    WellNumbered s' := by
  cases hstep with
  | messageStart id model inputTokens => exact ⟨h.sorted, h.announced, h.unique⟩
  | textStart index => exact h.upsert le_rfl fun k saw heq => (nomatch heq)
  | toolStart index callId name hcount =>
    refine h.upsert (Nat.le_succ _) fun k saw heq => ?_
    obtain ⟨rfl, -⟩ := ActiveBlock.tool.inj heq
    exact ⟨Nat.lt_succ_self _, fun i saw' hi => absurd (h.announced i _ saw' hi) (lt_irrefl _)⟩
  | textDelta index text hopen => exact h
  | inputJsonDelta index partialJson toolIndex saw hopen =>
    refine h.upsert le_rfl fun k saw' heq => ?_
    obtain ⟨rfl, -⟩ := ActiveBlock.tool.inj heq
    exact ⟨h.announced index _ saw hopen, fun i saw'' hi => h.unique i index _ saw'' saw hi hopen⟩
  | blockStop index block hopen hblock => exact h.erase index
  | emptyBlockStop index toolIndex hopen => exact h.erase index
  | messageDelta reason outputTokens => exact ⟨h.sorted, h.announced, h.unique⟩
  | messageStop hclosed => exact ⟨h.sorted, h.announced, h.unique⟩
  | error message errorType => exact ⟨h.sorted, h.announced, h.unique⟩

/-- What is left of the arguments of a block, some of which may have been seen. -/
def Block.pending (saw : Bool) (block : Block) : List String :=
  if saw then block.fragments else block.arguments

/-- The arguments that the events hold for a tool: those of its open block, none when its block is
gone, and those of a block that is yet to be started. -/
inductive Owed (s : NativeState) (events : List MessagesEvent) (k : ℕ) : List String → Prop
  | opened (i : ℕ) (saw : Bool) (hopen : Ordered.lookup i s.active = some (.tool k saw)) :
    Owed s events k ((blockOf i events).pending saw)
  | gone (hcount : k < s.toolCount)
    (hgone : ∀ i saw, Ordered.lookup i s.active ≠ some (.tool k saw)) : Owed s events k []
  | later (hcount : s.toolCount ≤ k) :
    Owed s events k
      (((startedTools events)[k - s.toolCount]?.map fun tool => tool.block.arguments).getD [])

theorem Owed.nil {k : ℕ} {l : List String} (h : Owed s [] k l) : l = [] := by
  cases h with
  | opened i saw hopen =>
    cases saw with
    | true => rfl
    | false => rfl
  | gone hcount hgone => rfl
  | later hcount => rfl

/-- An event that has nothing to do with blocks. -/
theorem Owed.keep {k : ℕ} {l : List String} (h : Owed s (event :: events) k l)
    (hactive : s'.active = s.active) (hcount : s'.toolCount = s.toolCount)
    (hblock : ∀ i, blockOf i (event :: events) = blockOf i events)
    (htools : startedTools (event :: events) = startedTools events) : Owed s' events k l := by
  cases h with
  | opened i saw hopen =>
    rw [hblock]
    exact .opened i saw (hactive ▸ hopen)
  | gone hlt hgone => exact .gone (hcount ▸ hlt) (hactive ▸ hgone)
  | later hle =>
    rw [htools, ← hcount]
    exact .later (hcount ▸ hle)

/-- The block under an index is replaced by one with another tool. -/
theorem gone_upsert (h : WellNumbered s) {i index k : ℕ} {saw : Bool} {block : ActiveBlock}
    (hopen : Ordered.lookup i s.active = some (.tool k saw)) (hi : i = index)
    (hblock : ∀ saw', block ≠ .tool k saw') (j : ℕ) (saw' : Bool) :
    Ordered.lookup j (Ordered.upsert index (fun _ => block) s.active) ≠ some (.tool k saw') := by
  rw [Ordered.lookup_upsert h.sorted]
  split_ifs with hj
  · exact fun heq => hblock saw' (Option.some.inj heq)
  · exact fun heq => hj ((h.unique j i k saw' saw heq hopen).trans hi)

/-- The block under an index is removed. -/
theorem gone_erase (h : WellNumbered s) {i index k : ℕ} {saw : Bool}
    (hopen : Ordered.lookup i s.active = some (.tool k saw)) (hi : i = index) (j : ℕ)
    (saw' : Bool) : Ordered.lookup j (Ordered.erase index s.active) ≠ some (.tool k saw') := by
  rw [lookup_erase]
  split_ifs with hj
  · exact (Option.some_ne_none _).symm
  · exact fun heq => hj ((h.unique j i k saw' saw heq hopen).trans hi)

/-- A text block is opened. -/
theorem Owed.textStart {k : ℕ} {l : List String} {index : ℕ}
    (h : Owed s (.textStart index :: events) k l) (hs : WellNumbered s) :
    Owed { s with active := Ordered.upsert index (fun _ => .text) s.active } events k l := by
  cases h with
  | opened i saw hopen =>
    rw [blockOf]
    split_ifs with hi
    · have hnone : Block.pending saw ⟨[], false⟩ = [] := by
        cases saw with
        | true => rfl
        | false => rfl
      rw [hnone]
      exact .gone (hs.announced i k saw hopen)
        (gone_upsert hs hopen hi.symm fun _ heq => ActiveBlock.noConfusion heq)
    · refine .opened i saw ?_
      rw [Ordered.lookup_upsert hs.sorted, if_neg (Ne.symm hi)]
      exact hopen
  | gone hcount hgone =>
    refine .gone hcount fun i saw => ?_
    rw [Ordered.lookup_upsert hs.sorted]
    split_ifs with hi
    · exact fun heq => ActiveBlock.noConfusion (Option.some.inj heq)
    · exact hgone i saw
  | later hcount => exact .later hcount

/-- A tool block is opened. -/
theorem Owed.toolStart {k : ℕ} {l : List String} {index : ℕ} {callId name : Json}
    (h : Owed s (.toolStart index callId name :: events) k l) (hs : WellNumbered s) :
    Owed { s with
      toolCount := s.toolCount + 1
      active := Ordered.upsert index (fun _ => .tool s.toolCount false) s.active } events k l := by
  cases h with
  | opened i saw hopen =>
    have hlt := hs.announced i k saw hopen
    rw [blockOf]
    split_ifs with hi
    · have hnone : Block.pending saw ⟨[], false⟩ = [] := by
        cases saw with
        | true => rfl
        | false => rfl
      rw [hnone]
      refine .gone (Nat.lt_succ_of_lt hlt) (gone_upsert hs hopen hi.symm fun _ heq => ?_)
      exact hlt.ne (ActiveBlock.tool.inj heq).1.symm
    · refine .opened i saw ?_
      rw [Ordered.lookup_upsert hs.sorted, if_neg (Ne.symm hi)]
      exact hopen
  | gone hcount hgone =>
    refine .gone (Nat.lt_succ_of_lt hcount) fun i saw => ?_
    rw [Ordered.lookup_upsert hs.sorted]
    split_ifs with hi
    · exact fun heq => hcount.ne (ActiveBlock.tool.inj (Option.some.inj heq)).1.symm
    · exact hgone i saw
  | later hcount =>
    rw [startedTools]
    rcases hcount.eq_or_lt with rfl | hlt
    · -- The block of this very event.
      rw [Nat.sub_self]
      refine .opened index false ?_
      rw [Ordered.lookup_upsert hs.sorted, if_pos rfl]
    · obtain ⟨n, hn⟩ : ∃ n, k - s.toolCount = n + 1 := ⟨k - s.toolCount - 1, by omega⟩
      have hn' : k - (s.toolCount + 1) = n := by omega
      rw [hn, List.getElem?_cons_succ, ← hn']
      exact .later hlt

/-- A fragment of the arguments of a tool. -/
theorem Owed.inputJsonDelta {k : ℕ} {l : List String} {index toolIndex : ℕ} {partialJson : String}
    {saw : Bool} (h : Owed s (.inputJsonDelta index partialJson :: events) k l)
    (hs : WellNumbered s) (hopen : Ordered.lookup index s.active = some (.tool toolIndex saw)) :
    ∃ l', Owed { s with
        active := Ordered.upsert index (fun _ => .tool toolIndex true) s.active } events k l' ∧
      l = (if toolIndex = k then [partialJson] else []) ++ l' := by
  have hlt := hs.announced index toolIndex saw hopen
  cases h with
  | opened i saw' hopen' =>
    rw [blockOf]
    split_ifs with hi hk hk
    · subst hi
      obtain ⟨rfl, rfl⟩ := ActiveBlock.tool.inj (Option.some.inj (hopen.symm.trans hopen'))
      refine ⟨(blockOf index events).pending true, .opened index true ?_, ?_⟩
      · rw [Ordered.lookup_upsert hs.sorted, if_pos rfl]
      · cases saw with
        | true => rfl
        | false => simp [Block.pending, Block.arguments]
    · subst hi
      exact absurd (ActiveBlock.tool.inj (Option.some.inj (hopen.symm.trans hopen'))).1 hk
    · subst hk
      exact absurd (hs.unique index i toolIndex saw saw' hopen hopen') hi
    · refine ⟨_, .opened i saw' ?_, rfl⟩
      rw [Ordered.lookup_upsert hs.sorted, if_neg (Ne.symm hi)]
      exact hopen'
  | gone hcount hgone =>
    have hk : toolIndex ≠ k := fun heq => hgone index saw (heq ▸ hopen)
    rw [if_neg hk]
    refine ⟨[], .gone hcount fun i saw' => ?_, rfl⟩
    rw [Ordered.lookup_upsert hs.sorted]
    split_ifs with hi
    · exact fun heq => hk (ActiveBlock.tool.inj (Option.some.inj heq)).1
    · exact hgone i saw'
  | later hcount =>
    rw [if_neg (hlt.trans_le hcount).ne]
    exact ⟨_, .later hcount, rfl⟩

/-- A block is closed. -/
theorem Owed.blockStop {k : ℕ} {l : List String} {index : ℕ} {block : ActiveBlock}
    (h : Owed s (.blockStop index :: events) k l) (hs : WellNumbered s)
    (hopen : Ordered.lookup index s.active = some block) :
    ∃ l', Owed { s with active := Ordered.erase index s.active } events k l' ∧
      l = (if block = .tool k false then ["\x7b\x7d"] else []) ++ l' := by
  cases h with
  | opened i saw hopen' =>
    rw [blockOf]
    split_ifs with hi hk hk
    · subst hi
      obtain ⟨-, rfl⟩ := ActiveBlock.tool.inj (hk.symm.trans (Option.some.inj
        (hopen.symm.trans hopen')))
      exact ⟨[], .gone (hs.announced index k _ hopen') (gone_erase hs hopen' rfl), rfl⟩
    · subst hi
      have hsaw : saw = true := by
        by_contra hfalse
        rw [Bool.not_eq_true] at hfalse
        exact hk ((Option.some.inj (hopen.symm.trans hopen')).trans (hfalse ▸ rfl))
      rw [hsaw]
      exact ⟨[], .gone (hs.announced index k _ hopen') (gone_erase hs hopen' rfl), rfl⟩
    · subst hk
      exact absurd (hs.unique index i k false saw hopen hopen') hi
    · refine ⟨_, .opened i saw ?_, rfl⟩
      rw [lookup_erase, if_neg (Ne.symm hi)]
      exact hopen'
  | gone hcount hgone =>
    rw [if_neg fun (heq : block = .tool k false) => hgone index false (heq ▸ hopen)]
    refine ⟨[], .gone hcount fun i saw => ?_, rfl⟩
    rw [lookup_erase]
    split_ifs
    · exact (Option.some_ne_none _).symm
    · exact hgone i saw
  | later hcount =>
    have hblock : block ≠ .tool k false := by
      rintro rfl
      exact absurd (hs.announced index k false hopen) (Nat.not_lt.mpr hcount)
    rw [if_neg hblock]
    exact ⟨_, .later hcount, rfl⟩

/-- **Step lemma**: the arguments that an event emits are those it takes from what is owed. -/
theorem Owed.applied {k : ℕ} {l : List String} (h : Owed s (event :: events) k l)
    (hs : WellNumbered s) (hstep : Applied s event s' chunks) :
    ∃ l', Owed s' events k l' ∧ l = chunks.filterMap (Chunk.arguments? k) ++ l' := by
  cases hstep with
  | messageStart id model inputTokens =>
    exact ⟨l, h.keep rfl rfl (fun _ => rfl) rfl, rfl⟩
  | textStart index => exact ⟨l, h.textStart hs, rfl⟩
  | toolStart index callId name hcount => exact ⟨l, h.toolStart hs, rfl⟩
  | textDelta index text hopen => exact ⟨l, h.keep rfl rfl (fun _ => rfl) rfl, rfl⟩
  | inputJsonDelta index partialJson toolIndex saw hopen =>
    obtain ⟨l', howed, hl⟩ := h.inputJsonDelta hs hopen
    refine ⟨l', howed, hl.trans ?_⟩
    by_cases hk : toolIndex = k
    · simp [Chunk.arguments?, hk]
    · simp [Chunk.arguments?, hk]
  | blockStop index block hopen hblock =>
    obtain ⟨l', howed, hl⟩ := h.blockStop hs hopen
    rw [if_neg (hblock k)] at hl
    exact ⟨l', howed, hl⟩
  | emptyBlockStop index toolIndex hopen =>
    obtain ⟨l', howed, hl⟩ := h.blockStop hs hopen
    refine ⟨l', howed, hl.trans ?_⟩
    by_cases hk : toolIndex = k
    · simp [Chunk.arguments?, hk]
    · simp [Chunk.arguments?, hk]
  | messageDelta reason outputTokens => exact ⟨l, h.keep rfl rfl (fun _ => rfl) rfl, rfl⟩
  | messageStop hclosed =>
    refine ⟨l, h.keep rfl rfl (fun _ => rfl) rfl, ?_⟩
    cases s.finishSent with
    | true => rfl
    | false => rfl
  | error message errorType => exact ⟨l, h.keep rfl rfl (fun _ => rfl) rfl, rfl⟩

/-- **Run lemma**: a run emits the arguments that are owed. -/
theorem Run.arguments (h : Run s events s' chunks) (hs : WellNumbered s) {k : ℕ}
    {l : List String} (howed : Owed s events k l) :
    chunks.filterMap (Chunk.arguments? k) = l := by
  induction h generalizing l with
  | nil s => exact howed.nil.symm
  | cons hfirst hrest ih =>
    obtain ⟨l', howed', rfl⟩ := howed.applied hs hfirst
    rw [List.filterMap_append, ih (hs.applied hfirst) howed']

/-! ## The end of the stream -/

theorem Applied.terminal (h : Applied s event s' chunks) :
    s'.terminal = (event.isTerminal || s.terminal) := by
  cases h with
  | _ => rfl

/-- Only an event that ends the stream emits the last chunk, at its end. -/
theorem Applied.isDone (h : Applied s event s' chunks) :
    ∃ before, chunks = before ++ (if event.isTerminal then [.done] else []) ∧
      ∀ chunk ∈ before, chunk.isDone = false := by
  cases h with
  | messageStop hclosed =>
    refine ⟨_, rfl, fun chunk hchunk => ?_⟩
    cases hsent : s.finishSent with
    | true =>
      rw [hsent, if_pos rfl] at hchunk
      exact absurd hchunk List.not_mem_nil
    | false =>
      rw [hsent, if_neg Bool.false_ne_true] at hchunk
      rw [List.mem_singleton.mp hchunk]
      rfl
  | error message errorType =>
    refine ⟨[.error message errorType], rfl, fun chunk hchunk => ?_⟩
    rw [List.mem_singleton.mp hchunk]
    rfl
  | textStart index => exact ⟨[], rfl, fun _ hchunk => absurd hchunk List.not_mem_nil⟩
  | blockStop index block hopen hblock =>
    exact ⟨[], rfl, fun _ hchunk => absurd hchunk List.not_mem_nil⟩
  | _ =>
    refine ⟨[_], rfl, fun chunk hchunk => ?_⟩
    rw [List.mem_singleton.mp hchunk]
    rfl

/-- Whether an event of the list ends the stream. -/
def ends (events : List MessagesEvent) : Bool := events.any MessagesEvent.isTerminal

theorem ends_cons : ends (event :: events) = (event.isTerminal || ends events) := rfl

/-- At most the last event ends the stream. -/
inductive EndsOnce : List MessagesEvent → Prop
  | nil : EndsOnce []
  | last (event : MessagesEvent) (hterminal : event.isTerminal = true) : EndsOnce [event]
  | cons {event : MessagesEvent} {events : List MessagesEvent}
    (hterminal : event.isTerminal = false) (h : EndsOnce events) : EndsOnce (event :: events)

theorem endsOnce_messagesEvents (parse : Json.Parser) (found : List SseEvent) :
    EndsOnce (messagesEvents parse found) := by
  induction found with
  | nil => exact .nil
  | cons event found ih =>
    rw [messagesEvents]
    split_ifs
    · exact ih
    · split
      · exact .nil
      · next read _ =>
        cases hterminal : read.isTerminal with
        | true => exact .last read hterminal
        | false => exact .cons hterminal ih

/-- The last chunk is emitted once, and only when an event ends the stream. -/
theorem Run.isDone (h : Run s events s' chunks) (honce : EndsOnce events) :
    ∃ before, chunks = before ++ (if ends events then [.done] else []) ∧
      ∀ chunk ∈ before, chunk.isDone = false := by
  induction h with
  | nil s => exact ⟨[], rfl, fun _ hchunk => absurd hchunk List.not_mem_nil⟩
  | cons hfirst hrest ih =>
    obtain ⟨first, rfl, hfirst'⟩ := hfirst.isDone
    cases honce with
    | last event hterminal =>
      cases hrest with
      | nil s =>
        refine ⟨first, ?_, hfirst'⟩
        rw [ends_cons, hterminal, List.append_nil]
        rfl
    | cons hterminal hevents =>
      obtain ⟨rest, rfl, hrest'⟩ := ih hevents
      refine ⟨first ++ rest, ?_, fun chunk hchunk => ?_⟩
      · rw [ends_cons, hterminal, if_neg Bool.false_ne_true, List.append_nil, Bool.false_or,
          List.append_assoc]
      · exact (List.mem_append.mp hchunk).elim (hfirst' chunk) (hrest' chunk)

theorem Run.terminal (h : Run s events s' chunks) :
    s'.terminal = (ends events || s.terminal) := by
  induction h with
  | nil s => rfl
  | cons hfirst hrest ih =>
    rw [ih, hfirst.terminal, ends_cons, ← Bool.or_assoc, Bool.or_comm (ends _)]

theorem Applied.openOrClose (h : Applied s event s' chunks) {opened : Finset ℕ}
    (hopened : ∀ i, i ∈ opened ↔ i ∈ s.active.map Prod.fst) (i : ℕ) :
    i ∈ event.openOrClose opened ↔ i ∈ s'.active.map Prod.fst := by
  cases h with
  | textStart index =>
    rw [Ordered.mem_keys_upsert, ← hopened]
    exact Finset.mem_insert
  | toolStart index callId name hcount =>
    rw [Ordered.mem_keys_upsert, ← hopened]
    exact Finset.mem_insert
  | inputJsonDelta index partialJson toolIndex saw hopen =>
    rw [Ordered.mem_keys_upsert, ← hopened]
    refine ⟨Or.inr, fun hi => hi.elim (fun heq => ?_) id⟩
    rw [heq]
    exact (hopened index).mpr (Ordered.mem_keys_of_lookup hopen)
  | blockStop index block hopen hblock =>
    rw [Ordered.mem_keys_erase, ← hopened]
    exact Finset.mem_erase
  | emptyBlockStop index toolIndex hopen =>
    rw [Ordered.mem_keys_erase, ← hopened]
    exact Finset.mem_erase
  | _ => exact hopened i

/-- A message that stops has no open block. -/
theorem Run.openBlocks_eq_empty (h : Run s events s' chunks) (honce : EndsOnce events)
    (hstop : .messageStop ∈ events) {opened : Finset ℕ}
    (hopened : ∀ i, i ∈ opened ↔ i ∈ s.active.map Prod.fst) :
    events.foldl MessagesEvent.openOrClose opened = ∅ := by
  induction h generalizing opened with
  | nil s => exact absurd hstop List.not_mem_nil
  | cons hfirst hrest ih =>
    cases honce with
    | last event hterminal =>
      obtain rfl := List.mem_singleton.mp hstop
      cases hfirst with
      | messageStop hclosed =>
        apply Finset.eq_empty_of_forall_notMem
        intro i hi
        have hmem := (hopened i).mp hi
        rw [hclosed] at hmem
        exact absurd hmem List.not_mem_nil
    | cons hterminal hevents =>
      rcases List.mem_cons.mp hstop with rfl | hlater
      · exact Bool.noConfusion hterminal
      · exact ih hevents hlater fun i => hfirst.openOrClose hopened i

/-- Events after the end are skipped. -/
theorem feed_terminal {parse : Json.Parser} (h : s.terminal = true) (found : List SseEvent) :
    feed (NativeState.translateEvent parse) found s = (s, .ok []) := by
  induction found with
  | nil => rfl
  | cons event found ih =>
    have hskip : NativeState.translateEvent parse event s = (s, .ok []) := by
      rw [NativeState.translateEvent, if_pos (.inl h)]
    rw [feed_cons_ok hskip, ih]
    rfl

/-- The events that the adapter reads, when nothing fails. -/
theorem feed_apply_of_translate {parse : Json.Parser} {found : List SseEvent}
    (hrunning : s.terminal = false)
    (h : feed (NativeState.translateEvent parse) found s = (s', .ok chunks)) :
    feed NativeState.apply (messagesEvents parse found) s = (s', .ok chunks) := by
  induction found generalizing s chunks with
  | nil => exact h
  | cons event found ih =>
    obtain ⟨s₁, first, rest, hfirst, hrest, rfl⟩ := feed_cons_eq_ok h
    rw [NativeState.translateEvent, hrunning] at hfirst
    rw [messagesEvents]
    by_cases hping : event.event = "ping"
    · rw [if_pos (.inr hping)] at hfirst
      obtain ⟨rfl, hnone⟩ := Prod.mk.inj hfirst
      rw [if_pos hping, ← Except.ok.inj hnone]
      exact ih hrunning hrest
    · rw [if_neg (by simp [hping])] at hfirst
      rw [if_neg hping]
      cases hread : readEvent parse event with
      | none =>
        rw [hread] at hfirst
        exact (nomatch (Prod.mk.inj hfirst).2)
      | some read =>
        rw [hread] at hfirst
        have hterminal := (applied_of_apply hfirst).terminal
        rw [hrunning, Bool.or_false] at hterminal
        cases hend : read.isTerminal with
        | true =>
          rw [hend] at hterminal
          rw [feed_terminal hterminal] at hrest
          obtain ⟨rfl, hnone⟩ := Prod.mk.inj hrest
          simp only [hend, if_true]
          rw [feed_cons_ok hfirst, ← Except.ok.inj hnone]
          rfl
        | false =>
          rw [hend] at hterminal
          simp only [hend, Bool.false_eq_true, if_false]
          rw [feed_cons_ok hfirst, ih hterminal hrest]
          rfl

end Apply

/-! ## The operations -/

namespace AnthropicToOpenAiStream

variable {parse : Json.Parser} {s s' : NativeState} {d d' : SseDecoder}
  {chunks : List (List UInt8)} {output : List Chunk}

theorem translateEvents_eq_ok_iff {decoded : SseDecoder × Except SseDecodeError (List SseEvent)}
    {t : AnthropicToOpenAiStream} :
    translateEvents parse decoded s = (t, .ok output) ↔
      ∃ found, decoded = (t.decoder, .ok found) ∧
        feed (NativeState.translateEvent parse) found s = (t.toNativeState, .ok output) := by
  obtain ⟨d, e | found⟩ := decoded
  · constructor
    · intro h
      exact (nomatch (Prod.mk.inj h).2)
    · rintro ⟨found, hdecoded, -⟩
      exact (nomatch (Prod.mk.inj hdecoded).2)
  · constructor
    · intro h
      obtain ⟨rfl, houtput⟩ := Prod.mk.inj h
      exact ⟨found, rfl, Prod.ext rfl houtput⟩
    · rintro ⟨found', hdecoded, hfound⟩
      obtain ⟨rfl, hok⟩ := Prod.mk.inj hdecoded
      rw [← Except.ok.inj hok] at hfound
      rw [translateEvents, hfound]

/-- The pushes decode the chunks and translate the events. -/
theorem pushes_eq_ok_iff {t : AnthropicToOpenAiStream} :
    feed (push parse) chunks ⟨s, d⟩ = (t, .ok output) ↔
      ∃ found, SseDecoder.push chunks.flatten d = (t.decoder, .ok found) ∧
        feed (NativeState.translateEvent parse) found s = (t.toNativeState, .ok output) := by
  induction chunks generalizing s d output with
  | nil =>
    constructor
    · intro h
      obtain ⟨rfl, houtput⟩ := Prod.mk.inj h
      exact ⟨[], rfl, Prod.ext rfl houtput⟩
    · rintro ⟨found, hfound, htranslate⟩
      obtain ⟨hd, hnone⟩ := Prod.mk.inj hfound
      rw [← Except.ok.inj hnone] at htranslate
      obtain ⟨hs, houtput⟩ := Prod.mk.inj htranslate
      rw [← Except.ok.inj houtput, hd, hs]
      rfl
  | cons chunk chunks ih =>
    rw [List.flatten_cons]
    constructor
    · intro h
      obtain ⟨⟨s₁, d₁⟩, output₁, output₂, hfirst, hrest, rfl⟩ := feed_cons_eq_ok h
      obtain ⟨found₁, hchunk, htranslate₁⟩ := translateEvents_eq_ok_iff.mp hfirst
      obtain ⟨found₂, hchunks, htranslate₂⟩ := ih.mp hrest
      refine ⟨found₁ ++ found₂, ?_, ?_⟩
      · rw [SseDecoder.push] at hchunks ⊢
        simp only [feed_append_ok hchunk, hchunks]
        rfl
      · rw [feed_append_ok htranslate₁, htranslate₂]
        rfl
    · rintro ⟨found, hfound, htranslate⟩
      obtain ⟨d₁, found₁, found₂, hchunk, hchunks, rfl⟩ := feed_append_eq_ok hfound
      obtain ⟨s₁, output₁, output₂, htranslate₁, htranslate₂, rfl⟩ := feed_append_eq_ok htranslate
      have hfirst : push parse chunk ⟨s, d⟩ = (⟨s₁, d₁⟩, .ok output₁) :=
        translateEvents_eq_ok_iff.mpr ⟨found₁, hchunk, htranslate₁⟩
      rw [feed_cons_ok hfirst, ih.mpr ⟨found₂, hchunks, htranslate₂⟩]
      rfl

theorem finish_eq_ok_iff {t : AnthropicToOpenAiStream} :
    finish parse ⟨s, d⟩ = (t, .ok output) ↔
      translateEvents parse d.finish s = (t, .ok output) ∧ t.terminal = true := by
  rw [finish]
  rcases translateEvents parse d.finish s with ⟨t₁, e | output₁⟩
  · constructor
    · intro h
      exact (nomatch (Prod.mk.inj h).2)
    · rintro ⟨h, -⟩
      exact (nomatch (Prod.mk.inj h).2)
  · cases hterminal : t₁.terminal with
    | true =>
      simp only [hterminal, if_true]
      constructor
      · intro h
        exact ⟨h, (congrArg (fun x => NativeState.terminal x.1.toNativeState) h).symm.trans
          hterminal⟩
      · exact And.left
    | false =>
      simp only [hterminal, Bool.false_eq_true, if_false]
      constructor
      · intro h
        exact (nomatch (Prod.mk.inj h).2)
      · rintro ⟨h, ht⟩
        rw [← (Prod.mk.inj h).1, hterminal] at ht
        exact absurd ht Bool.false_ne_true

/-- The events of a stream that is decoded to its end. -/
theorem events_eq {bytes : List UInt8} {d₁ : SseDecoder} {found rest : List SseEvent}
    (hfound : SseDecoder.push bytes d = (d₁, .ok found)) (hrest : d₁.finish = (d', .ok rest)) :
    d.events bytes = found ++ rest := by
  have hevents : d.events (bytes ++ []) = found ++ d₁.events [] :=
    SseDecoder.events_append hfound
  rw [List.append_nil, SseDecoder.events, hrest] at hevents
  exact hevents

theorem wellNumbered_fresh : WellNumbered .fresh :=
  ⟨List.Pairwise.nil, fun _ _ _ h => absurd h (Option.some_ne_none _).symm,
    fun _ _ _ _ _ h => absurd h (Option.some_ne_none _).symm⟩

/-- The run of a stream whose pushes succeed and whose rest is translated. -/
theorem run_of_translated {t t' : AnthropicToOpenAiStream} {rest : List Chunk}
    (hpush : feed (push parse) chunks default = (t, .ok output))
    (hrest : translateEvents parse t.decoder.finish t.toNativeState = (t', .ok rest)) :
    Run .fresh (messagesEvents parse (SseDecoder.default.events chunks.flatten))
      t'.toNativeState (output ++ rest) := by
  obtain ⟨found, hfound, htranslate⟩ := pushes_eq_ok_iff.mp hpush
  obtain ⟨found', hfound', htranslate'⟩ := translateEvents_eq_ok_iff.mp hrest
  apply run_of_feed
  rw [events_eq hfound hfound']
  apply feed_apply_of_translate rfl
  rw [feed_append_ok htranslate, htranslate']
  rfl

theorem terminal_of_run {events : List MessagesEvent} (h : Run .fresh events s' output) :
    s'.terminal = ends events :=
  h.terminal.trans (Bool.or_false _)

/-- A stream whose pushes succeed. When its end succeeds too, the chunks hold the texts of the
deltas, every tool block is announced in its turn, and its arguments are its fragments, or the
empty object when it is closed without any; the last chunk, and no other, ends the stream, and a
message that stops has no open block. The end succeeds when the rest is decoded and translated and
an event ended the stream. -/
theorem native_stream_translated (parse : Json.Parser) (chunks : List (List UInt8))
    (t : AnthropicToOpenAiStream) (output : List Chunk)
    (hpush : feed (push parse) chunks default = (t, .ok output)) (events : List MessagesEvent)
    (hevents : messagesEvents parse (SseDecoder.default.events chunks.flatten) = events) :
    (∀ t' rest, finish parse t = (t', .ok rest) →
      String.join ((output ++ rest).filterMap Chunk.content?) =
        String.join (events.filterMap MessagesEvent.text?) ∧
      (output ++ rest).filterMap Chunk.toolCall? = announcements 0 (startedTools events) ∧
      (∀ k tool, (startedTools events)[k]? = some tool →
        (output ++ rest).filterMap (Chunk.arguments? k) = tool.block.arguments) ∧
      (∀ k, (startedTools events).length ≤ k →
        (output ++ rest).filterMap (Chunk.arguments? k) = []) ∧
      (∃ before, output ++ rest = before ++ [.done] ∧
        ∀ chunk ∈ before, chunk.isDone = false) ∧
      (.messageStop ∈ events → openBlocks events = ∅)) ∧
    ((∃ t' rest, finish parse t = (t', .ok rest)) ↔
      (∃ d found, t.decoder.finish = (d, .ok found) ∧
        ∃ s rest, feed (NativeState.translateEvent parse) found t.toNativeState = (s, .ok rest)) ∧
      ends events = true) := by
  subst hevents
  have honce := endsOnce_messagesEvents parse (SseDecoder.default.events chunks.flatten)
  constructor
  · intro t' rest hfinish
    obtain ⟨htranslated, hterminal⟩ := finish_eq_ok_iff.mp hfinish
    have hrun := run_of_translated hpush htranslated
    rw [terminal_of_run hrun] at hterminal
    have harguments : ∀ k, (output ++ rest).filterMap (Chunk.arguments? k) = _ := fun k =>
      hrun.arguments wellNumbered_fresh (.later (Nat.zero_le k))
    refine ⟨congrArg String.join hrun.contents, hrun.announcements, ?_, ?_, ?_, ?_⟩
    · intro k tool htool
      rw [harguments, NativeState.fresh, Nat.sub_zero, htool]
      rfl
    · intro k hk
      rw [harguments, NativeState.fresh, Nat.sub_zero, List.getElem?_eq_none hk]
      rfl
    · obtain ⟨before, hbefore, hdone⟩ := hrun.isDone honce
      rw [hterminal, if_pos rfl] at hbefore
      exact ⟨before, hbefore, hdone⟩
    · intro hstop
      refine hrun.openBlocks_eq_empty honce hstop fun i => ?_
      simp [NativeState.fresh]
  · constructor
    · rintro ⟨t', rest, hfinish⟩
      obtain ⟨htranslated, hterminal⟩ := finish_eq_ok_iff.mp hfinish
      rw [terminal_of_run (run_of_translated hpush htranslated)] at hterminal
      obtain ⟨found, hfound, hrest⟩ := translateEvents_eq_ok_iff.mp htranslated
      exact ⟨⟨t'.decoder, found, hfound, t'.toNativeState, rest, hrest⟩, hterminal⟩
    · rintro ⟨⟨d, found, hfound, s, rest, hrest⟩, hends⟩
      have htranslated : translateEvents parse t.decoder.finish t.toNativeState =
          (⟨s, d⟩, .ok rest) := translateEvents_eq_ok_iff.mpr ⟨found, hfound, hrest⟩
      refine ⟨⟨s, d⟩, rest, finish_eq_ok_iff.mpr ⟨htranslated, ?_⟩⟩
      rw [← hends]
      exact terminal_of_run (run_of_translated hpush htranslated)

/-- The start of a tool block. -/
def toolPayload : Json :=
  .object [("index", .nat 0), ("content_block", .object [("type", .string "tool_use"),
    ("id", .string "t"), ("name", .string "f")])]

/-- The end of a block. -/
def stopPayload : Json := .object [("index", .nat 0)]

/-- An empty object, for events that need no payload. -/
def emptyPayload : Json := .object []

/-- An event with its payload. -/
def eventBytes (event : String) (payload : Json) : List UInt8 :=
  utf8 ("event: ".toList ++ event.toList ++ "\ndata: ".toList) ++ payload.bytes ++
    utf8 ['\n', '\n']

def samplePayloads : List Json := [toolPayload, stopPayload, emptyPayload]

/-- A tool block without fragments, in a message that stops. -/
def emptyToolStream : List UInt8 :=
  eventBytes "content_block_start" toolPayload ++ eventBytes "content_block_stop" stopPayload ++
    eventBytes "message_stop" emptyPayload

theorem exists_ok {S E O : Type} (x : S × Except E (List O)) (h : x.2.toOption.isSome = true) :
    ∃ l, x = (x.1, .ok l) := by
  obtain ⟨s, e | l⟩ := x
  · exact absurd h Bool.false_ne_true
  · exact ⟨l, rfl⟩

/-- The first tool block of a stream. -/
theorem exists_tool {events : List MessagesEvent} {block : Block} {blocks : List Block}
    (h : (startedTools events).map StartedTool.block = block :: blocks) :
    ∃ tool, (startedTools events)[0]? = some tool ∧ tool.block = block := by
  cases htools : startedTools events with
  | nil =>
    rw [htools] at h
    exact absurd h.symm (List.cons_ne_nil _ _)
  | cons tool tools =>
    rw [htools, List.map_cons] at h
    exact ⟨tool, rfl, (List.cons.inj h).1⟩

theorem native_stream_emptyTool :
    ∃ t output t' rest,
      feed (push (.ofValues samplePayloads)) [emptyToolStream] default = (t, .ok output) ∧
      finish (.ofValues samplePayloads) t = (t', .ok rest) ∧
      (output ++ rest).filterMap (Chunk.arguments? 0) = ["\x7b\x7d"] := by
  obtain ⟨output, hpush⟩ := exists_ok
    (feed (push (.ofValues samplePayloads)) [emptyToolStream] default) (by decide +kernel)
  obtain ⟨rest, hfinish⟩ := exists_ok (finish (.ofValues samplePayloads)
    (feed (push (.ofValues samplePayloads)) [emptyToolStream] default).1) (by decide +kernel)
  refine ⟨_, output, _, rest, hpush, hfinish, ?_⟩
  have hblocks : (startedTools (messagesEvents (.ofValues samplePayloads)
      (SseDecoder.default.events [emptyToolStream].flatten))).map StartedTool.block =
      [⟨[], true⟩] := by
    decide +kernel
  obtain ⟨tool, htool, hblock⟩ := exists_tool hblocks
  have harguments := ((native_stream_translated (.ofValues samplePayloads) [emptyToolStream] _
    output hpush _ rfl).1 _ rest hfinish).2.2.1 0 tool htool
  rw [harguments, hblock]
  rfl

/-- A tool block without fragments, in a message that ends with an error. -/
def failedToolStream : List UInt8 :=
  eventBytes "content_block_start" toolPayload ++ eventBytes "error" emptyPayload

/-- An error leaves the arguments of an open tool block as they are. -/
theorem failedTool_without_arguments :
    ¬ ∀ parse chunks t output t' rest, feed (push parse) chunks default = (t, .ok output) →
      finish parse t = (t', .ok rest) → ∀ k tool,
      (startedTools (messagesEvents parse (SseDecoder.default.events chunks.flatten)))[k]? =
        some tool →
      String.join ((output ++ rest).filterMap (Chunk.arguments? k)) =
        if tool.block.fragments = [] then "\x7b\x7d" else String.join tool.block.fragments := by
  intro h
  obtain ⟨output, hpush⟩ := exists_ok
    (feed (push (.ofValues samplePayloads)) [failedToolStream] default) (by decide +kernel)
  obtain ⟨rest, hfinish⟩ := exists_ok (finish (.ofValues samplePayloads)
    (feed (push (.ofValues samplePayloads)) [failedToolStream] default).1) (by decide +kernel)
  have hblocks : (startedTools (messagesEvents (.ofValues samplePayloads)
      (SseDecoder.default.events [failedToolStream].flatten))).map StartedTool.block =
      [⟨[], false⟩] := by
    decide +kernel
  obtain ⟨tool, htool, hblock⟩ := exists_tool hblocks
  have hclaimed := h _ _ _ output _ rest hpush hfinish 0 tool htool
  have houtput : (feed (push (.ofValues samplePayloads)) [failedToolStream]
      default).2.toOption.map (List.filterMap (Chunk.arguments? 0)) = some [] := by
    decide +kernel
  have hrest : (finish (.ofValues samplePayloads) (feed (push (.ofValues samplePayloads))
      [failedToolStream] default).1).2.toOption.map (List.filterMap (Chunk.arguments? 0)) =
      some [] := by
    decide +kernel
  rw [hpush] at houtput
  rw [hfinish] at hrest
  rw [List.filterMap_append, Option.some.inj houtput, Option.some.inj hrest, hblock] at hclaimed
  exact absurd hclaimed (by decide)

end AnthropicToOpenAiStream

end WayfinderRouter.Providers
