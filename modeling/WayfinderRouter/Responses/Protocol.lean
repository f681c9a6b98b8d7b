import WayfinderRouter.Responses.Stream

/-!
# The protocol of response streams

What upstream says is a list of pieces: contents, and fragments of tool calls under their
indices. While a stream is relayed, the frames so far are the created frame and the contents, and
the relay holds what the pieces add up to. The relay ends with one terminal frame, and a completed
response is what all pieces up to the terminator add up to.

The items of a stream are numbered by upstream indices and those of the completed response by
positions, so they agree exactly when the indices have no gaps.

## Main definitions

- `Piece`, `upstreamPieces` — what upstream says, up to its terminator
- `Relayed` — what a relay holds
- `Completes`, `Fails` — how a stream ends

## Main results

- `stream_protocol` — the frames of every stream
- `items_agree_iff` — when the items of a stream are those of its response
-/

namespace WayfinderRouter.Responses

open Providers Transducer

/-! ## Pieces -/

/-- What a delta says. A text is not empty. -/
inductive Piece where
  | text (text : String)
  | call (index : ℕ) (fragment : ChatToolCall)

def callPieces (call : Json) : List Piece :=
  call.asObject.toList.map fun call => .call (toolCallIndex call) (toolCallFragment call)

def contentPieces (delta : Json) : List Piece :=
  (((delta.get "content").bind Json.asStr).filter (· ≠ "")).toList.map .text

def choicePieces (choice : Json) : List Piece :=
  (choice.get "delta").toList.flatMap fun delta =>
    (((delta.get "tool_calls").bind Json.asArray).getD []).flatMap callPieces ++
      contentPieces delta

def valuePieces (value : Json) : List Piece :=
  (((value.get "choices").bind Json.asArray).getD []).flatMap choicePieces

def eventPieces (parse : Json.Parser) (event : SseEvent) : List Piece :=
  (parse (utf8 event.data.toList)).toList.flatMap valuePieces

/-- The events before the terminator. -/
def beforeDone (events : List SseEvent) : List SseEvent :=
  events.takeWhile (·.data ≠ "[DONE]")

/-- What upstream says before the terminator. -/
def upstreamPieces (parse : Json.Parser) (events : List SseEvent) : List Piece :=
  (beforeDone events).flatMap (eventPieces parse)

/-- The number of events up to the terminator and with it. -/
def consumed (events : List SseEvent) : ℕ :=
  min events.length ((beforeDone events).length + 1)

namespace Piece

def text? : Piece → Option String
  | .text t => some t
  | .call .. => none

def index? : Piece → Option ℕ
  | .text _ => none
  | .call index _ => some index

def fragment? (index : ℕ) : Piece → Option ChatToolCall
  | .text _ => none
  | .call i fragment => if i = index then some fragment else none

def toolChars : Piece → ℕ
  | .text _ => 0
  | .call _ fragment => fragment.chars

end Piece

section Pieces

variable (pieces : List Piece)

/-- The content deltas. -/
def texts : List String := pieces.filterMap Piece.text?

/-- The upstream indices that tool calls are carried under. -/
def carried : List ℕ := pieces.filterMap Piece.index?

/-- The fragments that are carried under an index. -/
def fragments (index : ℕ) : List ChatToolCall := pieces.filterMap (Piece.fragment? index)

/-- The tool call of an index. -/
def callOf (index : ℕ) : ChatToolCall :=
  ⟨String.join ((fragments pieces index).map ChatToolCall.id),
    String.join ((fragments pieces index).map ChatToolCall.name),
    String.join ((fragments pieces index).map ChatToolCall.arguments)⟩

def toolChars : ℕ := (pieces.map Piece.toolChars).sum

end Pieces

/-! ## What a relay holds -/

variable (x : Exchange)

/-- The frames of contents, after the first frame. -/
def contentFrames (deltas : List String) : List Frame :=
  ResponsesStreamRelay.createdFrame x :: deltas.map (.outputTextDelta x.responseId)

/-- The items that a stream emits; the tool calls are numbered by their upstream indices. -/
def itemsDone (text : String) (toolCalls : List (ℕ × ChatToolCall)) : List Json :=
  (if text = "" then [] else [x.messageOutput text "completed"]) ++
    toolCalls.map fun e => x.toolCallOutput e.1 e.2

/-- A relay that has read the pieces of `n` events. The frames `emitted` have left its queue. -/
structure Relayed (n : ℕ) (emitted : List Frame) (pieces : List Piece) (r : Relay) : Prop where
  running : r.terminal = false
  frames : emitted ++ r.pending = contentFrames x (texts pieces)
  output : r.output = String.join (texts pieces)
  sorted : Ordered.Sorted r.toolCalls
  calls : ∀ index, Ordered.lookup index r.toolCalls =
    if index ∈ carried pieces then some (callOf pieces index) else none
  toolChars : r.toolOutputChars = toolChars pieces
  chars : r.output.length + r.toolOutputChars ≤ maxOutputChars
  tools : r.toolCalls.length ≤ maxTools
  count : r.eventCount = n

/-- A relay that is still to emit its terminal frame. -/
structure Emits (emitted : List Frame) (r : Relay) : Prop where
  running : r.terminal = false
  frames : ∃ deltas, emitted ++ r.pending = contentFrames x deltas

/-- The frames of a stream that fails. -/
def Fails (frames : List Frame) : Prop :=
  ∃ deltas response message, frames = contentFrames x deltas ++ [.failed response message]

variable {x} {n : ℕ} {emitted : List Frame} {pieces : List Piece} {r r' : Relay}

theorem Relayed.emits (h : Relayed x n emitted pieces r) : Emits x emitted r :=
  ⟨h.running, _, h.frames⟩

theorem Emits.fail (h : Emits x emitted r) (message : String) :
    (r.fail x message).terminal = true ∧ (r.fail x message).pending ≠ [] ∧
      Fails x (emitted ++ (r.fail x message).pending) := by
  obtain ⟨deltas, hframes⟩ := h.frames
  have hrunning : ¬ r.terminal = true := by
    rw [h.running]
    exact Bool.false_ne_true
  rw [Relay.fail, if_neg hrunning]
  refine ⟨rfl, List.append_ne_nil_of_right_ne_nil _ (List.cons_ne_nil _ _), deltas,
    x.responseValue r.output (r.toolCalls.map Prod.snd) r.usage "failed" x.endedAt, message, ?_⟩
  rw [← hframes, List.append_assoc]

/-! ## Tool calls -/

theorem texts_append (more : List Piece) : texts (pieces ++ more) = texts pieces ++ texts more :=
  List.filterMap_append

theorem carried_append (more : List Piece) :
    carried (pieces ++ more) = carried pieces ++ carried more :=
  List.filterMap_append

theorem toolChars_append (more : List Piece) :
    toolChars (pieces ++ more) = toolChars pieces + toolChars more := by
  rw [toolChars, List.map_append, List.sum_append]
  rfl

theorem fragments_append (more : List Piece) (index : ℕ) :
    fragments (pieces ++ more) index = fragments pieces index ++ fragments more index :=
  List.filterMap_append

theorem fragments_of_not_mem {index : ℕ} (h : index ∉ carried pieces) :
    fragments pieces index = [] := by
  refine List.filterMap_eq_nil_iff.mpr fun piece hpiece => ?_
  cases piece with
  | text t => rfl
  | call i fragment =>
    refine if_neg fun hi => h ?_
    exact List.mem_filterMap.mpr ⟨_, hpiece, congrArg some hi⟩

theorem callOf_of_not_mem {index : ℕ} (h : index ∉ carried pieces) :
    callOf pieces index = .empty := by
  rw [callOf, fragments_of_not_mem h]
  rfl

/-- A fragment is added to the tool call of its index. -/
theorem callOf_append_call (index i : ℕ) (fragment : ChatToolCall) :
    callOf (pieces ++ [.call i fragment]) index =
      if index = i then (callOf pieces index).append fragment else callOf pieces index := by
  have hone : fragments [.call i fragment] index = if i = index then [fragment] else [] := by
    by_cases h : i = index
    · simp [fragments, Piece.fragment?, h]
    · simp [fragments, Piece.fragment?, h]
  rw [callOf, fragments_append, hone]
  by_cases h : index = i
  · rw [if_pos h.symm, if_pos h]
    simp only [List.map_append, String.join_append, List.map_singleton, String.join_cons,
      String.join_nil, String.append_empty, callOf, ChatToolCall.append]
  · rw [if_neg (Ne.symm h), if_neg h, List.append_nil, callOf]

theorem Relayed.toolCall (h : Relayed x n emitted pieces r) {index : ℕ} {fragment : ChatToolCall}
    (hroom : ¬ ((Ordered.lookup index r.toolCalls).isNone ∧ maxTools ≤ r.toolCalls.length))
    (hchars : ¬ maxOutputChars < r.output.length + (r.toolOutputChars + fragment.chars)) :
    Relayed x n emitted (pieces ++ [.call index fragment])
      { r with
        toolCalls := Ordered.upsert index (fun toolCall => (toolCall.getD .empty).append fragment)
          r.toolCalls
        toolOutputChars := r.toolOutputChars + fragment.chars } where
  running := h.running
  frames := by
    rw [texts_append]
    exact h.frames.trans (congrArg _ (List.append_nil _).symm)
  output := by
    rw [texts_append]
    exact h.output.trans (congrArg _ (List.append_nil _).symm)
  sorted := h.sorted.upsert
  calls := by
    intro i
    rw [Ordered.lookup_upsert h.sorted, h.calls, h.calls, carried_append, callOf_append_call]
    have hmem : i ∈ carried pieces ++ carried [.call index fragment] ↔
        i ∈ carried pieces ∨ i = index := by
      rw [List.mem_append]
      exact or_congr_right List.mem_singleton
    by_cases hi : i = index
    · rw [if_pos hi, if_pos (hmem.mpr (.inr hi)), if_pos hi]
      subst hi
      by_cases hcarried : i ∈ carried pieces
      · rw [if_pos hcarried]
        rfl
      · rw [if_neg hcarried, callOf_of_not_mem hcarried]
        rfl
    · rw [if_neg hi, if_neg hi]
      exact if_congr (by rw [hmem, or_iff_left hi]) rfl rfl
  toolChars := by
    rw [toolChars_append, ← h.toolChars]
    rfl
  chars := Nat.not_lt.mp hchars
  tools := by
    by_cases hnew : (Ordered.lookup index r.toolCalls).isNone
    · have hnot : index ∉ r.toolCalls.map Prod.fst :=
        Ordered.lookup_eq_none_iff.mp (Option.isNone_iff_eq_none.mp hnew)
      have hlength := Ordered.length_upsert_of_not_mem
        (f := fun toolCall => (toolCall.getD .empty).append fragment) hnot
      have hlt : r.toolCalls.length < maxTools := Nat.not_le.mp fun hle => hroom ⟨hnew, hle⟩
      show (Ordered.upsert _ _ _).length ≤ maxTools
      omega
    · have hmem : index ∈ r.toolCalls.map Prod.fst := by
        by_contra hnot
        rw [Ordered.lookup_eq_none_iff.mpr hnot] at hnew
        exact hnew rfl
      have hlength := Ordered.length_upsert_of_mem
        (f := fun toolCall => (toolCall.getD .empty).append fragment) h.sorted hmem
      have htools := h.tools
      show (Ordered.upsert _ _ _).length ≤ maxTools
      omega
  count := h.count

/-- **Step lemma**: a tool call delta adds its fragment. -/
theorem Relayed.accumulateToolCall (h : Relayed x n emitted pieces r) {call : Json}
    (hstep : r.accumulateToolCall call = (r', none)) :
    Relayed x n emitted (pieces ++ callPieces call) r' := by
  rw [Relay.accumulateToolCall] at hstep
  cases hcall : call.asObject with
  | none =>
    rw [hcall] at hstep
    cases hstep
  | some entries =>
    rw [hcall] at hstep
    simp only at hstep
    split at hstep
    · cases hstep
    · next hroom =>
      obtain ⟨rfl, hnone⟩ := Prod.mk.inj hstep
      split at hnone
      · cases hnone
      · next hchars =>
        rw [callPieces, hcall]
        exact h.toolCall hroom hchars

theorem Relayed.accumulateToolCall_error (h : Relayed x n emitted pieces r) {call : Json}
    {error : String} (hstep : r.accumulateToolCall call = (r', some error)) :
    Emits x emitted r' := by
  rw [Relay.accumulateToolCall] at hstep
  cases hcall : call.asObject with
  | none =>
    rw [hcall] at hstep
    cases hstep
    exact h.emits
  | some entries =>
    rw [hcall] at hstep
    simp only at hstep
    split at hstep
    · cases hstep
      exact h.emits
    · obtain ⟨rfl, -⟩ := Prod.mk.inj hstep
      exact ⟨h.running, h.emits.frames⟩

theorem Relayed.text (h : Relayed x n emitted pieces r) {text : String}
    (hchars : ¬ maxOutputChars < r.output.length + r.toolOutputChars + text.length) :
    Relayed x n emitted (pieces ++ [.text text])
      { r with
        output := r.output ++ text
        pending := r.pending ++ [.outputTextDelta x.responseId text] } where
  running := h.running
  frames := by
    rw [texts_append, ← List.append_assoc, h.frames, contentFrames, contentFrames, List.map_append]
    rfl
  output := by
    rw [texts_append, String.join_append, ← h.output]
    show r.output ++ text = r.output ++ String.join [text]
    rw [String.join_cons, String.join_nil, String.append_empty]
  sorted := h.sorted
  calls := by
    have hcarried : carried (pieces ++ [.text text]) = carried pieces := by
      rw [carried_append]
      exact List.append_nil _
    have hcall : ∀ index, callOf (pieces ++ [.text text]) index = callOf pieces index := by
      intro index
      rw [callOf, fragments_append]
      exact congrArg (fun l : List ChatToolCall => (⟨String.join (l.map ChatToolCall.id),
        String.join (l.map ChatToolCall.name), String.join (l.map ChatToolCall.arguments)⟩ :
          ChatToolCall)) (List.append_nil _)
    intro index
    rw [h.calls, hcarried, hcall]
  toolChars := by
    rw [toolChars_append]
    exact h.toolChars
  chars := by
    show (r.output ++ text).length + r.toolOutputChars ≤ maxOutputChars
    rw [String.length_append]
    omega
  tools := h.tools
  count := h.count

/-! ## Events -/

theorem Relayed.accumulateToolCalls (h : Relayed x n emitted pieces r) (calls : List Json) :
    (∃ r', r.accumulateToolCalls calls = (r', none) ∧
      Relayed x n emitted (pieces ++ calls.flatMap callPieces) r') ∨
    ∃ r' error, r.accumulateToolCalls calls = (r', some error) ∧ Emits x emitted r' := by
  refine each_spec (p := fun done r => Relayed x n emitted (pieces ++ done.flatMap callPieces) r)
    (fun hdone hstep => ?_) (fun hdone hstep => hdone.accumulateToolCall_error hstep)
    ?_ calls
  · rw [List.flatMap_append, ← List.append_assoc, List.flatMap_singleton]
    exact hdone.accumulateToolCall hstep
  · rw [List.flatMap_nil, List.append_nil]
    exact h

theorem Relayed.addContent (h : Relayed x n emitted pieces r) (delta : Json) :
    (∃ r', r.addContent x delta = (r', none) ∧
      Relayed x n emitted (pieces ++ contentPieces delta) r') ∨
    ∃ r' error, r.addContent x delta = (r', some error) ∧ Emits x emitted r' := by
  rw [Relay.addContent, contentPieces]
  cases hcontent : (delta.get "content").bind Json.asStr with
  | none =>
    refine .inl ⟨r, rfl, ?_⟩
    rw [Option.filter_none, Option.toList_none, List.map_nil, List.append_nil]
    exact h
  | some text =>
    by_cases hempty : text = ""
    · simp only [if_pos hempty]
      rw [Option.filter_some_neg (by simp [hempty]), Option.toList_none, List.map_nil,
        List.append_nil]
      exact .inl ⟨r, rfl, h⟩
    · simp only [if_neg hempty]
      rw [Option.filter_some_pos (by simp [hempty])]
      by_cases hchars : maxOutputChars < r.output.length + r.toolOutputChars + text.length
      · rw [if_pos hchars]
        exact .inr ⟨r, _, rfl, h.emits⟩
      · rw [if_neg hchars]
        exact .inl ⟨_, rfl, h.text hchars⟩

theorem Relayed.processChoice (h : Relayed x n emitted pieces r) (choice : Json) :
    (∃ r', r.processChoice x choice = (r', none) ∧
      Relayed x n emitted (pieces ++ choicePieces choice) r') ∨
    ∃ r' error, r.processChoice x choice = (r', some error) ∧ Emits x emitted r' := by
  rw [Relay.processChoice, choicePieces]
  cases hdelta : choice.get "delta" with
  | none =>
    refine .inl ⟨r, rfl, ?_⟩
    rw [Option.toList_none, List.flatMap_nil, List.append_nil]
    exact h
  | some delta =>
    rw [Option.toList_some, List.flatMap_singleton, ← List.append_assoc]
    rcases h.accumulateToolCalls (((delta.get "tool_calls").bind Json.asArray).getD []) with
      ⟨r₁, hcalls, hr₁⟩ | ⟨r₁, error, hcalls, hr₁⟩
    · simp only [hcalls]
      exact hr₁.addContent delta
    · simp only [hcalls]
      exact .inr ⟨r₁, error, rfl, hr₁⟩

theorem Relayed.processChoices (h : Relayed x n emitted pieces r) (choices : List Json) :
    (∃ r', each (Relay.processChoice x) choices r = (r', none) ∧
      Relayed x n emitted (pieces ++ choices.flatMap choicePieces) r') ∨
    ∃ r' error, each (Relay.processChoice x) choices r = (r', some error) ∧ Emits x emitted r' := by
  have hstep := fun {choice : Json} {done : List Json} {r : Relay}
    (hdone : Relayed x n emitted (pieces ++ done.flatMap choicePieces) r) =>
      hdone.processChoice choice
  refine each_spec (p := fun done r => Relayed x n emitted (pieces ++ done.flatMap choicePieces) r)
    (fun hdone hchoice => ?_) (fun hdone hchoice => ?_) ?_ choices
  · rcases hstep hdone with ⟨r₁, heq, hr₁⟩ | ⟨r₁, error, heq, -⟩
    · cases heq.symm.trans hchoice
      rw [List.flatMap_append, ← List.append_assoc, List.flatMap_singleton]
      exact hr₁
    · cases heq.symm.trans hchoice
  · rcases hstep hdone with ⟨r₁, heq, -⟩ | ⟨r₁, error, heq, hr₁⟩
    · cases heq.symm.trans hchoice
    · cases heq.symm.trans hchoice
      exact hr₁
  · rw [List.flatMap_nil, List.append_nil]
    exact h

/-- The relay has failed, and its terminal frame is in the queue. -/
structure Failed (x : Exchange) (emitted : List Frame) (r : Relay) : Prop where
  terminal : r.terminal = true
  pending : r.pending ≠ []
  frames : Fails x (emitted ++ r.pending)

theorem Emits.failed (h : Emits x emitted r) (message : String) :
    Failed x emitted (r.fail x message) :=
  ⟨(h.fail message).1, (h.fail message).2.1, (h.fail message).2.2⟩

theorem Relayed.processValue (h : Relayed x n emitted pieces r) (value : Json) :
    Relayed x n emitted (pieces ++ valuePieces value) (r.processValue x value) ∨
      Failed x emitted (r.processValue x value) := by
  rw [Relay.processValue, valuePieces]
  cases value.get "error" with
  | some error => exact .inr (h.emits.failed _)
  | none =>
    have husage : Relayed x n emitted pieces
      { r with usage := (extractUsage value).or r.usage } := { h with }
    rcases husage.processChoices (((value.get "choices").bind Json.asArray).getD []) with
      ⟨r₁, heq, hr₁⟩ | ⟨r₁, error, heq, hr₁⟩
    · simp only [heq]
      exact .inl hr₁
    · simp only [heq]
      exact .inr (hr₁.failed _)

/-! ## Completion -/

/-- The frames of a stream that completes with pieces. -/
def Completes (x : Exchange) (pieces : List Piece) (frames : List Frame) : Prop :=
  ∃ (indices : List ℕ) (usage : Option Usage), indices.Pairwise (· < ·) ∧
    (∀ index, index ∈ indices ↔ index ∈ carried pieces) ∧
    frames = contentFrames x (texts pieces) ++
      (itemsDone x (String.join (texts pieces)) (indices.map fun i => (i, callOf pieces i))).map
        .outputItemDone ++
      [.completed (x.responseValue (String.join (texts pieces)) (indices.map (callOf pieces)) usage
        "completed" x.endedAt)] ∧
    indices.length ≤ maxTools ∧
    (String.join (texts pieces)).length + toolChars pieces ≤ maxOutputChars

/-- The relay has completed, and its terminal frames are in the queue. -/
structure Completed (x : Exchange) (emitted : List Frame) (pieces : List Piece) (r : Relay) :
    Prop where
  terminal : r.terminal = true
  pending : r.pending ≠ []
  frames : Completes x pieces (emitted ++ r.pending)

theorem Relayed.complete (h : Relayed x n emitted pieces r) :
    Completed x emitted pieces (r.complete x) := by
  have hrunning : ¬ r.terminal = true := by
    rw [h.running]
    exact Bool.false_ne_true
  have hcalls : r.toolCalls = (r.toolCalls.map Prod.fst).map fun i => (i, callOf pieces i) := by
    rw [List.map_map]
    refine (List.map_id _).symm.trans (List.map_congr_left fun e he => ?_)
    have hlookup := h.sorted.lookup_of_mem (k := e.1) (v := e.2) he
    rw [h.calls] at hlookup
    by_cases hmem : e.1 ∈ carried pieces
    · rw [if_pos hmem] at hlookup
      exact Prod.ext rfl (Option.some.inj hlookup).symm
    · rw [if_neg hmem] at hlookup
      cases hlookup
  have hsnd : r.toolCalls.map Prod.snd = (r.toolCalls.map Prod.fst).map (callOf pieces) := by
    have hsnd := congrArg (List.map Prod.snd) hcalls
    rw [List.map_map] at hsnd
    exact hsnd
  have hmem : ∀ index, index ∈ r.toolCalls.map Prod.fst ↔ index ∈ carried pieces := by
    intro index
    rw [← not_iff_not, ← Ordered.lookup_eq_none_iff, h.calls]
    by_cases hindex : index ∈ carried pieces
    · simp [hindex]
    · simp [hindex]
  rw [Relay.complete, if_neg hrunning]
  refine ⟨rfl, List.append_ne_nil_of_right_ne_nil _ (List.cons_ne_nil _ _),
    r.toolCalls.map Prod.fst, r.usage, h.sorted, hmem, ?_, ?_, ?_⟩
  · rw [← hcalls, ← hsnd, ← h.output, ← h.frames, itemsDone, List.map_append, List.map_map]
    by_cases hempty : r.output = ""
    · simp [hempty]
    · simp [hempty]
  · rw [List.length_map]
    exact h.tools
  · rw [← h.output, ← h.toolChars]
    exact h.chars

/-- A relay that has read events, none of them the terminator. -/
structure Running (x : Exchange) (emitted : List Frame) (events : List SseEvent) (r : Relay) :
    Prop where
  relayed : Relayed x events.length emitted (events.flatMap (eventPieces x.parse)) r
  bounded : events.length ≤ maxStreamEvents
  open_ : ∀ event ∈ events, event.data ≠ "[DONE]"

/-- The relay has completed with the events up to the terminator. -/
structure CompletedBy (x : Exchange) (emitted : List Frame) (events : List SseEvent) (r : Relay) :
    Prop where
  completed : Completed x emitted (upstreamPieces x.parse events) r
  bounded : consumed events ≤ maxStreamEvents

variable {events : List SseEvent}

theorem beforeDone_append (h : ∀ event ∈ events, event.data ≠ "[DONE]") (more : List SseEvent) :
    beforeDone (events ++ more) = events ++ beforeDone more :=
  List.takeWhile_append_of_pos fun event he => decide_eq_true (h event he)

theorem upstreamPieces_append (h : ∀ event ∈ events, event.data ≠ "[DONE]") (parse : Json.Parser)
    (more : List SseEvent) :
    upstreamPieces parse (events ++ more) =
      events.flatMap (eventPieces parse) ++ upstreamPieces parse more := by
  rw [upstreamPieces, beforeDone_append h, List.flatMap_append, upstreamPieces]

/-- **Step lemma**: an event is read, or ends the stream. -/
theorem Running.processEvent (h : Running x emitted events r) (event : SseEvent) :
    Running x emitted (events ++ [event]) (r.processEvent x event) ∨
      Failed x emitted (r.processEvent x event) ∨
      ∀ rest, CompletedBy x emitted (events ++ event :: rest) (r.processEvent x event) := by
  have hcounted : Relayed x (events.length + 1) emitted (events.flatMap (eventPieces x.parse))
    { r with eventCount := r.eventCount + 1 } :=
    { h.relayed with count := congrArg (· + 1) h.relayed.count }
  rw [Relay.processEvent]
  by_cases hmany : maxStreamEvents < r.eventCount + 1
  · simp only [if_pos hmany]
    exact .inr (.inl (hcounted.emits.failed _))
  · simp only [if_neg hmany]
    have hcount : events.length + 1 ≤ maxStreamEvents := h.relayed.count ▸ Nat.not_lt.mp hmany
    by_cases hdone : event.data = "[DONE]"
    · rw [if_pos hdone]
      refine .inr (.inr fun rest => ?_)
      have hbefore : beforeDone (event :: rest) = [] := by
        rw [beforeDone, List.takeWhile_cons_of_neg (by simp [hdone])]
      refine ⟨?_, ?_⟩
      · rw [upstreamPieces_append h.open_, upstreamPieces, hbefore, List.flatMap_nil,
          List.append_nil]
        exact hcounted.complete
      · rw [consumed, beforeDone_append h.open_, hbefore, List.append_nil]
        exact (min_le_right _ _).trans hcount
    · rw [if_neg hdone]
      have hopen : ∀ event' ∈ events ++ [event], event'.data ≠ "[DONE]" := by
        intro event' he
        rcases List.mem_append.mp he with he | he
        · exact h.open_ event' he
        · rw [List.mem_singleton.mp he]
          exact hdone
      cases hparse : x.parse (utf8 event.data.toList) with
      | none => exact .inr (.inl (hcounted.emits.failed _))
      | some value =>
        have hpieces : eventPieces x.parse event = valuePieces value := by
          rw [eventPieces, hparse, Option.toList_some, List.flatMap_singleton]
        rcases hcounted.processValue value with hvalue | hvalue
        · refine .inl ⟨?_, ?_, hopen⟩
          · rw [List.length_append, List.flatMap_append, List.flatMap_singleton, hpieces]
            exact hvalue
          · rw [List.length_append]
            exact hcount
        · exact .inr (.inl hvalue)

theorem processEvents_of_terminal (h : r.terminal = true) (found : List SseEvent) :
    r.processEvents x found = r := by
  induction found with
  | nil => rfl
  | cons event found ih =>
    rw [Relay.processEvents, List.foldl_cons, if_pos h]
    exact ih

/-- **Run lemma**: the events of a chunk. -/
theorem Running.processEvents (h : Running x emitted events r) (found : List SseEvent) :
    Running x emitted (events ++ found) (r.processEvents x found) ∨
      Failed x emitted (r.processEvents x found) ∨
      ∀ rest, CompletedBy x emitted (events ++ found ++ rest) (r.processEvents x found) := by
  induction found generalizing events r with
  | nil =>
    rw [List.append_nil]
    exact .inl h
  | cons event found ih =>
    have hrunning : ¬ r.terminal = true := by
      rw [h.relayed.running]
      exact Bool.false_ne_true
    have hcons : r.processEvents x (event :: found) =
        (r.processEvent x event).processEvents x found := by
      rw [Relay.processEvents, List.foldl_cons, if_neg hrunning]
      rfl
    rw [hcons]
    rcases h.processEvent event with hnext | hfailed | hcompleted
    · rw [List.append_cons]
      exact ih hnext
    · rw [processEvents_of_terminal hfailed.terminal]
      exact .inr (.inl hfailed)
    · rw [processEvents_of_terminal (hcompleted []).completed.terminal]
      refine .inr (.inr fun rest => ?_)
      rw [List.append_assoc]
      exact hcompleted (found ++ rest)

/-! ## Streams -/

/-- The bytes of the chunks before a transport error. -/
def upstreamBytes : Upstream → List UInt8
  | [] => []
  | .ok chunk :: upstream => chunk ++ upstreamBytes upstream
  | .error _ :: _ => []

/-- The events that upstream sends. -/
def upstreamEvents (upstream : Upstream) : List SseEvent :=
  SseDecoder.default.events (upstreamBytes upstream)

/-- How a stream ends. -/
def Ends (x : Exchange) (total : List SseEvent) (frames : List Frame) : Prop :=
  Fails x frames ∨
    Completes x (upstreamPieces x.parse total) frames ∧ consumed total ≤ maxStreamEvents

open ResponsesStreamRelay

/-- The queue is drained first. -/
theorem unfolds_pending {upstream : Upstream} {d : SseDecoder} {frames : List Frame}
    (h : Unfolds (next x) ⟨upstream, d, { r with pending := [] }⟩ frames) :
    Unfolds (next x) ⟨upstream, d, r⟩ (r.pending ++ frames) := by
  obtain ⟨pending, output, toolCalls, toolOutputChars, usage, terminal, eventCount⟩ := r
  simp only at h ⊢
  induction pending with
  | nil => exact h
  | cons frame pending ih => exact .emit rfl ih

/-- A terminal relay emits its queue and stops. -/
theorem unfolds_terminal (upstream : Upstream) (d : SseDecoder) (h : r.terminal = true) :
    Unfolds (next x) ⟨upstream, d, r⟩ r.pending := by
  have hstop : Unfolds (next x) ⟨upstream, d, { r with pending := [] }⟩ [] :=
    .stop (if_pos h)
  rw [← List.append_nil r.pending]
  exact unfolds_pending hstop

theorem unfolds_congr {s s' : ResponsesStreamRelay} {frames : List Frame}
    (heq : next x s = next x s') (h : Unfolds (next x) s' frames) :
    Unfolds (next x) s frames := by
  cases h with
  | stop hstop => exact .stop (heq.trans hstop)
  | emit hemit hrest => exact .emit (heq.trans hemit) hrest

section Reading

variable {upstream : Upstream} {d d' : SseDecoder}

theorem next_of_pending (h : r.pending ≠ []) (upstream : Upstream) (d : SseDecoder) :
    next x ⟨upstream, d, r⟩ = r.popFront.map fun e => (e.1, ⟨upstream, d, e.2⟩) := by
  rw [next, Relay.popFront]
  cases hpending : r.pending with
  | nil => exact absurd hpending h
  | cons frame pending => rfl

theorem next_of_empty (h : r.pending = []) (hrunning : r.terminal = false) (upstream : Upstream)
    (d : SseDecoder) : next x ⟨upstream, d, r⟩ = read x upstream d r := by
  rw [next, Relay.popFront]
  simp only [h, hrunning, Bool.false_eq_true, if_false]

theorem takePending_eq (h : r.pending ≠ []) : r.popFront = some r.takePending := by
  rw [Relay.popFront, Relay.takePending]
  cases hpending : r.pending with
  | nil => exact absurd hpending h
  | cons frame pending => rfl

/-- A chunk is read, with an empty queue. -/
theorem next_chunk {chunk : List UInt8} {found : List SseEvent} (hpending : r.pending = [])
    (hrunning : r.terminal = false) (hpush : SseDecoder.push chunk d = (d', .ok found))
    (hnext : (r.processEvents x found).pending = [] → (r.processEvents x found).terminal = false) :
    next x ⟨.ok chunk :: upstream, d, r⟩ = next x ⟨upstream, d', r.processEvents x found⟩ := by
  rw [next_of_empty hpending hrunning, ResponsesStreamRelay.read, hpush]
  by_cases hempty : (r.processEvents x found).pending = []
  · rw [next_of_empty hempty (hnext hempty)]
    simp only [Relay.popFront, hempty]
  · rw [next_of_pending hempty]
    simp only [takePending_eq hempty]
    rfl

theorem next_undecoded {chunk : List UInt8} {e : SseDecodeError} (hpending : r.pending = [])
    (hrunning : r.terminal = false) (hpush : SseDecoder.push chunk d = (d', .error e))
    (hfail : (r.fail x ("Responses SSE decode failed: " ++ decodeErrorText e)).pending ≠ []) :
    next x ⟨.ok chunk :: upstream, d, r⟩ =
      next x ⟨upstream, d', r.fail x ("Responses SSE decode failed: " ++ decodeErrorText e)⟩ := by
  rw [next_of_empty hpending hrunning, ResponsesStreamRelay.read, hpush, next_of_pending hfail,
    takePending_eq hfail]
  rfl

theorem next_error {e : String} (hpending : r.pending = []) (hrunning : r.terminal = false)
    (hfail : (r.fail x ("Responses upstream stream failed: " ++ e)).pending ≠ []) :
    next x ⟨.error e :: upstream, d, r⟩ =
      next x ⟨upstream, d, r.fail x ("Responses upstream stream failed: " ++ e)⟩ := by
  rw [next_of_empty hpending hrunning, ResponsesStreamRelay.read, next_of_pending hfail,
    takePending_eq hfail]
  rfl

/-- The relay when upstream has ended. -/
def atEnd (x : Exchange) (d : SseDecoder) (r : Relay) : Relay :=
  let r := match d.finish.2 with
    | .ok events => r.processEvents x events
    | .error e => r.fail x ("Responses SSE decode failed: " ++ decodeErrorText e)
  if r.terminal then r else r.complete x

theorem next_end (hpending : r.pending = []) (hrunning : r.terminal = false)
    (hend : (atEnd x d r).pending ≠ []) :
    next x ⟨[], d, r⟩ = next x ⟨[], d.finish.1, atEnd x d r⟩ := by
  rw [next_of_empty hpending hrunning, next_of_pending hend]
  rfl

theorem Running.atEnd (h : Running x emitted events r) :
    Failed x emitted (atEnd x d r) ∨
      CompletedBy x emitted (events ++ d.events []) (atEnd x d r) := by
  rw [Responses.atEnd, SseDecoder.events]
  cases d.finish.2 with
  | error e =>
    have hfailed := h.relayed.emits.failed ("Responses SSE decode failed: " ++ decodeErrorText e)
    simp only [if_pos hfailed.terminal]
    exact .inl hfailed
  | ok found =>
    rcases h.processEvents found with hnext | hfailed | hcompleted
    · simp only [hnext.relayed.running, Bool.false_eq_true, if_false]
      refine .inr ⟨?_, (min_le_left _ _).trans hnext.bounded⟩
      have hpieces := upstreamPieces_append hnext.open_ x.parse []
      rw [List.append_nil] at hpieces
      rw [hpieces]
      exact (List.append_nil (_ : List Piece)).symm ▸ hnext.relayed.complete
    · simp only [if_pos hfailed.terminal]
      exact .inl hfailed
    · have hdone := hcompleted []
      rw [List.append_nil] at hdone
      simp only [if_pos hdone.completed.terminal]
      exact .inr hdone

/-- A terminal relay ends the stream with its queue. -/
theorem Failed.unfolds (h : Failed x emitted r) (total : List SseEvent) (upstream : Upstream)
    (d : SseDecoder) :
    ∃ frames, Unfolds (next x) ⟨upstream, d, r⟩ frames ∧ Ends x total (emitted ++ frames) :=
  ⟨r.pending, unfolds_terminal upstream d h.terminal, .inl h.frames⟩

theorem CompletedBy.unfolds {total : List SseEvent} (h : CompletedBy x emitted total r)
    (upstream : Upstream) (d : SseDecoder) :
    ∃ frames, Unfolds (next x) ⟨upstream, d, r⟩ frames ∧ Ends x total (emitted ++ frames) :=
  ⟨r.pending, unfolds_terminal upstream d h.completed.terminal,
    .inr ⟨h.completed.frames, h.bounded⟩⟩

theorem Running.drained (h : Running x emitted events r) :
    Running x (emitted ++ r.pending) events { r with pending := [] } where
  relayed := { h.relayed with frames := (List.append_nil _).trans h.relayed.frames }
  bounded := h.bounded
  open_ := h.open_

theorem unfolds_of_drained {total : List SseEvent}
    (h : ∃ frames, Unfolds (next x) ⟨upstream, d, { r with pending := [] }⟩ frames ∧
      Ends x total (emitted ++ r.pending ++ frames)) :
    ∃ frames, Unfolds (next x) ⟨upstream, d, r⟩ frames ∧ Ends x total (emitted ++ frames) := by
  obtain ⟨frames, hunfolds, hends⟩ := h
  rw [List.append_assoc] at hends
  exact ⟨r.pending ++ frames, unfolds_pending hunfolds, hends⟩

/-- **Run lemma**: the rest of a stream, after the queue is drained. -/
theorem Running.unfolds {total : List SseEvent} (h : Running x emitted events r)
    (hpending : r.pending = []) (htotal : total = events ++ d.events (upstreamBytes upstream)) :
    ∃ frames, Unfolds (next x) ⟨upstream, d, r⟩ frames ∧ Ends x total (emitted ++ frames) := by
  have hrunning := h.relayed.running
  induction upstream generalizing emitted events r d with
  | nil =>
    rw [htotal, upstreamBytes]
    rcases h.atEnd (d := d) with hfailed | hcompleted
    · obtain ⟨frames, hunfolds, hends⟩ := hfailed.unfolds (events ++ d.events []) [] d.finish.1
      exact ⟨frames, unfolds_congr (next_end hpending hrunning hfailed.pending) hunfolds, hends⟩
    · obtain ⟨frames, hunfolds, hends⟩ := hcompleted.unfolds [] d.finish.1
      exact ⟨frames, unfolds_congr (next_end hpending hrunning hcompleted.completed.pending)
        hunfolds, hends⟩
  | cons part upstream ih =>
    cases part with
    | error e =>
      have hfailed := h.relayed.emits.failed ("Responses upstream stream failed: " ++ e)
      obtain ⟨frames, hunfolds, hends⟩ := hfailed.unfolds total upstream d
      exact ⟨frames, unfolds_congr (next_error hpending hrunning hfailed.pending) hunfolds, hends⟩
    | ok chunk =>
      rcases hpush : SseDecoder.push chunk d with ⟨d', e | found⟩
      · have hfailed := h.relayed.emits.failed
          ("Responses SSE decode failed: " ++ decodeErrorText e)
        obtain ⟨frames, hunfolds, hends⟩ := hfailed.unfolds total upstream d'
        exact ⟨frames, unfolds_congr (next_undecoded hpending hrunning hpush hfailed.pending)
          hunfolds, hends⟩
      · rw [upstreamBytes, SseDecoder.events_append hpush, ← List.append_assoc] at htotal
        rcases h.processEvents found with hnext | hfailed | hcompleted
        · obtain ⟨frames, hunfolds, hends⟩ := unfolds_of_drained
            (ih hnext.drained rfl htotal hnext.relayed.running)
          exact ⟨frames, unfolds_congr
            (next_chunk hpending hrunning hpush fun _ => hnext.relayed.running) hunfolds, hends⟩
        · obtain ⟨frames, hunfolds, hends⟩ := hfailed.unfolds total upstream d'
          exact ⟨frames, unfolds_congr (next_chunk hpending hrunning hpush fun hempty =>
            absurd hempty hfailed.pending) hunfolds, hends⟩
        · have hdone := hcompleted (d'.events (upstreamBytes upstream))
          rw [← htotal] at hdone
          obtain ⟨frames, hunfolds, hends⟩ := hdone.unfolds upstream d'
          exact ⟨frames, unfolds_congr (next_chunk hpending hrunning hpush fun hempty =>
            absurd hempty hdone.completed.pending) hunfolds, hends⟩

end Reading

/-! ## Responses -/

/-- The items of a response. -/
def outputItems (response : Json) : List Json :=
  ((response.get "output").bind Json.asArray).getD []

def isMessage (item : Json) : Bool := textOf "type" item = "message"

/-- The text of a message item. -/
def messageText (item : Json) : String :=
  String.join ((((item.get "content").bind Json.asArray).getD []).map (textOf "text"))

/-- The texts of the message items of a response. -/
def messageTexts (response : Json) : List String :=
  ((outputItems response).filter isMessage).map messageText

/-- The tool items of a response. -/
def toolItems (response : Json) : List Json := (outputItems response).filter (!isMessage ·)

/-- A completed response says what pieces add up to. The tool calls are those of `indices`, in
this order. -/
structure ResponseOf (x : Exchange) (pieces : List Piece) (indices : List ℕ) (response : Json) :
    Prop where
  message : messageTexts response =
    if String.join (texts pieces) = "" then [] else [String.join (texts pieces)]
  ascending : indices.Pairwise (· < ·)
  carried : ∀ index, index ∈ indices ↔ index ∈ carried pieces
  tools : toolItems response =
    indices.mapIdx fun position index => x.toolCallOutput position (callOf pieces index)
  arguments : ∀ (position index : ℕ) (item : Json), (toolItems response)[position]? = some item →
    indices[position]? = some index →
      (textOf "type" item = "function_call" → textOf "arguments" item =
        String.join ((fragments pieces index).map ChatToolCall.arguments)) ∧
      (textOf "type" item = "custom_tool_call" → textOf "input" item =
        x.customInput (String.join ((fragments pieces index).map ChatToolCall.arguments)))
  toolsBounded : indices.length ≤ maxTools
  charsBounded : (String.join (texts pieces)).length + toolChars pieces ≤ maxOutputChars

theorem outputItems_responseValue (text : String) (toolCalls : List ChatToolCall)
    (usage : Option Usage) (status : String) (now : ℕ) :
    outputItems (x.responseValue text toolCalls usage status now) =
      x.outputOf text toolCalls status := rfl

/-- The fields of a tool item. -/
theorem toolCallOutput_fields (index : ℕ) (toolCall : ChatToolCall) :
    isMessage (x.toolCallOutput index toolCall) = false ∧
      (textOf "type" (x.toolCallOutput index toolCall) = "function_call" →
        textOf "arguments" (x.toolCallOutput index toolCall) = toolCall.arguments) ∧
      (textOf "type" (x.toolCallOutput index toolCall) = "custom_tool_call" →
        textOf "input" (x.toolCallOutput index toolCall) = x.customInput toolCall.arguments) := by
  rw [Exchange.toolCallOutput]
  cases (x.toolMetadata.identity toolCall.name).custom with
  | false =>
    refine ⟨rfl, fun _ => rfl, fun h => ?_⟩
    exact absurd (show "function_call" = "custom_tool_call" from h) (by decide)
  | true =>
    refine ⟨rfl, fun h => ?_, fun _ => rfl⟩
    exact absurd (show "custom_tool_call" = "function_call" from h) (by decide)

theorem filter_tools {toolCalls : List ChatToolCall} {p : Json → Bool} {b : Bool}
    (h : ∀ item, isMessage item = false → p item = b) :
    (toolCalls.mapIdx fun index toolCall => x.toolCallOutput index toolCall).filter p =
      if b then toolCalls.mapIdx fun index toolCall => x.toolCallOutput index toolCall else [] := by
  have hall : ∀ item ∈ toolCalls.mapIdx fun index toolCall => x.toolCallOutput index toolCall,
      p item = b := by
    intro item hitem
    obtain ⟨index, hindex, rfl⟩ := List.mem_mapIdx.mp hitem
    exact h _ (toolCallOutput_fields _ _).1
  cases b with
  | true => exact List.filter_eq_self.mpr hall
  | false => exact List.filter_eq_nil_iff.mpr fun item hitem => by simp [hall item hitem]

theorem toolItems_responseValue (text : String) (toolCalls : List ChatToolCall)
    (usage : Option Usage) (status : String) (now : ℕ) :
    toolItems (x.responseValue text toolCalls usage status now) =
      toolCalls.mapIdx fun index toolCall => x.toolCallOutput index toolCall := by
  rw [toolItems, outputItems_responseValue, Exchange.outputOf, List.filter_append,
    filter_tools (b := true) (fun item hitem => by rw [hitem]; rfl), if_pos rfl]
  by_cases h : text = ""
  · rw [if_pos h]
    rfl
  · rw [if_neg h]
    rfl

theorem messageTexts_responseValue (text : String) (toolCalls : List ChatToolCall)
    (usage : Option Usage) (status : String) (now : ℕ) :
    messageTexts (x.responseValue text toolCalls usage status now) =
      if text = "" then [] else [text] := by
  rw [messageTexts, outputItems_responseValue, Exchange.outputOf, List.filter_append,
    filter_tools (b := false) (fun item hitem => hitem), if_neg Bool.false_ne_true,
    List.append_nil]
  by_cases h : text = ""
  · rw [if_pos h, if_pos h]
    rfl
  · rw [if_neg h, if_neg h]
    show [String.join [text]] = [text]
    rw [String.join_cons, String.join_nil, String.append_empty]

theorem mapIdx_callOf (pieces : List Piece) (indices : List ℕ) :
    (indices.map (callOf pieces)).mapIdx (fun index toolCall => x.toolCallOutput index toolCall) =
      indices.mapIdx fun position index => x.toolCallOutput position (callOf pieces index) := by
  refine List.ext_getElem? fun position => ?_
  rw [List.getElem?_mapIdx, List.getElem?_mapIdx, List.getElem?_map, Option.map_map]
  rfl

theorem responseOf_responseValue {indices : List ℕ} (hascending : indices.Pairwise (· < ·))
    (hcarried : ∀ index, index ∈ indices ↔ index ∈ carried pieces)
    (htools : indices.length ≤ maxTools)
    (hchars : (String.join (texts pieces)).length + toolChars pieces ≤ maxOutputChars)
    (usage : Option Usage) :
    ResponseOf x pieces indices (x.responseValue (String.join (texts pieces))
      (indices.map (callOf pieces)) usage "completed" x.endedAt) where
  message := messageTexts_responseValue _ _ _ _ _
  ascending := hascending
  carried := hcarried
  tools := by rw [toolItems_responseValue, mapIdx_callOf]
  arguments := by
    intro position index item hitem hindex
    rw [toolItems_responseValue, mapIdx_callOf, List.getElem?_mapIdx, hindex] at hitem
    cases hitem
    exact (toolCallOutput_fields position (callOf pieces index)).2
  toolsBounded := htools
  charsBounded := hchars

/-- A stream ends, in one of two ways. -/
theorem stream_ends (x : Exchange) (upstream : Upstream) :
    ∃ frames, Unfolds (next x) (new x upstream) frames ∧
      Ends x (upstreamEvents upstream) frames := by
  have hstart : Running x [createdFrame x] []
      { (new x upstream).relay with pending := [] } :=
    { relayed :=
        { running := rfl
          frames := rfl
          output := rfl
          sorted := List.Pairwise.nil
          calls := fun index => rfl
          toolChars := rfl
          chars := Nat.zero_le _
          tools := Nat.zero_le _
          count := rfl }
      bounded := Nat.zero_le _
      open_ := fun event he => absurd he List.not_mem_nil }
  obtain ⟨frames, hunfolds, hends⟩ := hstart.unfolds (d := SseDecoder.default) rfl
    (List.nil_append (upstreamEvents upstream)).symm
  exact ⟨createdFrame x :: frames, unfolds_pending hunfolds, hends⟩

/-- The frames of every stream: the created frame, contents, and either items and one completed
frame, or one failed frame. A completed response is what upstream says up to its terminator. -/
theorem stream_protocol (x : Exchange) (upstream : Upstream) :
    ∃ frames, (∀ frames', Unfolds (next x) (new x upstream) frames' ↔ frames' = frames) ∧
      ((∃ (deltas : List String) (response : Json) (message : String),
        frames = createdFrame x :: deltas.map (.outputTextDelta x.responseId) ++
          [.failed response message]) ∨
      ∃ (items : List Json) (response : Json) (indices : List ℕ),
        frames = createdFrame x ::
          (texts (upstreamPieces x.parse (upstreamEvents upstream))).map
            (.outputTextDelta x.responseId) ++
          items.map .outputItemDone ++ [.completed response] ∧
        ResponseOf x (upstreamPieces x.parse (upstreamEvents upstream)) indices response ∧
        consumed (upstreamEvents upstream) ≤ maxStreamEvents) := by
  obtain ⟨frames, hunfolds, hends⟩ := stream_ends x upstream
  refine ⟨frames, fun frames' => ⟨fun h => h.unique hunfolds, fun h => h ▸ hunfolds⟩, ?_⟩
  rcases hends with hfails | ⟨⟨indices, usage, hascending, hcarried, hframes, htools, hchars⟩,
    hconsumed⟩
  · exact .inl hfails
  · exact .inr ⟨_, _, indices, hframes, responseOf_responseValue hascending hcarried htools hchars
      usage, hconsumed⟩

/-! ## Items and the response -/

/-- The item of a frame. -/
def Frame.item? : Frame → Option Json
  | .outputItemDone item => some item
  | _ => none

/-- The items of a stream. -/
def streamItems (frames : List Frame) : List Json := frames.filterMap Frame.item?

theorem streamItems_completes (deltas : List String) (items : List Json) (response : Json) :
    streamItems (contentFrames x deltas ++ items.map .outputItemDone ++ [.completed response]) =
      items := by
  have hcontent : streamItems (contentFrames x deltas) = [] := by
    refine List.filterMap_eq_nil_iff.mpr fun frame hframe => ?_
    rcases List.mem_cons.mp hframe with rfl | hframe
    · rfl
    · obtain ⟨delta, -, rfl⟩ := List.mem_map.mp hframe
      rfl
  have hitems : streamItems (items.map .outputItemDone) = items := by
    rw [streamItems, List.filterMap_map]
    exact List.filterMap_some
  rw [streamItems, List.filterMap_append, List.filterMap_append]
  show streamItems _ ++ streamItems _ ++ [] = items
  rw [hcontent, hitems, List.nil_append, List.append_nil]

/-- Ascending numbers without gaps are their positions. -/
theorem getElem_eq_of_gapless {l : List ℕ} (hascending : l.Pairwise (· < ·))
    (hgapless : ∀ i ∈ l, ∀ j < i, j ∈ l) (k : ℕ) (hk : k < l.length) : l[k] = k := by
  have hlt := List.pairwise_iff_getElem.mp hascending
  induction k using Nat.strong_induction_on with
  | _ k ih =>
    have hle : k ≤ l[k] := by
      cases k with
      | zero => exact Nat.zero_le _
      | succ k =>
        have hbefore := hlt k (k + 1) (by omega) hk (by omega)
        rw [ih k (by omega) (by omega)] at hbefore
        exact hbefore
    by_contra hne
    -- otherwise `k` is in the list, but at none of its positions
    obtain ⟨m, hm, heq⟩ := List.getElem_of_mem
      (hgapless l[k] (List.getElem_mem hk) k (Nat.lt_of_le_of_ne hle (Ne.symm hne)))
    rcases Nat.lt_trichotomy m k with hmk | rfl | hmk
    · rw [ih m hmk hm] at heq
      exact hmk.ne heq
    · exact hne heq
    · have hafter := hlt k m hk hm hmk
      omega

theorem toolCallOutput_inj {i j : ℕ} {toolCall : ChatToolCall}
    (h : x.toolCallOutput i toolCall = x.toolCallOutput j toolCall) : i = j := by
  have hid := congrArg (textOf "id") h
  have hrepr : i.repr = j.repr := by
    rw [Exchange.toolCallOutput, Exchange.toolCallOutput] at hid
    cases hcustom : (x.toolMetadata.identity toolCall.name).custom with
    | false =>
      rw [hcustom] at hid
      exact String.append_right_inj _ |>.mp
        (show "fc_" ++ x.responseId ++ "_" ++ i.repr = "fc_" ++ x.responseId ++ "_" ++ j.repr
          from hid)
    | true =>
      rw [hcustom] at hid
      exact String.append_right_inj _ |>.mp
        (show "ctc_" ++ x.responseId ++ "_" ++ i.repr = "ctc_" ++ x.responseId ++ "_" ++ j.repr
          from hid)
  have hnat := congrArg Json.natOfText hrepr
  rw [Json.natOfText_repr, Json.natOfText_repr] at hnat
  exact Option.some.inj hnat

/-- Items numbered by indices are those numbered by positions when the indices have no gaps. -/
theorem itemsDone_eq_iff {indices : List ℕ} (hascending : indices.Pairwise (· < ·))
    (text : String) :
    itemsDone x text (indices.map fun i => (i, callOf pieces i)) =
        x.outputOf text (indices.map (callOf pieces)) "completed" ↔
      ∀ i ∈ indices, ∀ j < i, j ∈ indices := by
  rw [itemsDone, Exchange.outputOf, List.append_right_inj, mapIdx_callOf, List.map_map]
  constructor
  · intro heq
    have hposition : ∀ k (hk : k < indices.length), indices[k] = k := by
      intro k hk
      have hget := congrArg (fun l : List Json => l[k]?) heq
      simp only [List.getElem?_map, List.getElem?_mapIdx, List.getElem?_eq_getElem hk,
        Option.map_some, Function.comp] at hget
      exact toolCallOutput_inj (Option.some.inj hget)
    intro i hi j hj
    obtain ⟨k, hk, rfl⟩ := List.getElem_of_mem hi
    rw [hposition k hk] at hj
    rw [← hposition j (hj.trans hk)]
    exact List.getElem_mem _
  · intro hgapless
    refine List.ext_getElem? fun k => ?_
    rw [List.getElem?_map, List.getElem?_mapIdx]
    by_cases hk : k < indices.length
    · rw [List.getElem?_eq_getElem hk, Option.map_some, Option.map_some, Function.comp,
        getElem_eq_of_gapless hascending hgapless k hk]
    · rw [List.getElem?_eq_none (Nat.not_lt.mp hk)]
      rfl

theorem Completes.items_eq_iff {frames : List Frame} (h : Completes x pieces frames)
    {response : Json} (hlast : frames.getLast? = some (.completed response)) :
    streamItems frames = outputItems response ↔
      ∀ i ∈ carried pieces, ∀ j < i, j ∈ carried pieces := by
  obtain ⟨indices, usage, hascending, hcarried, hframes, -, -⟩ := h
  rw [hframes, List.getLast?_concat] at hlast
  obtain rfl := Frame.completed.inj (Option.some.inj hlast)
  rw [hframes, streamItems_completes, outputItems_responseValue, itemsDone_eq_iff hascending]
  simp only [hcarried]

/-- The items of a stream that completes are those of its response exactly when the upstream
indices of the tool calls have no gaps. -/
theorem items_agree_iff (x : Exchange) (upstream : Upstream) {frames : List Frame}
    (h : Unfolds (next x) (new x upstream) frames) {response : Json}
    (hlast : frames.getLast? = some (.completed response)) :
    streamItems frames = outputItems response ↔
      ∀ i ∈ carried (upstreamPieces x.parse (upstreamEvents upstream)), ∀ j < i,
        j ∈ carried (upstreamPieces x.parse (upstreamEvents upstream)) := by
  obtain ⟨frames', h', hends⟩ := stream_ends x upstream
  obtain rfl := h'.unique h
  rcases hends with ⟨deltas, response', message, hframes⟩ | ⟨hcompletes, -⟩
  · rw [hframes, List.getLast?_concat] at hlast
    cases hlast
  · exact hcompletes.items_eq_iff hlast

/-- The payload of a stream with one tool call, under an index. -/
def oneCall (index : ℕ) : Json :=
  .object [("choices", .array [.object [("delta", .object [("tool_calls",
    .array [.object [("index", .nat index)]])])]])]

/-- An exchange in which that payload is read. -/
def oneCallExchange (index : ℕ) : Exchange where
  responseId := "r"
  model := "auto"
  toolMetadata := ⟨IndexMap.empty⟩
  parse := Json.Parser.ofValues [oneCall index]
  parseError := fun _ => "expected value"
  createdAt := 0
  endedAt := 0

def oneCallUpstream (index : ℕ) : Upstream :=
  [.ok (SseDecoder.sseFrame "message" (String.ofList (oneCall index).render))]

/-- A stream completes when an item is its second frame. -/
theorem completes_of_second {upstream : Upstream}
    (h : ((next x (new x upstream)).bind fun e => next x e.2).map (fun e => e.1.event) =
      some "response.output_item.done") :
    ∃ frames response, Unfolds (next x) (new x upstream) frames ∧
      frames.getLast? = some (.completed response) ∧
      Completes x (upstreamPieces x.parse (upstreamEvents upstream)) frames := by
  obtain ⟨frames, hunfolds, hends⟩ := stream_ends x upstream
  rcases hends with ⟨deltas, response, message, hframes⟩ | ⟨hcompletes, -⟩
  · -- the second frame of a failure is a delta or the failed frame
    exfalso
    rw [hframes] at hunfolds
    cases hunfolds with
    | emit hfirst hrest =>
      rw [hfirst, Option.bind_some] at h
      cases deltas with
      | nil =>
        cases hrest with
        | emit hsecond _ =>
          rw [hsecond] at h
          exact absurd (show "response.failed" = "response.output_item.done" from
            Option.some.inj h) (by decide)
      | cons delta deltas =>
        cases hrest with
        | emit hsecond _ =>
          rw [hsecond] at h
          exact absurd (show "response.output_text.delta" = "response.output_item.done" from
            Option.some.inj h) (by decide)
  · obtain ⟨indices, usage, -, -, hframes, -, -⟩ := id hcompletes
    have hlast := congrArg List.getLast? hframes
    rw [List.getLast?_concat] at hlast
    exact ⟨frames, _, hunfolds, hlast, hcompletes⟩

/-- A stream with one tool call under index zero. -/
theorem items_agree_first_index :
    ∃ frames response, Unfolds (next (oneCallExchange 0))
        (new (oneCallExchange 0) (oneCallUpstream 0)) frames ∧
      frames.getLast? = some (.completed response) ∧
      streamItems frames = outputItems response := by
  obtain ⟨frames, response, hunfolds, hlast, -⟩ :=
    @completes_of_second (oneCallExchange 0) (oneCallUpstream 0) (by decide +kernel)
  refine ⟨frames, response, hunfolds, hlast, (items_agree_iff _ _ hunfolds hlast).mpr ?_⟩
  have hcarried : carried (upstreamPieces (oneCallExchange 0).parse
    (upstreamEvents (oneCallUpstream 0))) = [0] := by decide +kernel
  rw [hcarried]
  decide

/-- A stream with one tool call under index one: its item is numbered by one, and the item of the
response by zero. -/
theorem items_differ_second_index :
    ∃ frames response, Unfolds (next (oneCallExchange 1))
        (new (oneCallExchange 1) (oneCallUpstream 1)) frames ∧
      frames.getLast? = some (.completed response) ∧
      streamItems frames ≠ outputItems response := by
  obtain ⟨frames, response, hunfolds, hlast, hcompletes⟩ :=
    @completes_of_second (oneCallExchange 1) (oneCallUpstream 1) (by decide +kernel)
  refine ⟨frames, response, hunfolds, hlast, fun heq => ?_⟩
  have hgapless := (hcompletes.items_eq_iff hlast).mp heq
  have hcarried : carried (upstreamPieces (oneCallExchange 1).parse
    (upstreamEvents (oneCallUpstream 1))) = [1] := by decide +kernel
  rw [hcarried] at hgapless
  exact absurd (hgapless 1 (List.mem_singleton.mpr rfl) 0 Nat.zero_lt_one) (by decide)

end WayfinderRouter.Responses
