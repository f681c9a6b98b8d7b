import WayfinderRouter.Providers.MessagesStream

/-!
# Fragments of a stream

A stream that is read byte by byte stops at the end of the message. A stream that arrives in
fragments is decoded a fragment at a time, before its events are translated. So the bytes after the
end of a message are decoded when they share a fragment with it, and only then.

## Main definitions

- `settle` — the translation of a stream that is read byte by byte
- `LateGarbage` — the decoder rejects bytes after the end of the message
-/

namespace WayfinderRouter.Providers

open Transducer

namespace MessagesStreamTranslator

variable (parse : Json.Parser)

/-- The frames of a stream that is read byte by byte. Nothing is read after the end. -/
def settle : List UInt8 → SseDecoder → Message → Except AnthropicStreamError (List Frame)
  | [], d, m => (finish parse ⟨m, d⟩).2
  | byte :: bytes, d, m =>
    if m.terminal then .ok []
    else
      match processEvents parse (SseDecoder.pushByte byte d) m with
      | (_, .error e) => .error e
      | (t, .ok frames) => (settle bytes t.decoder t.toMessage).map fun rest => frames ++ rest

variable {parse} {d d' : SseDecoder} {m m' : Message} {found : List SseEvent}
  {frames : List Frame} {chunk rest : List UInt8}

theorem finish_terminal (hstarted : m.started = true) (hterminal : m.terminal = true) :
    (finish parse ⟨m, d⟩).2 = .ok [] := by
  rw [finish]
  simp only [Message.start_of_started hstarted, hterminal, if_true]

/-- After the end nothing is read. -/
theorem settle_terminal (hstarted : m.started = true) (hterminal : m.terminal = true)
    (bytes : List UInt8) : settle parse bytes d m = .ok [] := by
  cases bytes with
  | nil => exact finish_terminal hstarted hterminal
  | cons byte bytes => rw [settle, if_pos hterminal]

theorem map_append_nil {E : Type} (x : Except E (List Frame)) :
    x.map (fun rest => [] ++ rest) = x := by
  cases x with
  | error e => rfl
  | ok rest => rfl

theorem map_append_append {E : Type} (x : Except E (List Frame)) (l l' : List Frame) :
    (x.map fun rest => l' ++ rest).map (fun rest => l ++ rest) =
      x.map fun rest => (l ++ l') ++ rest := by
  cases x with
  | error e => rfl
  | ok rest => exact congrArg Except.ok (List.append_assoc l l' rest).symm

/-- One byte, when the message has not ended. -/
theorem settle_cons (hrunning : m.terminal = false) {byte : UInt8} {bytes : List UInt8}
    (hbyte : SseDecoder.pushByte byte d = (d', .ok found))
    (hfound : feed (Message.processEvent parse) found m = (m', .ok frames)) :
    settle parse (byte :: bytes) d m =
      (settle parse bytes d' m').map fun rest => frames ++ rest := by
  rw [settle, if_neg (by rw [hrunning]; exact Bool.false_ne_true), hbyte, processEvents]
  simp only [hfound]

/-- A fragment that is decoded and translated. -/
theorem settle_chunk (hstarted : m.started = true)
    (hchunk : SseDecoder.push chunk d = (d', .ok found))
    (hfound : feed (Message.processEvent parse) found m = (m', .ok frames)) :
    settle parse (chunk ++ rest) d m =
      (settle parse rest d' m').map fun rest => frames ++ rest := by
  induction chunk generalizing d m found frames with
  | nil =>
    obtain ⟨rfl, hnone⟩ := Prod.mk.inj hchunk
    obtain rfl := Except.ok.inj hnone
    obtain ⟨rfl, hnone⟩ := Prod.mk.inj hfound
    obtain rfl := Except.ok.inj hnone
    exact (map_append_nil _).symm
  | cons byte chunk ih =>
    obtain ⟨d₁, found₁, found₂, hbyte, hrest, rfl⟩ := feed_cons_eq_ok hchunk
    cases hterminal : m.terminal with
    | true =>
      rw [processEvents_terminal parse hterminal] at hfound
      obtain ⟨rfl, hnone⟩ := Prod.mk.inj hfound
      obtain rfl := Except.ok.inj hnone
      rw [settle_terminal hstarted hterminal, settle_terminal hstarted hterminal]
      rfl
    | false =>
      obtain ⟨m₁, frames₁, frames₂, hfirst, hsecond, rfl⟩ := feed_append_eq_ok hfound
      have hstarted₁ := Message.started_processEvents parse hstarted found₁
      rw [hfirst] at hstarted₁
      rw [List.cons_append, settle_cons hterminal hbyte hfirst, ih hstarted₁ hrest hsecond,
        map_append_append]

/-- A fragment that is decoded and not translated. -/
theorem settle_chunk_error {e : AnthropicStreamError} (hstarted : m.started = true)
    (hchunk : SseDecoder.push chunk d = (d', .ok found))
    (hfound : feed (Message.processEvent parse) found m = (m', .error e)) :
    settle parse (chunk ++ rest) d m = .error e := by
  induction chunk generalizing d m found with
  | nil =>
    obtain ⟨rfl, hnone⟩ := Prod.mk.inj hchunk
    obtain rfl := Except.ok.inj hnone
    cases (Prod.mk.inj hfound).2
  | cons byte chunk ih =>
    obtain ⟨d₁, found₁, found₂, hbyte, hrest, rfl⟩ := feed_cons_eq_ok hchunk
    cases hterminal : m.terminal with
    | true =>
      rw [processEvents_terminal parse hterminal] at hfound
      cases (Prod.mk.inj hfound).2
    | false =>
      rcases hfirst : feed (Message.processEvent parse) found₁ m with ⟨m₁, e₁ | frames₁⟩
      · rw [feed_append_error hfirst] at hfound
        have heq : e₁ = e := Except.error.inj (Prod.mk.inj hfound).2
        rw [List.cons_append, settle, if_neg (by rw [hterminal]; exact Bool.false_ne_true), hbyte,
          processEvents]
        simp only [hfirst, heq]
      · have hstarted₁ := Message.started_processEvents parse hstarted found₁
        rw [hfirst] at hstarted₁
        have hsecond : feed (Message.processEvent parse) found₂ m₁ = (m', .error e) := by
          rw [feed_append_ok hfirst] at hfound
          rcases hsecond : feed (Message.processEvent parse) found₂ m₁ with ⟨m₂, e₂ | frames₂⟩
          · rw [hsecond] at hfound
            exact hfound
          · rw [hsecond] at hfound
            cases (Prod.mk.inj hfound).2
        rw [List.cons_append, settle_cons hterminal hbyte hfirst, ih hstarted₁ hrest hsecond]
        rfl

variable (parse) in
/-- The decoder rejects bytes after the end of the message. -/
def LateGarbage (bytes : List UInt8) (d : SseDecoder) (m : Message) : Prop :=
  ∃ part rest d₁ found m₁ frames, bytes = part ++ rest ∧
    SseDecoder.push part d = (d₁, .ok found) ∧
    feed (Message.processEvent parse) found m = (m₁, .ok frames) ∧ m₁.terminal = true ∧
    ∃ d₂ e, SseDecoder.push rest d₁ = (d₂, .error e)

/-- Garbage in a fragment is garbage in the stream. -/
theorem LateGarbage.append (h : LateGarbage parse chunk d m) (rest : List UInt8) :
    LateGarbage parse (chunk ++ rest) d m := by
  obtain ⟨part, rest', d₁, found, m₁, frames, rfl, hpart, hfound, hterminal, d₂, e, hrest⟩ := h
  exact ⟨part, rest' ++ rest, d₁, found, m₁, frames, List.append_assoc _ _ _, hpart, hfound,
    hterminal, d₂, e, feed_append_error hrest⟩

/-- Garbage after a first fragment is garbage in the stream. -/
theorem LateGarbage.prepend (h : LateGarbage parse rest d' m')
    (hchunk : SseDecoder.push chunk d = (d', .ok found))
    (hfound : feed (Message.processEvent parse) found m = (m', .ok frames)) :
    LateGarbage parse (chunk ++ rest) d m := by
  obtain ⟨part, rest', d₁, found₁, m₁, frames₁, rfl, hpart, hfound₁, hterminal, hrest⟩ := h
  refine ⟨chunk ++ part, rest', d₁, found ++ found₁, m₁, frames ++ frames₁,
    (List.append_assoc _ _ _).symm, ?_, ?_, hterminal, hrest⟩
  · rw [SseDecoder.push] at hchunk hpart ⊢
    rw [feed_append_ok hchunk, hpart]
    rfl
  · rw [feed_append_ok hfound, hfound₁]
    rfl

/-- A fragment that is not decoded. -/
theorem settle_chunk_undecoded {e : SseDecodeError} (hstarted : m.started = true)
    (hchunk : SseDecoder.push chunk d = (d', .error e)) (rest : List UInt8) :
    (∃ e, settle parse (chunk ++ rest) d m = .error e) ∨ LateGarbage parse chunk d m := by
  induction chunk generalizing d m with
  | nil => cases (Prod.mk.inj hchunk).2
  | cons byte chunk ih =>
    cases hterminal : m.terminal with
    | true => exact .inr ⟨[], byte :: chunk, d, [], m, [], rfl, rfl, rfl, hterminal, d', e, hchunk⟩
    | false =>
      have hrunning : ¬ m.terminal = true := by
        rw [hterminal]
        exact Bool.false_ne_true
      rcases hbyte : SseDecoder.pushByte byte d with ⟨d₁, e₁ | found⟩
      · refine .inl ⟨.decode e₁, ?_⟩
        rw [List.cons_append, settle, if_neg hrunning, hbyte]
        rfl
      · have hrest : SseDecoder.push chunk d₁ = (d', .error e) := by
          rw [SseDecoder.push, feed_cons_ok hbyte] at hchunk
          rcases hrest : feed SseDecoder.pushByte chunk d₁ with ⟨d₂, e₂ | found₂⟩
          · rw [hrest] at hchunk
            exact hrest.trans hchunk
          · rw [hrest] at hchunk
            cases (Prod.mk.inj hchunk).2
        rcases hfound : feed (Message.processEvent parse) found m with ⟨m₁, e₁ | frames⟩
        · refine .inl ⟨e₁, ?_⟩
          rw [List.cons_append, settle, if_neg hrunning, hbyte, processEvents]
          simp only [hfound]
        · have hstarted₁ := Message.started_processEvents parse hstarted found
          rw [hfound] at hstarted₁
          have hone : SseDecoder.push [byte] d = (d₁, .ok found) := by
            rw [SseDecoder.push, feed_cons_ok hbyte, feed_nil]
            exact congrArg (fun l => (d₁, Except.ok l)) (List.append_nil found)
          rcases ih hstarted₁ hrest with ⟨e₂, hsettle⟩ | hlate
          · refine .inl ⟨e₂, ?_⟩
            rw [List.cons_append, settle_cons hterminal hbyte hfound, hsettle]
            rfl
          · exact .inr (hlate.prepend hone hfound)

/-! ## Fragments -/

/-- `push` after the start frame was sent. -/
theorem push_of_started (hstarted : m.started = true) (hrunning : m.terminal = false)
    (chunk : List UInt8) :
    push parse chunk ⟨m, d⟩ = processEvents parse (SseDecoder.push chunk d) m := by
  rw [push]
  simp only [Message.start_of_started hstarted, hrunning, Bool.false_eq_true, if_false]
  exact Prod.ext rfl (map_append_nil _)

theorem push_terminal (hstarted : m.started = true) (hterminal : m.terminal = true)
    (chunk : List UInt8) : push parse chunk ⟨m, d⟩ = (⟨m, d⟩, .ok []) := by
  rw [push]
  simp only [Message.start_of_started hstarted, hterminal, if_true]

/-- Without late garbage the fragments do not matter. -/
theorem translateFragments_eq_settle (hstarted : m.started = true)
    (fragments : List (List UInt8)) (hlate : ¬ LateGarbage parse fragments.flatten d m) :
    (translateFragments parse fragments ⟨m, d⟩).toOption =
      (settle parse fragments.flatten d m).toOption := by
  induction fragments generalizing d m with
  | nil => rfl
  | cons chunk fragments ih =>
    rw [List.flatten_cons] at hlate ⊢
    cases hterminal : m.terminal with
    | true =>
      rw [settle_terminal hstarted hterminal, translateFragments,
        push_terminal hstarted hterminal]
      simp only [hterminal, if_true, finish_terminal hstarted hterminal]
      rfl
    | false =>
      rw [translateFragments, push_of_started hstarted hterminal]
      rcases hchunk : SseDecoder.push chunk d with ⟨d₁, e | found⟩
      · rcases settle_chunk_undecoded hstarted hchunk fragments.flatten with
          ⟨e', hsettle⟩ | hgarbage
        · rw [hsettle]
          rfl
        · exact absurd (hgarbage.append _) hlate
      · rcases hfound : feed (Message.processEvent parse) found m with ⟨m₁, e | frames⟩
        · rw [settle_chunk_error hstarted hchunk hfound, processEvents]
          simp only [hfound]
        · have hstarted₁ := Message.started_processEvents parse hstarted found
          rw [hfound] at hstarted₁
          rw [settle_chunk hstarted hchunk hfound, processEvents]
          simp only [hfound]
          have hmap : ∀ x y : Except AnthropicStreamError (List Frame),
              x.toOption = y.toOption → (x.map fun rest => frames ++ rest).toOption =
                (y.map fun rest => frames ++ rest).toOption := by
            intro x y hxy
            cases x with
            | error e =>
              cases y with
              | error e' => rfl
              | ok l' => cases hxy
            | ok l =>
              cases y with
              | error e' => cases hxy
              | ok l' => rw [Option.some.inj hxy]
          refine hmap _ _ ?_
          cases hended : m₁.terminal with
          | true =>
            simp only [if_true, finish_terminal hstarted₁ hended,
              settle_terminal hstarted₁ hended]
          | false =>
            simp only [Bool.false_eq_true, if_false]
            exact ih hstarted₁ fun hgarbage => hlate (hgarbage.prepend hchunk hfound)

/-- With late garbage they do. -/
theorem translateFragments_ne (hstarted : m.started = true) (hrunning : m.terminal = false)
    {bytes : List UInt8} (hlate : LateGarbage parse bytes d m) :
    ∃ fragments, fragments.flatten = bytes ∧
      (translateFragments parse fragments ⟨m, d⟩).toOption ≠
        (translateFragments parse [bytes] ⟨m, d⟩).toOption := by
  obtain ⟨part, rest, d₁, found, m₁, frames, rfl, hpart, hfound, hterminal, d₂, e, hrest⟩ := hlate
  have hstarted₁ := Message.started_processEvents parse hstarted found
  rw [hfound] at hstarted₁
  have hwhole : SseDecoder.push (part ++ rest) d = (d₂, .error e) := by
    rw [SseDecoder.push] at hpart hrest ⊢
    rw [feed_append_ok hpart, hrest]
    rfl
  have herror : translateFragments parse [part ++ rest] ⟨m, d⟩ = .error (.decode e) := by
    rw [translateFragments, push_of_started hstarted hrunning, hwhole]
    rfl
  have hok : translateFragments parse [part, rest] ⟨m, d⟩ = .ok (frames ++ []) := by
    rw [translateFragments, push_of_started hstarted hrunning, hpart, processEvents]
    simp only [hfound, hterminal, if_true, finish_terminal hstarted₁ hterminal]
    rfl
  refine ⟨[part, rest], by rw [List.flatten_cons, List.flatten_singleton], ?_⟩
  rw [herror, hok]
  exact Option.some_ne_none _

end MessagesStreamTranslator

open MessagesStreamTranslator

/-- The state of the translator after the start frame. -/
def startedMessage (model messageId : String) (inputTokens : ℕ) : Message :=
  (MessagesStreamTranslator.new model messageId inputTokens).start.1

/-- **Fragmentation**: the translation of a byte string does not depend on how it is cut exactly
when the decoder rejects no bytes after the end of the message. -/
theorem fragments_irrelevant_iff (parse : Json.Parser) (model messageId : String)
    (inputTokens : ℕ) (bytes : List UInt8) :
    (∀ fragments fragments' : List (List UInt8), fragments.flatten = bytes →
      fragments'.flatten = bytes →
      (translateOpenAiSseFragments parse fragments model messageId inputTokens).toOption =
        (translateOpenAiSseFragments parse fragments' model messageId inputTokens).toOption) ↔
      ¬ LateGarbage parse bytes .default (startedMessage model messageId inputTokens) := by
  have htranslate : ∀ fragments,
      (translateOpenAiSseFragments parse fragments model messageId inputTokens).toOption =
        (translateFragments parse fragments ⟨startedMessage model messageId inputTokens,
          .default⟩).toOption.map fun rest =>
            .messageStart messageId model inputTokens :: rest := by
    intro fragments
    rw [translateOpenAiSseFragments]
    show (Except.map _ (translateFragments parse fragments
      ⟨startedMessage model messageId inputTokens, .default⟩)).toOption = _
    cases translateFragments parse fragments
      ⟨startedMessage model messageId inputTokens, .default⟩ with
    | error e => rfl
    | ok rest => rfl
  constructor
  · intro h hlate
    obtain ⟨fragments, hfragments, hne⟩ := translateFragments_ne rfl rfl hlate
    apply hne
    have heq := h fragments [bytes] hfragments List.flatten_singleton
    rw [htranslate, htranslate] at heq
    exact Option.map_injective (List.cons_injective) heq
  · rintro hlate fragments fragments' rfl hfragments'
    rw [htranslate, htranslate, translateFragments_eq_settle rfl fragments hlate]
    rw [translateFragments_eq_settle rfl fragments' (hfragments' ▸ hlate), hfragments']

/-- The bytes of the event that ends a stream. -/
def doneEvent : List UInt8 := utf8 "data: [DONE]\n\n".toList

/-- A byte that is not UTF-8, in the same fragment as the end of the message and after it. -/
theorem byte_after_done_matters :
    [doneEvent ++ [0xff, 0x0a]].flatten = [doneEvent, [0xff, 0x0a]].flatten ∧
    (translateOpenAiSseFragments (fun _ => none) [doneEvent ++ [0xff, 0x0a]] "m" "msg" 0).toOption =
      none ∧
    (translateOpenAiSseFragments (fun _ => none) [doneEvent, [0xff, 0x0a]] "m" "msg" 0).toOption =
      some [.messageStart "msg" "m" 0, .textStart 0, .blockStop 0, .messageDelta "end_turn" 0,
        .messageStop] := by
  decide +kernel

/-! ## The frames of a stream -/

namespace MessagesStreamTranslator

variable {parse : Json.Parser} {d d' : SseDecoder} {m m' : Message} {items : List Item}

/-- Fragments that are all translated. -/
theorem settle_of_pushes {chunks : List (List UInt8)} {frames frames' : List Frame}
    {t : MessagesStreamTranslator} (hstarted : m.started = true)
    (hpush : feed (push parse) chunks ⟨m, d⟩ = (⟨m', d'⟩, .ok frames))
    (hfinish : finish parse ⟨m', d'⟩ = (t, .ok frames')) :
    settle parse chunks.flatten d m = .ok (frames ++ frames') := by
  induction chunks generalizing d m frames with
  | nil =>
    obtain ⟨hstate, hnone⟩ := Prod.mk.inj hpush
    cases hstate
    obtain rfl := Except.ok.inj hnone
    exact congrArg Prod.snd hfinish
  | cons chunk chunks ih =>
    obtain ⟨⟨m₁, d₁⟩, frames₁, frames₂, hfirst, hrest, rfl⟩ := feed_cons_eq_ok hpush
    rw [List.flatten_cons]
    cases hterminal : m.terminal with
    | true =>
      rw [push_terminal hstarted hterminal] at hfirst
      obtain ⟨hstate, hnone⟩ := Prod.mk.inj hfirst
      cases hstate
      obtain rfl := Except.ok.inj hnone
      have hsettle := ih hstarted hrest
      rw [settle_terminal hstarted hterminal] at hsettle ⊢
      exact hsettle
    | false =>
      rw [push_of_started hstarted hterminal] at hfirst
      rcases hchunk : SseDecoder.push chunk d with ⟨d₂, e | found⟩
      · rw [hchunk] at hfirst
        cases (Prod.mk.inj hfirst).2
      · rw [hchunk] at hfirst
        obtain ⟨hstate, hframes⟩ := Prod.mk.inj hfirst
        have hfound : feed (Message.processEvent parse) found m = (m₁, .ok frames₁) :=
          Prod.ext (congrArg toMessage hstate) hframes
        have hdecoder : d₂ = d₁ := congrArg decoder hstate
        have hstarted₁ := Message.started_processEvents parse hstarted found
        rw [hfound] at hstarted₁
        rw [settle_chunk hstarted (hdecoder ▸ hchunk) hfound, ih hstarted₁ hrest,
          List.append_assoc]
        rfl

theorem finishMessage_terminal (h : m.terminal = true) : m.finishMessage = (m, []) := by
  rw [Message.finishMessage, if_pos h]

theorem endFrames_of_isOpen {ending : Ending} (h : ending.isOpen = true) :
    endFrames items ending = closingFrames items := by
  cases ending with
  | unfinished => rfl
  | done => cases h
  | error errorType message => cases h

/-- The frames of the end of the transport. -/
theorem finish_eq_expected {frames : List Frame} {t : MessagesStreamTranslator}
    (h : Reads items m) (hannounced : Announced items) (hstarted : m.started = true)
    (hfinish : finish parse ⟨m, d⟩ = (t, .ok frames)) :
    bodyFrames items ++ frames =
      bodyFrames (items ++ (upstream parse (d.events [])).1) ++
        endFrames (items ++ (upstream parse (d.events [])).1) (upstream parse (d.events [])).2 := by
  rw [finish] at hfinish
  simp only [Message.start_of_started hstarted, h.running, Bool.false_eq_true, if_false,
    List.nil_append] at hfinish
  rcases hdecoded : d.finish with ⟨d₁, e | found⟩
  · rw [hdecoded] at hfinish
    cases (Prod.mk.inj hfinish).2
  · have hevents : d.events [] = found := by
      rw [SseDecoder.events, hdecoded]
    rw [hdecoded, processEvents] at hfinish
    rcases hfound : feed (Message.processEvent parse) found m with ⟨m₁, e | frames₁⟩
    · rw [hfound] at hfinish
      cases (Prod.mk.inj hfinish).2
    · rw [hfound] at hfinish
      have hframes : frames = frames₁ ++ m₁.finishMessage.2 :=
        (Except.ok.inj (Prod.mk.inj hfinish).2).symm
      have htranslated := h.processEvents hannounced hfound
      rw [hevents, hframes, ← List.append_assoc]
      cases hopen : (upstream parse found).2.isOpen with
      | true =>
        obtain ⟨hreads, -, hbody⟩ := htranslated.running hopen
        rw [← hbody, hreads.finishMessage.1, endFrames_of_isOpen hopen]
      | false =>
        obtain ⟨hterminal, hbody⟩ := htranslated.ended hopen
        rw [hbody, finishMessage_terminal hterminal, List.append_nil]

/-- **Run lemma**: the frames of the rest of a stream. -/
theorem settle_eq_expected {bytes : List UInt8} {frames : List Frame} (h : Reads items m)
    (hannounced : Announced items) (hstarted : m.started = true)
    (hsettle : settle parse bytes d m = .ok frames) :
    bodyFrames items ++ frames =
      bodyFrames (items ++ (upstream parse (d.events bytes)).1) ++
        endFrames (items ++ (upstream parse (d.events bytes)).1)
          (upstream parse (d.events bytes)).2 := by
  induction bytes generalizing d m items frames with
  | nil => exact finish_eq_expected h hannounced hstarted (Prod.ext rfl hsettle)
  | cons byte bytes ih =>
    rw [settle, if_neg (by rw [h.running]; exact Bool.false_ne_true)] at hsettle
    rcases hbyte : SseDecoder.pushByte byte d with ⟨d₁, e | found⟩
    · rw [hbyte] at hsettle
      cases hsettle
    · have hevents : d.events (byte :: bytes) = found ++ d₁.events bytes := by
        rw [SseDecoder.events, hbyte]
      rw [hbyte, processEvents] at hsettle
      rcases hfound : feed (Message.processEvent parse) found m with ⟨m₁, e | frames₁⟩
      · rw [hfound] at hsettle
        cases hsettle
      · rw [hfound] at hsettle
        have hstarted₁ := Message.started_processEvents parse hstarted found
        rw [hfound] at hstarted₁
        have htranslated := h.processEvents hannounced hfound
        rw [hevents, upstream_append]
        cases hopen : (upstream parse found).2.isOpen with
        | true =>
          obtain ⟨hreads, hannounced₁, hbody⟩ := htranslated.running hopen
          cases hrest : settle parse bytes d₁ m₁ with
          | error e =>
            simp only [hrest] at hsettle
            cases hsettle
          | ok frames₂ =>
            simp only [hrest] at hsettle
            rw [← Except.ok.inj hsettle, ← List.append_assoc, ← hbody,
              ih hreads hannounced₁ hstarted₁ hrest, if_pos rfl, ← List.append_assoc]
        | false =>
          obtain ⟨hterminal, hbody⟩ := htranslated.ended hopen
          simp only [settle_terminal hstarted₁ hterminal] at hsettle
          have hframes : frames = frames₁ :=
            (Except.ok.inj hsettle).symm.trans (List.append_nil frames₁)
          rw [hframes, if_neg Bool.false_ne_true, hbody]

theorem reads_nil {model messageId : String} {inputTokens : ℕ} {limits : AnthropicStreamLimits}
    {d : SseDecoder} :
    Reads [] (fresh model messageId inputTokens limits d).start.1 :=
  ⟨⟨rfl, rfl, rfl, rfl, rfl, rfl⟩, ⟨List.Pairwise.nil, fun _ => rfl, rfl⟩, rfl⟩

theorem started_start (m : Message) : m.start.1.started = true := by
  rw [Message.start]
  split_ifs with hstarted
  · exact hstarted
  · rfl

/-- The start frame comes first. -/
theorem push_start (m : Message) (chunk : List UInt8) :
    push parse chunk ⟨m, d⟩ = ((push parse chunk ⟨m.start.1, d⟩).1,
      (push parse chunk ⟨m.start.1, d⟩).2.map fun rest => m.start.2 ++ rest) := by
  cases hterminal : m.start.1.terminal with
  | true =>
    rw [push_terminal (started_start m) hterminal, push]
    simp only [hterminal, if_true]
    exact congrArg (fun l => (_, Except.ok l)) (List.append_nil _).symm
  | false =>
    rw [push_of_started (started_start m) hterminal, push]
    simp only [hterminal, Bool.false_eq_true, if_false]

theorem finish_start (m : Message) :
    finish parse ⟨m, d⟩ = ((finish parse ⟨m.start.1, d⟩).1,
      (finish parse ⟨m.start.1, d⟩).2.map fun rest => m.start.2 ++ rest) := by
  have hagain := Message.start_of_started (started_start m)
  rw [finish, finish]
  cases hterminal : m.start.1.terminal with
  | true =>
    simp only [hagain, hterminal, if_true]
    exact congrArg (fun l => (_, Except.ok l)) (List.append_nil _).symm
  | false =>
    simp only [hagain, hterminal, Bool.false_eq_true, if_false, List.nil_append]
    rcases processEvents parse d.finish m.start.1 with ⟨t, e | frames⟩
    · rfl
    · exact congrArg (fun l => (_, Except.ok l)) (List.append_assoc _ _ _)

/-- The start frame and the frames of the stream. -/
theorem settle_of_fresh {chunks : List (List UInt8)} {frames frames' : List Frame}
    {t t' : MessagesStreamTranslator}
    (hpush : feed (push parse) chunks ⟨m, d⟩ = (t, .ok frames))
    (hfinish : finish parse t = (t', .ok frames')) :
    ∃ rest, settle parse chunks.flatten d m.start.1 = .ok rest ∧
      frames ++ frames' = m.start.2 ++ rest := by
  cases chunks with
  | nil =>
    obtain ⟨rfl, hnone⟩ := Prod.mk.inj hpush
    obtain rfl := Except.ok.inj hnone
    rw [finish_start] at hfinish
    rcases hrest : finish parse ⟨m.start.1, d⟩ with ⟨t₁, e | rest⟩
    · rw [hrest] at hfinish
      cases (Prod.mk.inj hfinish).2
    · rw [hrest] at hfinish
      exact ⟨rest, congrArg Prod.snd hrest, (Except.ok.inj (Prod.mk.inj hfinish).2).symm⟩
  | cons chunk chunks =>
    obtain ⟨t₁, frames₁, frames₂, hfirst, hrest, rfl⟩ := feed_cons_eq_ok hpush
    rw [push_start] at hfirst
    rcases hstart : push parse chunk ⟨m.start.1, d⟩ with ⟨t₂, e | frames₃⟩
    · rw [hstart] at hfirst
      cases (Prod.mk.inj hfirst).2
    · rw [hstart] at hfirst
      obtain ⟨rfl, hframes⟩ := Prod.mk.inj hfirst
      have hpushes : feed (push parse) (chunk :: chunks) ⟨m.start.1, d⟩ =
          (t, .ok (frames₃ ++ frames₂)) := by
        rw [feed_cons_ok hstart, hrest]
        rfl
      refine ⟨_, settle_of_pushes (started_start m) hpushes hfinish, ?_⟩
      rw [← Except.ok.inj hframes]
      simp only [List.append_assoc]

theorem withLimits_eq_ok {model messageId : String} {inputTokens : ℕ}
    {limits : AnthropicStreamLimits} {t : MessagesStreamTranslator}
    (hnew : withLimits model messageId inputTokens limits = .ok t) :
    ∃ d, t = fresh model messageId inputTokens limits d := by
  unfold withLimits at hnew
  split_ifs at hnew
  cases hdecoder : SseDecoder.new limits.maxLineBytes limits.maxEventBytes with
  | error e =>
    rw [hdecoder] at hnew
    cases hnew
  | ok d =>
    rw [hdecoder] at hnew
    exact ⟨d, (Except.ok.inj hnew).symm⟩

/-- The frames of a stream whose operations succeed. -/
theorem frames_eq_expected {model messageId : String} {inputTokens : ℕ}
    {limits : AnthropicStreamLimits} {t t₁ t₂ : MessagesStreamTranslator}
    {chunks : List (List UInt8)} {frames₁ frames₂ : List Frame}
    (hnew : withLimits model messageId inputTokens limits = .ok t)
    (hpush : feed (push parse) chunks t = (t₁, .ok frames₁))
    (hfinish : finish parse t₁ = (t₂, .ok frames₂)) :
    frames₁ ++ frames₂ = expected messageId model inputTokens
      (upstream parse (t.decoder.events chunks.flatten)).1
      (upstream parse (t.decoder.events chunks.flatten)).2 := by
  obtain ⟨d, rfl⟩ := withLimits_eq_ok hnew
  obtain ⟨rest, hsettle, hframes⟩ := settle_of_fresh hpush hfinish
  have hrest := settle_eq_expected (reads_nil (d := d)) Announced.nil rfl hsettle
  rw [hframes, expected]
  exact congrArg (Frame.messageStart messageId model inputTokens :: ·) hrest

end MessagesStreamTranslator

end WayfinderRouter.Providers
