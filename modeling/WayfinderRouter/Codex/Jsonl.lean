import WayfinderRouter.Codex.Session

/-!
# Lines of the helper

The helper writes one JSON value a line. Its bytes arrive in reads that may cut a line anywhere.

## Main definitions

- `JsonlDecoder.push`, `JsonlDecoder.nextLine` — the bytes that are not yet read as lines
- `readMessage` — the next message, with as many reads as it takes
- `Reads` — the messages up to the first error
- `firstMessage` — the first message of a stream, however it arrives

## Main results

- `readMessage_eq` — the next message is the first one of the stream
- `fragmentation_independent` — messages and error do not depend on the reads, and the buffer is
  bounded
-/

namespace WayfinderRouter.Codex

def readBufferBytes : ℕ := 8192

def newline : UInt8 := 10

def carriageReturn : UInt8 := 13

/-- `JsonlDecoder`. -/
structure JsonlDecoder where
  buffer : List UInt8

namespace JsonlDecoder

def fresh : JsonlDecoder := ⟨[]⟩

/-- Where the first newline is. -/
def position (decoder : JsonlDecoder) : Option ℕ := decoder.buffer.findIdx? (· == newline)

/-- `JsonlDecoder::push`. -/
def push (decoder : JsonlDecoder) (bytes : List UInt8) :
    Except CodexAppServerError Unit × JsonlDecoder :=
  let newLen := decoder.buffer.length + bytes.length
  if U64.max < newLen then (.error .lineTooLarge, decoder)
  else if maxJsonlLineBytes < newLen ∧ newline ∉ bytes then (.error .lineTooLarge, decoder)
  else
    let decoder : JsonlDecoder := ⟨decoder.buffer ++ bytes⟩
    match decoder.position with
    | some position =>
      if maxJsonlLineBytes < position then (.error .lineTooLarge, decoder) else (.ok (), decoder)
    | none => (.ok (), decoder)

/-- A line without the carriage return at its end. -/
def stripped (line : List UInt8) : List UInt8 :=
  if line.getLast? = some carriageReturn then line.dropLast else line

/-- `JsonlDecoder::next_line`. -/
def nextLine (decoder : JsonlDecoder) :
    Except CodexAppServerError (Option (List UInt8)) × JsonlDecoder :=
  match decoder.position with
  | none =>
    if maxJsonlLineBytes < decoder.buffer.length then (.error .lineTooLarge, decoder)
    else (.ok none, decoder)
  | some position =>
    if maxJsonlLineBytes < position then (.error .lineTooLarge, decoder)
    else
      let line := stripped (decoder.buffer.take (position + 1)).dropLast
      let decoder : JsonlDecoder := ⟨decoder.buffer.drop (position + 1)⟩
      if line = [] then (.error .malformedProtocol, decoder) else (.ok (some line), decoder)

end JsonlDecoder

open JsonlDecoder

section

variable (parse : Json.Parser)

/-- What `read_message` makes of a line. -/
def classifyLine (line : List UInt8) : Except CodexAppServerError WireMessage :=
  if maxResponseBytes < line.length ∧ line.length ≤ maxJsonlLineBytes then
    .error .responseTooLarge
  else
    match parse line with
    | none => .error .malformedProtocol
    | some value => classifyMessage value

/-- `Session::read_message`, with the reads that are to come. -/
def readMessage (decoder : JsonlDecoder) (reads : List (List UInt8)) :
    Except CodexAppServerError WireMessage × JsonlDecoder × List (List UInt8) :=
  match decoder.nextLine with
  | (.error error, decoder) => (.error error, decoder, reads)
  | (.ok (some line), decoder) => (classifyLine parse line, decoder, reads)
  | (.ok none, decoder) =>
    match reads with
    | [] => (.error .endOfStream, decoder, [])
    | bytes :: reads =>
      if bytes = [] then (.error .endOfStream, decoder, reads)
      else
        match decoder.push bytes with
        | (.error error, decoder) => (.error error, decoder, reads)
        | (.ok (), decoder) => readMessage decoder reads

/-- The messages that repeated calls give, and the error that ends them. -/
inductive Reads : JsonlDecoder → List (List UInt8) → List WireMessage → CodexAppServerError → Prop
  where
  | stop {decoder decoder' : JsonlDecoder} {reads reads' : List (List UInt8)}
      {error : CodexAppServerError}
      (h : readMessage parse decoder reads = (.error error, decoder', reads')) :
      Reads decoder reads [] error
  | message {decoder decoder' : JsonlDecoder} {reads reads' : List (List UInt8)}
      {message : WireMessage} {messages : List WireMessage} {error : CodexAppServerError}
      (h : readMessage parse decoder reads = (.ok message, decoder', reads'))
      (hrest : Reads decoder' reads' messages error) :
      Reads decoder reads (message :: messages) error

end

/-- A way of delivering bytes. -/
def Delivery (reads : List (List UInt8)) : Prop :=
  ∀ bytes ∈ reads, 1 ≤ bytes.length ∧ bytes.length ≤ readBufferBytes

/-- A call of the decoder, with the reads that are to come: a line is asked for, and where there is
none a read is pushed. -/
inductive Turn : JsonlDecoder × List (List UInt8) → JsonlDecoder × List (List UInt8) → Prop where
  | next (decoder : JsonlDecoder) (reads : List (List UInt8)) :
      Turn (decoder, reads) (decoder.nextLine.2, reads)
  | push {decoder decoder' : JsonlDecoder} (bytes : List UInt8) (reads : List (List UInt8))
      (h : decoder.nextLine = (.ok none, decoder')) :
      Turn (decoder, bytes :: reads) ((decoder'.push bytes).2, reads)

/-! ## Streams -/

/-- What comes of a line, before it is stripped. -/
def lineMessage (parse : Json.Parser) (body : List UInt8) :
    Except CodexAppServerError WireMessage :=
  if stripped body = [] then .error .malformedProtocol else classifyLine parse (stripped body)

/-- The first message of a stream, and the stream after it. -/
def firstMessage (parse : Json.Parser) (stream : List UInt8) :
    Except CodexAppServerError (WireMessage × List UInt8) :=
  match stream.findIdx? (· == newline) with
  | none => .error (if maxJsonlLineBytes < stream.length then .lineTooLarge else .endOfStream)
  | some position =>
    if maxJsonlLineBytes < position then .error .lineTooLarge
    else (lineMessage parse (stream.take position)).map (·, stream.drop (position + 1))

variable {parse : Json.Parser} {body rest bytes : List UInt8}

theorem findIdx?_newline (hbody : newline ∉ body) (rest : List UInt8) :
    (body ++ newline :: rest).findIdx? (· == newline) = some body.length := by
  induction body with
  | nil => rfl
  | cons b body ih =>
    rw [List.mem_cons, not_or] at hbody
    rw [List.cons_append, List.findIdx?_cons, beq_false_of_ne (Ne.symm hbody.1), ih hbody.2]
    rfl

theorem findIdx?_eq_none (hbody : newline ∉ body) : body.findIdx? (· == newline) = none := by
  rw [List.findIdx?_eq_none_iff]
  exact fun b hb => beq_false_of_ne fun heq => hbody (heq ▸ hb)

theorem firstMessage_line (hbody : newline ∉ body) (rest : List UInt8) :
    firstMessage parse (body ++ newline :: rest) =
      if maxJsonlLineBytes < body.length then .error .lineTooLarge
      else (lineMessage parse body).map (·, rest) := by
  have hdrop : (body ++ newline :: rest).drop (body.length + 1) = rest := by
    rw [← List.drop_drop, List.drop_left]
    rfl
  rw [firstMessage, findIdx?_newline hbody]
  simp only [List.take_left, hdrop]

theorem firstMessage_end (hbody : newline ∉ body) (hlength : body.length ≤ maxJsonlLineBytes) :
    firstMessage parse body = .error .endOfStream := by
  rw [firstMessage, findIdx?_eq_none hbody]
  simp only [if_neg (Nat.not_lt.mpr hlength)]

/-- A line that is too long is found out before it ends. -/
theorem firstMessage_long (hbody : newline ∉ body) (hlength : maxJsonlLineBytes < body.length)
    (rest : List UInt8) : firstMessage parse (body ++ rest) = .error .lineTooLarge := by
  by_cases hrest : newline ∈ rest
  · obtain ⟨part, rest, rfl, hpart⟩ := List.eq_append_cons_of_mem hrest
    rw [← List.append_assoc, firstMessage_line (List.not_mem_append hbody hpart), if_pos]
    rw [List.length_append]
    omega
  · rw [firstMessage, findIdx?_eq_none (List.not_mem_append hbody hrest)]
    have hlong : maxJsonlLineBytes < (body ++ rest).length := by
      rw [List.length_append]
      omega
    simp only [if_pos hlong]

/-! ## Reading -/

theorem nextLine_line (hbody : newline ∉ body) (rest : List UInt8) :
    nextLine ⟨body ++ newline :: rest⟩ =
      if maxJsonlLineBytes < body.length then (.error .lineTooLarge, ⟨body ++ newline :: rest⟩)
      else if stripped body = [] then (.error .malformedProtocol, ⟨rest⟩)
      else (.ok (some (stripped body)), ⟨rest⟩) := by
  have hdrop : (body ++ newline :: rest).drop (body.length + 1) = rest := by
    rw [← List.drop_drop, List.drop_left]
    rfl
  have htake : (body ++ newline :: rest).take (body.length + 1) = body ++ [newline] := by
    rw [List.take_length_add_append]
    rfl
  have hposition : position ⟨body ++ newline :: rest⟩ = some body.length :=
    findIdx?_newline hbody rest
  rw [nextLine, hposition]
  simp only [htake, hdrop, List.dropLast_concat]

theorem nextLine_none (hbody : newline ∉ body) :
    nextLine ⟨body⟩ =
      if maxJsonlLineBytes < body.length then (.error .lineTooLarge, ⟨body⟩)
      else (.ok none, ⟨body⟩) := by
  have hposition : position ⟨body⟩ = none := findIdx?_eq_none hbody
  rw [nextLine, hposition]

/-- A read is pushed only where no newline is and the buffer is not too long. -/
theorem nextLine_eq_none {decoder decoder' : JsonlDecoder}
    (h : decoder.nextLine = (.ok none, decoder')) :
    decoder' = decoder ∧ newline ∉ decoder.buffer ∧
      decoder.buffer.length ≤ maxJsonlLineBytes := by
  obtain ⟨buffer⟩ := decoder
  by_cases hmem : newline ∈ buffer
  · obtain ⟨body, rest, rfl, hbody⟩ := List.eq_append_cons_of_mem hmem
    rw [nextLine_line hbody] at h
    split_ifs at h <;> cases h
  · rw [nextLine_none hmem] at h
    split_ifs at h with hlong
    · cases h
    · cases h
      exact ⟨rfl, hmem, Nat.not_lt.mp hlong⟩

/-- A read that does not end the line. -/
theorem push_part (hbody : newline ∉ body) (hbytes : newline ∉ bytes)
    (hlength : body.length + bytes.length ≤ U64.max) :
    push ⟨body⟩ bytes =
      if maxJsonlLineBytes < (body ++ bytes).length then (.error .lineTooLarge, ⟨body⟩)
      else (.ok (), ⟨body ++ bytes⟩) := by
  have hposition : position ⟨body ++ bytes⟩ = none :=
    findIdx?_eq_none (List.not_mem_append hbody hbytes)
  rw [push, List.length_append]
  simp only [if_neg (Nat.not_lt.mpr hlength), hbytes, not_false_eq_true, and_true, hposition]

/-- A read that ends the line. -/
theorem push_line (hbody : newline ∉ body) {part : List UInt8} (hpart : newline ∉ part)
    (rest : List UInt8) (hlength : body.length + (part ++ newline :: rest).length ≤ U64.max) :
    push ⟨body⟩ (part ++ newline :: rest) =
      if maxJsonlLineBytes < (body ++ part).length then
        (.error .lineTooLarge, ⟨body ++ (part ++ newline :: rest)⟩)
      else (.ok (), ⟨body ++ (part ++ newline :: rest)⟩) := by
  have hposition : position ⟨body ++ (part ++ newline :: rest)⟩ = some (body ++ part).length := by
    rw [position, ← List.append_assoc]
    exact findIdx?_newline (List.not_mem_append hbody hpart) rest
  have hmem : newline ∈ part ++ newline :: rest :=
    List.mem_append_right _ List.mem_cons_self
  rw [push]
  simp only [if_neg (Nat.not_lt.mpr hlength), hmem, not_true_eq_false, and_false, if_false,
    hposition]

instance (reads : List (List UInt8)) : Decidable (Delivery reads) :=
  (List.decidableBAll (fun bytes => 1 ≤ bytes.length ∧ bytes.length ≤ readBufferBytes) reads :
    Decidable (∀ bytes ∈ reads, 1 ≤ bytes.length ∧ bytes.length ≤ readBufferBytes))

theorem Delivery.tail {reads : List (List UInt8)} (h : Delivery (bytes :: reads)) :
    Delivery reads :=
  fun bytes' hmem => h bytes' (List.mem_cons_of_mem _ hmem)

/-- A read never overflows the length of the buffer. -/
theorem length_le_max (hbody : body.length ≤ maxJsonlLineBytes)
    (hbytes : bytes.length ≤ readBufferBytes) : body.length + bytes.length ≤ U64.max := by
  have hroom : maxJsonlLineBytes + readBufferBytes ≤ U64.max := by decide
  omega

/-- A line in the buffer is read without a further read. -/
theorem readMessage_line (hbody : newline ∉ body) (rest : List UInt8)
    (reads : List (List UInt8)) :
    let r := readMessage parse ⟨body ++ newline :: rest⟩ reads
    r.1.map (·, r.2.1.buffer ++ r.2.2.flatten) =
      firstMessage parse (body ++ newline :: rest ++ reads.flatten) := by
  rw [List.append_assoc, List.cons_append, firstMessage_line hbody, readMessage.eq_def,
    nextLine_line hbody, lineMessage]
  split_ifs
  · rfl
  · rfl
  · rfl

/-- The next message is the first message of the buffer with what is to come. -/
theorem readMessage_eq (parse : Json.Parser) (reads : List (List UInt8)) :
    ∀ buffer : List UInt8, Delivery reads →
      let r := readMessage parse ⟨buffer⟩ reads
      r.1.map (·, r.2.1.buffer ++ r.2.2.flatten) =
        firstMessage parse (buffer ++ reads.flatten) := by
  induction reads with
  | nil =>
    intro buffer _
    by_cases hmem : newline ∈ buffer
    · obtain ⟨body, rest, rfl, hbody⟩ := List.eq_append_cons_of_mem hmem
      exact readMessage_line hbody rest []
    · rw [readMessage.eq_def, nextLine_none hmem]
      split_ifs with hlong
      · exact (firstMessage_long hmem hlong _).symm
      · rw [List.flatten_nil, List.append_nil, firstMessage_end hmem (Nat.not_lt.mp hlong)]
        rfl
  | cons bytes reads ih =>
    intro buffer hreads
    by_cases hmem : newline ∈ buffer
    · obtain ⟨body, rest, rfl, hbody⟩ := List.eq_append_cons_of_mem hmem
      exact readMessage_line hbody rest (bytes :: reads)
    · rw [readMessage.eq_def, nextLine_none hmem]
      split_ifs with hlong
      · exact (firstMessage_long hmem hlong _).symm
      · obtain ⟨hpos, hread⟩ := hreads bytes List.mem_cons_self
        have hroom := length_le_max (Nat.not_lt.mp hlong) hread
        have hne : bytes ≠ [] := List.ne_nil_of_length_pos hpos
        rw [List.flatten_cons, ← List.append_assoc]
        -- the read may end the line or not, and make it too long or not
        by_cases hend : newline ∈ bytes
        · obtain ⟨part, rest, rfl, hpart⟩ := List.eq_append_cons_of_mem hend
          have hbody := List.not_mem_append hmem hpart
          simp only [if_neg hne, push_line hmem hpart rest hroom]
          split_ifs with hlong'
          · have hassoc : buffer ++ (part ++ newline :: rest) ++ reads.flatten =
                buffer ++ part ++ (newline :: rest ++ reads.flatten) := by simp
            rw [hassoc, firstMessage_long hbody hlong']
            rfl
          · exact ih _ hreads.tail
        · simp only [if_neg hne, push_part hmem hend hroom]
          split_ifs with hlong'
          · exact (firstMessage_long (List.not_mem_append hmem hend) hlong' _).symm
          · exact ih _ hreads.tail

/-- The reads that a message leaves are among those that were to come. -/
theorem readMessage_reads (parse : Json.Parser) (reads : List (List UInt8)) :
    ∀ decoder : JsonlDecoder, (readMessage parse decoder reads).2.2 <:+ reads := by
  induction reads with
  | nil =>
    intro decoder
    rw [readMessage.eq_def]
    split <;> exact List.suffix_refl _
  | cons bytes reads ih =>
    intro decoder
    rw [readMessage.eq_def]
    split
    · exact List.suffix_refl _
    · exact List.suffix_refl _
    · dsimp only
      split_ifs
      · exact List.suffix_cons _ _
      · split
        · exact List.suffix_cons _ _
        · exact (ih _).trans (List.suffix_cons _ _)

theorem Delivery.suffix {reads reads' : List (List UInt8)} (h : Delivery reads)
    (hsuffix : reads' <:+ reads) : Delivery reads' :=
  fun bytes hmem => h bytes (hsuffix.subset hmem)

/-- A message leaves fewer bytes of the stream. -/
theorem length_firstMessage {stream rest : List UInt8} {message : WireMessage}
    (h : firstMessage parse stream = .ok (message, rest)) : rest.length < stream.length := by
  by_cases hmem : newline ∈ stream
  · obtain ⟨body, rest', rfl, hbody⟩ := List.eq_append_cons_of_mem hmem
    rw [firstMessage_line hbody] at h
    split_ifs at h
    · cases hline : lineMessage parse body with
      | error error =>
        rw [hline] at h
        cases h
      | ok message' =>
        rw [hline] at h
        cases h
        rw [List.length_append, List.length_cons]
        omega
  · rw [firstMessage, findIdx?_eq_none hmem] at h
    cases h

section

variable {decoder decoder' : JsonlDecoder} {reads reads' : List (List UInt8)}
  {messages : List WireMessage} {error : CodexAppServerError}

theorem reads_of_error {first : CodexAppServerError}
    (hfirst : readMessage parse decoder reads = (.error first, decoder', reads')) :
    Reads parse decoder reads messages error ↔ messages = [] ∧ error = first := by
  constructor
  · intro h
    cases h with
    | stop h =>
      rw [hfirst] at h
      cases h
      exact ⟨rfl, rfl⟩
    | message h =>
      rw [hfirst] at h
      cases h
  · rintro ⟨rfl, rfl⟩
    exact .stop hfirst

theorem reads_of_message {first : WireMessage}
    (hfirst : readMessage parse decoder reads = (.ok first, decoder', reads')) :
    Reads parse decoder reads messages error ↔
      ∃ rest, messages = first :: rest ∧ Reads parse decoder' reads' rest error := by
  constructor
  · intro h
    cases h with
    | stop h =>
      rw [hfirst] at h
      cases h
    | message h hrest =>
      rw [hfirst] at h
      cases h
      exact ⟨_, rfl, hrest⟩
  · rintro ⟨rest, rfl, hrest⟩
    exact .message hfirst hrest

end

/-- Repeated calls give messages up to an error, and the bytes of the stream determine them. -/
theorem reads_of_flatten (parse : Json.Parser) (n : ℕ) :
    ∀ stream : List UInt8, stream.length < n → ∃ messages error,
      ∀ (buffer : List UInt8) (reads : List (List UInt8)), Delivery reads →
        buffer ++ reads.flatten = stream →
        ∀ messages' error', Reads parse ⟨buffer⟩ reads messages' error' ↔
          messages' = messages ∧ error' = error := by
  induction n with
  | zero => exact fun _ hlength => absurd hlength (Nat.not_lt_zero _)
  | succ n ih =>
    intro stream hlength
    cases hfirst : firstMessage parse stream with
    | error error =>
      refine ⟨[], error, fun buffer reads hreads hstream messages' error' => ?_⟩
      have heq := readMessage_eq parse reads buffer hreads
      rw [hstream, hfirst] at heq
      rcases hr : readMessage parse ⟨buffer⟩ reads with ⟨result, decoder', reads'⟩
      rw [hr] at heq
      cases result with
      | error error' =>
        cases heq
        exact reads_of_error hr
      | ok message => cases heq
    | ok first =>
      obtain ⟨message, rest⟩ := first
      have hrest := length_firstMessage hfirst
      obtain ⟨messages, error, h⟩ := ih rest (by omega)
      refine ⟨message :: messages, error, fun buffer reads hreads hstream messages' error' => ?_⟩
      have heq := readMessage_eq parse reads buffer hreads
      have hsuffix := readMessage_reads parse reads ⟨buffer⟩
      rw [hstream, hfirst] at heq
      rcases hr : readMessage parse ⟨buffer⟩ reads with ⟨result, decoder', reads'⟩
      rw [hr] at heq hsuffix
      cases result with
      | error error' => cases heq
      | ok message' =>
        obtain ⟨rfl, rfl⟩ := Prod.mk.inj (Except.ok.inj heq)
        rw [reads_of_message hr]
        simp only [h decoder'.buffer reads' (hreads.suffix hsuffix) rfl]
        constructor
        · rintro ⟨tail, rfl, rfl, rfl⟩
          exact ⟨rfl, rfl⟩
        · rintro ⟨rfl, rfl⟩
          exact ⟨messages, rfl, rfl, rfl⟩

/-! ## The buffer -/

theorem buffer_nextLine_suffix (decoder : JsonlDecoder) :
    decoder.nextLine.2.buffer <:+ decoder.buffer := by
  rw [nextLine]
  cases decoder.position with
  | none =>
    dsimp only
    split_ifs <;> exact List.suffix_refl _
  | some position =>
    dsimp only
    split_ifs
    · exact List.suffix_refl _
    · exact List.drop_suffix _ _
    · exact List.drop_suffix _ _

theorem length_push_le (decoder : JsonlDecoder) (bytes : List UInt8) :
    (decoder.push bytes).2.buffer.length ≤ decoder.buffer.length + bytes.length := by
  rw [push]
  split_ifs
  · exact Nat.le_add_right _ _
  · exact Nat.le_add_right _ _
  · have hlength : (decoder.buffer ++ bytes).length ≤ decoder.buffer.length + bytes.length :=
      List.length_append.le
    dsimp only
    split
    · split_ifs <;> exact hlength
    · exact hlength

/-- What is kept between calls of the decoder. -/
def Bounded (s : JsonlDecoder × List (List UInt8)) : Prop :=
  s.1.buffer.length ≤ maxJsonlLineBytes + readBufferBytes ∧ Delivery s.2

theorem Turn.bounded {s s' : JsonlDecoder × List (List UInt8)} (h : Turn s s') (hs : Bounded s) :
    Bounded s' := by
  cases h with
  | next decoder reads =>
    exact ⟨(buffer_nextLine_suffix decoder).length_le.trans hs.1, hs.2⟩
  | @push decoder decoder' bytes reads h =>
    obtain ⟨rfl, -, hlength⟩ := nextLine_eq_none h
    have hbytes := (hs.2 bytes List.mem_cons_self).2
    have hpush := length_push_le decoder' bytes
    exact ⟨hpush.trans (by omega), hs.2.tail⟩

theorem bounded_of_turns {s s' : JsonlDecoder × List (List UInt8)}
    (h : Relation.ReflTransGen Turn s s') (hs : Bounded s) : Bounded s' := by
  induction h with
  | refl => exact hs
  | tail _ hturn ih => exact hturn.bounded ih

/-- A call goes through the turns of the decoder. -/
theorem turns_readMessage (parse : Json.Parser) (reads : List (List UInt8)) :
    ∀ decoder : JsonlDecoder, Delivery reads → Relation.ReflTransGen Turn (decoder, reads)
      (readMessage parse decoder reads).2 := by
  induction reads with
  | nil =>
    intro decoder _
    have hturn := Turn.next decoder []
    rw [readMessage.eq_def]
    split
    · rename_i heq
      rw [heq] at hturn
      exact .single hturn
    · rename_i heq
      rw [heq] at hturn
      exact .single hturn
    · rename_i heq
      rw [heq] at hturn
      exact .single hturn
  | cons bytes reads ih =>
    intro decoder hreads
    have hturn := Turn.next decoder (bytes :: reads)
    have hne : bytes ≠ [] := List.ne_nil_of_length_pos (hreads bytes List.mem_cons_self).1
    rw [readMessage.eq_def]
    split
    · rename_i heq
      rw [heq] at hturn
      exact .single hturn
    · rename_i heq
      rw [heq] at hturn
      exact .single hturn
    · rename_i decoder' heq
      have hpush := Turn.push bytes reads heq
      dsimp only
      rw [if_neg hne]
      split
      · rename_i heq'
        rw [heq'] at hpush
        exact .single hpush
      · rename_i heq'
        rw [heq'] at hpush
        exact .head hpush (ih _ hreads.tail)

/-- Two deliveries of the same bytes give the same messages and the same error, which exist, and
whatever the decoder is asked, its buffer is bounded. -/
theorem fragmentation_independent (parse : Json.Parser) {reads reads' : List (List UInt8)}
    (hreads : Delivery reads) (hreads' : Delivery reads')
    (hsame : reads.flatten = reads'.flatten) :
    (∃ messages error, Reads parse .fresh reads messages error) ∧
      (∀ messages messages' error error', Reads parse .fresh reads messages error →
        Reads parse .fresh reads' messages' error' → messages = messages' ∧ error = error') ∧
      ∀ decoder rest, Relation.ReflTransGen Turn (.fresh, reads) (decoder, rest) →
        decoder.buffer.length ≤ maxJsonlLineBytes + readBufferBytes := by
  obtain ⟨messages, error, h⟩ :=
    reads_of_flatten parse (reads.flatten.length + 1) reads.flatten (Nat.lt_succ_self _)
  have hfirst := h [] reads hreads rfl
  have hsecond := h [] reads' hreads' hsame.symm
  refine ⟨⟨messages, error, (hfirst messages error).mpr ⟨rfl, rfl⟩⟩, ?_, ?_⟩
  · intro messages₁ messages₂ error₁ error₂ h₁ h₂
    obtain ⟨rfl, rfl⟩ := (hfirst messages₁ error₁).mp h₁
    obtain ⟨rfl, rfl⟩ := (hsecond messages₂ error₂).mp h₂
    exact ⟨rfl, rfl⟩
  · intro decoder rest hturns
    exact (bounded_of_turns hturns ⟨Nat.zero_le _, hreads⟩).1

/-- A notification that arrives in one read or cut within its line and before its newline. -/
theorem fragmentation_independent_cut :
    ∃ messages error,
      Reads (fun _ => some (.object [("method", .string "m")])) .fresh [[123, 125, 10]] messages
          error ∧
        Reads (fun _ => some (.object [("method", .string "m")])) .fresh [[123], [125], [10]]
          messages error := by
  have hwhole : Delivery [[123, 125, 10]] := by decide
  have hcut : Delivery [[123], [125], [10]] := by decide
  obtain ⟨⟨messages, error, h⟩, hsame, -⟩ :=
    fragmentation_independent (fun _ => some (.object [("method", .string "m")])) hwhole hcut rfl
  obtain ⟨⟨messages', error', h'⟩, -, -⟩ :=
    fragmentation_independent (fun _ => some (.object [("method", .string "m")])) hcut hwhole rfl
  obtain ⟨rfl, rfl⟩ := hsame messages messages' error error' h h'
  exact ⟨messages, error, h, h'⟩

end WayfinderRouter.Codex
