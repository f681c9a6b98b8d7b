import WayfinderRouter.Text
import WayfinderRouter.Transducer

/-!
# The server-sent event decoder

The decoder collects bytes to lines and lines to events, within a bound for the line and a bound
for the data of an event. The bytes arrive in arbitrary chunks.

The lengths of buffers are at most `isize::MAX`, so the saturating additions of the source are
plain ones.

## Main definitions

- `SseDecoder.processLine`, `SseDecoder.dispatch` — a complete line, and the end of an event
- `SseDecoder.push`, `SseDecoder.finish` — the operations of the decoder
- `SseDecoder.Bounded` — the buffers respect the limits
- `SseDecoder.sseFrame` — the frames that the decoder reads
-/

namespace WayfinderRouter.Providers

open Transducer

structure SseEvent where
  event : String
  data : String
  id : Option String
deriving DecidableEq

inductive SseDecodeError where
  | lineTooLarge (limit : ℕ)
  | eventTooLarge (limit : ℕ)
  | invalidUtf8
  | invalidLimits
deriving DecidableEq

structure SseDecoder where
  maxLineBytes : ℕ
  maxEventBytes : ℕ
  line : List UInt8
  eventType : Option String
  data : String
  hasData : Bool
  dataBytes : ℕ
  id : Option String
deriving DecidableEq

/-- A line without its trailing carriage return. -/
def stripCarriageReturn (line : List UInt8) : List UInt8 :=
  if line.getLast? = some '\r'.toUInt8 then line.dropLast else line

/-- The name of the field and its value, from which one leading space is removed. -/
def splitField (line : List Char) : String × String :=
  match line.dropWhile (· ≠ ':') with
  | [] => (String.ofList line, "")
  | _ :: value =>
    (String.ofList (line.takeWhile (· ≠ ':')),
      String.ofList ((value.dropPrefix? [' ']).getD value))

namespace SseDecoder

/-- `SseDecoder::new`. -/
def new (maxLineBytes maxEventBytes : ℕ) : Except SseDecodeError SseDecoder :=
  if maxLineBytes = 0 ∨ maxEventBytes = 0 then .error .invalidLimits
  else .ok
    { maxLineBytes, maxEventBytes, line := [], eventType := none, data := "", hasData := false,
      dataBytes := 0, id := none }

/-- `SseDecoder::default`. -/
def default : SseDecoder :=
  { maxLineBytes := 256 * 1024, maxEventBytes := 1024 * 1024, line := [], eventType := none,
    data := "", hasData := false, dataBytes := 0, id := none }

/-- `SseDecoder::dispatch`. -/
def dispatch (d : SseDecoder) : SseDecoder × Option SseEvent :=
  ({ d with eventType := none, data := "", hasData := false, dataBytes := 0 },
    if d.hasData then some ⟨d.eventType.getD "message", d.data, d.id⟩ else none)

/-- The size of the data with one more `data` field. -/
def newSize (value : String) (d : SseDecoder) : ℕ :=
  d.dataBytes + (if d.hasData then 1 else 0) + value.utf8ByteSize

/-- A `data` field. -/
def addData (value : String) (d : SseDecoder) :
    SseDecoder × Except SseDecodeError (List SseEvent) :=
  if d.maxEventBytes < d.newSize value then (d, .error (.eventTooLarge d.maxEventBytes))
  else
    ({ d with
        dataBytes := d.newSize value
        data := (if d.hasData then d.data.push '\n' else d.data) ++ value
        hasData := true }, .ok [])

/-- One field of an event. -/
def applyField (field value : String) (d : SseDecoder) :
    SseDecoder × Except SseDecodeError (List SseEvent) :=
  match field with
  | "event" => ({ d with eventType := some value }, .ok [])
  | "data" => d.addData value
  | "id" =>
    if value.toList.contains '\x00' then (d, .ok []) else ({ d with id := some value }, .ok [])
  | _ => (d, .ok [])

/-- `SseDecoder::process_line`. -/
def processLine : Step SseDecoder (List UInt8) SseDecodeError SseEvent := fun rawLine d =>
  if rawLine = [] then (d.dispatch.1, .ok d.dispatch.2.toList)
  else
    match String.fromUTF8? ⟨rawLine.toArray⟩ with
    | none => (d, .error .invalidUtf8)
    | some line =>
      -- A line that starts with a colon is a comment.
      if line.toList.head? = some ':' then (d, .ok [])
      else d.applyField (splitField line.toList).1 (splitField line.toList).2

/-- One byte of a chunk. -/
def pushByte : Step SseDecoder UInt8 SseDecodeError SseEvent := fun byte d =>
  if byte = '\n'.toUInt8 then
    processLine (stripCarriageReturn d.line) { d with line := [] }
  else if d.maxLineBytes ≤ d.line.length then (d, .error (.lineTooLarge d.maxLineBytes))
  else ({ d with line := d.line ++ [byte] }, .ok [])

/-- `SseDecoder::push`. -/
def push : Step SseDecoder (List UInt8) SseDecodeError SseEvent := feed pushByte

/-- The line that the end of the transport leaves. -/
def lastLine (d : SseDecoder) : SseDecoder × Except SseDecodeError (List SseEvent) :=
  if d.line = [] then (d, .ok [])
  else processLine (stripCarriageReturn d.line) { d with line := [] }

/-- `SseDecoder::finish`. -/
def finish (d : SseDecoder) : SseDecoder × Except SseDecodeError (List SseEvent) :=
  match d.lastLine with
  | (d', .error e) => (d', .error e)
  | (d', .ok events) => (d'.dispatch.1, .ok (events ++ d'.dispatch.2.toList))

/-- The events of a byte string, as far as the decoder accepts it. -/
def events : List UInt8 → SseDecoder → List SseEvent
  | [], d =>
    match d.finish.2 with
    | .error _ => []
    | .ok events => events
  | byte :: bytes, d =>
    match pushByte byte d with
    | (_, .error _) => []
    | (d', .ok found) => found ++ events bytes d'

/-- The events of a part come first. -/
theorem events_append {part rest : List UInt8} {d d' : SseDecoder} {found : List SseEvent}
    (h : push part d = (d', .ok found)) : events (part ++ rest) d = found ++ events rest d' := by
  induction part generalizing d found with
  | nil =>
    obtain ⟨rfl, hfound⟩ := Prod.mk.inj h
    rw [← Except.ok.inj hfound]
    rfl
  | cons byte part ih =>
    obtain ⟨d₁, found₁, found₂, hbyte, hpart, rfl⟩ := feed_cons_eq_ok h
    rw [List.cons_append, events, hbyte, List.append_assoc]
    exact congrArg _ (ih hpart)

/-- A part of a line that fits. -/
theorem push_part {d : SseDecoder} {part : List UInt8} (hpart : '\n'.toUInt8 ∉ part)
    (hfits : d.line.length + part.length ≤ d.maxLineBytes) :
    push part d = ({ d with line := d.line ++ part }, .ok []) := by
  induction part generalizing d with
  | nil => rw [List.append_nil]; rfl
  | cons byte part ih =>
    obtain ⟨hbyte, hpart'⟩ := List.ne_and_not_mem_of_not_mem_cons hpart
    rw [List.length_cons] at hfits
    have hstep : pushByte byte d = ({ d with line := d.line ++ [byte] }, .ok []) := by
      rw [pushByte, if_neg hbyte.symm, if_neg (by omega)]
    rw [push] at ih ⊢
    rw [feed_cons_ok hstep, ih hpart' (by simp; omega), List.append_assoc]
    rfl

/-- A line that fits. -/
theorem push_line {d : SseDecoder} {l : List Char} (hd : d.line = []) (hl : SingleLine l)
    (hfits : (utf8 l).length ≤ d.maxLineBytes) :
    push (utf8 l ++ ['\n'.toUInt8]) d = processLine (utf8 l) d := by
  have hnewline : '\n'.toUInt8 ∉ utf8 l := fun h => hl.1 (mem_of_mem_utf8 (by decide) h)
  have hreturn : '\r'.toUInt8 ∉ utf8 l := fun h => hl.2 (mem_of_mem_utf8 (by decide) h)
  have hpart := push_part hnewline (by rw [hd, List.length_nil, Nat.zero_add]; exact hfits)
  have hstrip : stripCarriageReturn (utf8 l) = utf8 l :=
    if_neg fun hlast => hreturn (List.mem_of_getLast? hlast)
  rw [push] at hpart ⊢
  rw [feed_append_ok hpart, feed_singleton, pushByte, if_pos rfl, hd, List.nil_append, hstrip]
  have hsame : { d with line := [] } = d := by rw [← hd]
  rw [hsame]
  rcases processLine (utf8 l) d with ⟨d', e | events⟩
  · rfl
  · rfl

/-- An empty line. -/
theorem push_blank {d : SseDecoder} (hd : d.line = []) :
    push ['\n'.toUInt8] d = (d.dispatch.1, .ok d.dispatch.2.toList) := by
  rw [push, feed_singleton, pushByte, if_pos rfl, hd]
  have hsame : { d with line := [] } = d := by rw [← hd]
  rw [hsame]
  rfl

/-- A field with a space before its value. -/
theorem processLine_field (d : SseDecoder) {name : List Char} (value : List Char)
    (hname : ':' ∉ name) (hne : name ≠ []) :
    processLine (utf8 (name ++ ':' :: ' ' :: value)) d =
      d.applyField (String.ofList name) (String.ofList value) := by
  have hcolon : ∀ c ∈ name, (decide (c ≠ ':')) = true :=
    fun c hc => decide_eq_true fun heq => hname (heq ▸ hc)
  have hsplit : splitField (name ++ ':' :: ' ' :: value) =
      (String.ofList name, String.ofList value) := by
    rw [splitField, List.dropWhile_append_of_pos hcolon, List.takeWhile_append_of_pos hcolon]
    simp [List.dropPrefix?]
  have hbytes : utf8 (name ++ ':' :: ' ' :: value) ≠ [] := by
    rw [utf8_append]
    exact List.append_ne_nil_of_right_ne_nil _ (List.cons_ne_nil _ _)
  rw [processLine, if_neg hbytes, fromUTF8_utf8]
  simp only [String.toList_ofList]
  rw [if_neg, hsplit]
  cases name with
  | nil => exact absurd rfl hne
  | cons c name =>
    intro hhead
    exact hname (Option.some.inj hhead ▸ List.mem_cons_self)

/-- A decoder between two events. -/
def idle (maxLineBytes maxEventBytes : ℕ) (id : Option String) : SseDecoder :=
  ⟨maxLineBytes, maxEventBytes, [], none, "", false, 0, id⟩

/-- The lines of an event with a name and one line of data. -/
theorem push_event (maxLineBytes maxEventBytes : ℕ) (id : Option String) {name value : List Char}
    (hname : SingleLine name) (hvalue : SingleLine value)
    (hnameFits : (utf8 ("event: ".toList ++ name)).length ≤ maxLineBytes)
    (hvalueFits : (utf8 ("data: ".toList ++ value)).length ≤ maxLineBytes)
    (hevent : (utf8 value).length ≤ maxEventBytes) :
    push ((utf8 ("event: ".toList ++ name) ++ ['\n'.toUInt8]) ++
        ((utf8 ("data: ".toList ++ value) ++ ['\n'.toUInt8]) ++ ['\n'.toUInt8]))
        (idle maxLineBytes maxEventBytes id) =
      (idle maxLineBytes maxEventBytes id,
        .ok [⟨String.ofList name, String.ofList value, id⟩]) := by
  have hfirst : push (utf8 ("event: ".toList ++ name) ++ ['\n'.toUInt8])
      (idle maxLineBytes maxEventBytes id) =
      (⟨maxLineBytes, maxEventBytes, [], some (String.ofList name), "", false, 0, id⟩, .ok []) := by
    rw [push_line rfl (SingleLine.append (by decide) hname) hnameFits]
    exact processLine_field _ name (by decide : ':' ∉ "event".toList) (by decide)
  have hsecond : push (utf8 ("data: ".toList ++ value) ++ ['\n'.toUInt8])
      ⟨maxLineBytes, maxEventBytes, [], some (String.ofList name), "", false, 0, id⟩ =
      (⟨maxLineBytes, maxEventBytes, [], some (String.ofList name), String.ofList value, true,
        (utf8 value).length, id⟩, .ok []) := by
    rw [push_line rfl (SingleLine.append (by decide) hvalue) hvalueFits]
    refine (processLine_field _ value (by decide : ':' ∉ "data".toList) (by decide)).trans ?_
    show addData (String.ofList value) _ = _
    have hsize : newSize (String.ofList value)
        ⟨maxLineBytes, maxEventBytes, [], some (String.ofList name), "", false, 0, id⟩ =
        (utf8 value).length := by
      rw [← utf8ByteSize_ofList]
      exact Nat.zero_add _
    rw [addData, hsize, if_neg (Nat.not_lt.mpr hevent)]
    simp
  rw [push] at hfirst hsecond ⊢
  rw [feed_append_ok hfirst, feed_append_ok hsecond]
  have hthird := push_blank (d := ⟨maxLineBytes, maxEventBytes, [], some (String.ofList name),
    String.ofList value, true, (utf8 value).length, id⟩) rfl
  rw [push] at hthird
  rw [hthird]
  rfl

/-- `sse_frame`, and `frame` of the responses. -/
def sseFrame (event data : String) : List UInt8 :=
  utf8 ("event: ".toList ++ event.toList ++ "\ndata: ".toList ++ data.toList ++ ['\n', '\n'])

/-- The three lines of a frame. -/
theorem sseFrame_eq (event data : String) : sseFrame event data =
    (utf8 ("event: ".toList ++ event.toList) ++ ['\n'.toUInt8]) ++
      ((utf8 ("data: ".toList ++ data.toList) ++ ['\n'.toUInt8]) ++ ['\n'.toUInt8]) := by
  have htext : "event: ".toList ++ event.toList ++ "\ndata: ".toList ++ data.toList ++
      ['\n', '\n'] =
      ("event: ".toList ++ event.toList ++ ['\n']) ++
        (("data: ".toList ++ data.toList ++ ['\n']) ++ ['\n']) := by
    simp
  rw [sseFrame, htext, utf8_append _ (_ ++ _), utf8_append _ ['\n'], utf8_append (_ ++ _) ['\n'],
    utf8_append _ ['\n']]
  rfl

/-- A frame whose lines and whose data fit. -/
structure Fits (maxLineBytes maxEventBytes : ℕ) (event data : String) : Prop where
  eventText : SingleLine event.toList
  dataText : SingleLine data.toList
  eventLine : (utf8 ("event: ".toList ++ event.toList)).length ≤ maxLineBytes
  dataLine : (utf8 ("data: ".toList ++ data.toList)).length ≤ maxLineBytes
  dataBytes : (utf8 data.toList).length ≤ maxEventBytes

theorem Fits.push {maxLineBytes maxEventBytes : ℕ} {event data : String}
    (h : Fits maxLineBytes maxEventBytes event data) (id : Option String) :
    push (sseFrame event data) (idle maxLineBytes maxEventBytes id) =
      (idle maxLineBytes maxEventBytes id, .ok [⟨event, data, id⟩]) := by
  have hpush := push_event maxLineBytes maxEventBytes id h.eventText h.dataText h.eventLine
    h.dataLine h.dataBytes
  rw [String.ofList_toList, String.ofList_toList] at hpush
  rw [sseFrame_eq]
  exact hpush

/-- Frames in any fragmentation are decoded to their events, and leave nothing behind. -/
theorem frames_decoded (maxLineBytes maxEventBytes : ℕ) (d : SseDecoder)
    (hnew : new maxLineBytes maxEventBytes = .ok d) (pairs : List (String × String))
    (hfits : ∀ pair ∈ pairs, Fits maxLineBytes maxEventBytes pair.1 pair.2)
    (chunks : List (List UInt8))
    (hchunks : chunks.flatten = pairs.flatMap fun pair => sseFrame pair.1 pair.2) :
    feed push chunks d = (d, .ok (pairs.map fun pair => ⟨pair.1, pair.2, none⟩)) := by
  have hidle : d = idle maxLineBytes maxEventBytes none := by
    unfold new at hnew
    split_ifs at hnew
    exact (Except.ok.inj hnew).symm
  rw [push, feed_flatten, hchunks, hidle]
  clear hchunks
  induction pairs with
  | nil => rfl
  | cons pair pairs ih =>
    obtain ⟨hpair, hpairs⟩ := List.forall_mem_cons.mp hfits
    have hfirst := hpair.push none
    rw [push] at hfirst
    rw [List.flatMap_cons, feed_append_ok hfirst, ih hpairs]
    rfl

/-- Two frames that are cut in the middle. -/
theorem frames_decoded_cut :
    feed push [(sseFrame "a" "1" ++ sseFrame "b" "2").take 9,
      (sseFrame "a" "1" ++ sseFrame "b" "2").drop 9] (idle 64 64 none) =
      (idle 64 64 none, .ok [⟨"a", "1", none⟩, ⟨"b", "2", none⟩]) := by
  have hfirst : Fits 64 64 "a" "1" := ⟨by decide, by decide, by decide, by decide, by decide⟩
  have hsecond : Fits 64 64 "b" "2" := ⟨by decide, by decide, by decide, by decide, by decide⟩
  exact frames_decoded 64 64 (idle 64 64 none) rfl [("a", "1"), ("b", "2")]
    (List.forall_mem_cons.mpr ⟨hfirst, List.forall_mem_singleton.mpr hsecond⟩) _
    (by rw [List.flatten_cons, List.flatten_singleton, List.take_append_drop]; rfl)

/-- The buffers of a decoder with the given limits. -/
structure Bounded (maxLineBytes maxEventBytes : ℕ) (d : SseDecoder) : Prop where
  maxLine : d.maxLineBytes = maxLineBytes
  maxEvent : d.maxEventBytes = maxEventBytes
  line : d.line.length ≤ maxLineBytes
  data : d.dataBytes = d.data.utf8ByteSize
  event : d.dataBytes ≤ maxEventBytes

variable {maxLineBytes maxEventBytes : ℕ} {d : SseDecoder}

theorem bounded_new (h : new maxLineBytes maxEventBytes = .ok d) :
    Bounded maxLineBytes maxEventBytes d := by
  unfold new at h
  split at h
  · cases h
  · cases h
    exact ⟨rfl, rfl, Nat.zero_le _, rfl, Nat.zero_le _⟩

theorem Bounded.dispatch (h : Bounded maxLineBytes maxEventBytes d) :
    Bounded maxLineBytes maxEventBytes d.dispatch.1 :=
  ⟨h.maxLine, h.maxEvent, h.line, rfl, Nat.zero_le _⟩

theorem Bounded.addData (h : Bounded maxLineBytes maxEventBytes d) (value : String) :
    Bounded maxLineBytes maxEventBytes (d.addData value).1 := by
  unfold SseDecoder.addData
  by_cases hlarge : d.maxEventBytes < d.newSize value
  · rw [if_pos hlarge]
    exact h
  · rw [if_neg hlarge]
    refine ⟨h.maxLine, h.maxEvent, h.line, ?_, ?_⟩
    · have hnewline : ('\n').utf8Size = 1 := by decide
      cases hseen : d.hasData with
      | false => simp [newSize, hseen, h.data, String.utf8ByteSize_append]
      | true =>
        simp [newSize, hseen, h.data, String.utf8ByteSize_append, String.utf8ByteSize_push,
          hnewline]
    · rw [h.maxEvent] at hlarge
      exact Nat.not_lt.mp hlarge

theorem Bounded.applyField (h : Bounded maxLineBytes maxEventBytes d) (field value : String) :
    Bounded maxLineBytes maxEventBytes (d.applyField field value).1 := by
  unfold SseDecoder.applyField
  split
  · exact ⟨h.maxLine, h.maxEvent, h.line, h.data, h.event⟩
  · exact h.addData value
  · split
    · exact h
    · exact ⟨h.maxLine, h.maxEvent, h.line, h.data, h.event⟩
  · exact h

/-- A line keeps the bounds, also when it fails. -/
theorem Bounded.processLine (h : Bounded maxLineBytes maxEventBytes d) (rawLine : List UInt8) :
    Bounded maxLineBytes maxEventBytes (processLine rawLine d).1 := by
  unfold SseDecoder.processLine
  split
  · exact h.dispatch
  · split
    · exact h
    · split
      · exact h
      · exact h.applyField _ _

theorem Bounded.pushByte (h : Bounded maxLineBytes maxEventBytes d) (byte : UInt8) :
    Bounded maxLineBytes maxEventBytes (pushByte byte d).1 := by
  unfold SseDecoder.pushByte
  split_ifs with hbyte hfull
  · apply Bounded.processLine
    exact ⟨h.maxLine, h.maxEvent, Nat.zero_le _, h.data, h.event⟩
  · exact h
  · refine ⟨h.maxLine, h.maxEvent, ?_, h.data, h.event⟩
    rw [List.length_append, List.length_singleton]
    rw [h.maxLine] at hfull
    omega

theorem Bounded.push (h : Bounded maxLineBytes maxEventBytes d) (chunk : List UInt8) :
    Bounded maxLineBytes maxEventBytes (push chunk d).1 :=
  feed_invariant (fun byte _ hd => hd.pushByte byte) chunk h

theorem Bounded.finish (h : Bounded maxLineBytes maxEventBytes d) :
    Bounded maxLineBytes maxEventBytes d.finish.1 := by
  have hlast : Bounded maxLineBytes maxEventBytes d.lastLine.1 := by
    unfold lastLine
    split
    · exact h
    · apply Bounded.processLine
      exact ⟨h.maxLine, h.maxEvent, Nat.zero_le _, h.data, h.event⟩
  unfold SseDecoder.finish
  rcases hd : d.lastLine with ⟨d', e | events⟩
  · rw [hd] at hlast
    exact hlast
  · rw [hd] at hlast
    exact hlast.dispatch

/-- Two ways of cutting a byte string lead to the same state, and to the same events or the same
error. The state respects the limits after any part of the byte string, and at the end. -/
theorem push_fragments (maxLineBytes maxEventBytes : ℕ) (d : SseDecoder)
    (h : new maxLineBytes maxEventBytes = .ok d) (bytes : List UInt8)
    (chunks chunks' : List (List UInt8)) (hchunks : chunks.flatten = bytes)
    (hchunks' : chunks'.flatten = bytes) :
    feed push chunks d = feed push chunks' d ∧
    ∀ part, part <+: bytes →
      Bounded maxLineBytes maxEventBytes (push part d).1 ∧
      Bounded maxLineBytes maxEventBytes (push part d).1.finish.1 := by
  constructor
  · rw [push, feed_flatten, feed_flatten, hchunks, hchunks']
  · intro part _
    have hpart := (bounded_new h).push part
    exact ⟨hpart, hpart.finish⟩

/-- A line ending that is cut in two. -/
theorem push_fragments_cutLineEnding :
    feed push [[0x64, 0x61, 0x74, 0x61, 0x3a, 0x31, 0x0d], [0x0a, 0x0a]]
        ⟨8, 8, [], none, "", false, 0, none⟩ =
      feed push [[0x64, 0x61], [], [0x74, 0x61, 0x3a, 0x31, 0x0d, 0x0a, 0x0a]]
        ⟨8, 8, [], none, "", false, 0, none⟩ :=
  (push_fragments 8 8 ⟨8, 8, [], none, "", false, 0, none⟩ rfl
    [0x64, 0x61, 0x74, 0x61, 0x3a, 0x31, 0x0d, 0x0a, 0x0a] _ _ rfl rfl).1

end SseDecoder

end WayfinderRouter.Providers
