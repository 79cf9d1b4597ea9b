import Iperf.NetUtil.Framing

/-!
# An uninterrupted read

The bytes of a connection arrive in pieces that the reader does not choose.
`readControlMessage` is the whole of a read, from its first await to its return,
over any such pieces; `readFrame` says what it returns and leaves in terms of
the bytes alone.
-/

namespace Iperf

/-- The bytes of a connection in the pieces in which they arrive.  The stream
ends behind the last of them. -/
structure Arrivals where
  chunks : List (List UInt8)
  nonempty : ∀ chunk ∈ chunks, chunk ≠ []

namespace Arrivals

/-- The unread bytes. -/
def bytes (arrivals : Arrivals) : List UInt8 :=
  arrivals.chunks.flatten

/-- A stream whose bytes arrive one at a time. -/
def single (bytes : List UInt8) : Arrivals where
  chunks := bytes.map fun byte => [byte]
  nonempty := by
    intro chunk member
    rcases List.mem_map.mp member with ⟨byte, -, rfl⟩
    exact List.cons_ne_nil byte []

@[simp]
theorem single_bytes (bytes : List UInt8) : (single bytes).bytes = bytes := by
  induction bytes with
  | nil => rfl
  | cons byte rest ih =>
      calc
        (single (byte :: rest)).bytes = byte :: (single rest).bytes := rfl
        _ = byte :: rest := by rw [ih]

/-- One `read` into a buffer with room for `room` bytes; it returns nothing once
the stream has ended. -/
def read (room : Nat) : Arrivals → List UInt8 × Arrivals
  | ⟨[], nonempty⟩ => ([], ⟨[], nonempty⟩)
  | ⟨chunk :: rest, nonempty⟩ =>
      if fits : chunk.length ≤ room then
        (chunk, ⟨rest, fun other member => nonempty other (List.mem_cons_of_mem chunk member)⟩)
      else
        (chunk.take room, {
          chunks := chunk.drop room :: rest
          nonempty := by
            intro other member
            rcases List.mem_cons.mp member with rfl | later
            · intro none
              exact fits (List.drop_eq_nil_iff.mp none)
            · exact nonempty other (List.mem_cons_of_mem chunk later) })

/-- A read splits the unread bytes. -/
theorem read_append (room : Nat) (arrivals : Arrivals) :
    (arrivals.read room).1 ++ (arrivals.read room).2.bytes = arrivals.bytes := by
  cases arrivals with
  | mk chunks nonempty =>
      cases chunks with
      | nil => rfl
      | cons chunk rest =>
          by_cases fits : chunk.length ≤ room
          · simp [read, fits, bytes]
          · simp only [read, fits, dite_false, bytes, List.flatten_cons]
            rw [← List.append_assoc, List.take_append_drop]

/-- A read keeps to its buffer. -/
theorem length_read_le (room : Nat) (arrivals : Arrivals) :
    (arrivals.read room).1.length ≤ room := by
  cases arrivals with
  | mk chunks nonempty =>
      cases chunks with
      | nil => exact Nat.zero_le room
      | cons chunk rest =>
          by_cases fits : chunk.length ≤ room
          · simp [read, fits]
          · simp only [read, fits, dite_false]
            exact List.length_take_le room chunk

/-- A read into a buffer with room returns nothing only at the end of the stream. -/
theorem bytes_eq_nil_of_read {room : Nat} {arrivals : Arrivals} (space : 0 < room)
    (ended : (arrivals.read room).1 = []) : arrivals.bytes = [] := by
  cases arrivals with
  | mk chunks nonempty =>
      cases chunks with
      | nil => rfl
      | cons chunk rest =>
          have some : chunk ≠ [] := nonempty chunk (List.mem_cons_self ..)
          by_cases fits : chunk.length ≤ room
          · simp only [read, fits, dite_true] at ended
            exact absurd ended some
          · simp only [read, fits, dite_false, List.take_eq_nil_iff] at ended
            rcases ended with none | empty
            · exact absurd none (Nat.ne_of_gt space)
            · exact absurd empty some

/-- What a read returns is no longer there to be read. -/
theorem length_bytes_lt {room : Nat} {arrivals : Arrivals} (some : (arrivals.read room).1 ≠ []) :
    (arrivals.read room).2.bytes.length < arrivals.bytes.length := by
  rw [← read_append room arrivals, List.length_append]
  exact Nat.lt_add_of_pos_left (List.length_pos_of_ne_nil some)

end Arrivals

/-- What an uninterrupted read ends with. -/
inductive FrameRead (α : Type) where
  | returned (result : Except NetUtilError α)
  /-- `remaining_bytes` falls below zero or the final assertion fails. -/
  | panicked

namespace Reader

/-- Read on until the message is complete. -/
def resume {α : Type} (codec : Codec α) (reader : Reader) (arrivals : Arrivals) :
    FrameRead α × Arrivals :=
  let piece := (arrivals.read reader.wanted).1
  let later := (arrivals.read reader.wanted).2
  if piece = [] then (.returned (.error reader.eof), later)
  else if reader.wanted < piece.length then (.panicked, later)
  else
    match reader.consume codec piece with
    | .more next => resume codec next later
    | .done result => (.returned result, later)
    | .panicked => (.panicked, later)
termination_by arrivals.bytes.length
decreasing_by
  exact Arrivals.length_bytes_lt (by assumption)

end Reader

def readControlMessage {α : Type} (codec : Codec α) (arrivals : Arrivals) :
    FrameRead α × Arrivals :=
  Reader.fresh.resume codec arrivals

/-- What a read makes of the bytes of a stream that ends behind them: its result
and the bytes it leaves. -/
def readFrame {α : Type} (codec : Codec α) (bytes : List UInt8) :
    Except NetUtilError α × List UInt8 :=
  let body := bytes.drop messageLengthSizeBytes
  let messageSize := getU32 (bytes.take messageLengthSizeBytes)
  if bytes.length < messageLengthSizeBytes then (.error .ioError, [])
  else if maxControlMessageSize < messageSize then
    (.error (.controlMessageTooLarge messageSize), body)
  else if body.length < messageSize then (.error .connectionWasClosedByPeer, [])
  else (codec.decode (body.take messageSize), body.drop messageSize)

namespace Reader

variable {α : Type} (codec : Codec α)

/-- How a read ends in a stream of the bytes `stream` that, with `missing` behind
it, is a frame and `more`. -/
inductive Ending (stream payload missing more : List UInt8) : FrameRead α × Arrivals → Prop where
  | decoded (left : Arrivals) (small : payload.length ≤ maxControlMessageSize)
      (leaves : left.bytes ++ missing = more) :
      Ending stream payload missing more (.returned (codec.decode payload), left)
  | tooLarge (left : Arrivals) (large : maxControlMessageSize < payload.length)
      (leaves : left.bytes ++ missing = payload ++ more) :
      Ending stream payload missing more
        (.returned (.error (.controlMessageTooLarge payload.length)), left)
  | cut (last : Reader) (left : Arrivals) (held : last.Holds stream)
      (leaves : left.bytes = []) :
      Ending stream payload missing more (.returned (.error last.eof), left)

/-- A read ends in one of these ways, whatever the pieces are. -/
theorem Holds.resume {reader : Reader} {part payload missing more : List UInt8}
    {arrivals : Arrivals} (holds : reader.Holds part) (fits : payload.length ≤ u32Max)
    (stream : part ++ (arrivals.bytes ++ missing) = putU32 payload.length ++ payload ++ more) :
    Ending codec (part ++ arrivals.bytes) payload missing more
      (reader.resume codec arrivals) := by
  rcases split : arrivals.read reader.wanted with ⟨piece, later⟩
  have pieces : piece ++ later.bytes = arrivals.bytes := by
    have pieces := arrivals.read_append reader.wanted
    rwa [split] at pieces
  have bounded : piece.length ≤ reader.wanted := by
    have bounded := arrivals.length_read_le reader.wanted
    rwa [split] at bounded
  rw [Reader.resume, split]
  simp only
  by_cases ended : piece = []
  · have none : arrivals.bytes = [] := by
      apply Arrivals.bytes_eq_nil_of_read (wanted_pos holds)
      rw [split]
      exact ended
    rw [if_pos ended]
    apply Ending.cut
    · rw [none, List.append_nil]
      exact holds
    · rw [none] at pieces
      exact (List.append_eq_nil_iff.mp pieces).2
  · have shorter : later.bytes.length < arrivals.bytes.length := by
      rw [← pieces, List.length_append]
      exact Nat.lt_add_of_pos_left (List.length_pos_of_ne_nil ended)
    rw [if_neg ended, if_neg (Nat.not_lt.mpr bounded)]
    have cut : part ++ piece ++ (later.bytes ++ missing) =
        putU32 payload.length ++ payload ++ more := by
      rw [← stream, ← pieces, List.append_assoc part, List.append_assoc piece]
    rcases holds.within fits bounded cut with ⟨rest, whole, remains⟩
    rcases holds.consume codec fits whole bounded with
      ⟨-, next, step, held⟩ | ⟨complete, small, done⟩ | ⟨large, body, failed⟩
    · have ending := held.resume fits cut
      rw [List.append_assoc, pieces] at ending
      rw [step]
      exact ending
    · rw [complete] at remains
      rw [done]
      exact .decoded later small remains
    · rw [body] at remains
      rw [failed]
      exact .tooLarge later large remains
termination_by arrivals.bytes.length

end Reader

/-- Four bytes are the length they stand for. -/
theorem putU32_getU32 {bytes : List UInt8} (four : bytes.length = messageLengthSizeBytes) :
    putU32 (getU32 bytes) = bytes ∧ getU32 bytes ≤ u32Max := by
  match bytes, four with
  | [first, second, third, last], _ =>
      have size : getU32 [first, second, third, last] =
          ((first.toNat * 256 + second.toNat) * 256 + third.toNat) * 256 + last.toNat := by
        simp only [getU32, List.foldl_cons, List.foldl_nil, Nat.zero_mul, Nat.zero_add]
      have bounds := And.intro (And.intro first.toNat_lt second.toNat_lt)
        (And.intro third.toNat_lt last.toNat_lt)
      have digits : getU32 [first, second, third, last] / 16777216 = first.toNat ∧
          getU32 [first, second, third, last] / 65536 % 256 = second.toNat ∧
          getU32 [first, second, third, last] / 256 % 256 = third.toNat ∧
          getU32 [first, second, third, last] % 256 = last.toNat := by
        rw [size]
        omega
      constructor
      · simp only [putU32, digits, UInt8.ofNat_toNat]
      · rw [size, u32Max]
        omega

/-- Any bytes begin a frame or begin with one. -/
theorem exists_frame (bytes : List UInt8) :
    ∃ payload missing more, payload.length ≤ u32Max ∧
      bytes ++ missing = putU32 payload.length ++ payload ++ more := by
  -- Zeros stand for what is missing.
  let padded := bytes ++ List.replicate messageLengthSizeBytes 0
  let messageSize := getU32 (padded.take messageLengthSizeBytes)
  let body := padded.drop messageLengthSizeBytes ++ List.replicate messageSize 0
  have four : (padded.take messageLengthSizeBytes).length = messageLengthSizeBytes := by
    apply List.length_take_of_le
    simp only [padded, List.length_append, List.length_replicate]
    exact Nat.le_add_left _ _
  rcases putU32_getU32 four with ⟨header, fits⟩
  have length : (body.take messageSize).length = messageSize := by
    apply List.length_take_of_le
    simp only [body, List.length_append, List.length_replicate]
    exact Nat.le_add_left _ _
  refine ⟨body.take messageSize,
    List.replicate messageLengthSizeBytes 0 ++ List.replicate messageSize 0,
    body.drop messageSize, ?_, ?_⟩
  · rw [length]
    exact fits
  · calc
      bytes ++ (List.replicate messageLengthSizeBytes 0 ++ List.replicate messageSize 0) =
          padded ++ List.replicate messageSize 0 := (List.append_assoc _ _ _).symm
      _ = padded.take messageLengthSizeBytes ++ body := by
          rw [← List.append_assoc, List.take_append_drop]
      _ = putU32 messageSize ++ (body.take messageSize ++ body.drop messageSize) := by
          rw [header, List.take_append_drop]
      _ = putU32 (body.take messageSize).length ++ body.take messageSize ++
          body.drop messageSize := by rw [length, List.append_assoc]

/-- A stream that is long enough for a length. -/
theorem readFrame_putU32 {α : Type} (codec : Codec α) {messageSize : Nat}
    (fits : messageSize ≤ u32Max) (body : List UInt8) :
    readFrame codec (putU32 messageSize ++ body) =
      if maxControlMessageSize < messageSize then
        (.error (.controlMessageTooLarge messageSize), body)
      else if body.length < messageSize then (.error .connectionWasClosedByPeer, [])
      else (codec.decode (body.take messageSize), body.drop messageSize) := by
  have enough : ¬(putU32 messageSize ++ body).length < messageLengthSizeBytes := by
    rw [List.length_append, length_putU32]
    exact Nat.not_lt.mpr (Nat.le_add_right _ _)
  have header : (putU32 messageSize ++ body).take messageLengthSizeBytes = putU32 messageSize :=
    List.take_left' (length_putU32 messageSize)
  have rest : (putU32 messageSize ++ body).drop messageLengthSizeBytes = body :=
    List.drop_left' (length_putU32 messageSize)
  simp only [readFrame, enough, if_false, header, rest, getU32_putU32 fits]

/-- A whole frame is decoded, and what follows it is left. -/
theorem readFrame_frame {α : Type} (codec : Codec α) {payload : List UInt8}
    (small : payload.length ≤ maxControlMessageSize) (later : List UInt8) :
    readFrame codec (putU32 payload.length ++ payload ++ later) =
      (codec.decode payload, later) := by
  have enough : ¬(payload ++ later).length < payload.length := by
    rw [List.length_append]
    exact Nat.not_lt.mpr (Nat.le_add_right _ _)
  rw [List.append_assoc, readFrame_putU32 codec (Nat.le_trans small Reader.max_le_u32Max),
    if_neg (Nat.not_lt.mpr small), if_neg enough, List.take_left, List.drop_left]

/-- A read returns what the bytes say and leaves what they say, however they
arrive. -/
theorem readControlMessage_eq {α : Type} (codec : Codec α) (arrivals : Arrivals) :
    (readControlMessage codec arrivals).1 = .returned (readFrame codec arrivals.bytes).1 ∧
      (readControlMessage codec arrivals).2.bytes = (readFrame codec arrivals.bytes).2 := by
  rcases exists_frame arrivals.bytes with ⟨payload, missing, more, fits, stream⟩
  have ending := Reader.fresh_holds.resume codec fits stream
  rw [List.nil_append] at ending
  rw [readControlMessage]
  cases ended : Reader.fresh.resume codec arrivals with
  | mk result left =>
      rw [ended] at ending
      cases ending with
      | decoded _ small leaves =>
          rw [← leaves, ← List.append_assoc] at stream
          rw [List.append_cancel_right stream, readFrame_frame codec small]
          exact ⟨rfl, rfl⟩
      | tooLarge _ large leaves =>
          rw [List.append_assoc, ← leaves, ← List.append_assoc] at stream
          rw [List.append_cancel_right stream, readFrame_putU32 codec fits, if_pos large]
          exact ⟨rfl, rfl⟩
      | cut last _ held leaves =>
          rw [leaves]
          cases last with
          | size read =>
              rcases held with ⟨same, short⟩
              rw [same, readFrame, if_pos short]
              exact ⟨rfl, rfl⟩
          | payload messageSize remainingBytes buf =>
              rcases held with ⟨same, total, some, small⟩
              have short : buf.length < messageSize := by
                rw [← total]
                exact Nat.lt_add_of_pos_left some
              rw [same, readFrame_putU32 codec (Nat.le_trans small Reader.max_le_u32Max),
                if_neg (Nat.not_lt.mpr small), if_pos short]
              exact ⟨rfl, rfl⟩

/-! ## Reading byte by byte -/

section Feed

variable {α : Type} (codec : Codec α)

/-- A reader that goes on has something to read. -/
theorem Reader.wanted_of_consume {codec : Codec α} {reader next : Reader} {chunk : List UInt8}
    (step : reader.consume codec chunk = .more next) : 0 < next.wanted := by
  have goesOn : ∀ {messageSize remainingBytes : Nat} {buf : List UInt8},
      Reader.continueLoop codec messageSize remainingBytes buf = .more next →
        0 < next.wanted := by
    intro messageSize remainingBytes buf step
    by_cases more : 0 < remainingBytes
    · simp only [continueLoop, more, if_true] at step
      cases step
      exact more
    · simp only [continueLoop, more, if_false, finishLoop] at step
      split at step
      · split at step <;> cases step
      · cases step
  cases reader with
  | size read =>
      simp only [consume] at step
      split at step
      · rename_i short
        cases step
        exact Nat.sub_pos_of_lt short
      · simp only [startLoop] at step
        split at step
        · cases step
        · exact goesOn step
  | payload messageSize remainingBytes buf => exact goesOn step

/-- Bytes that arrive one at a time are fed to the reader one at a time. -/
theorem Reader.resume_single {reader : Reader} (ready : 0 < reader.wanted)
    (bytes : List UInt8) :
    reader.resume codec (.single bytes) =
      match reader.feed codec bytes with
      | (.more last, rest) => (.returned (.error last.eof), .single rest)
      | (.done result, rest) => (.returned result, .single rest)
      | (.panicked, rest) => (.panicked, .single rest) := by
  induction bytes generalizing reader with
  | nil =>
      rw [resume]
      rfl
  | cons byte rest ih =>
      have piece : (Arrivals.single (byte :: rest)).read reader.wanted =
          ([byte], .single rest) := by
        have fits : [byte].length ≤ reader.wanted := ready
        simp only [Arrivals.single, List.map_cons, Arrivals.read, fits, dite_true]
      rw [resume, piece, feed]
      simp only [List.cons_ne_nil, if_false, List.length_singleton, Nat.not_lt.mpr ready]
      cases step : reader.consume codec [byte] with
      | more next => exact ih (wanted_of_consume step)
      | done result => rfl
      | panicked => rfl

/-- A read that has ended is not changed by what arrives later. -/
theorem Reader.feed_append {codec : Codec α} {reader : Reader} {bytes : List UInt8}
    (ended : ∀ last, (reader.feed codec bytes).1 ≠ .more last) (more : List UInt8) :
    reader.feed codec (bytes ++ more) =
      ((reader.feed codec bytes).1, (reader.feed codec bytes).2 ++ more) := by
  induction bytes generalizing reader with
  | nil => exact absurd rfl (ended reader)
  | cons byte rest ih =>
      simp only [List.cons_append, feed] at ended ⊢
      cases step : reader.consume codec [byte] with
      | more next =>
          rw [step] at ended
          exact ih ended
      | done result => rfl
      | panicked => rfl

/-- Nor is what the server makes of it. -/
theorem serverReadMessage_append {json : Json} {peer : Peer}
    (ended : serverReadMessage json peer ≠ .waiting) (opened : peer.closed = false)
    (more : List UInt8) (closed : Bool) :
    serverReadMessage json { bytes := peer.bytes ++ more, closed } =
      serverReadMessage json peer := by
  simp only [serverReadMessage, opened, Bool.false_eq_true, if_false] at ended ⊢
  have stops : ∀ last, (Reader.fresh.feed json.client peer.bytes).1 ≠ .more last := by
    intro last waits
    rw [waits] at ended
    exact ended rfl
  rw [Reader.feed_append stops more]
  cases result : (Reader.fresh.feed json.client peer.bytes).1 with
  | more last => exact absurd result (stops last)
  | done result => rfl
  | panicked => rfl

/-- A peer that has closed its side is read as the stream of its bytes. -/
theorem serverReadMessage_eq (json : Json) {peer : Peer} (closed : peer.closed = true) :
    serverReadMessage json peer =
      .done (serverMessageOf (readFrame json.client peer.bytes).1) := by
  have read := (readControlMessage_eq json.client (.single peer.bytes)).1
  rw [Arrivals.single_bytes, readControlMessage,
    Reader.resume_single json.client (Reader.wanted_pos Reader.fresh_holds)] at read
  rw [serverReadMessage]
  rcases fed : Reader.fresh.feed json.client peer.bytes with ⟨step, rest⟩
  rw [fed] at read
  cases step with
  | more last =>
      simp only [FrameRead.returned.injEq] at read
      simp only [closed, if_true, read]
  | done result =>
      simp only [FrameRead.returned.injEq] at read
      rw [read]
  | panicked => cases read

end Feed

/-- A read of hostile bytes.  Whatever arrives and in whatever pieces, it returns:
after four bytes if they announce too much, with the decoder's answer after the
announced bytes if they are there, and without an answer of the decoder if they
are not. -/
theorem readControlMessage_hostile {α : Type} (codec : Codec α) (arrivals : Arrivals) :
    let bytes := arrivals.bytes
    let messageSize := getU32 (bytes.take messageLengthSizeBytes)
    let read := readControlMessage codec arrivals
    read.1 ≠ .panicked ∧
    (messageLengthSizeBytes ≤ bytes.length → maxControlMessageSize < messageSize →
      read.1 = .returned (.error (.controlMessageTooLarge messageSize)) ∧
        read.2.bytes = bytes.drop messageLengthSizeBytes) ∧
    (messageLengthSizeBytes + messageSize ≤ bytes.length →
      messageSize ≤ maxControlMessageSize →
      read.1 = .returned
          (codec.decode ((bytes.drop messageLengthSizeBytes).take messageSize)) ∧
        read.2.bytes = bytes.drop (messageLengthSizeBytes + messageSize)) ∧
    (bytes.length < messageLengthSizeBytes →
      read.1 = .returned (.error .ioError) ∧ read.2.bytes = []) ∧
    (messageLengthSizeBytes ≤ bytes.length →
      bytes.length < messageLengthSizeBytes + messageSize →
      messageSize ≤ maxControlMessageSize →
      read.1 = .returned (.error .connectionWasClosedByPeer) ∧ read.2.bytes = []) ∧
    ∀ other : Arrivals, other.bytes = bytes →
      (readControlMessage codec other).1 = read.1 ∧
        (readControlMessage codec other).2.bytes = read.2.bytes := by
  intro bytes messageSize read
  rcases readControlMessage_eq codec arrivals with ⟨result, left⟩
  rw [show (readControlMessage codec arrivals) = read from rfl] at result left
  rw [show arrivals.bytes = bytes from rfl] at result left
  rw [result, left]
  refine ⟨?_, ?_, ?_, ?_, ?_, ?_⟩
  · rintro ⟨⟩
  · intro enough large
    rw [readFrame, if_neg (Nat.not_lt.mpr enough), if_pos large]
    exact ⟨rfl, rfl⟩
  · intro whole small
    have enough : messageLengthSizeBytes ≤ bytes.length := Nat.le_of_add_right_le whole
    have there : messageSize ≤ (bytes.drop messageLengthSizeBytes).length := by
      rw [List.length_drop]
      exact Nat.le_sub_of_add_le' whole
    rw [readFrame, if_neg (Nat.not_lt.mpr enough), if_neg (Nat.not_lt.mpr small),
      if_neg (Nat.not_lt.mpr there), List.drop_drop]
    exact ⟨rfl, rfl⟩
  · intro short
    rw [readFrame, if_pos short]
    exact ⟨rfl, rfl⟩
  · intro enough short small
    have cut : (bytes.drop messageLengthSizeBytes).length < messageSize := by
      rw [List.length_drop]
      exact Nat.sub_lt_left_of_lt_add enough short
    rw [readFrame, if_neg (Nat.not_lt.mpr enough), if_neg (Nat.not_lt.mpr small), if_pos cut]
    exact ⟨rfl, rfl⟩
  · intro other same
    rw [← same]
    exact readControlMessage_eq codec other

end Iperf
