import Iperf.NetUtil.Core

/-!
# Reading a frame in any number of pieces

A frame is the length of a payload followed by the payload.  The reader keeps
what it has read of one frame, and wants no more than is missing of its current
part, so that the pieces of a frame lead to the message in it however they are
cut, and nothing of the next frame is taken.
-/

namespace Iperf

/-- The bytes of a message on the wire. -/
def frame {α : Type} (codec : Codec α) (message : α) : List UInt8 :=
  putU32 (codec.toVec message).length ++ codec.toVec message

theorem writeControlMessage_eq {α : Type} {codec : Codec α} {message : α}
    (fits : (codec.toVec message).length ≤ u32Max) :
    writeControlMessage codec message = some (frame codec message) := by
  simp only [writeControlMessage, fits, if_true, frame]

theorem frame_of_write {α : Type} {codec : Codec α} {message : α} {bytes : List UInt8}
    (written : writeControlMessage codec message = some bytes) :
    (codec.toVec message).length ≤ u32Max ∧ bytes = frame codec message := by
  simp only [writeControlMessage] at written
  split at written
  · rename_i fits
    cases written
    exact ⟨fits, rfl⟩
  · cases written

@[simp]
theorem length_putU32 (value : Nat) : (putU32 value).length = messageLengthSizeBytes :=
  rfl

/-- A length that fits in 32 bits is read back. -/
theorem getU32_putU32 {value : Nat} (fits : value ≤ u32Max) : getU32 (putU32 value) = value := by
  simp only [u32Max] at fits
  simp only [getU32, putU32, List.foldl_cons, List.foldl_nil, UInt8.toNat_ofNat']
  omega

/-- Two frames with equal bytes have equal lengths and payloads. -/
theorem putU32_append_inj {first second : Nat} {left right : List UInt8}
    (firstFits : first ≤ u32Max) (secondFits : second ≤ u32Max)
    (same : putU32 first ++ left = putU32 second ++ right) :
    first = second ∧ left = right := by
  obtain ⟨header, payload⟩ := List.append_inj same rfl
  constructor
  · rw [← getU32_putU32 firstFits, header, getU32_putU32 secondFits]
  · exact payload

/-- What decoding a payload yields. -/
def Codec.decode {α : Type} (codec : Codec α) (payload : List UInt8) : Except NetUtilError α :=
  match codec.fromSlice payload with
  | some message => .ok message
  | none => .error .serializeError

namespace Reader

/-- The reader has taken `part` of a frame and is in the middle of it. -/
def Holds (part : List UInt8) : Reader → Prop
  | .size read => part = read ∧ read.length < messageLengthSizeBytes
  | .payload messageSize remainingBytes buf =>
      part = putU32 messageSize ++ buf ∧ remainingBytes + buf.length = messageSize ∧
        0 < remainingBytes ∧ messageSize ≤ maxControlMessageSize

theorem fresh_holds : fresh.Holds [] :=
  ⟨rfl, by decide⟩

/-- A reader that has taken nothing is one that has not been polled. -/
theorem eq_fresh_of_holds {reader : Reader} (holds : reader.Holds []) : reader = fresh := by
  cases reader with
  | size read => rw [← holds.1, fresh]
  | payload messageSize remainingBytes buf =>
      have length := congrArg List.length holds.1
      simp only [List.length_nil, List.length_append, length_putU32,
        messageLengthSizeBytes] at length
      omega

theorem wanted_pos {reader : Reader} {part : List UInt8} (holds : reader.Holds part) :
    0 < reader.wanted := by
  cases reader with
  | size read => exact Nat.sub_pos_of_lt holds.2
  | payload messageSize remainingBytes buf => exact holds.2.2.1

theorem max_le_u32Max : maxControlMessageSize ≤ u32Max := by
  decide

section Consume

variable {α : Type} {part chunk rest payload : List UInt8}

/-- In the middle of a frame some of it is missing. -/
theorem Holds.unfinished {reader : Reader} (holds : reader.Holds part)
    (fits : payload.length ≤ u32Max) (cut : part ++ rest = putU32 payload.length ++ payload) :
    rest ≠ [] := by
  rintro rfl
  have length := congrArg List.length cut
  cases reader with
  | size read =>
      obtain ⟨rfl, short⟩ := holds
      simp only [List.append_nil, List.length_append, length_putU32] at length
      omega
  | payload messageSize remainingBytes buf =>
      obtain ⟨rfl, total, more, small⟩ := holds
      rw [List.append_nil] at cut
      have size := (putU32_append_inj (Nat.le_trans small max_le_u32Max) fits cut).1
      simp only [List.append_nil, List.length_append, length_putU32] at length
      omega

/-- A reader never takes more than the frame it is in. -/
theorem Holds.within {reader : Reader} (holds : reader.Holds part)
    (fits : payload.length ≤ u32Max) (bounded : chunk.length ≤ reader.wanted)
    {later more : List UInt8}
    (cut : part ++ chunk ++ later = putU32 payload.length ++ payload ++ more) :
    ∃ rest, part ++ chunk ++ rest = putU32 payload.length ++ payload ∧ later = rest ++ more := by
  have short : (part ++ chunk).length ≤ (putU32 payload.length ++ payload).length := by
    cases reader with
    | size read =>
        obtain ⟨rfl, unfinished⟩ := holds
        simp only [wanted] at bounded
        simp only [List.length_append, length_putU32]
        omega
    | payload messageSize remainingBytes buf =>
        obtain ⟨rfl, total, -, small⟩ := holds
        simp only [wanted] at bounded
        simp only [List.append_assoc] at cut
        have size := (putU32_append_inj (Nat.le_trans small max_le_u32Max) fits cut).1
        simp only [List.length_append, length_putU32]
        omega
  obtain ⟨rest, whole⟩ := List.prefix_of_prefix_length_le (List.prefix_append _ later)
    (cut ▸ List.prefix_append _ more) short
  refine ⟨rest, whole, ?_⟩
  rw [← whole, List.append_assoc (part ++ chunk) rest more] at cut
  exact List.append_cancel_left cut

variable (codec : Codec α)

/-- The loop over the payload, given all of the rest of the frame. -/
theorem continueLoop_cases {messageSize remainingBytes : Nat} {buf rest : List UInt8}
    (missing : remainingBytes = rest.length) (size : remainingBytes + buf.length = messageSize)
    (fits : messageSize ≤ maxControlMessageSize) :
    (rest ≠ [] ∧ ∃ next, continueLoop codec messageSize remainingBytes buf = .more next ∧
        next.Holds (putU32 messageSize ++ buf)) ∨
      (rest = [] ∧ continueLoop codec messageSize remainingBytes buf =
        .done (codec.decode buf)) := by
  by_cases more : 0 < remainingBytes
  · left
    constructor
    · rintro rfl
      rw [missing] at more
      exact absurd more (Nat.lt_irrefl 0)
    · refine ⟨.payload messageSize remainingBytes buf, ?_, rfl, size, more, fits⟩
      simp only [continueLoop, more, if_true]
  · right
    have none : remainingBytes = 0 := Nat.eq_zero_of_not_pos more
    have whole : messageSize = buf.length := by omega
    constructor
    · exact List.eq_nil_of_length_eq_zero (missing.symm.trans none)
    · simp only [continueLoop, more, if_false, finishLoop, whole, if_true, Codec.decode]
      cases codec.fromSlice buf <;> rfl

/-- A piece of a frame leads on, completes the message, or completes a length that
is too large. -/
theorem Holds.consume {reader : Reader} (holds : reader.Holds part)
    (fits : payload.length ≤ u32Max)
    (cut : part ++ chunk ++ rest = putU32 payload.length ++ payload)
    (bounded : chunk.length ≤ reader.wanted) :
    (rest ≠ [] ∧ ∃ next, reader.consume codec chunk = .more next ∧
        next.Holds (part ++ chunk)) ∨
      (rest = [] ∧ payload.length ≤ maxControlMessageSize ∧
        reader.consume codec chunk = .done (codec.decode payload)) ∨
      (maxControlMessageSize < payload.length ∧ rest = payload ∧
        reader.consume codec chunk = .done (.error (.controlMessageTooLarge payload.length))) := by
  cases reader with
  | size read =>
      obtain ⟨rfl, short⟩ := holds
      simp only [wanted] at bounded
      by_cases unfinished : (part ++ chunk).length < messageLengthSizeBytes
      · left
        constructor
        · rintro rfl
          have length := congrArg List.length cut
          simp only [List.append_nil, List.length_append, length_putU32] at length unfinished
          omega
        · refine ⟨.size (part ++ chunk), ?_, rfl, unfinished⟩
          simp only [Reader.consume, unfinished, if_true]
      · have header : (part ++ chunk).length = (putU32 payload.length).length := by
          simp only [List.length_append, length_putU32] at unfinished ⊢
          omega
        obtain ⟨length, body⟩ := List.append_inj cut header
        have size : getU32 (part ++ chunk) = payload.length := by
          rw [length, getU32_putU32 fits]
        have starts : (Reader.size part).consume codec chunk =
            startLoop codec (part ++ chunk) := by
          simp only [Reader.consume, unfinished, if_false]
        rw [starts, length, startLoop, getU32_putU32 fits, body]
        by_cases tooLarge : maxControlMessageSize < payload.length
        · right
          right
          exact ⟨tooLarge, rfl, by simp only [tooLarge, if_true]⟩
        · simp only [tooLarge, if_false]
          rcases @continueLoop_cases α codec payload.length payload.length [] payload rfl rfl
              (not_lt.mp tooLarge) with ⟨some, next, more, holds⟩ | ⟨none, done⟩
          · rw [List.append_nil] at holds
            exact .inl ⟨some, next, more, holds⟩
          · rw [done, none]
            exact .inr (.inl ⟨rfl, Nat.zero_le _, rfl⟩)
  | payload messageSize remainingBytes buf =>
      obtain ⟨rfl, total, more, small⟩ := holds
      simp only [wanted] at bounded
      rw [List.append_assoc, List.append_assoc] at cut
      obtain ⟨size, body⟩ := putU32_append_inj (Nat.le_trans small max_le_u32Max) fits cut
      have length := congrArg List.length body
      simp only [List.length_append] at length
      have missing : remainingBytes - chunk.length = rest.length := by omega
      have total' : remainingBytes - chunk.length + (buf ++ chunk).length = messageSize := by
        rw [List.length_append]
        omega
      simp only [Reader.consume]
      rcases continueLoop_cases codec missing total' small with
        ⟨some, next, goesOn, holds⟩ | ⟨none, done⟩
      · rw [← List.append_assoc] at holds
        exact .inl ⟨some, next, goesOn, holds⟩
      · right
        left
        exact ⟨none, size ▸ small, by rw [done, ← body, none, List.append_nil]⟩

/-- Fed with the rest of a frame and more, the reader stops at its end. -/
theorem Holds.feed {reader : Reader} (holds : reader.Holds part)
    (small : payload.length ≤ maxControlMessageSize) (more : rest ≠ [])
    (cut : part ++ rest = putU32 payload.length ++ payload) (later : List UInt8) :
    reader.feed codec (rest ++ later) = (.done (codec.decode payload), later) := by
  induction rest generalizing reader part with
  | nil => exact absurd rfl more
  | cons byte rest ih =>
      have fits := Nat.le_trans small max_le_u32Max
      have pieces : part ++ [byte] ++ rest = putU32 payload.length ++ payload := by
        rw [List.append_assoc]
        exact cut
      have one : [byte].length ≤ reader.wanted := wanted_pos holds
      simp only [List.cons_append, Reader.feed]
      rcases holds.consume codec fits pieces one with
        ⟨some, next, step, held⟩ | ⟨none, -, done⟩ | ⟨tooLarge, -⟩
      · rw [step]
        exact ih held some pieces
      · rw [done, none]
        rfl
      · exact absurd small (not_le.mpr tooLarge)

end Consume

end Reader

/-- Reading a whole frame yields its message and leaves what follows. -/
theorem feed_frame {α : Type} {codec : Codec α} {message : α}
    (decodes : codec.fromSlice (codec.toVec message) = some message)
    (small : (codec.toVec message).length ≤ maxControlMessageSize) (later : List UInt8) :
    Reader.fresh.feed codec (frame codec message ++ later) = (.done (.ok message), later) := by
  have more : frame codec message ≠ [] := by
    simp [frame, putU32]
  have result := Reader.fresh_holds.feed codec small more rfl later
  rw [result, Codec.decode, decodes]

/-- A `Hello` is understood by the server. -/
theorem readCookie_hello {json : Json} {cookie : String}
    (decodes : json.client.fromSlice (json.client.toVec (.message (.hello cookie))) =
      some (.message (.hello cookie)))
    (small : (json.client.toVec (.message (.hello cookie))).length ≤ maxControlMessageSize)
    (peer : Peer) (later : List UInt8)
    (opens : peer.bytes = frame json.client (.message (.hello cookie)) ++ later) :
    readCookie json peer = .done (.ok cookie) := by
  simp only [readCookie, serverReadMessage, opens, feed_frame decodes small, serverMessageOf]

end Iperf
