import Iperf.NetUtil.Read

/-!
# Whole conversations

Messages are written one after another to one stream and read one after
another from it.  A read stops at the end of its frame, so that the next one
starts at the length of the next message.
-/

namespace Iperf

variable {α : Type}

/-- Write messages one after another. -/
def writeControlMessages (codec : Codec α) : List α → Option (List UInt8)
  | [] => some []
  | message :: rest => do
      let first ← writeControlMessage codec message
      let later ← writeControlMessages codec rest
      return first ++ later

/-- Read `count` times, each time from where the last read has stopped. -/
def readControlMessages (codec : Codec α) : Nat → Arrivals → List (FrameRead α) × Arrivals
  | 0, arrivals => ([], arrivals)
  | count + 1, arrivals =>
      let first := readControlMessage codec arrivals
      let later := readControlMessages codec count first.2
      (first.1 :: later.1, later.2)

/-- Messages that fit are written as their frames. -/
theorem writeControlMessages_eq {codec : Codec α} {messages : List α}
    (small : ∀ message ∈ messages, (codec.toVec message).length ≤ maxControlMessageSize) :
    writeControlMessages codec messages = some (messages.flatMap (frame codec)) := by
  induction messages with
  | nil => rfl
  | cons message rest ih =>
      have fits := Nat.le_trans (small message (List.mem_cons_self ..)) Reader.max_le_u32Max
      have later := ih fun other member => small other (List.mem_cons_of_mem message member)
      simp only [writeControlMessages, writeControlMessage_eq fits, later, List.flatMap_cons]
      rfl

/-- A read of a frame takes the frame and no more. -/
theorem readControlMessage_frame {codec : Codec α} {message : α}
    (decodes : codec.fromSlice (codec.toVec message) = some message)
    (small : (codec.toVec message).length ≤ maxControlMessageSize) {arrivals : Arrivals}
    {later : List UInt8} (arrives : arrivals.bytes = frame codec message ++ later) :
    (readControlMessage codec arrivals).1 = .returned (.ok message) ∧
      (readControlMessage codec arrivals).2.bytes = later := by
  have read := readControlMessage_eq codec arrivals
  rw [arrives, frame, readFrame_frame codec small, Codec.decode, decodes] at read
  exact read

/-- Everything written is read back, in order, and what follows it is left
unread, however the bytes are cut on the way. -/
theorem readControlMessages_write {codec : Codec α} {messages : List α}
    (decodes : ∀ message ∈ messages, codec.fromSlice (codec.toVec message) = some message)
    (small : ∀ message ∈ messages, (codec.toVec message).length ≤ maxControlMessageSize) :
    ∃ written, writeControlMessages codec messages = some written ∧
      ∀ (later : List UInt8) (arrivals : Arrivals), arrivals.bytes = written ++ later →
        (readControlMessages codec messages.length arrivals).1 =
            messages.map (fun message => .returned (.ok message)) ∧
          (readControlMessages codec messages.length arrivals).2.bytes = later := by
  refine ⟨messages.flatMap (frame codec), writeControlMessages_eq small, ?_⟩
  intro later arrivals arrives
  induction messages generalizing arrivals with
  | nil => exact ⟨rfl, arrives⟩
  | cons message rest ih =>
      rw [List.flatMap_cons, List.append_assoc] at arrives
      rcases readControlMessage_frame (decodes message (List.mem_cons_self ..))
        (small message (List.mem_cons_self ..)) arrives with ⟨first, left⟩
      rcases ih (fun other member => decodes other (List.mem_cons_of_mem message member))
        (fun other member => small other (List.mem_cons_of_mem message member))
        (readControlMessage codec arrivals).2 left with ⟨rest, left⟩
      constructor
      · rw [List.length_cons, readControlMessages, List.map_cons, first, rest]
      · exact left

/-- Two messages of a server and a further byte. -/
theorem readControlMessages_write_two :
    let codec := (Json.ofCookie "").server
    let messages : List ServerEnvelope := [.message .welcome, .message (.setState .running)]
    ∃ written, writeControlMessages codec messages = some written ∧
      (readControlMessages codec 2 (.single (written ++ [10]))).1 =
          messages.map (fun message => .returned (.ok message)) ∧
        (readControlMessages codec 2 (.single (written ++ [10]))).2.bytes = [10] := by
  intro codec messages
  rcases @readControlMessages_write ServerEnvelope codec messages (by decide) (by decide) with
    ⟨written, writes, reads⟩
  exact ⟨written, writes, reads [10] _ (Arrivals.single_bytes _)⟩

end Iperf
