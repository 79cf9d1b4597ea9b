import Iperf.NetUtil.Conversation
import Iperf.NetUtil.Encoding
import Iperf.Serde.Legible

/-!
# What is written means one thing

The derived serializers write different values for different messages, an
envelope ends by itself, and so what has been written to a control connection
can be taken for one row of messages only.
-/

namespace Iperf

open Serde

/-! ## The serializers -/

theorem Direction.serialize_injective : Function.Injective Direction.serialize := by
  intro direction other same
  cases direction <;> cases other <;> first | rfl | exact absurd same (by simp [serialize])

theorem optional_injective : Function.Injective Value.optional := by
  intro value other same
  cases value with
  | none =>
      cases other with
      | none => rfl
      | some other => cases same
  | some value =>
      cases other with
      | none => cases same
      | some other =>
          cases same
          rfl

theorem variant_inj {name other : String} {value content : Value}
    (same : Value.variant name value = .variant other content) :
    name = other ∧ value = content := by
  cases same
  exact ⟨rfl, rfl⟩

theorem Parameters.serialize_injective : Function.Injective Parameters.serialize := by
  rintro ⟨_, _, _, _, _, _, _, _, _, _, _⟩ ⟨_, _, _, _, _, _, _, _, _, _, _⟩ same
  simp only [serialize, Value.object.injEq, List.cons.injEq, Prod.mk.injEq, true_and, and_true,
    Value.bool.injEq, Value.number.injEq, Value.string.injEq, optional_injective.eq_iff,
    Direction.serialize_injective.eq_iff, UInt16.toNat_inj] at same
  rw [mk.injEq]
  exact same

theorem StreamStats.serialize_injective : Function.Injective StreamStats.serialize := by
  rintro ⟨_, _, _, _, _, _, _, _, _⟩ ⟨_, _, _, _, _, _, _, _, _⟩ same
  simp only [serialize, Value.object.injEq, List.cons.injEq, Prod.mk.injEq, true_and, and_true,
    Value.bool.injEq, Value.number.injEq, optional_injective.eq_iff] at same
  rw [mk.injEq]
  exact same

theorem Results.serialize_injective : Function.Injective Results.serialize := by
  intro results other same
  apply AList.ext
  have entry : Function.Injective fun entry : Sigma fun _ : Nat => StreamStats =>
      (toString entry.1, entry.2.serialize) := by
    rintro ⟨id, stats⟩ ⟨otherId, otherStats⟩ same
    rcases Prod.mk.inj same with ⟨key, value⟩
    cases number_injective (congrArg bytes key)
    cases StreamStats.serialize_injective value
    rfl
  exact List.map_injective_iff.mpr entry (Value.object.inj same)

theorem State.serialize_injective : Function.Injective State.serialize := by
  intro state other same
  cases state <;> cases other
  case createStreams.createStreams cookie other =>
    cases (variant_inj same).2
    rfl
  all_goals first | rfl | exact absurd same (by simp [serialize, Value.variant])

theorem ClientMessage.serialize_injective : Function.Injective ClientMessage.serialize := by
  intro message other same
  cases message <;> cases other <;> rcases variant_inj same with ⟨name, content⟩
  case hello.hello =>
    cases content
    rfl
  case sendParameters.sendParameters =>
    rw [Parameters.serialize_injective content]
  case sendResults.sendResults =>
    rw [Results.serialize_injective content]
  all_goals exact absurd name (by decide)

theorem ServerMessage.serialize_injective : Function.Injective ServerMessage.serialize := by
  intro message other same
  cases message <;> cases other
  case setState.setState =>
    rw [State.serialize_injective (variant_inj same).2]
  case sendResults.sendResults =>
    rw [Results.serialize_injective (variant_inj same).2]
  case setState.sendResults | sendResults.setState =>
    exact absurd (variant_inj same).1 (by decide)
  all_goals first | rfl | cases same

theorem ClientEnvelope.serialize_injective : Function.Injective ClientEnvelope.serialize := by
  intro envelope other same
  cases envelope with
  | message content =>
      cases other with
      | message other => rw [ClientMessage.serialize_injective (variant_inj same).2]
      | error error => cases error
  | error error => cases error

theorem ServerEnvelope.serialize_injective : Function.Injective ServerEnvelope.serialize := by
  intro envelope other same
  cases envelope with
  | message content =>
      cases other with
      | message other => rw [ServerMessage.serialize_injective (variant_inj same).2]
      | error error => exact absurd (variant_inj same).1 (by decide)
  | error error =>
      cases other with
      | message other => exact absurd (variant_inj same).1 (by decide)
      | error other => rfl

/-! ## Payloads -/

/-- A payload is an object, which ends by itself. -/
theorem payload_inj {α : Type} {serialize : α → Value} {toVec : α → List UInt8}
    (injective : Function.Injective serialize) (writes : ∀ message, toVec message =
      (serialize message).write)
    (variant : ∀ message, ∃ name content, serialize message = .variant name content)
    {message other : α} (first : toVec message <+: toVec other) : message = other := by
  rcases first with ⟨more, same⟩
  rcases variant message with ⟨name, content, value⟩
  rcases variant other with ⟨otherName, otherContent, otherValue⟩
  rw [writes, writes, value, otherValue] at same
  have members := (write_object_legible [(name, content)] [(otherName, otherContent)] more []
    trivial trivial (same.trans (List.append_nil _).symm)).1
  apply injective
  rw [value, otherValue, Value.variant, Value.variant, members]

/-! ## Frames -/

section Frames

variable {α : Type} {codec : Codec α}

/-- With something behind it, a frame is that of one message. -/
theorem frame_inj (injective : Function.Injective codec.toVec) {message other : α}
    {written answer rest tail : List UInt8}
    (writes : writeControlMessage codec message = some written)
    (answers : writeControlMessage codec other = some answer)
    (same : written ++ rest = answer ++ tail) : message = other ∧ rest = tail := by
  rcases frame_of_write writes with ⟨fits, rfl⟩
  rcases frame_of_write answers with ⟨otherFits, rfl⟩
  rw [frame, frame, List.append_assoc, List.append_assoc] at same
  rcases putU32_append_inj fits otherFits same with ⟨size, payloads⟩
  rcases List.append_inj payloads size with ⟨payload, left⟩
  exact ⟨injective payload, left⟩

theorem ne_nil_of_write {message : α} {written : List UInt8}
    (writes : writeControlMessage codec message = some written) : written ≠ [] := by
  rcases frame_of_write writes with ⟨-, rfl⟩
  exact List.cons_ne_nil _ _

theorem writeControlMessages_cons {message : α} {rest : List α} {written : List UInt8}
    (writes : writeControlMessages codec (message :: rest) = some written) :
    ∃ first later, writeControlMessage codec message = some first ∧
      writeControlMessages codec rest = some later ∧ written = first ++ later := by
  simp only [writeControlMessages, Option.bind_eq_bind, Option.bind_eq_some_iff] at writes
  rcases writes with ⟨first, writes, later, others, whole⟩
  exact ⟨first, later, writes, others, (Option.some.inj whole).symm⟩

/-- What is written first has been said first. -/
theorem writeControlMessages_first (injective : Function.Injective codec.toVec)
    {sent heard : List α} {written more : List UInt8}
    (sends : writeControlMessages codec sent = some written)
    (hears : writeControlMessages codec heard = some (written ++ more)) : sent <+: heard := by
  induction sent generalizing heard written with
  | nil => exact List.nil_prefix
  | cons message rest ih =>
      rcases writeControlMessages_cons sends with ⟨first, later, writes, others, rfl⟩
      cases heard with
      | nil =>
          have none := (List.append_eq_nil_iff.mp (Option.some.inj hears).symm).1
          exact absurd (List.append_eq_nil_iff.mp none).1 (ne_nil_of_write writes)
      | cons other heard =>
          rcases writeControlMessages_cons hears with ⟨answer, after, answers, hears, same⟩
          rw [List.append_assoc] at same
          rcases frame_inj injective writes answers same with ⟨equal, left⟩
          rw [equal, List.cons_prefix_cons]
          exact ⟨rfl, ih others (by rw [hears, left])⟩

end Frames

/-! ## Conversations -/

variable (fromClient : List UInt8 → Option ClientEnvelope)
  (fromServer : List UInt8 → Option ServerEnvelope)

theorem client_payload_inj {envelope other : ClientEnvelope}
    (first : (Json.compact fromClient fromServer).client.toVec envelope <+:
      (Json.compact fromClient fromServer).client.toVec other) : envelope = other := by
  apply payload_inj ClientEnvelope.serialize_injective (fun _ => rfl) _ first
  rintro (message | error)
  · exact ⟨_, _, rfl⟩
  · cases error

theorem server_payload_inj {envelope other : ServerEnvelope}
    (first : (Json.compact fromClient fromServer).server.toVec envelope <+:
      (Json.compact fromClient fromServer).server.toVec other) : envelope = other := by
  apply payload_inj ServerEnvelope.serialize_injective (fun _ => rfl) _ first
  rintro (message | error)
  · exact ⟨_, _, rfl⟩
  · exact ⟨_, _, rfl⟩

/-- No payload is the beginning of another one, and no row of messages is written like the
beginning of another row, but for its own beginnings. -/
theorem conversations_unambiguous :
    (∀ envelope other : ClientEnvelope,
      (Json.compact fromClient fromServer).client.toVec envelope <+:
        (Json.compact fromClient fromServer).client.toVec other → envelope = other) ∧
    (∀ envelope other : ServerEnvelope,
      (Json.compact fromClient fromServer).server.toVec envelope <+:
        (Json.compact fromClient fromServer).server.toVec other → envelope = other) ∧
    (∀ (sent heard : List ClientEnvelope) (written more : List UInt8),
      writeControlMessages (Json.compact fromClient fromServer).client sent = some written →
      writeControlMessages (Json.compact fromClient fromServer).client heard =
        some (written ++ more) → sent <+: heard) ∧
    (∀ (sent heard : List ServerEnvelope) (written more : List UInt8),
      writeControlMessages (Json.compact fromClient fromServer).server sent = some written →
      writeControlMessages (Json.compact fromClient fromServer).server heard =
        some (written ++ more) → sent <+: heard) := by
  constructor
  · exact fun _ _ first => client_payload_inj fromClient fromServer first
  constructor
  · exact fun _ _ first => server_payload_inj fromClient fromServer first
  constructor
  · intro sent heard written more sends hears
    apply writeControlMessages_first _ sends hears
    intro envelope other same
    exact client_payload_inj fromClient fromServer ⟨[], (List.append_nil _).trans same⟩
  · intro sent heard written more sends hears
    apply writeControlMessages_first _ sends hears
    intro envelope other same
    exact server_payload_inj fromClient fromServer ⟨[], (List.append_nil _).trans same⟩

/-- A server that has welcomed a connection may go on with a state. -/
theorem conversations_unambiguous_welcome :
    [ServerEnvelope.message .welcome] <+:
      [.message .welcome, .message (.setState (.createStreams "c"))] :=
  (conversations_unambiguous (fun _ => none) (fun _ => none)).2.2.2 _ _
    (frame (Json.compact (fun _ => none) (fun _ => none)).server (.message .welcome))
    (frame (Json.compact (fun _ => none) (fun _ => none)).server
      (.message (.setState (.createStreams "c"))))
    (by decide +kernel) (by decide +kernel)

end Iperf
