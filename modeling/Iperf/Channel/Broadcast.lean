import Mathlib.Data.List.Basic

/-!
# Broadcast channels that keep the latest messages

Every receiver reads the one log of messages from its own position.  The
channel retains only the last `capacity` of them: a receiver that has fallen
further behind learns how many it missed, and continues with the oldest
message still retained.
-/

namespace Iperf.Channel

universe u

/-- The messages sent so far and whether the sender is gone. -/
structure Broadcast (α : Type u) (capacity : Nat) where
  sent : List α
  closed : Bool

/-- A receiver is the number of messages it has gone past. -/
@[ext]
structure Receiver where
  next : Nat
  deriving DecidableEq

/-- What one poll of a receiver yields. -/
inductive Received (α : Type u) where
  | pending
  | message (content : α)
  | lagged (missed : Nat)
  | closed
  deriving DecidableEq

namespace Broadcast

variable {α : Type u} {capacity : Nat}

def new : Broadcast α capacity :=
  ⟨[], false⟩

def send (channel : Broadcast α capacity) (content : α) : Broadcast α capacity :=
  { channel with sent := channel.sent ++ [content] }

/-- The sender is dropped. -/
def close (channel : Broadcast α capacity) : Broadcast α capacity :=
  { channel with closed := true }

/-- A new receiver sees only what is sent from now on. -/
def subscribe (channel : Broadcast α capacity) : Receiver :=
  ⟨channel.sent.length⟩

/-- The messages a receiver has not gone past yet. -/
def unread (channel : Broadcast α capacity) (receiver : Receiver) : List α :=
  channel.sent.drop receiver.next

/-- Poll a receiver. -/
def recv (channel : Broadcast α capacity) (receiver : Receiver) :
    Received α × Receiver :=
  let oldest := channel.sent.length - capacity
  if receiver.next < oldest then
    (.lagged (oldest - receiver.next), ⟨oldest⟩)
  else
    match channel.sent[receiver.next]? with
    | some content => (.message content, ⟨receiver.next + 1⟩)
    | none => (if channel.closed then .closed else .pending, receiver)

@[simp]
theorem send_sent (channel : Broadcast α capacity) (content : α) :
    (channel.send content).sent = channel.sent ++ [content] :=
  rfl

@[simp]
theorem close_sent (channel : Broadcast α capacity) : channel.close.sent = channel.sent :=
  rfl

/-- A receiver with more unread messages than the channel retains is told so. -/
theorem recv_of_lagging {channel : Broadcast α capacity} {receiver : Receiver}
    (behind : capacity < (channel.unread receiver).length) :
    channel.recv receiver =
      (.lagged ((channel.unread receiver).length - capacity),
        ⟨channel.sent.length - capacity⟩) := by
  simp only [unread, List.length_drop] at behind ⊢
  have older : receiver.next < channel.sent.length - capacity := by omega
  have missed : channel.sent.length - capacity - receiver.next =
      channel.sent.length - receiver.next - capacity := by omega
  simp only [recv, older, if_true, missed]

/-- A receiver that has kept up gets the oldest message it has not read. -/
theorem recv_of_unread {channel : Broadcast α capacity} {receiver : Receiver}
    {content : α} {rest : List α}
    (pending : channel.unread receiver = content :: rest)
    (retained : (channel.unread receiver).length ≤ capacity) :
    channel.recv receiver = (.message content, ⟨receiver.next + 1⟩) := by
  have nextMessage : channel.sent[receiver.next]? = some content := by
    have head := congrArg (·[0]?) pending
    simpa [unread] using head
  simp only [unread, List.length_drop] at retained
  have current : ¬ receiver.next < channel.sent.length - capacity := by omega
  simp only [recv, current, if_false, nextMessage]

/-- A receiver that has read everything waits, or learns that the sender is
gone. -/
theorem recv_of_read {channel : Broadcast α capacity} {receiver : Receiver}
    (read : channel.unread receiver = []) :
    channel.recv receiver = (if channel.closed then .closed else .pending, receiver) := by
  have caughtUp : channel.sent.length ≤ receiver.next := by
    simpa [unread] using read
  have current : ¬ receiver.next < channel.sent.length - capacity := by omega
  have none : channel.sent[receiver.next]? = none := List.getElem?_eq_none caughtUp
  simp only [recv, current, if_false, none]

/-- A receiver that has kept up, on a channel whose sender is there, gets the
oldest message it has not read, or waits. -/
theorem recv_of_recent {channel : Broadcast α capacity} {receiver next : Receiver}
    {signal : Received α} (recent : (channel.unread receiver).length ≤ capacity)
    (opened : channel.closed = false) (polled : channel.recv receiver = (signal, next)) :
    (channel.unread receiver = [] ∧ signal = .pending) ∨
      ∃ content rest, channel.unread receiver = content :: rest ∧
        signal = .message content ∧ next = ⟨receiver.next + 1⟩ := by
  cases pending : channel.unread receiver with
  | nil =>
      rw [recv_of_read pending, opened] at polled
      cases polled
      exact .inl ⟨rfl, rfl⟩
  | cons content rest =>
      rw [recv_of_unread pending recent] at polled
      cases polled
      exact .inr ⟨content, rest, rfl, rfl, rfl⟩

/-- The next unread message follows those the receiver has gone past. -/
theorem take_succ_of_unread {channel : Broadcast α capacity} {receiver : Receiver}
    {content : α} {rest : List α} (pending : channel.unread receiver = content :: rest) :
    channel.sent.take (receiver.next + 1) = channel.sent.take receiver.next ++ [content] := by
  have nextMessage : channel.sent[receiver.next]? = some content := by
    have head := congrArg (·[0]?) pending
    simpa [unread] using head
  rw [List.take_add_one, nextMessage]
  rfl

theorem unread_send {channel : Broadcast α capacity} {receiver : Receiver}
    (within : receiver.next ≤ channel.sent.length) (content : α) :
    (channel.send content).unread receiver = channel.unread receiver ++ [content] := by
  rw [unread, send_sent, List.drop_append_of_le_length within]
  rfl

/-- A message that is received is one the channel sent. -/
theorem mem_sent_of_recv {channel : Broadcast α capacity} {receiver next : Receiver}
    {content : α} (received : channel.recv receiver = (.message content, next)) :
    content ∈ channel.sent := by
  simp only [recv] at received
  split at received
  · simp at received
  · split at received
    · rename_i found lookup
      simp only [Prod.mk.injEq, Received.message.injEq] at received
      exact received.1 ▸ List.mem_of_getElem? lookup
    · split at received <;> simp at received

end Broadcast

end Iperf.Channel
