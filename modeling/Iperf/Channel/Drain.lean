import Iperf.Channel.Queue

/-!
# Bounded channels and their consumer

A consumer takes messages from a bounded channel one by one until the channel
is empty and nobody is left who could send.  A sender waits for room.  That the
end is seen on an empty channel only is a field, so whatever has been accepted
is either waiting or taken.
-/

namespace Iperf.Channel

universe u

/-- A bounded channel together with what its consumer has taken from it. -/
@[ext]
structure Drain (α : Type u) (capacity : Nat) where
  waiting : Queue α capacity
  taken : List α
  /-- The consumer has seen the end and is gone. -/
  ended : Bool
  drained : ended = true → waiting.items = []

namespace Drain

variable {α : Type u} {capacity : Nat}

def new : Drain α capacity :=
  ⟨.empty, [], false, fun ended => absurd ended (by decide)⟩

@[simp]
theorem new_taken : (new : Drain α capacity).taken = [] :=
  rfl

@[simp]
theorem new_ended : (new : Drain α capacity).ended = false :=
  rfl

/-- Everything the channel has accepted, in order. -/
def accepted (drain : Drain α capacity) : List α :=
  drain.taken ++ drain.waiting.items

@[simp]
theorem new_accepted : (new : Drain α capacity).accepted = [] :=
  rfl

/-- The message is accepted, if there is room and somebody to receive it. -/
def send (drain : Drain α capacity) (message : α) : Option (Drain α capacity) :=
  if running : drain.ended = false then
    (drain.waiting.trySend message).map fun waiting =>
      { drain with
        waiting
        drained := fun ended => absurd (running.symm.trans ended) (by decide) }
  else
    none

/-- The consumer takes the oldest message. -/
def take (drain : Drain α capacity) : Option (α × Drain α capacity) :=
  if running : drain.ended = false then
    drain.waiting.recv.map fun received =>
      (received.1,
        { drain with
          waiting := received.2
          taken := drain.taken ++ [received.1]
          drained := fun ended => absurd (running.symm.trans ended) (by decide) })
  else
    none

/-- The consumer sees the end, once nobody can send any more. -/
def finish (drain : Drain α capacity) (senders : Bool) : Option (Drain α capacity) :=
  if settled : drain.ended = false ∧ senders = false ∧ drain.waiting.items = [] then
    some { drain with ended := true, drained := fun _ => settled.2.2 }
  else
    none

theorem send_eq_some {drain next : Drain α capacity} {message : α}
    (sent : drain.send message = some next) :
    drain.ended = false ∧ next.ended = false ∧ next.taken = drain.taken ∧
      next.accepted = drain.accepted ++ [message] := by
  unfold send at sent
  split at sent
  · rename_i running
    rcases Option.map_eq_some_iff.mp sent with ⟨waiting, room, rfl⟩
    have items := (Queue.trySend_eq_some_iff.mp room).2
    constructor
    · exact running
    · exact ⟨running, rfl, by simp only [accepted, items, List.append_assoc]⟩
  · cases sent

theorem take_eq_some {drain next : Drain α capacity} {message : α}
    (took : drain.take = some (message, next)) :
    drain.ended = false ∧ next.ended = false ∧ next.taken = drain.taken ++ [message] ∧
      next.accepted = drain.accepted := by
  unfold take at took
  split at took
  · rename_i running
    rcases Option.map_eq_some_iff.mp took with ⟨⟨head, waiting⟩, received, result⟩
    cases result
    have items := Queue.recv_eq_some_iff.mp received
    constructor
    · exact running
    · refine ⟨running, rfl, ?_⟩
      simp only [accepted, items, List.append_assoc, List.singleton_append]
  · cases took

theorem finish_eq_some {drain next : Drain α capacity} {senders : Bool}
    (finished : drain.finish senders = some next) :
    drain.ended = false ∧ senders = false ∧ next.ended = true ∧ next.taken = drain.taken ∧
      next.accepted = drain.accepted := by
  unfold finish at finished
  split at finished
  · rename_i settled
    cases finished
    exact ⟨settled.1, settled.2.1, rfl, rfl, rfl⟩
  · cases finished

/-- What has been taken was accepted first. -/
theorem taken_first (drain : Drain α capacity) : drain.taken <+: drain.accepted :=
  List.prefix_append _ _

/-- Once the consumer is gone it has taken everything. -/
theorem taken_of_ended {drain : Drain α capacity} (ended : drain.ended = true) :
    drain.taken = drain.accepted := by
  rw [accepted, drain.drained ended, List.append_nil]

/-- A consumer that has not seen the end can go on, unless it waits for a sender. -/
theorem goes_on {drain : Drain α capacity} (running : drain.ended = false)
    (senders : Bool) (ready : senders = false ∨ drain.waiting.items ≠ []) :
    (∃ message next, drain.take = some (message, next)) ∨
      ∃ next, drain.finish senders = some next := by
  cases items : drain.waiting.items with
  | nil =>
      have none : senders = false := ready.resolve_right fun some => some items
      right
      exact ⟨_, dif_pos ⟨running, none, items⟩⟩
  | cons message rest =>
      left
      have bound := drain.waiting.length_le
      rw [items] at bound
      have received : drain.waiting.recv = some (message, ⟨rest, Nat.le_of_succ_le bound⟩) :=
        Queue.recv_eq_some_iff.mpr items
      simp only [take, running, dif_pos, received, Option.map_some, Option.some.injEq]
      exact ⟨_, _, rfl⟩

/-- A full channel does not stay full: its consumer can take a message. -/
theorem take_of_full {drain : Drain α capacity} (running : drain.ended = false)
    (full : drain.waiting.items.length = capacity) (positive : 0 < capacity) :
    ∃ message next, drain.take = some (message, next) := by
  have some : drain.waiting.items ≠ [] := by
    intro none
    rw [none] at full
    exact absurd full (Nat.ne_of_lt positive)
  rcases goes_on running true (.inr some) with took | ⟨next, finished⟩
  · exact took
  · cases (finish_eq_some finished).2.1

end Drain

end Iperf.Channel
