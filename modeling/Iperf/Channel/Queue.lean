import Mathlib.Data.List.Basic

/-!
# Bounded first-in first-out queues

The capacity bound is a field of the queue, so an overfull queue cannot be
built.  Sending never waits: it fails exactly when the queue is full.
-/

namespace Iperf.Channel

universe u

/-- A queue of at most `capacity` messages, oldest first. -/
@[ext]
structure Queue (α : Type u) (capacity : Nat) where
  items : List α
  length_le : items.length ≤ capacity

namespace Queue

variable {α : Type u} {capacity : Nat}

def empty : Queue α capacity :=
  ⟨[], Nat.zero_le capacity⟩

@[simp]
theorem empty_items : (empty : Queue α capacity).items = [] :=
  rfl

/-- Append a message, or report that the queue is full. -/
def trySend (queue : Queue α capacity) (message : α) : Option (Queue α capacity) :=
  if room : queue.items.length < capacity then
    some ⟨queue.items ++ [message], by rw [List.length_append]; exact room⟩
  else
    none

/-- Take the oldest message. -/
def recv (queue : Queue α capacity) : Option (α × Queue α capacity) :=
  match queue with
  | ⟨[], _⟩ => none
  | ⟨message :: rest, bound⟩ =>
      some (message, ⟨rest, Nat.le_of_succ_le bound⟩)

theorem trySend_eq_some_iff {queue next : Queue α capacity} {message : α} :
    queue.trySend message = some next ↔
      queue.items.length < capacity ∧ next.items = queue.items ++ [message] := by
  unfold trySend
  split
  · rename_i room
    rw [Option.some.injEq, Queue.ext_iff]
    exact ⟨fun equal => ⟨room, equal.symm⟩, fun sent => sent.2.symm⟩
  · rename_i full
    simp [full]

/-- Sending fails only at capacity. -/
theorem trySend_eq_none_iff {queue : Queue α capacity} {message : α} :
    queue.trySend message = none ↔ queue.items.length = capacity := by
  unfold trySend
  have bound := queue.length_le
  split
  · rename_i room
    simp only [reduceCtorEq, false_iff]
    omega
  · rename_i full
    simp only [true_iff]
    omega

theorem recv_eq_some_iff {queue next : Queue α capacity} {message : α} :
    queue.recv = some (message, next) ↔ queue.items = message :: next.items := by
  rcases queue with ⟨items, bound⟩
  cases items with
  | nil => simp [recv]
  | cons head rest =>
      simp only [recv, Option.some.injEq, Prod.mk.injEq, List.cons.injEq, Queue.ext_iff]

end Queue

end Iperf.Channel
