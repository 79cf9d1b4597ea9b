import Iperf.Controller.Registry
import Iperf.Server.Phase

/-!
# The order of messages in the server's mailbox

The accept loop hands a connection over only while it holds the lock of a test
that asks for streams, and a stream terminates only under load.  So every
`CreateStream` comes before every `StreamTerminated`, over all interleavings.
-/

namespace Iperf

open Channel Transition

/-- The second message may follow the first. -/
def ControllerMessage.Admits (earlier later : ControllerMessage) : Prop :=
  ∀ id stream, earlier = .streamTerminated id → later ≠ .createStream stream

namespace Controller

/-- No `CreateStream` follows a `StreamTerminated`. -/
def Ordered (controller : Controller) : Prop :=
  controller.accepted.Pairwise ControllerMessage.Admits

variable {controller next : Controller}

theorem new_ordered (build : Build) (perf : Perf) : (new build perf).Ordered :=
  List.Pairwise.nil

theorem Ordered.of_prefix (ordered : controller.Ordered)
    (earlier : next.accepted <+: controller.accepted) : next.Ordered :=
  List.Pairwise.sublist earlier.sublist ordered

/-- A message may be added if it is no `CreateStream`, or no stream has
terminated yet. -/
theorem Ordered.append (ordered : controller.Ordered) {message : ControllerMessage}
    (added : next.accepted = controller.accepted ++ [message])
    (admitted : (∀ stream, message ≠ .createStream stream) ∨
      ∀ id, .streamTerminated id ∉ controller.accepted) : next.Ordered := by
  rw [Ordered, added, List.pairwise_append]
  constructor
  · exact ordered
  constructor
  · exact List.pairwise_singleton _ _
  · intro earlier earlierMem later laterMem id stream terminated
    rw [List.mem_singleton.mp laterMem]
    rcases admitted with other | none
    · exact other stream
    · exact absurd (terminated ▸ earlierMem) (none id)

theorem Ordered.move (ordered : controller.Ordered) (move : Move controller next) :
    next.Ordered := by
  rcases move.accepted with same | added | ⟨-, earlier⟩
  · exact ordered.of_prefix (same ▸ List.prefix_refl _)
  · exact ordered.append added (.inl (by simp))
  · exact ordered.of_prefix earlier

theorem Ordered.taskMove {index : Nat} {event : TaskEvent} (ordered : controller.Ordered)
    (move : TaskMove controller index event next) : next.Ordered := by
  rcases move.accepted with same | ⟨task, result, -, -, -, -, -, added⟩
  · exact ordered.of_prefix (same ▸ List.prefix_refl _)
  · exact ordered.append added (.inl (by simp))

/-- Once a stream has terminated, no `CreateStream` is left in the mailbox. -/
theorem Ordered.not_mem_mailbox (ordered : controller.Ordered) {id : Nat}
    (terminated : .streamTerminated id ∈ controller.received) (stream : TcpStream) :
    .createStream stream ∉ controller.mailbox.items := by
  intro streamMem
  have admits := (List.pairwise_append.mp ordered).2.2 _ terminated _ streamMem
  exact admits id stream rfl rfl

end Controller

namespace Server

variable {json : Json} {server next : Server} {event : ServerEvent}

/-- The accept loop keeps what it has put into the mailbox. -/
theorem AcceptMove.mono (move : AcceptMove json server event next) :
    (∀ message ∈ server.test.mailbox.items, message ∈ next.test.mailbox.items) ∧
      ∀ message ∈ server.test.lost, message ∈ next.test.lost := by
  cases move with
  | handOff inbound mailbox lost pc posts => exact posts.mono
  | terminate error mailbox lost pc posts => exact posts.mono
  | accept | lookCreateStreams | lookOther | hello | otherCookie | noHello | crash | welcome
  | unwelcome | refuse | stop =>
      exact ⟨fun _ messageMem => messageMem, fun _ messageMem => messageMem⟩

/-- What holds of the server whatever its peers do. -/
structure Sound (server : Server) : Prop where
  phased : server.Phased
  registered : server.test.Registered
  ordered : server.test.Ordered

theorem new_sound (build : Build) {perf : Perf} (role : perf.role = .server) :
    (new build perf).Sound where
  phased := new_phased build role
  registered := Controller.new_registered build perf
  ordered := Controller.new_ordered build perf

/-- While the accept loop holds the lock, no stream has terminated. -/
theorem Phased.not_terminated (phased : server.Phased)
    (holds : server.accept.holdsLock = true) (id : Nat) :
    .streamTerminated id ∉ server.test.accepted :=
  phased.test.not_terminated (.inr ⟨_, phased.held holds⟩) id

private theorem Sound.acceptOrdered (sound : server.Sound)
    (move : AcceptMove json server event next) : next.test.Ordered := by
  rcases move.accepted with same | added | ⟨inbound, pc, added⟩
  · exact sound.ordered.of_prefix (same ▸ List.prefix_refl _)
  · exact sound.ordered.append added (.inl (by simp))
  · have holds : server.accept.holdsLock = true := by rw [pc]; rfl
    exact sound.ordered.append added (.inr (sound.phased.not_terminated holds))

theorem Sound.step (sound : server.Sound)
    (step : server.step json event = some next) : next.Sound := by
  have phased := sound.phased.step step
  cases move_of_step step with
  | controller event test move =>
      exact ⟨phased, sound.registered.move move, sound.ordered.move move⟩
  | task index event test move =>
      exact ⟨phased, sound.registered.taskMove move, sound.ordered.taskMove move⟩
  | ctrlC quiet =>
      constructor
      · exact phased
      · exact sound.registered.outside (Controller.outside_of_fields _ _ _ _ _)
          (fun _ idMem => idMem) (fun _ idMem => idMem) (fun _ messageMem => messageMem)
      · exact sound.ordered
  | accept event next move =>
      constructor
      · exact phased
      · exact sound.registered.outside move.outside (fun id idMem => move.mem_accepted idMem)
          (fun id => move.mono.1 _) move.mono.2
      · exact sound.acceptOrdered move

/-- Every reachable server is sound. -/
theorem sound_of_reachable {build : Build} {perf : Perf} (role : perf.role = .server)
    (reachable : Reachable (Server.step json) (new build perf) server) : server.Sound :=
  reachable.invariant Sound (fun _ _ _ sound step => sound.step step) (new_sound build role)

end Server

end Iperf
