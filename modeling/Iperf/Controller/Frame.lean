import Mathlib.Data.List.Infix
import Iperf.Controller.Task

/-!
# What the moves of a controller leave alone

One lemma for each group of fields, by cases on the move.  The invariants of
the server and of the client are assembled from these.
-/

namespace Iperf

open Channel

namespace Controller

variable {controller next : Controller}

theorem Move.perf (move : Move controller next) : next.perf = controller.perf := by
  cases move with
  | close next closes => exact closes.perf
  | finish next ends => exact ends.perf
  | _ => rfl

theorem Move.build (move : Move controller next) : next.build = controller.build := by
  cases move with
  | close next closes => exact closes.build
  | finish next ends => exact ends.build
  | _ => rfl

theorem Move.locked (move : Move controller next) : next.locked = controller.locked := by
  cases move with
  | close next closes => exact closes.locked
  | finish next ends => exact ends.locked
  | _ => rfl

/-- Only a controller that runs takes steps. -/
theorem Move.alive (move : Move controller next) : controller.alive = true := by
  cases move with
  | close next closes => exact closes.alive
  | finish next ends => exact ends.alive
  | start pc unlocked => simp [Controller.alive, pc]
  | turn pc unlocked => simp [Controller.alive, pc]
  | createStreams pc role => simp [Controller.alive, pc]
  | pass state pc loaded initial exchange terminate opened => simp [Controller.alive, pc]
  | startLoad pc transition listener => simp [Controller.alive, pc]
  | stop exchange pc => simp [Controller.alive, pc]
  | connect cookie total pc role needed more => simp [Controller.alive, pc]
  | poll pc => simp [Controller.alive, pc]
  | pollSignal mailbox lost pc signalled posts => simp [Controller.alive, pc]
  | recvCreate stream mailbox total pc role head needed => simp [Controller.alive, pc]
  | recvTerminated id index mailbox pc head found => simp [Controller.alive, pc]
  | recvStray id mailbox pc head missing => simp [Controller.alive, pc]
  | recvTerminate mailbox pc head => simp [Controller.alive, pc]
  | shutdown pc signalled => simp [Controller.alive, pc]
  | serverSets target pc role => simp [Controller.alive, pc]
  | serverSays pc role => simp [Controller.alive, pc]
  | greet total stream pc => simp [Controller.alive, pc]
  | greeted total stream pc => simp [Controller.alive, pc]
  | announce target pc => simp [Controller.alive, pc]
  | store target pc unlocked => simp [Controller.alive, pc]
  | join id index results task pc found ended => simp [Controller.alive, pc]

theorem setStatePc_running (role : Role) (target : State) (ending : Ending) :
    setStatePc role target ≠ .ended ending := by
  cases role <;> simp [setStatePc]

theorem afterTerminatedPc_running (role : Role) (workers : AList fun _ : Nat => Nat)
    (ending : Ending) : afterTerminatedPc role workers ≠ .ended ending := by
  unfold afterTerminatedPc
  split <;> simp

/-- A controller ends by returning or panicking only. -/
theorem Move.ends (move : Move controller next) (ended : next.alive = false) :
    Ends controller next := by
  have stays : (∀ ending, next.pc ≠ .ended ending) → Ends controller next := fun running =>
    absurd ended (by simp [alive_iff.mpr running])
  cases move with
  | finish next ends => exact ends
  | close next closes => simp [closes.stays] at ended
  | recvCreate stream mailbox total pc role head needed =>
      refine stays fun ending => ?_
      simp only
      split <;> simp
  | recvStray id mailbox pc head missing => exact stays (afterTerminatedPc_running _ _)
  | recvTerminate mailbox pc head => exact stays (setStatePc_running _ _)
  | shutdown pc signalled => exact stays (setStatePc_running _ _)
  | greeted total stream pc =>
      refine stays fun ending => ?_
      simp only
      split <;> simp
  | join id index results task pc found isFinished =>
      exact stays (afterTerminatedPc_running _ _)
  | start | turn | createStreams | pass | startLoad | stop | connect | poll | pollSignal
  | recvTerminated | serverSets | serverSays | greet | announce | store => cases ended

/-- The test state changes only where the controller stores a new one, and then
nobody else holds its lock. -/
theorem Move.state (move : Move controller next) :
    next.state = controller.state ∨
      ∃ target, controller.pc = .storing target ∧ controller.locked = false ∧
        next.state = target ∧ next.pc = .loopHead := by
  cases move with
  | close next closes => exact .inl closes.state
  | finish next ends => exact .inl ends.state
  | store target pc unlocked => exact .inr ⟨target, pc, unlocked, rfl, rfl⟩
  | _ => exact .inl rfl

/-- The controller only ever takes the shutdown signal. -/
theorem Move.takesShutdown (move : Move controller next) :
    next.shutdown = controller.shutdown ∨ next.shutdown = .taken := by
  cases move with
  | close next closes => exact .inl closes.shutdown
  | finish next ends => exact .inl ends.shutdown
  | pollSignal mailbox lost pc signalled posts => exact .inr rfl
  | shutdown pc signalled => exact .inr rfl
  | _ => exact .inl rfl

/-- A state is announced only where the controller stands at that point. -/
theorem Move.announced (move : Move controller next) :
    next.announced = controller.announced ∨
      ∃ target, controller.pc = .announcing target ∧
        next = { controller with
          announced := controller.announced ++ [target]
          pc := .storing target } := by
  cases move with
  | close next closes => exact .inl closes.announced
  | finish next ends => exact .inl ends.announced
  | announce target pc => exact .inr ⟨target, pc, rfl⟩
  | _ => exact .inl rfl

/-- Tasks are only ever added, one at a time. -/
theorem Move.tasks (move : Move controller next) :
    next.tasks = controller.tasks ∨
      ∃ stream, next.tasks = controller.tasks ++ [controller.newTask stream] := by
  cases move with
  | close next closes => exact .inl closes.tasks
  | finish next ends => exact ends.tasks.imp_right fun ⟨stream, added, _⟩ => ⟨stream, added⟩
  | recvCreate stream mailbox total pc role head needed => exact .inr ⟨stream, rfl⟩
  | greeted total stream pc => exact .inr ⟨stream, rfl⟩
  | _ => exact .inl rfl

/-- What is broadcast, and when. -/
theorem Move.publisher (move : Move controller next) :
    next.publisher.sent = controller.publisher.sent ∨
      (controller.pc = .matched .running ∧ controller.oldState ≠ .running ∧
        next.pc = .polling ∧ next.oldState = .running ∧
        next.publisher.sent = controller.publisher.sent ++ [.startLoad]) ∨
      ∃ exchange, controller.pc =
          .matched (if exchange then .exchangeResults else .terminate) ∧
        next.pc = .collecting exchange ∧
        next.publisher.sent = controller.publisher.sent ++ [.terminate] := by
  cases move with
  | close next closes => exact .inl (congrArg Broadcast.sent closes.publisher)
  | finish next ends =>
      left
      rw [ends.publisher, Broadcast.close_sent]
  | startLoad pc transition listener => exact .inr (.inl ⟨pc, transition, rfl, rfl, rfl⟩)
  | stop exchange pc =>
      simp only [stopWorkers]
      split
      · exact .inr (.inr ⟨exchange, pc, rfl, rfl⟩)
      · exact .inl rfl
  | _ => exact .inl rfl

/-- The sender of the broadcast channel lives as long as the controller. -/
theorem Move.closed (move : Move controller next) (running : next.alive = true) :
    next.publisher.closed = controller.publisher.closed := by
  cases move with
  | close next closes => exact congrArg Broadcast.closed closes.publisher
  | finish next ends =>
      obtain ⟨ending, pc⟩ := ends.pc
      simp [alive_of_pc_ended pc] at running
  | stop exchange pc =>
      simp only [stopWorkers]
      split <;> rfl
  | _ => rfl

/-- There is no way back into the main loop. -/
theorem Move.closing (move : Move controller next) (closing : controller.pc.Closing) :
    next.pc.Closing := by
  cases move with
  | close next closes => exact closes.after
  | finish next ends =>
      obtain ⟨ending, pc⟩ := ends.pc
      rw [pc]
      trivial
  | start pc | turn pc | createStreams pc | pass _ pc | startLoad pc | stop _ pc
  | connect _ _ pc | poll pc | pollSignal _ _ pc | recvCreate _ _ _ pc
  | recvTerminated _ _ _ pc | recvStray _ _ pc | recvTerminate _ pc | shutdown pc
  | serverSets _ pc | serverSays pc | greet _ _ pc | greeted _ _ pc | announce _ pc
  | store _ pc | join _ _ _ _ pc =>
      rw [pc] at closing
      exact closing.elim

theorem Move.sent_prefix (move : Move controller next) :
    controller.publisher.sent <+: next.publisher.sent := by
  rcases move.publisher with same | ⟨-, -, -, -, sent⟩ | ⟨exchange, -, -, sent⟩
  · rw [same]
  · rw [sent]
    exact List.prefix_append _ _
  · rw [sent]
    exact List.prefix_append _ _

/-- The four things a move can do to the mailbox. -/
inductive MailboxMove (controller next : Controller) : Prop where
  | same (mailbox : next.mailbox.items = controller.mailbox.items)
      (received : next.received = controller.received) (lost : next.lost = controller.lost)
  | take (message : ControllerMessage) (pc : controller.pc = .selecting)
      (head : controller.mailbox.items = message :: next.mailbox.items)
      (received : next.received = controller.received ++ [message])
      (lost : next.lost = controller.lost)
  | post (pc : controller.pc = .polling) (signalled : controller.shutdown = .signalled)
      (taken : next.shutdown = .taken)
      (posts : Posts controller .terminate next.mailbox next.lost)
      (received : next.received = controller.received)
  | drop (ended : next.alive = false) (mailbox : next.mailbox.items = [])
      (received : next.received = controller.received ∨
        ∃ message rest, controller.mailbox.items = message :: rest ∧
          next.received = controller.received ++ [message])
      (lost : next.lost = controller.lost)

theorem Move.mailbox (move : Move controller next) : MailboxMove controller next := by
  cases move with
  | close next closes =>
      exact .same (congrArg Queue.items closes.mailbox) closes.received closes.lost
  | finish next ends =>
      obtain ⟨ending, pc⟩ := ends.pc
      exact .drop (alive_of_pc_ended pc) ends.mailbox ends.received ends.lost
  | pollSignal mailbox lost pc signalled posts => exact .post pc signalled rfl posts rfl
  | recvCreate stream mailbox total pc role head needed => exact .take _ pc head rfl rfl
  | recvTerminated id index mailbox pc head found => exact .take _ pc head rfl rfl
  | recvStray id mailbox pc head missing => exact .take _ pc head rfl rfl
  | recvTerminate mailbox pc head => exact .take _ pc head rfl rfl
  | _ => exact .same rfl rfl rfl

/-- Every message the mailbox has accepted, in order, apart from those that
were still waiting when the controller ended. -/
def accepted (controller : Controller) : List ControllerMessage :=
  controller.received ++ controller.mailbox.items

theorem Posts.accepted {message : ControllerMessage}
    {mailbox : Queue ControllerMessage internalPortBuffer} {lost : List ControllerMessage}
    (posts : Posts controller message mailbox lost) :
    controller.received ++ mailbox.items = controller.accepted ∨
      controller.received ++ mailbox.items = controller.accepted ++ [message] := by
  cases posts with
  | sent alive items kept =>
      right
      rw [items, Controller.accepted, List.append_assoc]
  | full alive full same logged => exact .inl (same ▸ rfl)
  | gone gone same kept => exact .inl (same ▸ rfl)

/-- An attempt to send takes nothing away. -/
theorem Posts.mono {message : ControllerMessage}
    {mailbox : Queue ControllerMessage internalPortBuffer} {lost : List ControllerMessage}
    (posts : Posts controller message mailbox lost) :
    (∀ other ∈ controller.mailbox.items, other ∈ mailbox.items) ∧
      ∀ other ∈ controller.lost, other ∈ lost := by
  cases posts with
  | sent alive items kept =>
      rw [items, kept]
      exact ⟨fun _ => List.mem_append_left _, fun _ otherMem => otherMem⟩
  | full alive full same logged =>
      rw [same, logged]
      exact ⟨fun _ otherMem => otherMem, fun _ => List.mem_append_left _⟩
  | gone gone same kept =>
      rw [same, kept]
      exact ⟨fun _ otherMem => otherMem, fun _ otherMem => otherMem⟩

/-- Dropping the mailbox forgets the latest messages. -/
theorem accepted_of_drop (mailbox : next.mailbox.items = [])
    (received : next.received = controller.received ∨
      ∃ message rest, controller.mailbox.items = message :: rest ∧
        next.received = controller.received ++ [message]) :
    next.accepted <+: controller.accepted := by
  rw [Controller.accepted, mailbox, List.append_nil]
  rcases received with same | ⟨message, rest, head, received⟩
  · rw [same]
    exact List.prefix_append _ _
  · rw [received, Controller.accepted, head]
    exact ⟨rest, by simp⟩

/-- A move puts nothing into the mailbox but `Terminate`; a controller that ends
drops what was waiting. -/
theorem Move.accepted (move : Move controller next) :
    next.accepted = controller.accepted ∨
      next.accepted = controller.accepted ++ [.terminate] ∨
      (next.alive = false ∧ next.accepted <+: controller.accepted) := by
  cases move.mailbox with
  | same mailbox received lost =>
      left
      rw [Controller.accepted, mailbox, received, Controller.accepted]
  | take message pc head received lost =>
      left
      rw [Controller.accepted, Controller.accepted, head, received, List.append_assoc]
      rfl
  | post pc signalled taken posts received =>
      rw [Controller.accepted, received]
      exact posts.accepted.imp_right .inl
  | drop ended mailbox received lost =>
      exact .inr (.inr ⟨ended, accepted_of_drop mailbox received⟩)

theorem Move.mem_accepted (move : Move controller next) {message : ControllerMessage}
    (messageMem : message ∈ next.accepted) :
    message ∈ controller.accepted ∨ message = .terminate := by
  rcases move.accepted with same | added | ⟨-, earlier⟩
  · exact .inl (same ▸ messageMem)
  · rw [added, List.mem_append, List.mem_singleton] at messageMem
    exact messageMem
  · exact .inl (earlier.subset messageMem)

/-- A move loses nothing but a `Terminate`. -/
theorem Move.lost (move : Move controller next) :
    next.lost = controller.lost ∨ next.lost = controller.lost ++ [.terminate] := by
  cases move.mailbox with
  | same mailbox received lost => exact .inl lost
  | take message pc head received lost => exact .inl lost
  | post pc signalled taken posts received =>
      cases posts with
      | sent alive items kept => exact .inl kept
      | full alive full same logged => exact .inr logged
      | gone gone same kept => exact .inl kept
  | drop ended mailbox received lost => exact .inl lost

/-- What a task step puts into the mailbox. -/
theorem TaskMove.accepted {index : Nat} {event : TaskEvent}
    (move : TaskMove controller index event next) :
    next.accepted = controller.accepted ∨
      ∃ task result, event = .post ∧ controller.tasks[index]? = some task ∧
        task.phase = .working ∧ task.worker.pc = .returned (.ok result) ∧
        next.tasks = controller.tasks.set index { task with phase := .posted result } ∧
        next.accepted = controller.accepted ++ [.streamTerminated task.worker.id] := by
  have received := move.frame.received
  rcases move.mailbox with ⟨mailbox, -⟩ | ⟨task, result, post, found, phase, pc, tasks, posts⟩
  · left
    rw [Controller.accepted, mailbox, received, Controller.accepted]
  · rw [Controller.accepted, received]
    rcases posts.accepted with same | added
    · exact .inl same
    · exact .inr ⟨task, result, post, found, phase, pc, tasks, added⟩

/-! ## What other parties do to a test -/

/-- Other tasks lock the test state, signal the shutdown and send to the
mailbox; everything else is the controller's own. -/
structure Outside (controller next : Controller) : Prop where
  build : next.build = controller.build
  perf : next.perf = controller.perf
  state : next.state = controller.state
  statsSender : next.statsSender = controller.statsSender
  announced : next.announced = controller.announced
  streamIndex : next.streamIndex = controller.streamIndex
  publisher : next.publisher = controller.publisher
  workers : next.workers = controller.workers
  tasks : next.tasks = controller.tasks
  pc : next.pc = controller.pc
  received : next.received = controller.received

theorem outside_of_fields (controller : Controller) (locked : Bool) (shutdown : Shutdown)
    (mailbox : Queue ControllerMessage internalPortBuffer) (lost : List ControllerMessage) :
    Outside controller { controller with locked, shutdown, mailbox, lost } :=
  ⟨rfl, rfl, rfl, rfl, rfl, rfl, rfl, rfl, rfl, rfl, rfl⟩

/-- What can happen to one side of a test. -/
inductive Happens (controller : Controller) : Event → Controller → Prop where
  | controller (event : ControllerEvent) (next : Controller) (move : Move controller next) :
      Happens controller (.controller event) next
  | task (index : Nat) (event : TaskEvent) (next : Controller)
      (move : TaskMove controller index event next) :
      Happens controller (.task index event) next
  | outside (event : Event) (next : Controller) (outside : Outside controller next) :
      Happens controller event next

theorem happens_of_step {event : Event} (step : controller.step event = some next) :
    Happens controller event next := by
  cases event with
  | controller event => exact .controller event next (move_of_controllerStep step)
  | task index event => exact .task index event next (move_of_taskStep step)
  | ctrlC | acquire | release =>
      simp only [Controller.step] at step
      split at step <;> cases step
      exact .outside _ _ (outside_of_fields _ _ _ _ _)
  | post message =>
      simp only [Controller.step] at step
      cases step
      obtain ⟨mailbox, lost, -, result⟩ := trySend_eq controller message
      rw [result]
      exact .outside _ _ (outside_of_fields _ _ _ _ _)

end Controller

end Iperf
