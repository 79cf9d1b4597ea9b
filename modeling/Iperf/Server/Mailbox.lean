import Mathlib.Algebra.GroupWithZero.Nat
import Iperf.Server.Surplus

/-!
# What the mailbox can lose

Nobody waits for room in the mailbox: a message that finds it full is logged
and gone.  Each connection can cost the mailbox one message at a time, first
its `CreateStream` or the `Terminate` of a failed handshake, later the
`StreamTerminated` of its stream, and the shutdown signal one more.  However
long the controller is delayed, nothing is lost up to five of these, and beyond
five something can be.
-/

namespace Iperf

open Channel Transition

def ControllerMessage.isTermination : ControllerMessage → Bool
  | .streamTerminated _ => true
  | _ => false

def ControllerMessage.isAbort : ControllerMessage → Bool
  | .terminate => true
  | _ => false

/-- A message hands a stream over, reports its end, or asks for the end. -/
theorem length_eq_counts (messages : List ControllerMessage) :
    messages.length = (creates messages).length +
      messages.countP ControllerMessage.isTermination +
      messages.countP ControllerMessage.isAbort := by
  induction messages with
  | nil => rfl
  | cons message rest ih =>
      cases message <;>
        simp [List.countP_cons, ControllerMessage.isTermination, ControllerMessage.isAbort,
          ih] <;> omega

/-- Reading a `Hello` from the connection fails. -/
def Inbound.breaks (json : Json) (inbound : Inbound) : Bool :=
  match readCookie json inbound.peer with
  | .done (.error _) => true
  | _ => false

theorem Inbound.breaks_of_error {json : Json} {inbound : Inbound} {error : Error}
    (read : readCookie json inbound.peer = .done (.error error)) :
    inbound.breaks json = true := by
  simp only [breaks, read]

/-- The connection can cost the mailbox a message. -/
def Inbound.costs (json : Json) (cookie : String) (inbound : Inbound) : Bool :=
  inbound.presents json cookie || inbound.breaks json

/-- The listener yields a connection that fails the handshake. -/
def ServerEvent.breaks (json : Json) : ServerEvent → Bool
  | .accept inbound => inbound.breaks json
  | _ => false

/-- The shutdown signal is sent. -/
def ServerEvent.signals : ServerEvent → Bool
  | .ctrlC => true
  | _ => false

/-- What an event may cost the mailbox later on. -/
def ServerEvent.cost (json : Json) (cookie : String) : ServerEvent → Nat
  | .accept inbound => (inbound.costs json cookie).toNat
  | .ctrlC => 1
  | _ => 0

/-- The connection at hand still owes its message. -/
def AcceptPc.owing (json : Json) (cookie : String) : AcceptPc → Nat
  | .upgraded inbound => (inbound.costs json cookie).toNat
  | .reading inbound _ => (inbound.costs json cookie).toNat
  | .welcoming _ => 1
  | .handingOff _ => 1
  | .failed _ => 1
  | _ => 0

/-- The signal waits to be taken. -/
def Shutdown.owing : Shutdown → Nat
  | .signalled => 1
  | _ => 0

namespace Controller

variable {controller next : Controller}

/-- Every `StreamTerminated` comes from a task of its own, and none is missing
but the lost ones. -/
structure Posted (controller : Controller) : Prop where
  bound : controller.accepted.countP ControllerMessage.isTermination ≤
    controller.tasks.countP Task.hasPosted
  kept : controller.alive = true → ∀ task ∈ controller.tasks, task.hasPosted = true →
    .streamTerminated task.worker.id ∈ controller.accepted ∨
      .streamTerminated task.worker.id ∈ controller.lost

theorem new_posted (build : Build) (perf : Perf) : (new build perf).Posted where
  bound := Nat.zero_le _
  kept := fun _ _ taskMem => absurd taskMem List.not_mem_nil

theorem Posted.move (posted : controller.Posted) (move : Move controller next) :
    next.Posted := by
  have tasks : next.tasks.countP Task.hasPosted = controller.tasks.countP Task.hasPosted := by
    rcases move.tasks with same | ⟨stream, added⟩
    · rw [same]
    · rw [added, List.countP_append]
      simp [newTask_not_posted]
  constructor
  · rw [tasks]
    apply le_trans _ posted.bound
    rcases move.accepted with same | added | ⟨-, earlier⟩
    · rw [same]
    · rw [added, List.countP_append]
      simp [ControllerMessage.isTermination]
    · exact earlier.sublist.countP_le
  · intro stays task taskMem done
    have old : task ∈ controller.tasks := by
      rcases move.tasks with same | ⟨stream, added⟩
      · exact same ▸ taskMem
      · rw [added] at taskMem
        apply (List.mem_append.mp taskMem).resolve_right
        intro new
        rw [List.mem_singleton.mp new, newTask_not_posted] at done
        cases done
    apply (posted.kept move.alive task old done).imp _ move.lost_mono
    intro waiting
    rcases move.accepted with same | added | ⟨gone, -⟩
    · exact same ▸ waiting
    · exact added ▸ List.mem_append_left _ waiting
    · rw [gone] at stays
      cases stays

/-- How many tasks have posted after one of them has changed. -/
private theorem countP_set {tasks : List Task} {index : Nat} {task : Task}
    (found : tasks[index]? = some task) (changed : Task) :
    (tasks.set index changed).countP Task.hasPosted + task.hasPosted.toNat =
      tasks.countP Task.hasPosted + changed.hasPosted.toNat := by
  obtain ⟨bound, value⟩ := List.getElem?_eq_some_iff.mp found
  have taskMem : task ∈ tasks := List.mem_of_getElem? found
  rw [List.countP_set bound, value]
  cases before : task.hasPosted <;> cases after : changed.hasPosted <;> simp
  all_goals have := List.countP_pos_iff.mpr ⟨task, taskMem, before⟩; omega

theorem Posted.taskMove {index : Nat} {event : TaskEvent} (posted : controller.Posted)
    (move : TaskMove controller index event next) : next.Posted := by
  have bound := posted.bound
  constructor
  · obtain ⟨task, changed, found, tasks, evolves⟩ := move.evolves
    have count := countP_set found changed
    have mono : task.hasPosted.toNat ≤ changed.hasPosted.toNat := by
      cases before : task.hasPosted with
      | false => exact Nat.zero_le _
      | true => rw [evolves.hasPosted_mono before]
    rcases move.accepted with same | ⟨source, result, -, found', phase, -, tasks', added⟩
    · rw [same, tasks]
      omega
    · have fresh : source.hasPosted = false := by simp [Task.hasPosted, phase]
      have done : Task.hasPosted { source with phase := .posted result } = true := rfl
      have count' := countP_set found' { source with phase := .posted result }
      rw [fresh, done] at count'
      rw [added, tasks', List.countP_append]
      simp only [Bool.toNat_false, Bool.toNat_true] at count'
      simp only [List.countP_singleton, ControllerMessage.isTermination, if_true]
      omega
  · unfold alive
    rw [move.frame.pc]
    intro stays task taskMem done
    obtain ⟨position, found⟩ := List.getElem?_of_mem taskMem
    obtain ⟨before, foundBefore, sameId, earlier | posts⟩ := move.hasPosted found done
    · rw [← sameId]
      apply (posted.kept stays before (List.mem_of_getElem? foundBefore) earlier).imp _
        (move.mono.2 _)
      intro waiting
      rcases move.accepted with same | ⟨source, result, -, -, -, -, -, added⟩
      · exact same ▸ waiting
      · exact added ▸ List.mem_append_left _ waiting
    · cases posts with
      | sent alive items lost =>
          left
          rw [Controller.accepted, items]
          simp
      | full alive full same logged => exact .inr (by simp [logged])
      | gone gone =>
          change controller.alive = true at stays
          rw [gone] at stays
          cases stays

theorem Posted.outside (posted : controller.Posted) (outside : Outside controller next)
    (count : next.accepted.countP ControllerMessage.isTermination =
      controller.accepted.countP ControllerMessage.isTermination)
    (accepted : ∀ message ∈ controller.accepted, message ∈ next.accepted)
    (lost : ∀ message ∈ controller.lost, message ∈ next.lost) : next.Posted := by
  constructor
  · rw [count, outside.tasks]
    exact posted.bound
  · unfold alive
    rw [outside.pc, outside.tasks]
    intro stays task taskMem done
    exact (posted.kept stays task taskMem done).imp (accepted _) (lost _)

end Controller

namespace Controller

variable {controller next : Controller}

/-- What the mailbox holds was paid for by connections and signals. -/
private theorem items_length_le (posted : controller.Posted) (enrolled : controller.Enrolled) :
    controller.mailbox.items.length ≤ (creates controller.accepted).length +
      controller.accepted.countP ControllerMessage.isAbort := by
  have bound := posted.bound
  have tasks := enrolled.enrolled.length_le
  have count := controller.tasks.countP_le_length (p := Task.hasPosted)
  rw [length_eq_counts]
  simp only [accepted, creates_append, List.length_append, List.countP_append,
    List.length_map] at *
  omega

/-- A task that is about to post has its message paid for. -/
private theorem items_length_lt (posted : controller.Posted) (enrolled : controller.Enrolled)
    {task : Task} (taskMem : task ∈ controller.tasks) (fresh : task.hasPosted = false) :
    controller.mailbox.items.length < (creates controller.accepted).length +
      controller.accepted.countP ControllerMessage.isAbort := by
  have bound := posted.bound
  have tasks := enrolled.enrolled.length_le
  have count : controller.tasks.countP Task.hasPosted < controller.tasks.length := by
    apply lt_of_le_of_ne List.countP_le_length
    intro all
    rw [List.countP_eq_length.mp all task taskMem] at fresh
    cases fresh
  rw [length_eq_counts]
  simp only [accepted, creates_append, List.length_append, List.countP_append,
    List.length_map] at *
  omega

/-- Sending succeeds where there is room. -/
theorem Posts.lost_of_room {message : ControllerMessage}
    {mailbox : Queue ControllerMessage internalPortBuffer} {lost : List ControllerMessage}
    (posts : Posts controller message mailbox lost)
    (room : controller.mailbox.items.length < internalPortBuffer) :
    lost = controller.lost := by
  cases posts with
  | sent alive items kept => exact kept
  | full alive full same logged => exact absurd full room.ne
  | gone gone same kept => exact kept

end Controller

namespace Server

variable {json : Json} {server next : Server} {event : ServerEvent}

/-- What the mailbox has been charged for so far, and what is still owed. -/
def spent (json : Json) (server : Server) : Nat :=
  (creates server.test.accepted).length +
    server.test.accepted.countP ControllerMessage.isAbort +
    server.accept.owing json server.test.perf.cookie + server.test.shutdown.owing

/-- A post charges the mailbox once. -/
private theorem charged_of_posts {test : Controller} {message : ControllerMessage}
    {mailbox : Queue ControllerMessage internalPortBuffer} {lost : List ControllerMessage}
    (posts : Controller.Posts test message mailbox lost) :
    (creates (test.received ++ mailbox.items)).length +
        (test.received ++ mailbox.items).countP ControllerMessage.isAbort ≤
      (creates test.accepted).length + test.accepted.countP ControllerMessage.isAbort + 1 := by
  have one := length_eq_counts [message]
  rw [List.length_singleton] at one
  rcases posts.accepted with same | added
  · rw [same]
    exact Nat.le_add_right _ 1
  · rw [added, creates_append, List.length_append, List.countP_append]
    omega

private theorem spent_controllerMove {test : Controller}
    (move : Controller.Move server.test test) :
    spent json { server with test } ≤ server.spent json := by
  have accept : server.accept.owing json test.perf.cookie =
      server.accept.owing json server.test.perf.cookie := by rw [move.perf]
  have shutdown : test.shutdown.owing ≤ server.test.shutdown.owing := by
    rcases move.takesShutdown with same | taken
    · rw [same]
    · rw [taken]
      exact Nat.zero_le _
  unfold spent
  simp only [accept]
  cases move.mailbox with
  | same mailbox received lost =>
      rw [Controller.accepted, mailbox, received, ← Controller.accepted]
      omega
  | take message pc head received lost =>
      have same : test.accepted = server.test.accepted := by
        rw [Controller.accepted, Controller.accepted, head, received, List.append_assoc]
        rfl
      rw [same]
      omega
  | post pc signalled taken posts received =>
      have charged := charged_of_posts posts
      rw [← received] at charged
      rw [taken, signalled, Controller.accepted]
      simp only [Shutdown.owing]
      omega
  | drop ended mailbox received lost =>
      have earlier := Controller.accepted_of_drop mailbox received
      have created := (creates_mono earlier).length_le
      have aborted := earlier.sublist.countP_le (p := ControllerMessage.isAbort)
      omega

private theorem spent_taskMove {test : Controller} {index : Nat} {taskEvent : TaskEvent}
    (move : Controller.TaskMove server.test index taskEvent test) :
    spent json { server with test } ≤ server.spent json := by
  unfold spent
  simp only [move.frame.perf, move.frame.shutdown]
  rcases move.accepted with same | ⟨task, result, -, -, -, -, -, added⟩
  · rw [same]
  · rw [added]
    simp [ControllerMessage.isAbort]

private theorem spent_acceptMove (phased : server.Phased)
    (move : AcceptMove json server event next) :
    next.spent json ≤ server.spent json + event.cost json server.test.perf.cookie := by
  unfold spent
  cases move with
  | accept inbound pc alive =>
      rw [pc]
      simp only [AcceptPc.owing, ServerEvent.cost]
      exact Nat.le_of_eq (by omega)
  | lookCreateStreams inbound cookie pc unlocked state =>
      rw [pc]
      exact le_rfl
  | lookOther inbound pc unlocked state =>
      rw [pc]
      simp only [AcceptPc.owing]
      exact Nat.add_le_add_right (Nat.add_le_add_left (Nat.zero_le _) _) _
  | hello inbound cookie pc read =>
      have own := phased.reading inbound cookie pc
      rw [own] at read
      have costs : inbound.costs json server.test.perf.cookie = true := by
        rw [Inbound.costs, Inbound.presents_iff.mpr read]
        rfl
      rw [pc]
      simp only [AcceptPc.owing, costs, Bool.toNat_true]
      exact Nat.le_add_right _ _
  | otherCookie inbound cookie clientCookie pc read differs =>
      rw [pc]
      simp only [AcceptPc.owing]
      exact Nat.add_le_add_right (Nat.add_le_add_left (Nat.zero_le _) _) _
  | noHello inbound cookie error pc read =>
      have costs : inbound.costs json server.test.perf.cookie = true := by
        rw [Inbound.costs, Inbound.breaks_of_error read, Bool.or_true]
      rw [pc]
      simp only [AcceptPc.owing, costs, Bool.toNat_true]
      exact Nat.le_add_right _ _
  | crash inbound cookie pc read =>
      rw [pc]
      simp only [AcceptPc.owing]
      exact Nat.add_le_add_right (Nat.add_le_add_left (Nat.zero_le _) _) _
  | welcome inbound pc =>
      rw [pc]
      exact Nat.le_add_right _ _
  | unwelcome inbound pc =>
      rw [pc]
      exact Nat.le_add_right _ _
  | handOff inbound mailbox lost pc posts =>
      rw [pc]
      exact Nat.add_le_add_right (charged_of_posts posts) _
  | refuse inbound holds delivered replies pc answer =>
      rw [pc]
      exact Nat.le_add_right _ _
  | terminate error mailbox lost pc posts =>
      rw [pc]
      exact Nat.add_le_add_right (charged_of_posts posts) _
  | stop pc signalled =>
      rw [pc]
      exact Nat.le_add_right _ _

/-- No step spends more than its event may cost. -/
theorem spent_step (phased : server.Phased) (step : server.step json event = some next) :
    next.spent json ≤ server.spent json + event.cost json server.test.perf.cookie := by
  cases move_of_step step with
  | controller event test move => exact spent_controllerMove move
  | task index event test move => exact spent_taskMove move
  | ctrlC quiet =>
      unfold spent
      simp only [Shutdown.owing, ServerEvent.cost]
      exact Nat.add_le_add_right (Nat.le_add_right _ _) _
  | accept event next move => exact spent_acceptMove phased move

/-- While no more than its capacity is spent, the mailbox loses nothing. -/
theorem lost_step (posted : server.test.Posted) (enrolled : server.test.Enrolled)
    (paid : server.spent json ≤ internalPortBuffer)
    (step : server.step json event = some next) : next.test.lost = server.test.lost := by
  have room := Controller.items_length_le posted enrolled
  unfold spent at paid
  cases move_of_step step with
  | controller event test move =>
      cases move.mailbox with
      | same mailbox received lost => exact lost
      | take message pc head received lost => exact lost
      | post pc signalled taken posts received =>
          simp only [signalled, Shutdown.owing] at paid
          exact posts.lost_of_room (by omega)
      | drop ended mailbox received lost => exact lost
  | task index event test move =>
      rcases move.mailbox with ⟨-, lost⟩ | ⟨task, result, -, found, phase, -, -, posts⟩
      · exact lost
      · have less := Controller.items_length_lt posted enrolled (List.mem_of_getElem? found)
          (by simp [Task.hasPosted, phase])
        exact posts.lost_of_room (by omega)
  | ctrlC quiet => rfl
  | accept event next move =>
      cases move with
      | handOff inbound mailbox lost pc posts =>
          simp only [pc, AcceptPc.owing] at paid
          exact posts.lost_of_room (by omega)
      | terminate error mailbox lost pc posts =>
          simp only [pc, AcceptPc.owing] at paid
          exact posts.lost_of_room (by omega)
      | accept | lookCreateStreams | lookOther | hello | otherCookie | noHello | crash
      | welcome | unwelcome | refuse | stop => rfl

theorem AcceptMove.mem_of_accepted (move : AcceptMove json server event next) :
    (∀ message ∈ server.test.accepted, message ∈ next.test.accepted) ∧
      next.test.accepted.countP ControllerMessage.isTermination =
        server.test.accepted.countP ControllerMessage.isTermination := by
  rcases move.accepted with same | added | ⟨inbound, -, added⟩
  · rw [same]
    exact ⟨fun _ messageMem => messageMem, rfl⟩
  · rw [added]
    exact ⟨fun _ => List.mem_append_left _, by simp [ControllerMessage.isTermination]⟩
  · rw [added]
    exact ⟨fun _ => List.mem_append_left _, by simp [ControllerMessage.isTermination]⟩

/-- The books of the mailbox. -/
structure Booked (server : Server) : Prop where
  phased : server.Phased
  admitted : server.Admitted
  posted : server.test.Posted

theorem new_booked (build : Build) {perf : Perf} (role : perf.role = .server) :
    (new build perf).Booked where
  phased := new_phased build role
  admitted := new_admitted build perf
  posted := Controller.new_posted build perf

theorem Booked.step (booked : server.Booked) (step : server.step json event = some next) :
    next.Booked where
  phased := booked.phased.step step
  admitted := booked.admitted.step booked.phased step
  posted := by
    cases move_of_step step with
    | controller event test move => exact booked.posted.move move
    | task index event test move => exact booked.posted.taskMove move
    | ctrlC quiet =>
        exact booked.posted.outside (Controller.outside_of_fields _ _ _ _ _) rfl
          (fun _ messageMem => messageMem) (fun _ messageMem => messageMem)
    | accept event next move =>
        exact booked.posted.outside move.outside move.mem_of_accepted.2 move.mem_of_accepted.1
          move.mono.2

/-- A run that cannot cost more than the capacity loses nothing. -/
theorem lost_of_cost {events : List ServerEvent} {target : Server} (booked : server.Booked)
    (paid : server.spent json +
      (events.map (ServerEvent.cost json server.test.perf.cookie)).sum ≤ internalPortBuffer)
    (finished : run (Server.step json) server events = some target) :
    target.Booked ∧ target.spent json ≤ internalPortBuffer ∧
      target.test.lost = server.test.lost := by
  induction events generalizing server with
  | nil =>
      cases finished
      exact ⟨booked, paid, rfl⟩
  | cons event events ih =>
      obtain ⟨middle, step, rest⟩ := (run_cons_eq_some_iff _ _ _ _ _).mp finished
      rw [List.map_cons, List.sum_cons] at paid
      have spent := spent_step booked.phased step
      have lost := lost_step booked.posted booked.admitted.enrolled (by omega) step
      have perf := perf_of_step step
      rw [← lost]
      apply ih (booked.step step) _ rest
      rw [perf]
      omega

/-- What the mailbox owes to those who send to it. -/
structure Delivers (json : Json) (server : Server) : Prop where
  kept : server.test.lost = []
  /-- Welcomed connections arrive in order, but for one still at hand. -/
  welcomed : server.test.alive = true →
    creates server.test.accepted ++ server.accept.welcomed = server.welcomed
  terminated : server.test.alive = true → ∀ task ∈ server.test.tasks, task.hasPosted = true →
    .streamTerminated task.worker.id ∈ server.test.accepted
  /-- The signal that `tryRecv` consumes becomes a `Terminate`. -/
  signalled : ∀ next, server.step json (.controller .poll) = some next →
    server.test.shutdown = .signalled →
    next.test.accepted = server.test.accepted ++ [.terminate]

/-- With room for what is owed, every message is delivered. -/
theorem Booked.delivers (booked : server.Booked)
    (paid : server.spent json ≤ internalPortBuffer) (kept : server.test.lost = []) :
    server.Delivers json where
  kept := kept
  welcomed := fun stays => booked.admitted.kept stays (by rw [kept]; rfl)
  terminated := by
    intro stays task taskMem done
    have accepted := booked.posted.kept stays task taskMem done
    rw [kept] at accepted
    exact accepted.resolve_right List.not_mem_nil
  signalled := by
    intro next step signalled
    have lost := lost_step booked.posted booked.admitted.enrolled paid step
    obtain ⟨test, moved, rfl⟩ := Option.map_eq_some_iff.mp step
    simp only [Controller.controllerStep, signalled] at moved
    split at moved
    · rename_i pc
      cases moved
      obtain ⟨mailbox, added, posts, result⟩ := Controller.trySend_eq server.test .terminate
      rw [result] at lost ⊢
      cases posts with
      | sent alive items same =>
          simp only [Controller.accepted, items, List.append_assoc]
      | full alive full same logged =>
          change added = server.test.lost at lost
          rw [logged] at lost
          simp at lost
      | gone gone => simp [Controller.alive, pc] at gone
    · cases moved

/-! ## How to fill the mailbox -/

/-- The controller is held up on its way to the `select!` while the test asks
for streams; `count` messages have been sent to it. -/
structure Filling (server : Server) (count : Nat) : Prop where
  idle : server.accept = .idle
  unlocked : server.test.locked = false
  polling : server.test.pc = .polling
  state : server.test.state = .createStreams server.test.perf.cookie
  quiet : server.test.shutdown = .quiet
  sent : server.test.mailbox.items.length + server.test.lost.length = count

/-- A connection that fails the handshake. -/
def rejection (inbound : Inbound) : List ServerEvent :=
  [.accept inbound, .look, .hello, .terminate]

/-- The controller asks for streams and does not get round to its `select!`. -/
def heldUp : List ServerEvent :=
  [.controller .start, .controller .turn, .controller .act] ++ announcement ++
    [.controller .turn, .controller .act]

theorem filling_heldUp (json : Json) (build : Build) {perf : Perf}
    (role : perf.role = .server) :
    ∃ server, run (Server.step json) (new build perf) heldUp = some server ∧
      server.Filling 0 := by
  refine ⟨_, by
    simp [heldUp, announcement, run, Server.step, Controller.controllerStep, new,
      Controller.new, Controller.act, Controller.setState, Controller.setStatePc,
      Controller.endOfMatch, role]
    rfl, ?_⟩
  constructor <;> rfl

theorem trySend_length {controller : Controller} (running : controller.alive = true)
    (message : ControllerMessage) :
    (controller.trySend message).mailbox.items.length +
        (controller.trySend message).lost.length =
      controller.mailbox.items.length + controller.lost.length + 1 := by
  obtain ⟨mailbox, lost, posts, result⟩ := Controller.trySend_eq controller message
  rw [result]
  cases posts with
  | sent alive items kept =>
      simp only [items, kept, List.length_append, List.length_singleton]
      omega
  | full alive full same logged =>
      simp only [same, logged, List.length_append, List.length_singleton]
      omega
  | gone gone =>
      rw [running] at gone
      cases gone

/-- A sixth message does not fit. -/
theorem lost_of_trySend {controller : Controller} (running : controller.alive = true)
    (message : ControllerMessage)
    (full : internalPortBuffer ≤
      controller.mailbox.items.length + controller.lost.length) :
    (controller.trySend message).lost ≠ [] := by
  have sent := trySend_length running message
  have bound := (controller.trySend message).mailbox.length_le
  intro none
  rw [none, List.length_nil] at sent
  omega

theorem Filling.admission {count : Nat} (filling : server.Filling count) {inbound : Inbound}
    (presents : readCookie json inbound.peer = .done (.ok server.test.perf.cookie)) :
    ∃ next, run (Server.step json) server (Server.admission inbound) = some next ∧
      next.Filling (count + 1) := by
  have running : server.test.alive = true := by simp [Controller.alive, filling.polling]
  refine ⟨_, by
    simp [Server.admission, run, Server.step, acceptStep, filling.idle, running,
      filling.unlocked, look, filling.state, hello, presents]
    rfl, ?_⟩
  constructor
  · rfl
  · rfl
  · simp [filling.polling]
  · simp
  · simp [filling.quiet]
  · apply (trySend_length (by simp [Controller.alive, filling.polling]) _).trans
    exact congrArg (· + 1) filling.sent

theorem Filling.rejection {count : Nat} (filling : server.Filling count) {inbound : Inbound}
    {error : Error} (broken : readCookie json inbound.peer = .done (.error error)) :
    ∃ next, run (Server.step json) server (Server.rejection inbound) = some next ∧
      next.Filling (count + 1) := by
  have running : server.test.alive = true := by simp [Controller.alive, filling.polling]
  refine ⟨_, by
    simp [Server.rejection, run, Server.step, acceptStep, filling.idle, running,
      filling.unlocked, look, filling.state, hello, broken, unlock]
    rfl, ?_⟩
  constructor
  · rfl
  · simp
  · simp [filling.polling]
  · simp
  · simp [filling.quiet]
  · apply (trySend_length (by simp [Controller.alive, filling.polling]) _).trans
    exact congrArg (· + 1) filling.sent

/-- A held-up controller loses the signal if five messages are waiting. -/
theorem Filling.lost {count : Nat} (filling : server.Filling count)
    (full : internalPortBuffer < count) : server.test.lost ≠ [] := by
  intro none
  have sent := filling.sent
  have bound := server.test.mailbox.length_le
  rw [none] at sent
  simp only [List.length_nil] at sent
  omega

theorem Filling.signal {count : Nat} (filling : server.Filling count)
    (full : internalPortBuffer ≤ count) :
    ∃ next, run (Server.step json) server [.ctrlC, .controller .poll] = some next ∧
      next.test.lost ≠ [] := by
  refine ⟨_, by
    simp [run, Server.step, Controller.step, filling.quiet, Controller.controllerStep,
      filling.polling]
    rfl, ?_⟩
  exact lost_of_trySend (by simp [Controller.alive]) _ (filling.sent.symm ▸ full)

/-- A list of connections fills the mailbox one by one. -/
theorem Filling.connections {handling : Inbound → List ServerEvent}
    {inbounds : List Inbound} {count : Nat} (filling : server.Filling count)
    (one : ∀ inbound ∈ inbounds, ∀ source count, source.Filling count →
      source.test.perf = server.test.perf →
      ∃ next, run (Server.step json) source (handling inbound) = some next ∧
        next.Filling (count + 1)) :
    ∃ next, run (Server.step json) server (inbounds.flatMap handling) = some next ∧
      next.Filling (count + inbounds.length) := by
  induction inbounds generalizing server count with
  | nil => exact ⟨server, rfl, filling⟩
  | cons inbound rest ih =>
      obtain ⟨middle, first, filled⟩ := one inbound List.mem_cons_self server count filling rfl
      have perf := perf_of_run first
      obtain ⟨next, second, full⟩ := ih filled fun other otherMem source count filling same =>
        one other (List.mem_cons_of_mem inbound otherMem) source count filling
          (same.trans perf)
      refine ⟨next, run_append_of_run first second, ?_⟩
      rw [List.length_cons, Nat.add_comm rest.length, ← Nat.add_assoc]
      exact full

/-- Connections that present the cookie and connections that fail, then the
signal. -/
def flood (presenting broken : List Inbound) (signalled : Bool) : List ServerEvent :=
  heldUp ++ presenting.flatMap admission ++ broken.flatMap rejection ++
    if signalled then [.ctrlC, .controller .poll] else []

/-- More than five of them lose a message. -/
theorem flood_loses (json : Json) (build : Build) {perf : Perf}
    (role : perf.role = .server) {presenting broken : List Inbound} (signalled : Bool)
    (presents : ∀ inbound ∈ presenting,
      readCookie json inbound.peer = .done (.ok perf.cookie))
    (breaks : ∀ inbound ∈ broken, ∃ error,
      readCookie json inbound.peer = .done (.error error))
    (many : internalPortBuffer < presenting.length + broken.length + signalled.toNat) :
    ∃ server, run (Server.step json) (new build perf) (flood presenting broken signalled) =
      some server ∧ server.test.lost ≠ [] := by
  obtain ⟨first, firstRun, held⟩ := filling_heldUp json build role
  have firstPerf := perf_of_run firstRun
  have admits : ∀ inbound ∈ presenting, ∀ source count, source.Filling count →
      source.test.perf = first.test.perf →
      ∃ next, run (Server.step json) source (admission inbound) = some next ∧
        next.Filling (count + 1) := by
    intro inbound inboundMem source count filling same
    exact filling.admission (same.trans firstPerf ▸ presents inbound inboundMem)
  obtain ⟨second, secondRun, admitted⟩ := held.connections admits
  have rejects : ∀ inbound ∈ broken, ∀ source count, source.Filling count →
      source.test.perf = second.test.perf →
      ∃ next, run (Server.step json) source (rejection inbound) = some next ∧
        next.Filling (count + 1) := by
    intro inbound inboundMem source count filling _
    obtain ⟨error, read⟩ := breaks inbound inboundMem
    exact filling.rejection read
  obtain ⟨third, thirdRun, rejected⟩ := admitted.connections rejects
  have flooded := run_append_of_run (run_append_of_run firstRun secondRun) thirdRun
  cases signalled with
  | false =>
      have full : internalPortBuffer < 0 + presenting.length + broken.length := by
        simp only [Bool.toNat_false] at many
        omega
      exact ⟨third, run_append_of_run flooded rfl, rejected.lost full⟩
  | true =>
      have full : internalPortBuffer ≤ 0 + presenting.length + broken.length := by
        simp only [Bool.toNat_true] at many
        omega
      obtain ⟨next, lastRun, lost⟩ := rejected.signal full
      exact ⟨next, run_append_of_run flooded lastRun, lost⟩

/-- The cost of a run is at most that of its connections and its signal. -/
theorem cost_le (json : Json) (cookie : String) (events : List ServerEvent) :
    (events.map (ServerEvent.cost json cookie)).sum ≤
      events.countP (ServerEvent.presents json cookie) +
        events.countP (ServerEvent.breaks json) + events.countP ServerEvent.signals := by
  induction events with
  | nil => exact Nat.zero_le _
  | cons event events ih =>
      rw [List.map_cons, List.sum_cons, List.countP_cons, List.countP_cons, List.countP_cons]
      have one : event.cost json cookie ≤ (if event.presents json cookie then 1 else 0) +
          (if event.breaks json then 1 else 0) + (if event.signals then 1 else 0) := by
        cases event with
        | accept inbound =>
            by_cases presents : inbound.presents json cookie = true <;>
              by_cases breaks : inbound.breaks json = true <;>
              simp [ServerEvent.cost, ServerEvent.presents, ServerEvent.breaks,
                ServerEvent.signals, Inbound.costs, presents, breaks]
        | ctrlC => exact Nat.le_add_left _ _
        | controller | task | look | hello | welcome | handOff | refuse | terminate | stop =>
            exact Nat.zero_le _
      omega

/-- What a list of connections adds to a count. -/
theorem countP_connections {predicate : ServerEvent → Bool}
    {handling : Inbound → List ServerEvent} {inbounds : List Inbound} {each : Nat}
    (one : ∀ inbound ∈ inbounds, (handling inbound).countP predicate = each) :
    (inbounds.flatMap handling).countP predicate = inbounds.length * each := by
  induction inbounds with
  | nil => simp
  | cons inbound rest ih =>
      rw [List.flatMap_cons, List.countP_append, one inbound List.mem_cons_self,
        ih fun other otherMem => one other (List.mem_cons_of_mem inbound otherMem),
        List.length_cons, Nat.succ_mul, Nat.add_comm]

theorem flood_counts {json : Json} {cookie : String} {presenting broken : List Inbound}
    (signalled : Bool)
    (presents : ∀ inbound ∈ presenting, readCookie json inbound.peer = .done (.ok cookie))
    (breaks : ∀ inbound ∈ broken, ∃ error,
      readCookie json inbound.peer = .done (.error error)) :
    (flood presenting broken signalled).countP (ServerEvent.presents json cookie) =
        presenting.length ∧
      (flood presenting broken signalled).countP (ServerEvent.breaks json) = broken.length ∧
      (flood presenting broken signalled).countP ServerEvent.signals = signalled.toNat := by
  have admitted : ∀ inbound ∈ presenting,
      (admission inbound).countP (ServerEvent.presents json cookie) = 1 ∧
      (admission inbound).countP (ServerEvent.breaks json) = 0 ∧
      (admission inbound).countP ServerEvent.signals = 0 := by
    intro inbound inboundMem
    have read := presents inbound inboundMem
    simp [admission, ServerEvent.presents, ServerEvent.breaks, ServerEvent.signals,
      Inbound.presents, Inbound.breaks, read]
  have rejected : ∀ inbound ∈ broken,
      (rejection inbound).countP (ServerEvent.presents json cookie) = 0 ∧
      (rejection inbound).countP (ServerEvent.breaks json) = 1 ∧
      (rejection inbound).countP ServerEvent.signals = 0 := by
    intro inbound inboundMem
    obtain ⟨error, read⟩ := breaks inbound inboundMem
    simp [rejection, ServerEvent.presents, ServerEvent.breaks, ServerEvent.signals,
      Inbound.presents, Inbound.breaks, read]
  simp only [flood, List.countP_append]
  rw [countP_connections fun inbound inboundMem => (admitted inbound inboundMem).1,
    countP_connections fun inbound inboundMem => (admitted inbound inboundMem).2.1,
    countP_connections fun inbound inboundMem => (admitted inbound inboundMem).2.2,
    countP_connections fun inbound inboundMem => (rejected inbound inboundMem).1,
    countP_connections fun inbound inboundMem => (rejected inbound inboundMem).2.1,
    countP_connections fun inbound inboundMem => (rejected inbound inboundMem).2.2]
  cases signalled <;>
    simp [heldUp, announcement, List.countP_cons, ServerEvent.presents, ServerEvent.breaks,
      ServerEvent.signals]

/-- The server's mailbox delivers everything, in every run with so many
connections that present the cookie, so many that fail the handshake, and a
signal or none, exactly when these are five at most. -/
theorem mailbox_delivers_iff (json : Json) (build : Build) (cookie : String)
    (params : Parameters) (presenting broken : Nat) (signalled : Bool)
    (hello : ∃ peer, readCookie json peer = .done (.ok cookie)) :
    (∀ events server,
      events.countP (ServerEvent.presents json cookie) ≤ presenting →
      events.countP (ServerEvent.breaks json) ≤ broken →
      events.countP ServerEvent.signals ≤ signalled.toNat →
      run (Server.step json) (new build (Perf.newWithStatsReceiver cookie .server params))
        events = some server → server.Delivers json) ↔
      presenting + broken + signalled.toNat ≤ internalPortBuffer := by
  obtain ⟨peer, read⟩ := hello
  constructor
  · intro delivers
    by_contra many
    have presents : ∀ inbound ∈ (List.range presenting).map fun id => Inbound.mk ⟨id⟩ peer,
        readCookie json inbound.peer = .done (.ok cookie) := by
      intro inbound inboundMem
      obtain ⟨id, -, rfl⟩ := List.mem_map.mp inboundMem
      exact read
    -- A peer that closes at once fails the handshake.
    have breaks : ∀ inbound ∈ (List.range broken).map fun id =>
        Inbound.mk ⟨presenting + id⟩ ⟨[], true⟩,
        ∃ error, readCookie json inbound.peer = .done (.error error) := by
      intro inbound inboundMem
      obtain ⟨id, -, rfl⟩ := List.mem_map.mp inboundMem
      exact ⟨_, rfl⟩
    obtain ⟨server, finished, lost⟩ := flood_loses json build
      (rfl : (Perf.newWithStatsReceiver cookie .server params).role = .server) signalled
      presents breaks (by simpa using many)
    obtain ⟨presented, failed, signals⟩ := flood_counts signalled presents breaks
    apply lost
    exact (delivers _ server (by simp [presented]) (by simp [failed]) signals.le finished).kept
  · intro few events server presented failed signals finished
    have paid : (new build (Perf.newWithStatsReceiver cookie .server params)).spent json +
        (events.map (ServerEvent.cost json cookie)).sum ≤ internalPortBuffer := by
      have cost := cost_le json cookie events
      change 0 + _ ≤ _
      omega
    obtain ⟨booked, spent, lost⟩ := lost_of_cost (new_booked build rfl) paid finished
    exact booked.delivers spent lost

theorem mailbox_delivers_one :
    ∃ server, Reachable (Server.step (.ofCookie "c")) (sample 1) server ∧
      server.welcomed = [⟨0⟩] ∧ server.Delivers (.ofCookie "c") := by
  have delivers := (mailbox_delivers_iff (.ofCookie "c") ⟨true, true⟩ "c" (.fromOpts {}) 1 0
    false ⟨.sending (Json.ofCookie "c").client (.hello "c"), rfl⟩).mpr (by decide)
  have observed : (run (Server.step (.ofCookie "c")) (sample 1) startOne).map welcomed =
      some [⟨0⟩] := rfl
  obtain ⟨server, finished, result⟩ := Option.map_eq_some_iff.mp observed
  exact ⟨server, ⟨startOne, finished⟩, result,
    delivers startOne server (by decide) (by decide) (by decide) finished⟩

/-- A client of six streams is welcomed six times while the controller is held
up, and its sixth stream is lost. -/
theorem sixth_stream_lost :
    ∃ server, Reachable (Server.step (.ofCookie "c")) (sample 6) server ∧
      server.test.alive = true ∧ server.welcomed = [⟨0⟩, ⟨1⟩, ⟨2⟩, ⟨3⟩, ⟨4⟩, ⟨5⟩] ∧
      server.test.lost = [.createStream ⟨5⟩] ∧ ¬ server.Delivers (.ofCookie "c") := by
  let observe : Server → Bool × List TcpStream × List ControllerMessage := fun server =>
    (server.test.alive, server.welcomed, server.test.lost)
  have observed : (run (Server.step (.ofCookie "c")) (sample 6)
      (flood ((List.range 6).map (.presenting (.ofCookie "c") "c")) [] false)).map observe =
        some (true, [⟨0⟩, ⟨1⟩, ⟨2⟩, ⟨3⟩, ⟨4⟩, ⟨5⟩], [.createStream ⟨5⟩]) := rfl
  obtain ⟨server, finished, result⟩ := Option.map_eq_some_iff.mp observed
  simp only [observe, Prod.mk.injEq] at result
  obtain ⟨running, welcomed, lost⟩ := result
  refine ⟨server, ⟨_, finished⟩, running, welcomed, lost, fun delivers => ?_⟩
  have kept := delivers.kept
  rw [lost] at kept
  cases kept

end Server

end Iperf
