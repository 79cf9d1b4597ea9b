import Iperf.Controller.Frame

/-!
# The registered streams

Which task carries which id, where its handle is kept, and what becomes of its
`StreamTerminated`.  The counter is a `u16` and may wrap, so ids are positions
modulo its size.
-/

namespace Iperf

open Channel

/-- Whether this side sends on its stream with the given id. -/
def Perf.sendsOn (perf : Perf) (id : Nat) : Bool :=
  let isSending := decide (id < perf.numSendStreams.toNat)
  if perf.role = .server ∧ perf.params.direction = .bidirectional then
    !isSending
  else
    isSending

namespace Controller

theorem nextIsSending_eq (controller : Controller) :
    controller.nextIsSending = controller.perf.sendsOn controller.streamIndex.toNat := by
  unfold nextIsSending Perf.sendsOn
  simp only [UInt16.lt_iff_toNat_lt]

variable {controller next : Controller}

/-- What a move does to the registered streams. -/
inductive Registers (controller next : Controller) : Prop where
  | keeps (tasks : next.tasks = controller.tasks)
      (streamIndex : next.streamIndex = controller.streamIndex)
      (workers : ∀ id index, next.workers.lookup id = some index →
        controller.workers.lookup id = some index)
  | adds (stream : TcpStream)
      (tasks : next.tasks = controller.tasks ++ [controller.newTask stream])
      (streamIndex : next.streamIndex = controller.streamIndex + 1)
      (workers : next.workers =
        controller.workers.insert controller.streamIndex.toNat controller.tasks.length)
  | ends (ended : next.alive = false) (workers : next.workers = ∅)
      (tasks : next.tasks = controller.tasks ∨
        ∃ stream, next.tasks = controller.tasks ++ [controller.newTask stream])

theorem lookup_of_erase {workers : AList fun _ : Nat => Nat} {erased id index : Nat}
    (found : (workers.erase erased).lookup id = some index) :
    id ≠ erased ∧ workers.lookup id = some index := by
  by_cases same : id = erased
  · rw [same, AList.lookup_erase] at found
    cases found
  · rw [AList.lookup_erase_ne same] at found
    exact ⟨same, found⟩

theorem Move.registers (move : Move controller next) : Registers controller next := by
  cases move with
  | close next closes => exact .keeps closes.tasks closes.streamIndex closes.workers
  | finish next ends =>
      obtain ⟨ending, pc⟩ := ends.pc
      exact .ends (alive_of_pc_ended pc) ends.workers
        (ends.tasks.imp_right fun ⟨stream, added, _⟩ => ⟨stream, added⟩)
  | recvCreate stream mailbox total pc role head needed => exact .adds stream rfl rfl rfl
  | greeted total stream pc => exact .adds stream rfl rfl rfl
  | recvTerminated id index mailbox pc head found =>
      exact .keeps rfl rfl fun _ _ found => (lookup_of_erase found).2
  | _ => exact .keeps rfl rfl fun _ _ found => found

/-- A `StreamTerminated` stays in the mailbox as long as its stream's handle is
kept. -/
theorem Move.awaits (move : Move controller next) {id index : Nat}
    (found : next.workers.lookup id = some index)
    (waiting : .streamTerminated id ∈ controller.mailbox.items) :
    .streamTerminated id ∈ next.mailbox.items := by
  cases move with
  | close next closes => rwa [closes.mailbox]
  | finish next ends => simp [ends.workers] at found
  | pollSignal mailbox lost pc signalled posts => exact posts.mono.1 _ waiting
  | recvCreate stream mailbox total pc role head needed => simpa [head] using waiting
  | recvTerminate mailbox pc head => simpa [head] using waiting
  | recvTerminated other position mailbox pc head taken =>
      have differs := (lookup_of_erase found).1
      simpa [head, differs] using waiting
  | recvStray other mailbox pc head missing =>
      have differs : id ≠ other := by
        intro same
        rw [same] at found
        exact absurd (found.symm.trans missing) (by simp)
      simpa [head, differs] using waiting
  | _ => exact waiting

theorem Move.lost_mono (move : Move controller next) {message : ControllerMessage}
    (messageMem : message ∈ controller.lost) : message ∈ next.lost := by
  rcases move.lost with same | added
  · exact same ▸ messageMem
  · exact added ▸ List.mem_append_left _ messageMem

/-- The registered streams are numbered in order, and whoever has posted is
either awaited in the mailbox or no longer kept. -/
structure Registered (controller : Controller) : Prop where
  counter : controller.alive = true →
    controller.streamIndex.toNat = controller.tasks.length % UInt16.size
  identity : ∀ index task, controller.tasks[index]? = some task →
    task.worker.id = index % UInt16.size ∧
      task.worker.isSending = controller.perf.sendsOn task.worker.id
  position : ∀ id index, controller.workers.lookup id = some index →
    index < controller.tasks.length ∧ index % UInt16.size = id
  awaited : ∀ id index task, controller.workers.lookup id = some index →
    controller.tasks[index]? = some task → task.hasPosted = true →
    .streamTerminated id ∈ controller.mailbox.items ∨
      .streamTerminated id ∈ controller.lost
  author : ∀ id, .streamTerminated id ∈ controller.accepted →
    ∃ task ∈ controller.tasks, task.worker.id = id ∧ task.hasPosted = true
  ended : controller.alive = false → controller.workers = ∅

theorem new_registered (build : Build) (perf : Perf) : (new build perf).Registered where
  counter := fun _ => rfl
  identity := fun index task found => by simp [new] at found
  position := fun id index found => by simp [new] at found
  awaited := fun id index task found => by simp [new] at found
  author := fun id idMem => by simp [accepted, new] at idMem
  ended := fun _ => rfl

theorem newTask_id (controller : Controller) (stream : TcpStream) :
    (controller.newTask stream).worker.id = controller.streamIndex.toNat :=
  rfl

theorem newTask_isSending (controller : Controller) (stream : TcpStream) :
    (controller.newTask stream).worker.isSending =
      controller.perf.sendsOn controller.streamIndex.toNat :=
  controller.nextIsSending_eq

/-- Looking up a task after one more has been added. -/
theorem lookup_append {tasks : List Task} {added task : Task} {index : Nat}
    (found : (tasks ++ [added])[index]? = some task) :
    tasks[index]? = some task ∨ (index = tasks.length ∧ task = added) := by
  rcases Nat.lt_trichotomy index tasks.length with before | same | after
  · rw [List.getElem?_append_left before] at found
    exact .inl found
  · rw [same, List.getElem?_concat_length, Option.some.injEq] at found
    exact .inr ⟨same, found.symm⟩
  · have short : (tasks ++ [added]).length ≤ index := by
      rw [List.length_append, List.length_singleton]
      exact after
    rw [List.getElem?_eq_none short] at found
    cases found

private theorem Registered.identity_added (registered : controller.Registered)
    (running : controller.alive = true) (stream : TcpStream) {index : Nat} {task : Task}
    (found : (controller.tasks ++ [controller.newTask stream])[index]? = some task) :
    task.worker.id = index % UInt16.size ∧
      task.worker.isSending = controller.perf.sendsOn task.worker.id := by
  rcases lookup_append found with old | ⟨position, same⟩
  · exact registered.identity index task old
  · rw [same, newTask_isSending, newTask_id, position]
    exact ⟨registered.counter running, rfl⟩

private theorem Registered.identity_move (registered : controller.Registered)
    (move : Move controller next) (index : Nat) (task : Task)
    (found : next.tasks[index]? = some task) :
    task.worker.id = index % UInt16.size ∧
      task.worker.isSending = next.perf.sendsOn task.worker.id := by
  rw [move.perf]
  rcases move.tasks with same | ⟨stream, added⟩
  · exact registered.identity index task (same ▸ found)
  · rw [added] at found
    exact registered.identity_added move.alive stream found

private theorem Registered.position_move (registered : controller.Registered)
    (move : Move controller next) (id index : Nat)
    (found : next.workers.lookup id = some index) :
    index < next.tasks.length ∧ index % UInt16.size = id := by
  cases move.registers with
  | keeps tasks streamIndex workers =>
      rw [tasks]
      exact registered.position id index (workers id index found)
  | adds stream tasks streamIndex workers =>
      rw [tasks, List.length_append, List.length_singleton]
      rw [workers] at found
      by_cases fresh : id = controller.streamIndex.toNat
      · rw [fresh, AList.lookup_insert, Option.some.injEq] at found
        rw [fresh, ← found]
        exact ⟨Nat.lt_succ_self _, (registered.counter move.alive).symm⟩
      · rw [AList.lookup_insert_ne fresh] at found
        have old := registered.position id index found
        exact ⟨Nat.lt_succ_of_lt old.1, old.2⟩
  | ends ended workers tasks => simp [workers] at found

private theorem Registered.awaited_move (registered : controller.Registered)
    (move : Move controller next) (id index : Nat) (task : Task)
    (kept : next.workers.lookup id = some index) (found : next.tasks[index]? = some task)
    (posted : task.hasPosted = true) :
    .streamTerminated id ∈ next.mailbox.items ∨ .streamTerminated id ∈ next.lost := by
  have settle : controller.workers.lookup id = some index →
      controller.tasks[index]? = some task →
      .streamTerminated id ∈ next.mailbox.items ∨ .streamTerminated id ∈ next.lost := by
    intro keptBefore foundBefore
    exact (registered.awaited id index task keptBefore foundBefore posted).imp
      (move.awaits kept) move.lost_mono
  cases move.registers with
  | keeps tasks streamIndex workers => exact settle (workers id index kept) (tasks ▸ found)
  | adds stream tasks streamIndex workers =>
      rw [tasks] at found
      rcases lookup_append found with old | ⟨position, same⟩
      · rw [workers] at kept
        by_cases fresh : id = controller.streamIndex.toNat
        · rw [fresh, AList.lookup_insert, Option.some.injEq] at kept
          rw [← kept] at old
          simp at old
        · rw [AList.lookup_insert_ne fresh] at kept
          exact settle kept old
      · rw [same, newTask_not_posted] at posted
        cases posted
  | ends ended workers tasks => simp [workers] at kept

theorem Registered.move (registered : controller.Registered)
    (move : Move controller next) : next.Registered where
  counter := by
    intro running
    cases move.registers with
    | keeps tasks streamIndex workers =>
        rw [streamIndex, tasks]
        exact registered.counter move.alive
    | adds stream tasks streamIndex workers =>
        have counter := registered.counter move.alive
        rw [streamIndex, tasks, UInt16.toNat_add, counter, List.length_append]
        exact Nat.mod_add_mod _ _ _
    | ends ended workers tasks => simp [ended] at running
  identity := registered.identity_move move
  position := registered.position_move move
  awaited := registered.awaited_move move
  author := by
    intro id idMem
    rcases move.mem_accepted idMem with old | new
    · obtain ⟨task, taskMem, author⟩ := registered.author id old
      rcases move.tasks with same | ⟨stream, added⟩
      · exact ⟨task, same ▸ taskMem, author⟩
      · exact ⟨task, added ▸ List.mem_append_left _ taskMem, author⟩
    · cases new
  ended := fun ended => (move.ends ended).workers

/-- A task that has posted did so before, or it posts in this step. -/
theorem TaskMove.hasPosted {index : Nat} {event : TaskEvent}
    (move : TaskMove controller index event next) {position : Nat} {task : Task}
    (found : next.tasks[position]? = some task) (posted : task.hasPosted = true) :
    ∃ before, controller.tasks[position]? = some before ∧
      before.worker.id = task.worker.id ∧
      (before.hasPosted = true ∨
        Posts controller (.streamTerminated task.worker.id) next.mailbox next.lost) := by
  by_cases here : index = position
  · subst here
    have atIndex : ∀ source changed, controller.tasks[index]? = some source →
        (controller.tasks.set index changed)[index]? = some task → task = changed := by
      intro source changed foundSource foundChanged
      have bound := (List.getElem?_eq_some_iff.mp foundSource).1
      rw [List.getElem?_set_self bound, Option.some.injEq] at foundChanged
      exact foundChanged.symm
    cases move with
    | work event source worker foundSource phase moved same =>
        rw [atIndex source _ foundSource found, Task.hasPosted_work] at posted
        cases posted
    | post source result mailbox lost foundSource phase pc posts =>
        have changed := atIndex source _ foundSource found
        rw [changed]
        exact ⟨source, foundSource, rfl, .inr posts⟩
    | finish source result foundSource phase =>
        have changed := atIndex source _ foundSource found
        rw [changed]
        exact ⟨source, foundSource, rfl, .inl (by simp [Task.hasPosted, phase])⟩
    | panic source foundSource phase listening =>
        rw [atIndex source _ foundSource found] at posted
        cases posted
  · obtain ⟨source, changed, -, tasks, -⟩ := move.evolves
    rw [tasks, List.getElem?_set_ne here] at found
    exact ⟨task, found, rfl, .inl posted⟩

theorem TaskMove.mono {index : Nat} {event : TaskEvent}
    (move : TaskMove controller index event next) :
    (∀ message ∈ controller.mailbox.items, message ∈ next.mailbox.items) ∧
      ∀ message ∈ controller.lost, message ∈ next.lost := by
  rcases move.mailbox with ⟨mailbox, lost⟩ | ⟨task, result, -, -, -, -, -, posts⟩
  · rw [mailbox, lost]
    exact ⟨fun _ messageMem => messageMem, fun _ messageMem => messageMem⟩
  · exact posts.mono

theorem Registered.taskMove {index : Nat} {event : TaskEvent}
    (registered : controller.Registered) (move : TaskMove controller index event next) :
    next.Registered where
  counter := by
    unfold alive
    rw [move.frame.pc, move.frame.streamIndex, move.frame.length]
    exact registered.counter
  identity := by
    intro position task found
    rw [move.frame.perf]
    obtain ⟨before, foundBefore, same | evolves⟩ := move.lookup found
    · exact same ▸ registered.identity position before foundBefore
    · have identity := registered.identity position before foundBefore
      rwa [evolves.sameIdentity.id, evolves.sameIdentity.isSending]
  position := by
    rw [move.frame.workers, move.frame.length]
    exact registered.position
  awaited := by
    intro id position task kept found posted
    rw [move.frame.workers] at kept
    obtain ⟨before, foundBefore, sameId, earlier | posts⟩ := move.hasPosted found posted
    · exact (registered.awaited id position before kept foundBefore earlier).imp
        (move.mono.1 _) (move.mono.2 _)
    · have own : task.worker.id = id := by
        rw [← sameId, (registered.identity position before foundBefore).1]
        exact (registered.position id position kept).2
      rw [own] at posts
      cases posts with
      | sent alive items lost => exact .inl (by simp [items])
      | full alive full same logged => exact .inr (by simp [logged])
      | gone gone same lost => simp [registered.ended gone] at kept
  author := by
    intro id idMem
    have kept : ∀ task ∈ controller.tasks, task.worker.id = id ∧ task.hasPosted = true →
        ∃ task ∈ next.tasks, task.worker.id = id ∧ task.hasPosted = true := by
      intro task taskMem author
      obtain ⟨position, found⟩ := List.getElem?_of_mem taskMem
      obtain ⟨after, foundAfter, same | evolves⟩ := move.forward found
      · exact ⟨after, List.mem_of_getElem? foundAfter, same ▸ author⟩
      · exact ⟨after, List.mem_of_getElem? foundAfter,
          evolves.sameIdentity.id.trans author.1, evolves.hasPosted_mono author.2⟩
    rcases move.accepted with same | ⟨task, result, -, found, -, -, tasks, added⟩
    · obtain ⟨task, taskMem, author⟩ := registered.author id (same ▸ idMem)
      exact kept task taskMem author
    · rw [added] at idMem
      rcases List.mem_append.mp idMem with old | new
      · obtain ⟨task, taskMem, author⟩ := registered.author id old
        exact kept task taskMem author
      · rw [List.mem_singleton, ControllerMessage.streamTerminated.injEq] at new
        have bound := (List.getElem?_eq_some_iff.mp found).1
        rw [tasks, new]
        exact ⟨_, List.mem_set bound _, rfl, rfl⟩
  ended := by
    unfold alive
    rw [move.frame.pc, move.frame.workers]
    exact registered.ended

/-- Other tasks only add to the mailbox, and no `StreamTerminated`. -/
theorem Registered.outside (registered : controller.Registered)
    (outside : Outside controller next)
    (posts : ∀ id, .streamTerminated id ∈ next.accepted →
      .streamTerminated id ∈ controller.accepted)
    (kept : ∀ id, .streamTerminated id ∈ controller.mailbox.items →
      .streamTerminated id ∈ next.mailbox.items)
    (lost : ∀ message ∈ controller.lost, message ∈ next.lost) : next.Registered where
  counter := by
    unfold alive
    rw [outside.pc, outside.streamIndex, outside.tasks]
    exact registered.counter
  identity := by
    rw [outside.tasks, outside.perf]
    exact registered.identity
  position := by
    rw [outside.workers, outside.tasks]
    exact registered.position
  awaited := by
    rw [outside.workers, outside.tasks]
    intro id index task handle found posted
    exact (registered.awaited id index task handle found posted).imp (kept id) (lost _)
  author := by
    rw [outside.tasks]
    exact fun id idMem => registered.author id (posts id idMem)
  ended := by
    unfold alive
    rw [outside.pc, outside.workers]
    exact registered.ended

end Controller

end Iperf
