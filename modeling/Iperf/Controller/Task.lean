import Iperf.Controller.Step

/-!
# The spawned tasks of a test

What is true of every spawned task whatever the rest of the test does: its
phase agrees with its worker, and it never changes its connection, its id or
its direction.
-/

namespace Iperf

open Channel

/-- How a task changes in one of its steps. -/
inductive Task.Evolves (publisher : Publisher) (task : Task) : Task → Prop where
  | work (event : WorkerEvent) (worker : StreamWorker) (phase : task.phase = .working)
      (moved : StreamWorker.Move event publisher task.worker worker)
      (same : StreamWorker.SameIdentity task.worker worker) :
      Evolves publisher task { task with worker, phase := Controller.phaseAfter worker }
  | post (result : StreamStats) (phase : task.phase = .working)
      (pc : task.worker.pc = .returned (.ok result)) :
      Evolves publisher task { task with phase := .posted result }
  | finish (result : StreamStats) (phase : task.phase = .posted result) :
      Evolves publisher task { task with phase := .finished (.ok result) }
  | panic (phase : task.phase = .working) (listening : task.isListening = true) :
      Evolves publisher task { task with phase := .panicked }

/-- The task has sent its `StreamTerminated`. -/
def Task.hasPosted (task : Task) : Bool :=
  match task.phase with
  | .posted _ => true
  | .finished (.ok _) => true
  | _ => false

/-- The task has ended without a result. -/
def Task.hasFailed (task : Task) : Bool :=
  match task.phase with
  | .finished (.error _) => true
  | .panicked => true
  | _ => false

theorem Task.isFinished_cases {task : Task} (finished : task.isFinished = true) :
    task.hasPosted = true ∨ task.hasFailed = true := by
  unfold isFinished at finished
  unfold hasPosted hasFailed
  cases phase : task.phase with
  | finished result => cases result <;> simp
  | working | posted result | panicked => simp [phase] at finished ⊢

theorem Task.isFinished_of_failed {task : Task} (failed : task.hasFailed = true) :
    task.isFinished = true := by
  unfold hasFailed at failed
  unfold isFinished
  cases phase : task.phase <;> simp_all

theorem Task.not_failed_of_posted {task : Task} (posted : task.hasPosted = true) :
    task.hasFailed = false := by
  unfold hasPosted at posted
  unfold hasFailed
  cases phase : task.phase with
  | finished result => cases result <;> simp_all
  | working | posted result | panicked => simp_all

/-- The phase of a task agrees with its worker. -/
structure Task.Sound (task : Task) : Prop where
  consistent : task.worker.Consistent
  posted : task.hasPosted = true → task.worker.Started

/-- Work leaves the task working, or it ends with the worker's error. -/
theorem Controller.phaseAfter_cases (worker : StreamWorker) :
    (Controller.phaseAfter worker = .working ∧
      ∀ error, worker.pc ≠ .returned (.error error)) ∨
    ∃ error, worker.pc = .returned (.error error) ∧
      Controller.phaseAfter worker = .finished (.error error) := by
  unfold Controller.phaseAfter
  split
  · rename_i error pc
    exact .inr ⟨error, pc, rfl⟩
  · rename_i other
    exact .inl ⟨rfl, other⟩

@[simp]
theorem Task.hasPosted_work (task : Task) (worker : StreamWorker) :
    Task.hasPosted { task with worker, phase := Controller.phaseAfter worker } = false := by
  unfold hasPosted
  rcases Controller.phaseAfter_cases worker with ⟨phase, -⟩ | ⟨error, -, phase⟩ <;>
    simp only [phase]

theorem Task.Evolves.sound {publisher : Publisher} {task next : Task}
    (sound : task.Sound) (evolves : task.Evolves publisher next) : next.Sound := by
  cases evolves with
  | work event worker phase moved same =>
      exact ⟨sound.consistent.move moved, fun posted => by simp at posted⟩
  | post result phase pc =>
      exact ⟨sound.consistent, fun _ => sound.consistent.succeeded result pc⟩
  | finish result phase =>
      exact ⟨sound.consistent, fun _ => sound.posted (by simp [hasPosted, phase])⟩
  | panic phase listening =>
      exact ⟨sound.consistent, fun posted => by simp [hasPosted] at posted⟩

/-- What a task keeps for life. -/
structure Task.SameIdentity (task next : Task) : Prop where
  stream : next.stream = task.stream
  id : next.worker.id = task.worker.id
  isSending : next.worker.isSending = task.worker.isSending

theorem Task.Evolves.sameIdentity {publisher : Publisher} {task next : Task}
    (evolves : task.Evolves publisher next) : task.SameIdentity next := by
  cases evolves with
  | work event worker phase moved same => exact ⟨rfl, same.id, same.isSending⟩
  | post result phase pc => exact ⟨rfl, rfl, rfl⟩
  | finish result phase => exact ⟨rfl, rfl, rfl⟩
  | panic phase listening => exact ⟨rfl, rfl, rfl⟩

/-- Once posted, a task stays so. -/
theorem Task.Evolves.hasPosted_mono {publisher : Publisher} {task next : Task}
    (evolves : task.Evolves publisher next) (posted : task.hasPosted = true) :
    next.hasPosted = true := by
  cases evolves with
  | work event worker phase moved same => simp [hasPosted, phase] at posted
  | post result phase pc => rfl
  | finish result phase => rfl
  | panic phase listening => simp [hasPosted, phase] at posted

/-- Once ended, a task takes no step. -/
theorem Task.Evolves.not_finished {publisher : Publisher} {task next : Task}
    (evolves : task.Evolves publisher next) : task.isFinished = false := by
  cases evolves with
  | work event worker phase moved same => simp [isFinished, phase]
  | post result phase pc => simp [isFinished, phase]
  | finish result phase => simp [isFinished, phase]
  | panic phase listening => simp [isFinished, phase]

/-- `StartLoad` reaches a worker only if it was sent. -/
theorem Task.Evolves.started {publisher : Publisher} {task next : Task}
    (evolves : task.Evolves publisher next) (started : next.worker.Started) :
    task.worker.Started ∨ .startLoad ∈ publisher.sent := by
  cases evolves with
  | work event worker phase moved same => exact moved.started started
  | post result phase pc => exact .inl started
  | finish result phase => exact .inl started
  | panic phase listening => exact .inl started

namespace Controller

theorem newTask_sound (controller : Controller) (stream : TcpStream) :
    (controller.newTask stream).Sound :=
  ⟨StreamWorker.new_consistent _ _ _ _, fun posted => by simp [Task.hasPosted, newTask] at posted⟩

theorem newTask_not_started (controller : Controller) (stream : TcpStream) :
    ¬ (controller.newTask stream).worker.Started := by
  simp [StreamWorker.Started, newTask]

theorem newTask_not_posted (controller : Controller) (stream : TcpStream) :
    (controller.newTask stream).hasPosted = false :=
  rfl

/-- A task step touches one task, the mailbox and the losses. -/
structure TaskFrame (controller next : Controller) : Prop where
  build : next.build = controller.build
  perf : next.perf = controller.perf
  state : next.state = controller.state
  locked : next.locked = controller.locked
  statsSender : next.statsSender = controller.statsSender
  shutdown : next.shutdown = controller.shutdown
  announced : next.announced = controller.announced
  streamIndex : next.streamIndex = controller.streamIndex
  publisher : next.publisher = controller.publisher
  workers : next.workers = controller.workers
  pc : next.pc = controller.pc
  oldState : next.oldState = controller.oldState
  received : next.received = controller.received
  length : next.tasks.length = controller.tasks.length

theorem TaskMove.frame {controller next : Controller} {index : Nat} {event : TaskEvent}
    (move : TaskMove controller index event next) : TaskFrame controller next := by
  cases move with
  | work event task worker found phase moved same =>
      exact ⟨rfl, rfl, rfl, rfl, rfl, rfl, rfl, rfl, rfl, rfl, rfl, rfl, rfl,
        List.length_set⟩
  | post task result mailbox lost found phase pc posts =>
      exact ⟨rfl, rfl, rfl, rfl, rfl, rfl, rfl, rfl, rfl, rfl, rfl, rfl, rfl,
        List.length_set⟩
  | finish task result found phase =>
      exact ⟨rfl, rfl, rfl, rfl, rfl, rfl, rfl, rfl, rfl, rfl, rfl, rfl, rfl,
        List.length_set⟩
  | panic task found phase listening =>
      exact ⟨rfl, rfl, rfl, rfl, rfl, rfl, rfl, rfl, rfl, rfl, rfl, rfl, rfl,
        List.length_set⟩

/-- The one task a task step changes. -/
theorem TaskMove.evolves {controller next : Controller} {index : Nat} {event : TaskEvent}
    (move : TaskMove controller index event next) :
    ∃ task changed, controller.tasks[index]? = some task ∧
      next.tasks = controller.tasks.set index changed ∧
      task.Evolves controller.publisher changed := by
  cases move with
  | work event task worker found phase moved same =>
      exact ⟨task, _, found, rfl, .work event worker phase moved same⟩
  | post task result mailbox lost found phase pc posts =>
      exact ⟨task, _, found, rfl, .post result phase pc⟩
  | finish task result found phase => exact ⟨task, _, found, rfl, .finish result phase⟩
  | panic task found phase listening => exact ⟨task, _, found, rfl, .panic phase listening⟩

/-- A task keeps its connection, and no task is added or removed. -/
theorem TaskMove.streams {controller next : Controller} {index : Nat} {event : TaskEvent}
    (move : TaskMove controller index event next) :
    next.tasks.map Task.stream = controller.tasks.map Task.stream := by
  obtain ⟨task, changed, found, tasks, evolves⟩ := move.evolves
  apply List.ext_getElem?
  intro position
  rw [tasks, List.getElem?_map, List.getElem?_map]
  by_cases here : index = position
  · subst here
    have bound := (List.getElem?_eq_some_iff.mp found).1
    rw [List.getElem?_set_self bound, found]
    exact congrArg some evolves.sameIdentity.stream
  · rw [List.getElem?_set_ne here]

/-- Looking up a task after a task step. -/
theorem TaskMove.lookup {controller next : Controller} {index : Nat} {event : TaskEvent}
    (move : TaskMove controller index event next) {position : Nat} {task : Task}
    (found : next.tasks[position]? = some task) :
    ∃ before, controller.tasks[position]? = some before ∧
      (task = before ∨ before.Evolves controller.publisher task) := by
  obtain ⟨source, changed, atIndex, tasks, evolves⟩ := move.evolves
  rw [tasks] at found
  by_cases same : index = position
  · subst same
    have bound : index < controller.tasks.length := by
      exact (List.getElem?_eq_some_iff.mp atIndex).1
    rw [List.getElem?_set_self bound, Option.some.injEq] at found
    subst found
    exact ⟨source, atIndex, .inr evolves⟩
  · rw [List.getElem?_set_ne same] at found
    exact ⟨task, found, .inl rfl⟩

/-- What becomes of a task in a task step. -/
theorem TaskMove.forward {controller next : Controller} {index : Nat} {event : TaskEvent}
    (move : TaskMove controller index event next) {position : Nat} {task : Task}
    (found : controller.tasks[position]? = some task) :
    ∃ after, next.tasks[position]? = some after ∧
      (after = task ∨ task.Evolves controller.publisher after) := by
  obtain ⟨source, changed, atIndex, tasks, evolves⟩ := move.evolves
  rw [tasks]
  by_cases same : index = position
  · subst same
    rw [atIndex, Option.some.injEq] at found
    subst found
    have bound := (List.getElem?_eq_some_iff.mp atIndex).1
    exact ⟨changed, List.getElem?_set_self bound, .inr evolves⟩
  · exact ⟨task, (List.getElem?_set_ne same).trans found, .inl rfl⟩

/-- What every task had and no step takes away, every task still has. -/
theorem TaskMove.forall_tasks {controller next : Controller} {index : Nat}
    {event : TaskEvent} (move : TaskMove controller index event next)
    {property : Task → Prop} (holds : ∀ task ∈ controller.tasks, property task)
    (kept : ∀ task changed, task ∈ controller.tasks → property task →
      task.Evolves controller.publisher changed → property changed) :
    ∀ task ∈ next.tasks, property task := by
  intro task taskMem
  obtain ⟨position, found⟩ := List.getElem?_of_mem taskMem
  obtain ⟨before, foundBefore, same | evolves⟩ := move.lookup found
  · exact same ▸ holds before (List.mem_of_getElem? foundBefore)
  · have beforeMem := List.mem_of_getElem? foundBefore
    exact kept before task beforeMem (holds before beforeMem) evolves

/-- What the mailbox holds after a task step. -/
theorem TaskMove.mailbox {controller next : Controller} {index : Nat} {event : TaskEvent}
    (move : TaskMove controller index event next) :
    (next.mailbox = controller.mailbox ∧ next.lost = controller.lost) ∨
      ∃ task result, event = .post ∧ controller.tasks[index]? = some task ∧
        task.phase = .working ∧ task.worker.pc = .returned (.ok result) ∧
        next.tasks = controller.tasks.set index { task with phase := .posted result } ∧
        Posts controller (.streamTerminated task.worker.id) next.mailbox next.lost := by
  cases move with
  | work event task worker found phase moved same => exact .inl ⟨rfl, rfl⟩
  | post task result mailbox lost found phase pc posts =>
      exact .inr ⟨task, result, rfl, found, phase, pc, rfl, posts⟩
  | finish task result found phase => exact .inl ⟨rfl, rfl⟩
  | panic task found phase listening => exact .inl ⟨rfl, rfl⟩

end Controller

end Iperf
