import Iperf.Controller.Core
import Iperf.StreamWorker.Step

/-!
# What a step of one side of a test can do

`Move` lists every outcome of a controller step with the fields it changes,
`TaskMove` does the same for the spawned tasks.  The invariants of a test are
case analyses over these two lists.
-/

namespace Iperf

open Channel

/-- After the last turn of the main loop. -/
def Pc.Closing : Pc → Prop
  | .collecting _ => True
  | .writingResults _ => True
  | .readingResults => True
  | .forwarding _ _ => True
  | .ended _ => True
  | _ => False

namespace Controller

/-- The fields of a controller after a stream has been registered. -/
def register (controller : Controller) (stream : TcpStream) : Controller :=
  { controller with
    tasks := controller.tasks ++ [controller.newTask stream]
    workers := controller.workers.insert controller.streamIndex.toNat controller.tasks.length
    streamIndex := controller.streamIndex + 1 }

/-- Where the handling of a terminated stream leads. -/
def afterTerminatedPc (role : Role) (workers : AList fun _ : Nat => Nat) : Pc :=
  if workers.entries = [] ∧ role = .server then .announcing .exchangeResults else .loopHead

/-- The controller returns or panics.  The message it was handling has been
taken from the mailbox, and a counter overflow strikes after the spawn. -/
structure Ends (controller next : Controller) : Prop where
  alive : controller.alive = true
  settled : ∀ target, controller.pc ≠ .storing target
  pc : ∃ ending, next.pc = .ended ending
  build : next.build = controller.build
  perf : next.perf = controller.perf
  state : next.state = controller.state
  locked : next.locked = controller.locked
  shutdown : next.shutdown = controller.shutdown
  announced : next.announced = controller.announced
  mailbox : next.mailbox.items = []
  publisher : next.publisher = controller.publisher.close
  workers : next.workers = ∅
  tasks : next.tasks = controller.tasks ∨
    ∃ stream, next.tasks = controller.tasks ++ [controller.newTask stream] ∧
      ((∃ total, controller.pc = .greeting total stream) ∨
        (controller.pc = .selecting ∧ controller.perf.role = .server ∧
          next.received = controller.received ++ [.createStream stream]))
  received : next.received = controller.received ∨
    ∃ message rest, controller.mailbox.items = message :: rest ∧
      next.received = controller.received ++ [message]
  lost : next.lost = controller.lost

/-- A step past the main loop that keeps the controller running: handles and
results come and go, the rest is left alone. -/
structure Closes (controller next : Controller) : Prop where
  before : controller.pc.Closing
  after : next.pc.Closing
  alive : controller.alive = true
  stays : next.alive = true
  build : next.build = controller.build
  perf : next.perf = controller.perf
  state : next.state = controller.state
  locked : next.locked = controller.locked
  shutdown : next.shutdown = controller.shutdown
  announced : next.announced = controller.announced
  streamIndex : next.streamIndex = controller.streamIndex
  mailbox : next.mailbox = controller.mailbox
  publisher : next.publisher = controller.publisher
  workers : ∀ id index, next.workers.lookup id = some index →
    controller.workers.lookup id = some index
  tasks : next.tasks = controller.tasks
  received : next.received = controller.received
  lost : next.lost = controller.lost

/-- What an attempt to send leaves in the mailbox and among the losses. -/
inductive Posts (controller : Controller) (message : ControllerMessage)
    (mailbox : Queue ControllerMessage internalPortBuffer)
    (lost : List ControllerMessage) : Prop where
  | sent (alive : controller.alive = true)
      (items : mailbox.items = controller.mailbox.items ++ [message])
      (kept : lost = controller.lost)
  | full (alive : controller.alive = true)
      (full : controller.mailbox.items.length = internalPortBuffer)
      (same : mailbox = controller.mailbox) (logged : lost = controller.lost ++ [message])
  | gone (gone : controller.alive = false) (same : mailbox = controller.mailbox)
      (kept : lost = controller.lost)

/-- The outcomes of one step of `runController`. -/
inductive Move (controller : Controller) : Controller → Prop where
  | start (pc : controller.pc = .starting) (unlocked : controller.locked = false) :
      Move controller { controller with oldState := controller.state, pc := .loopHead }
  | turn (pc : controller.pc = .loopHead) (unlocked : controller.locked = false) :
      Move controller { controller with pc := .matched controller.state }
  | createStreams (pc : controller.pc = .matched .start)
      (role : controller.perf.role = .server) :
      Move controller
        { controller with pc := .announcing (.createStreams controller.perf.cookie) }
  | pass (state : State) (pc : controller.pc = .matched state)
      (loaded : state = .running → controller.oldState = .running)
      (initial : state = .start → controller.perf.role = .client)
      (exchange : state ≠ .exchangeResults) (terminate : state ≠ .terminate)
      (opened : controller.perf.role = .client → ∀ cookie, state = .createStreams cookie →
        ∃ total, controller.totalNeededStreams = some total ∧
          ¬ controller.streamIndex < total) :
      Move controller { controller with oldState := state, pc := .polling }
  | startLoad (pc : controller.pc = .matched .running)
      (transition : controller.oldState ≠ .running)
      (listener : controller.hasListener = true) :
      Move controller { controller with
        publisher := controller.publisher.send .startLoad
        oldState := .running
        pc := .polling }
  | stop (exchange : Bool)
      (pc : controller.pc =
        .matched (if exchange then .exchangeResults else .terminate)) :
      Move controller (controller.stopWorkers exchange)
  | connect (cookie : String) (total : UInt16)
      (pc : controller.pc = .matched (.createStreams cookie))
      (role : controller.perf.role = .client)
      (needed : controller.totalNeededStreams = some total)
      (more : controller.streamIndex < total) :
      Move controller
        { controller with oldState := .createStreams cookie, pc := .connecting total }
  | poll (pc : controller.pc = .polling) :
      Move controller { controller with pc := .selecting }
  | pollSignal (mailbox : Queue ControllerMessage internalPortBuffer)
      (lost : List ControllerMessage) (pc : controller.pc = .polling)
      (signalled : controller.shutdown = .signalled)
      (posts : Posts controller .terminate mailbox lost) :
      Move controller
        { controller with mailbox, lost, shutdown := .taken, pc := .selecting }
  | recvCreate (stream : TcpStream)
      (mailbox : Queue ControllerMessage internalPortBuffer) (total : UInt16)
      (pc : controller.pc = .selecting) (role : controller.perf.role = .server)
      (head : controller.mailbox.items = .createStream stream :: mailbox.items)
      (needed : controller.totalNeededStreams = some total) :
      Move controller { controller.register stream with
        mailbox
        received := controller.received ++ [.createStream stream]
        pc :=
          if (controller.register stream).workers.entries.length = total.toNat then
            .announcing .running
          else .loopHead }
  | recvTerminated (id index : Nat)
      (mailbox : Queue ControllerMessage internalPortBuffer)
      (pc : controller.pc = .selecting)
      (head : controller.mailbox.items = .streamTerminated id :: mailbox.items)
      (found : controller.workers.lookup id = some index) :
      Move controller { controller with
        mailbox
        received := controller.received ++ [.streamTerminated id]
        workers := controller.workers.erase id
        pc := .joining id index }
  | recvStray (id : Nat) (mailbox : Queue ControllerMessage internalPortBuffer)
      (pc : controller.pc = .selecting)
      (head : controller.mailbox.items = .streamTerminated id :: mailbox.items)
      (missing : controller.workers.lookup id = none) :
      Move controller { controller with
        mailbox
        received := controller.received ++ [.streamTerminated id]
        pc := afterTerminatedPc controller.perf.role controller.workers }
  | recvTerminate (mailbox : Queue ControllerMessage internalPortBuffer)
      (pc : controller.pc = .selecting)
      (head : controller.mailbox.items = .terminate :: mailbox.items) :
      Move controller { controller with
        mailbox
        received := controller.received ++ [.terminate]
        pc := setStatePc controller.perf.role .terminate }
  | shutdown (pc : controller.pc = .selecting) (signalled : controller.shutdown ≠ .quiet) :
      Move controller { controller with
        shutdown := .taken
        pc := setStatePc controller.perf.role .terminate }
  | serverSets (target : State) (pc : controller.pc = .selecting)
      (role : controller.perf.role = .client) :
      Move controller { controller with pc := .storing target }
  | serverSays (pc : controller.pc = .selecting) (role : controller.perf.role = .client) :
      Move controller { controller with pc := .loopHead }
  | greet (total : UInt16) (stream : TcpStream) (pc : controller.pc = .connecting total) :
      Move controller { controller with pc := .greeting total stream }
  | greeted (total : UInt16) (stream : TcpStream)
      (pc : controller.pc = .greeting total stream) :
      Move controller { controller.register stream with
        pc := if controller.streamIndex + 1 < total then .connecting total else .polling }
  | announce (target : State) (pc : controller.pc = .announcing target) :
      Move controller { controller with
        announced := controller.announced ++ [target]
        pc := .storing target }
  | store (target : State) (pc : controller.pc = .storing target)
      (unlocked : controller.locked = false) :
      Move controller { controller with state := target, pc := .loopHead }
  | join (id index : Nat) (results : Results) (task : Task)
      (pc : controller.pc = .joining id index)
      (found : controller.tasks[index]? = some task) (ended : task.isFinished = true) :
      Move controller { controller with
        streamResults := results
        pc := afterTerminatedPc controller.perf.role controller.workers }
  | close (next : Controller) (closes : Closes controller next) : Move controller next
  | finish (next : Controller) (ends : Ends controller next) : Move controller next

/-- The outcomes of one step of the spawned task at `index`. -/
inductive TaskMove (controller : Controller) (index : Nat) :
    TaskEvent → Controller → Prop where
  | work (event : WorkerEvent) (task : Task) (worker : StreamWorker)
      (found : controller.tasks[index]? = some task) (phase : task.phase = .working)
      (moved : StreamWorker.Move event controller.publisher task.worker worker)
      (same : StreamWorker.SameIdentity task.worker worker) :
      TaskMove controller index (.work event) { controller with
        tasks :=
          controller.tasks.set index { task with worker, phase := phaseAfter worker } }
  | post (task : Task) (result : StreamStats)
      (mailbox : Queue ControllerMessage internalPortBuffer)
      (lost : List ControllerMessage)
      (found : controller.tasks[index]? = some task) (phase : task.phase = .working)
      (pc : task.worker.pc = .returned (.ok result))
      (posts : Posts controller (.streamTerminated task.worker.id) mailbox lost) :
      TaskMove controller index .post { controller with
        mailbox
        lost
        tasks := controller.tasks.set index { task with phase := .posted result } }
  | finish (task : Task) (result : StreamStats)
      (found : controller.tasks[index]? = some task) (phase : task.phase = .posted result) :
      TaskMove controller index .finish { controller with
        tasks := controller.tasks.set index { task with phase := .finished (.ok result) } }
  | panic (task : Task) (found : controller.tasks[index]? = some task)
      (phase : task.phase = .working) (listening : task.isListening = true) :
      TaskMove controller index .panic { controller with
        tasks := controller.tasks.set index { task with phase := .panicked } }

/-! ## Inversion of the controller's functions -/

@[simp]
theorem alive_of_pc_ended {controller : Controller} {ending : Ending}
    (pc : controller.pc = .ended ending) : controller.alive = false := by
  simp [alive, pc]

theorem alive_iff {controller : Controller} :
    controller.alive = true ↔ ∀ ending, controller.pc ≠ .ended ending := by
  unfold alive
  split
  · rename_i ending pc
    simp [pc]
  · rename_i running
    simpa using running

/-- Ending in the middle of a registration or of the handling of a message. -/
theorem ends_finish_with {controller : Controller} {tasks : List Task}
    {workers : AList fun _ : Nat => Nat} {received : List ControllerMessage}
    {mailbox : Queue ControllerMessage internalPortBuffer}
    (running : controller.alive = true) (settled : ∀ target, controller.pc ≠ .storing target)
    (ending : Ending)
    (registered : tasks = controller.tasks ∨
      ∃ stream, tasks = controller.tasks ++ [controller.newTask stream] ∧
        ((∃ total, controller.pc = .greeting total stream) ∨
          (controller.pc = .selecting ∧ controller.perf.role = .server ∧
            received = controller.received ++ [.createStream stream])))
    (taken : received = controller.received ∨
      ∃ message rest, controller.mailbox.items = message :: rest ∧
        received = controller.received ++ [message]) :
    Ends controller
      ({ controller with tasks, workers, received, mailbox }.finish ending) where
  alive := running
  settled := settled
  pc := ⟨ending, rfl⟩
  build := rfl
  perf := rfl
  state := rfl
  locked := rfl
  shutdown := rfl
  announced := rfl
  mailbox := rfl
  publisher := rfl
  workers := rfl
  tasks := registered
  received := taken
  lost := rfl

theorem ends_finish {controller : Controller} (running : controller.alive = true)
    (settled : ∀ target, controller.pc ≠ .storing target) (ending : Ending) :
    Ends controller (controller.finish ending) :=
  ends_finish_with running settled ending (.inl rfl) (.inl rfl)

/-- Registration succeeds, or it panics and the controller is gone. -/
theorem createAndRegisterStreamWorker_cases (controller : Controller) (stream : TcpStream) :
    (controller.statsSender = true ∧
      controller.createAndRegisterStreamWorker stream = controller.register stream) ∨
    (controller.createAndRegisterStreamWorker stream = controller.finish .panicked) ∨
    (controller.createAndRegisterStreamWorker stream =
      { controller with
        tasks := controller.tasks ++ [controller.newTask stream]
        workers :=
          controller.workers.insert controller.streamIndex.toNat controller.tasks.length
        }.finish .panicked) := by
  unfold createAndRegisterStreamWorker
  split
  · rename_i sender
    simp only [Build.addU16]
    split
    · rename_i next sum
      split at sum
      · simp at sum
      · cases sum
        exact .inl ⟨sender, rfl⟩
    · exact .inr (.inr rfl)
  · exact .inr (.inl rfl)

/-- A total that was computed is the sum in sixteen bits. -/
theorem totalNeededStreams_eq {controller : Controller} {total : UInt16}
    (needed : controller.totalNeededStreams = some total) :
    total.toNat = controller.perf.neededStreams := by
  unfold totalNeededStreams Build.addU16 at needed
  split at needed
  · cases needed
  · cases needed
    rfl

theorem register_alive (controller : Controller) (stream : TcpStream) :
    (controller.register stream).alive = controller.alive :=
  rfl

theorem finish_alive (controller : Controller) (ending : Ending) :
    (controller.finish ending).alive = false :=
  rfl

/-- A client stores a new state without announcing it. -/
theorem setStatePc_client {role : Role} (client : role = .client) (target : State) :
    setStatePc role target = .storing target := by
  rw [client, setStatePc]

/-- A client goes on after its last stream. -/
theorem afterTerminatedPc_client {role : Role} (client : role = .client)
    (workers : AList fun _ : Nat => Nat) : afterTerminatedPc role workers = .loopHead := by
  rw [client, afterTerminatedPc, if_neg]
  rintro ⟨-, ⟨⟩⟩

theorem afterTerminated_eq (controller : Controller) :
    controller.afterTerminated =
      { controller with
        pc := afterTerminatedPc controller.perf.role controller.workers } := by
  unfold afterTerminated afterTerminatedPc
  split
  · rename_i last
    simp only [setState, setStatePc, last.2]
  · rfl

theorem trySend_eq (controller : Controller) (message : ControllerMessage) :
    ∃ mailbox lost, Posts controller message mailbox lost ∧
      controller.trySend message = { controller with mailbox, lost } := by
  cases running : controller.alive with
  | false =>
      refine ⟨controller.mailbox, controller.lost, .gone running rfl rfl, ?_⟩
      simp [trySend, running]
  | true =>
      simp only [trySend, running, if_true]
      split
      · rename_i mailbox sent
        exact ⟨mailbox, controller.lost,
          .sent running (Queue.trySend_eq_some_iff.mp sent).2 rfl, rfl⟩
      · rename_i full
        exact ⟨controller.mailbox, controller.lost ++ [message],
          .full running (Queue.trySend_eq_none_iff.mp full) rfl rfl, rfl⟩

@[simp]
theorem trySend_pc (controller : Controller) (message : ControllerMessage) :
    (controller.trySend message).pc = controller.pc := by
  obtain ⟨mailbox, lost, -, result⟩ := trySend_eq controller message
  rw [result]

@[simp]
theorem trySend_perf (controller : Controller) (message : ControllerMessage) :
    (controller.trySend message).perf = controller.perf := by
  obtain ⟨mailbox, lost, -, result⟩ := trySend_eq controller message
  rw [result]

@[simp]
theorem trySend_state (controller : Controller) (message : ControllerMessage) :
    (controller.trySend message).state = controller.state := by
  obtain ⟨mailbox, lost, -, result⟩ := trySend_eq controller message
  rw [result]

@[simp]
theorem trySend_shutdown (controller : Controller) (message : ControllerMessage) :
    (controller.trySend message).shutdown = controller.shutdown := by
  obtain ⟨mailbox, lost, -, result⟩ := trySend_eq controller message
  rw [result]

@[simp]
theorem trySend_locked (controller : Controller) (message : ControllerMessage) :
    (controller.trySend message).locked = controller.locked := by
  obtain ⟨mailbox, lost, -, result⟩ := trySend_eq controller message
  rw [result]

private theorem move_of_act {controller : Controller} {state : State}
    (pc : controller.pc = .matched state) : Move controller (controller.act state) := by
  have running : controller.alive = true := by simp [alive, pc]
  have settled : ∀ target, controller.pc ≠ .storing target := by simp [pc]
  cases state with
  | start =>
      cases role : controller.perf.role with
      | server =>
          simp only [act, role, setState, setStatePc]
          exact .createStreams pc role
      | client =>
          simp only [act, role]
          exact .pass .start pc (by simp) (fun _ => role) (by simp) (by simp) (by simp)
  | createStreams cookie =>
      cases role : controller.perf.role with
      | server =>
          simp only [act, role]
          exact .pass (.createStreams cookie) pc (by simp) (by simp) (by simp) (by simp)
            (by simp [role])
      | client =>
          simp only [act, role, Controller.createStreams]
          cases needed : controller.totalNeededStreams with
          | none => exact .finish _ (ends_finish running settled _)
          | some total =>
              simp only [createStreamsLoop]
              split
              · rename_i more
                exact .connect _ total pc role needed more
              · rename_i enough
                exact .pass (.createStreams cookie) pc (by simp) (by simp) (by simp)
                  (by simp) (fun _ _ _ => ⟨total, needed, enough⟩)
  | running =>
      simp only [act]
      split
      · rename_i again
        exact .pass .running pc (fun _ => again) (by simp) (by simp) (by simp) (by simp)
      · rename_i transition
        split
        · rename_i listener
          exact .startLoad pc transition listener
        · exact .finish _ (ends_finish running settled _)
  | exchangeResults => exact .stop true pc
  | terminate => exact .stop false pc

private theorem move_of_poll {controller next : Controller}
    (step : controller.controllerStep .poll = some next) : Move controller next := by
  simp only [controllerStep] at step
  split at step
  · rename_i pc
    split at step
    · rename_i signal
      cases step
      obtain ⟨mailbox, lost, posts, result⟩ := trySend_eq controller .terminate
      rw [result]
      exact .pollSignal mailbox lost pc signal posts
    · cases step
      exact .poll pc
  · simp at step

/-- Registration on behalf of the mailbox: the stream is registered and the
count decides what comes next, or the controller panics. -/
private theorem acceptStream_cases {controller : Controller}
    (running : controller.alive = true) (stream : TcpStream) :
    (∃ total, controller.perf.role = .server ∧
      controller.totalNeededStreams = some total ∧
      controller.acceptStream stream = { controller.register stream with
        pc :=
          if (controller.register stream).workers.entries.length = total.toNat then
            .announcing .running
          else .loopHead }) ∨
    ∃ tasks workers,
      controller.acceptStream stream = { controller with tasks, workers }.finish .panicked ∧
      (tasks = controller.tasks ∨ (controller.perf.role = .server ∧
        tasks = controller.tasks ++ [controller.newTask stream])) := by
  cases role : controller.perf.role with
  | client =>
      simp only [acceptStream, role]
      exact .inr ⟨_, controller.workers, rfl, .inl rfl⟩
  | server =>
      cases needed : controller.totalNeededStreams with
      | none =>
          simp only [acceptStream, role, needed]
          exact .inr ⟨_, controller.workers, rfl, .inl rfl⟩
      | some total =>
          simp only [acceptStream, role, needed]
          rcases createAndRegisterStreamWorker_cases controller stream with
            ⟨-, result⟩ | result | result
          · have stays : (controller.register stream).alive = true := running
            refine .inl ⟨total, trivial, rfl, ?_⟩
            rw [result]
            simp only [stays, if_true]
            split
            · simp only [setState, setStatePc, register, role]
            · rfl
          · rw [result]
            simp only [finish_alive, Bool.false_eq_true, if_false]
            exact .inr ⟨_, controller.workers, rfl, .inl rfl⟩
          · rw [result]
            simp only [finish_alive, Bool.false_eq_true, if_false]
            exact .inr ⟨_, _, rfl, .inr ⟨trivial, rfl⟩⟩

private theorem move_of_recv {controller next : Controller}
    (step : controller.controllerStep .recv = some next) : Move controller next := by
  simp only [controllerStep] at step
  split at step
  · rename_i pc
    have running : controller.alive = true := by simp [alive, pc]
    split at step
    · rename_i message mailbox taken
      have head := Queue.recv_eq_some_iff.mp taken
      cases step
      cases message with
      | createStream stream =>
          simp only [processInternalMessage]
          rcases @acceptStream_cases (controller.dequeue (.createStream stream) mailbox)
              running stream with
            ⟨total, role, needed, result⟩ | ⟨tasks, workers, result, registered⟩
          · rw [result]
            exact .recvCreate stream mailbox total pc role head needed
          · rw [result]
            refine .finish _ (ends_finish_with running (by simp [pc]) _ ?_
              (.inr ⟨_, _, head, rfl⟩))
            exact registered.imp_right fun added =>
              ⟨stream, added.2, .inr ⟨pc, added.1, rfl⟩⟩
      | streamTerminated id =>
          simp only [processInternalMessage]
          cases found : controller.workers.lookup id with
          | some index =>
              simp only [dequeue, found]
              exact .recvTerminated id index mailbox pc head found
          | none =>
              simp only [dequeue, found, afterTerminated_eq]
              exact .recvStray id mailbox pc head found
      | terminate => exact .recvTerminate mailbox pc head
    · simp at step
  · simp at step

/-- Ending after a step past the main loop. -/
theorem Closes.finish {controller closing : Controller} (closes : Closes controller closing)
    (ending : Ending) : Ends controller (closing.finish ending) where
  alive := closes.alive
  settled := fun target pc => by
    have before := closes.before
    rw [pc] at before
    exact before
  pc := ⟨ending, rfl⟩
  build := closes.build
  perf := closes.perf
  state := closes.state
  locked := closes.locked
  shutdown := closes.shutdown
  announced := closes.announced
  mailbox := rfl
  publisher := congrArg Broadcast.close closes.publisher
  workers := rfl
  tasks := .inl closes.tasks
  received := .inl closes.received
  lost := closes.lost

/-- Past the main loop only the control point and the results change. -/
private theorem closes_of_closing {controller : Controller} (pc : Pc) (results : Results)
    (sent : List Results) (forwarded : List StreamStats) (before : controller.pc.Closing)
    (running : controller.alive = true) (after : pc.Closing)
    (stays : ∀ ending, pc ≠ .ended ending) :
    Closes controller { controller with
      pc, streamResults := results, resultsSent := sent, forwarded } where
  before := before
  after := after
  alive := running
  stays := alive_iff.mpr stays
  build := rfl
  perf := rfl
  state := rfl
  locked := rfl
  shutdown := rfl
  announced := rfl
  streamIndex := rfl
  mailbox := rfl
  publisher := rfl
  workers := fun _ _ found => found
  tasks := rfl
  received := rfl
  lost := rfl

private theorem move_of_forwardResults {controller closing : Controller}
    (closes : Closes controller closing) (remote : List StreamStats) :
    Move controller (closing.forwardResults remote) := by
  simp only [forwardResults]
  split
  · exact .close _ { closes with after := trivial, stays := rfl }
  · exact .finish _ (closes.finish _)

private theorem closes_of_erase {controller : Controller} (exchange : Bool)
    (pc : controller.pc = .collecting exchange) (id : Nat) (results : Results) :
    Closes controller { controller with
      workers := controller.workers.erase id, streamResults := results } := by
  have before : controller.pc.Closing := by rw [pc]; trivial
  have running : controller.alive = true := by simp [alive, pc]
  exact { closes_of_closing controller.pc results controller.resultsSent
      controller.forwarded before running before (alive_iff.mp running) with
    workers := by
      intro other index found
      by_cases same : other = id
      · subst same
        simp at found
      · rwa [AList.lookup_erase_ne same] at found }

private theorem move_of_collect {controller next : Controller} {exchange : Bool} {id : Nat}
    (pc : controller.pc = .collecting exchange)
    (step : controller.collectOne id = some next) : Move controller next := by
  simp only [collectOne] at step
  split at step
  · simp at step
  · split at step
    · cases step
      exact .close _ (closes_of_erase exchange pc id _)
    · cases step
      exact .close _ (closes_of_erase exchange pc id _)
    · cases step
      exact .close _ (closes_of_erase exchange pc id _)
    · simp at step

private theorem move_of_abandon {controller next : Controller} {exchange : Bool} {id : Nat}
    (pc : controller.pc = .collecting exchange)
    (step : controller.abandonOne id = some next) : Move controller next := by
  simp only [abandonOne] at step
  split at step
  · simp at step
  · split at step
    · simp at step
    · cases step
      exact .close _ (closes_of_erase exchange pc id _)

private theorem move_of_collected {controller : Controller} {exchange : Bool}
    (pc : controller.pc = .collecting exchange) :
    Move controller (controller.afterCollect exchange) := by
  have before : controller.pc.Closing := by rw [pc]; trivial
  have running : controller.alive = true := by simp [alive, pc]
  have closes : ∀ target : Pc, target.Closing → (∀ ending, target ≠ .ended ending) →
      Closes controller { controller with pc := target } := fun target after stays =>
    closes_of_closing target _ _ _ before running after stays
  cases exchange with
  | false =>
      exact move_of_forwardResults
        (closes controller.pc before (alive_iff.mp running)) []
  | true =>
      simp only [afterCollect, if_true]
      split
      · exact .close _ (closes _ trivial (by simp))
      · exact .close _ (closes _ trivial (by simp))

private theorem move_of_join {controller next : Controller} {id index : Nat}
    (pc : controller.pc = .joining id index)
    (step : controller.joinOne id index = some next) : Move controller next := by
  have running : controller.alive = true := by simp [alive, pc]
  have settled : ∀ target, controller.pc ≠ .storing target := by simp [pc]
  simp only [joinOne] at step
  cases found : controller.tasks[index]? with
  | none => simp [found] at step
  | some task =>
      simp only [found, Option.map_some] at step
      split at step
      · rename_i result ended
        cases step
        rw [afterTerminated_eq]
        refine .join id index _ task pc found ?_
        simp only [Option.some.injEq] at ended
        simp [Task.isFinished, ended]
      · rename_i error ended
        cases step
        rw [afterTerminated_eq]
        refine .join id index controller.streamResults task pc found ?_
        simp only [Option.some.injEq] at ended
        simp [Task.isFinished, ended]
      · cases step
        exact .finish _ (ends_finish running settled _)
      · simp at step

private theorem move_of_reply {controller next : Controller}
    {outcome : Except Error ServerMessage}
    (step : controller.controllerStep (.reply outcome) = some next) :
    Move controller next := by
  simp only [controllerStep] at step
  split at step
  · rename_i total stream message pc
    have running : controller.alive = true := by simp [alive, pc]
    have settled : ∀ target, controller.pc ≠ .storing target := by simp [pc]
    rcases createAndRegisterStreamWorker_cases controller stream with
      ⟨-, result⟩ | result | result
    · have stays : (controller.register stream).alive = true := running
      rw [result] at step
      simp only [stays, if_true, createStreamsLoop, Option.some.injEq] at step
      subst step
      have moved := Move.greeted total stream pc
      split
      · rename_i more
        have more' : controller.streamIndex + 1 < total := more
        rw [if_pos more'] at moved
        exact moved
      · rename_i last
        have last' : ¬ controller.streamIndex + 1 < total := last
        rw [if_neg last'] at moved
        exact moved
    · rw [result] at step
      simp only [finish_alive, Bool.false_eq_true, if_false, Option.some.injEq] at step
      subst step
      exact .finish _ (ends_finish running settled _)
    · rw [result] at step
      simp only [finish_alive, Bool.false_eq_true, if_false, Option.some.injEq] at step
      subst step
      exact .finish _ (ends_finish_with running settled _
        (.inr ⟨stream, rfl, .inl ⟨total, pc⟩⟩) (.inl rfl))
  · rename_i total stream error pc
    have running : controller.alive = true := by simp [alive, pc]
    have settled : ∀ target, controller.pc ≠ .storing target := by simp [pc]
    cases step
    exact .finish _ (ends_finish running settled _)
  · simp at step

private theorem move_of_clientRead {controller next : Controller}
    {outcome : Except Error ServerMessage}
    (step : controller.controllerStep (.clientRead outcome) = some next) :
    Move controller next := by
  simp only [controllerStep] at step
  split at step
  · rename_i role
    split at step
    · rename_i message pc
      cases step
      cases message with
      | setState target =>
          have moved := Move.serverSets target pc role
          simpa only [processServerMessage, setState, setStatePc, role] using moved
      | welcome | sendResults results => exact .serverSays pc role
    · rename_i results pc
      cases step
      have running : controller.alive = true := by simp [alive, pc]
      have before : controller.pc.Closing := by rw [pc]; trivial
      exact move_of_forwardResults (closes_of_closing controller.pc _ _ _ before running
        before (alive_iff.mp running)) _
    · rename_i message other pc
      cases step
      exact .finish _ (ends_finish (by simp [alive, pc]) (by simp [pc]) _)
    · rename_i error pc
      cases step
      exact .finish _ (ends_finish (by simp [alive, pc]) (by simp [pc]) _)
    · rename_i error pc
      cases step
      exact .finish _ (ends_finish (by simp [alive, pc]) (by simp [pc]) _)
    · simp at step
  · simp at step

private theorem move_of_serverRead {controller next : Controller}
    {outcome : Except Error ClientMessage}
    (step : controller.controllerStep (.serverRead outcome) = some next) :
    Move controller next := by
  simp only [controllerStep] at step
  split at step
  · split at step
    · rename_i results pc
      cases step
      have running : controller.alive = true := by simp [alive, pc]
      have before : controller.pc.Closing := by rw [pc]; trivial
      exact .close _ (closes_of_closing _ _ _ _ before running trivial (by simp))
    · rename_i message other pc
      cases step
      exact .finish _ (ends_finish (by simp [alive, pc]) (by simp [pc]) _)
    · rename_i error pc
      cases step
      exact .finish _ (ends_finish (by simp [alive, pc]) (by simp [pc]) _)
    · simp at step
  · simp at step

private theorem move_of_write {controller next : Controller} {delivered : Bool}
    (step : controller.controllerStep (.write delivered) = some next) :
    Move controller next := by
  simp only [controllerStep] at step
  split at step
  · rename_i target pc
    have running : controller.alive = true := by simp [alive, pc]
    have settled : ∀ target, controller.pc ≠ .storing target := by simp [pc]
    split at step
    · cases step
      exact .announce target pc
    · cases step
      exact .finish _ (ends_finish running settled _)
  · rename_i pc
    have running : controller.alive = true := by simp [alive, pc]
    have settled : ∀ target, controller.pc ≠ .storing target := by simp [pc]
    have before : controller.pc.Closing := by rw [pc]; trivial
    split at step
    · cases step
      exact .close _ (closes_of_closing _ _ _ _ before running trivial (by simp))
    · cases step
      exact .finish _ (ends_finish running settled _)
  · rename_i remote pc
    have running : controller.alive = true := by simp [alive, pc]
    have settled : ∀ target, controller.pc ≠ .storing target := by simp [pc]
    have before : controller.pc.Closing := by rw [pc]; trivial
    split at step
    · cases step
      exact move_of_forwardResults (closes_of_closing controller.pc _ _ _ before running
        before (alive_iff.mp running)) _
    · cases step
      exact .finish _ (ends_finish running settled _)
  · simp at step

private theorem move_of_forward {controller next : Controller} {index : Nat}
    {delivered : Bool} (step : controller.controllerStep (.forward index delivered) = some next) :
    Move controller next := by
  simp only [controllerStep] at step
  split at step
  · rename_i localStats remoteStats pc
    have running : controller.alive = true := by simp [alive, pc]
    have settled : ∀ target, controller.pc ≠ .storing target := by simp [pc]
    have before : controller.pc.Closing := by rw [pc]; trivial
    simp only [forwardOne] at step
    split at step
    · simp at step
    · split at step
      · cases step
        refine .close _ (closes_of_closing _ _ _ _ before running ?_ ?_)
        · cases localStats <;> trivial
        · cases localStats <;> simp
      · cases step
        exact .finish _ (ends_finish running settled _)
  · simp at step

/-- Every step of the controller is one of the listed moves. -/
theorem move_of_controllerStep {controller next : Controller} {event : ControllerEvent}
    (step : controller.controllerStep event = some next) : Move controller next := by
  cases event with
  | start =>
      simp only [controllerStep] at step
      split at step
      · rename_i enabled
        cases step
        exact .start enabled.1 enabled.2
      · simp at step
  | turn =>
      simp only [controllerStep] at step
      split at step
      · rename_i enabled
        cases step
        exact .turn enabled.1 enabled.2
      · simp at step
  | act =>
      simp only [controllerStep] at step
      split at step
      · rename_i state pc
        cases step
        exact move_of_act pc
      · simp at step
  | poll => exact move_of_poll step
  | recv => exact move_of_recv step
  | shutdown =>
      simp only [controllerStep] at step
      split at step
      · rename_i enabled
        cases step
        exact .shutdown enabled.1 enabled.2
      · simp at step
  | clientRead outcome => exact move_of_clientRead step
  | serverRead outcome => exact move_of_serverRead step
  | connect outcome =>
      simp only [controllerStep] at step
      split at step
      · rename_i total stream pc
        cases step
        exact .greet total stream pc
      · rename_i total error pc
        cases step
        exact .finish _ (ends_finish (by simp [alive, pc]) (by simp [pc]) _)
      · simp at step
  | reply outcome => exact move_of_reply step
  | write delivered => exact move_of_write step
  | store =>
      simp only [controllerStep] at step
      split at step
      · rename_i target pc
        split at step
        · simp at step
        · rename_i unlocked
          cases step
          exact .store target pc (by simpa using unlocked)
      · simp at step
  | join =>
      simp only [controllerStep] at step
      split at step
      · rename_i id index pc
        exact move_of_join pc step
      · simp at step
  | collect id =>
      simp only [controllerStep] at step
      split at step
      · rename_i exchange pc
        exact move_of_collect pc step
      · simp at step
  | abandon id =>
      simp only [controllerStep] at step
      split at step
      · rename_i exchange pc
        exact move_of_abandon pc step
      · simp at step
  | collected =>
      simp only [controllerStep] at step
      split at step
      · rename_i exchange pc
        split at step
        · cases step
          exact move_of_collected pc
        · simp at step
      · simp at step
  | forward index delivered => exact move_of_forward step
  | done =>
      simp only [controllerStep] at step
      split at step
      · rename_i pc
        cases step
        exact .finish _ (ends_finish (by simp [alive, pc]) (by simp [pc]) _)
      · simp at step

/-- Every step of a task is one of the listed moves. -/
theorem move_of_taskStep {controller next : Controller} {index : Nat} {event : TaskEvent}
    (step : controller.taskStep index event = some next) :
    TaskMove controller index event next := by
  simp only [taskStep] at step
  split at step
  · simp at step
  · rename_i task found
    split at step
    · rename_i workerEvent phase
      obtain ⟨worker, moved, result⟩ := Option.map_eq_some_iff.mp step
      obtain ⟨move, same⟩ := StreamWorker.move_of_step moved
      subst result
      exact .work workerEvent task worker found phase move same
    · rename_i phase
      split at step
      · rename_i result pc
        cases step
        obtain ⟨mailbox, lost, posts, posted⟩ :=
          trySend_eq controller (.streamTerminated task.worker.id)
        rw [posted]
        exact .post task result mailbox lost found phase pc posts
      · simp at step
    · rename_i result phase
      cases step
      exact .finish task result found phase
    · rename_i phase
      split at step
      · rename_i listening
        cases step
        exact .panic task found phase listening
      · simp at step
    · simp at step

end Controller

end Iperf
