import Iperf.Channel.Queue
import Iperf.Perf
import Iperf.StreamWorker.Core
import Iperf.Transition.Core

/-!
# The test controller

One state holds everything one side of a test consists of: the controller's
own fields, the objects it shares with other tasks (the test state behind its
lock, the mailbox, the broadcast channel), the spawned stream workers, and the
point of `runController` the controller has reached.  Both roles run the same
code, as in the source.

The control points are the awaits of the source; between two of them the
controller runs without interruption.  A send or receive on a shared object
takes place inside one step, so every interleaving of the tasks is a list of
events.  `received`, `lost` and `forwarded` record what happened and are never
read.
-/

namespace Iperf

open Channel

/-- A data connection, named by an identity of its own. -/
structure TcpStream where
  id : Nat
  deriving DecidableEq

inductive ControllerMessage where
  /-- Asks the controller to create a new stream using this socket. -/
  | createStream (stream : TcpStream)
  | streamTerminated (id : Nat)
  /-- Terminate the controller runner. -/
  | terminate
  deriving DecidableEq

/-- Progress of a spawned worker task around `runWorker`. -/
inductive TaskPhase where
  | working
  /-- `StreamTerminated` has been sent, the task is about to end. -/
  | posted (result : StreamStats)
  | finished (result : Except Error StreamStats)
  | panicked

structure Task where
  stream : TcpStream
  worker : StreamWorker
  phase : TaskPhase

/-- The task has ended: awaiting its handle does not wait. -/
def Task.isFinished (task : Task) : Bool :=
  match task.phase with
  | .finished _ => true
  | .panicked => true
  | _ => false

/-- The worker still owns its broadcast receiver. -/
def Task.isListening (task : Task) : Bool :=
  match task.phase, task.worker.pc with
  | .working, .returned _ => false
  | .working, _ => true
  | _, _ => false

/-- The shutdown receiver: nothing sent, one signal waiting, or the signal
taken and the sender gone. -/
inductive Shutdown where
  | quiet
  | signalled
  | taken
  deriving DecidableEq

inductive Ending where
  | returned (result : Except Error Unit)
  | panicked
  deriving DecidableEq

/-- Where `runController` stands. -/
inductive Pc where
  /-- About to read the first `oldState`. -/
  | starting
  | loopHead
  /-- Has read the test state and is about to act on it. -/
  | matched (state : State)
  /-- About to look at the shutdown receiver. -/
  | polling
  /-- In `select!`. -/
  | selecting
  /-- In `createStreams`, opening a data connection. -/
  | connecting (total : UInt16)
  /-- `Hello` is sent on the data connection, awaiting the answer. -/
  | greeting (total : UInt16) (stream : TcpStream)
  /-- In `setState`, writing the new state to the control socket. -/
  | announcing (target : State)
  /-- In `setState`, about to lock and store the new state. -/
  | storing (target : State)
  /-- Awaiting the handle of a terminated stream. -/
  | joining (id task : Nat)
  /-- In `collectStreamResults`. -/
  | collecting (exchange : Bool)
  | writingResults (remote : Option Results)
  | readingResults
  /-- Sending the results to the stats channel. -/
  | forwarding (localStats remoteStats : List StreamStats)
  | ended (ending : Ending)
  deriving DecidableEq

structure Controller where
  build : Build
  perf : Perf
  /-- The test state both the accept loop and the controller read. -/
  state : State
  /-- The accept loop holds the lock of the test state. -/
  locked : Bool
  statsSender : Bool
  shutdown : Shutdown
  /-- The states announced with `SetState` on the control socket. -/
  announced : List State
  resultsSent : List Results
  streamIndex : UInt16
  mailbox : Queue ControllerMessage internalPortBuffer
  publisher : Publisher
  /-- Join handles by stream id; a handle is the position of its task. -/
  workers : AList fun _ : Nat => Nat
  streamResults : Results
  tasks : List Task
  pc : Pc
  oldState : State
  received : List ControllerMessage
  /-- Messages that found the mailbox full. -/
  lost : List ControllerMessage
  forwarded : List StreamStats

namespace Controller

def new (build : Build) (perf : Perf) : Controller :=
  { build, perf
    state := .start
    locked := false
    statsSender := true
    shutdown := .quiet
    announced := []
    resultsSent := []
    streamIndex := 0
    mailbox := .empty
    publisher := .new
    workers := ∅
    streamResults := ∅
    tasks := []
    pc := .starting
    oldState := .start
    received := []
    lost := []
    forwarded := [] }

/-- The controller still runs, so its mailbox has a receiver and the test
state an owner. -/
def alive (controller : Controller) : Bool :=
  match controller.pc with
  | .ended _ => false
  | _ => true

/-- Some worker still listens to the broadcast channel. -/
def hasListener (controller : Controller) : Bool :=
  controller.tasks.any Task.isListening

/-- `runController` returns or panics; what it owned is dropped. -/
def finish (controller : Controller) (ending : Ending) : Controller :=
  { controller with
    pc := .ended ending
    statsSender := false
    mailbox := .empty
    publisher := controller.publisher.close
    workers := ∅ }

/-- A message has been taken from the mailbox. -/
def dequeue (controller : Controller) (message : ControllerMessage)
    (mailbox : Queue ControllerMessage internalPortBuffer) : Controller :=
  { controller with mailbox, received := controller.received ++ [message] }

/-- Put a message in the mailbox.  A full mailbox is only logged; without a
receiver the message vanishes. -/
def trySend (controller : Controller) (message : ControllerMessage) : Controller :=
  if controller.alive then
    match controller.mailbox.trySend message with
    | some mailbox => { controller with mailbox }
    | none => { controller with lost := controller.lost ++ [message] }
  else
    controller

/-- The first await of `setState`: only the server tells its peer. -/
def setStatePc (role : Role) (target : State) : Pc :=
  match role with
  | .server => .announcing target
  | .client => .storing target

def setState (controller : Controller) (target : State) : Controller :=
  { controller with pc := setStatePc controller.perf.role target }

/-- The end of the `match` on the test state. -/
def endOfMatch (controller : Controller) (state : State) : Controller :=
  { controller with oldState := state, pc := .polling }

def totalNeededStreams (controller : Controller) : Option UInt16 :=
  controller.build.addU16 controller.perf.numSendStreams controller.perf.numReceiveStreams

/-- Whether the next stream is a sending one on this side. -/
def nextIsSending (controller : Controller) : Bool :=
  let isSending := decide (controller.streamIndex < controller.perf.numSendStreams)
  if controller.perf.role = .server ∧ controller.perf.params.direction = .bidirectional then
    !isSending
  else
    isSending

/-- The task spawned for the next stream; its worker subscribes right away. -/
def newTask (controller : Controller) (stream : TcpStream) : Task :=
  { stream
    worker := StreamWorker.new controller.streamIndex.toNat controller.perf.params
      controller.nextIsSending controller.publisher.subscribe
    phase := .working }

/-- Spawn a worker for a data connection and keep its handle.  The stats
sender must be there, and the counter may overflow. -/
def createAndRegisterStreamWorker (controller : Controller) (stream : TcpStream) :
    Controller :=
  if controller.statsSender then
    let registered := { controller with
      tasks := controller.tasks ++ [controller.newTask stream]
      workers :=
        controller.workers.insert controller.streamIndex.toNat controller.tasks.length }
    match controller.build.addU16 controller.streamIndex 1 with
    | some streamIndex => { registered with streamIndex }
    | none => registered.finish .panicked
  else
    controller.finish .panicked

/-- The `while` of `createStreams`, up to its next await. -/
def createStreamsLoop (controller : Controller) (total : UInt16) : Controller :=
  if controller.streamIndex < total then
    { controller with pc := .connecting total }
  else
    { controller with pc := .polling }

/-- `oldState` is not read before the loop comes round, so it is set here. -/
def createStreams (controller : Controller) (state : State) : Controller :=
  match controller.totalNeededStreams with
  | none => controller.finish .panicked
  | some total => { controller with oldState := state }.createStreamsLoop total

/-- Executed only on the server. -/
def acceptStream (controller : Controller) (stream : TcpStream) : Controller :=
  match controller.perf.role with
  | .client => controller.finish .panicked
  | .server =>
      match controller.totalNeededStreams with
      | none => controller.finish .panicked
      | some total =>
          let registered := controller.createAndRegisterStreamWorker stream
          if registered.alive then
            if registered.workers.entries.length = total.toNat then
              registered.setState .running
            else
              { registered with pc := .loopHead }
          else
            registered

/-- After a stream's handle is gone: the last one moves the server on. -/
def afterTerminated (controller : Controller) : Controller :=
  if controller.workers.entries = [] ∧ controller.perf.role = .server then
    controller.setState .exchangeResults
  else
    { controller with pc := .loopHead }

/-- A handler when we receive a message from other components. -/
def processInternalMessage (controller : Controller) : ControllerMessage → Controller
  | .createStream stream => controller.acceptStream stream
  | .streamTerminated id =>
      match controller.workers.lookup id with
      | some task =>
          { controller with
            workers := controller.workers.erase id
            pc := .joining id task }
      | none => controller.afterTerminated
  | .terminate => controller.setState .terminate

def processServerMessage (controller : Controller) : ServerMessage → Controller
  | .setState state => controller.setState state
  | _ => { controller with pc := .loopHead }

/-- Ask the workers to terminate, best effort, and collect their results. -/
def stopWorkers (controller : Controller) (exchange : Bool) : Controller :=
  { controller with
    publisher :=
      if controller.hasListener then controller.publisher.send .terminate
      else controller.publisher
    pc := .collecting exchange }

/-- Act on the state that was read at the loop head. -/
def act (controller : Controller) : State → Controller
  | .start =>
      match controller.perf.role with
      | .server => controller.setState (.createStreams controller.perf.cookie)
      | .client => controller.endOfMatch .start
  | .createStreams cookie =>
      match controller.perf.role with
      | .server => controller.endOfMatch (.createStreams cookie)
      | .client => controller.createStreams (.createStreams cookie)
  | .running =>
      if controller.oldState = .running then
        controller.endOfMatch .running
      else if controller.hasListener then
        { controller with
          publisher := controller.publisher.send .startLoad }.endOfMatch .running
      else
        controller.finish (.returned (.error .publishWorkerMessageError))
  | .exchangeResults => controller.stopWorkers true
  | .terminate => controller.stopWorkers false

/-- All entries of a result map as the peer's. -/
def markPeer (results : Results) : List StreamStats :=
  results.entries.map fun entry => { entry.2 with isPeer := true }

/-- Hand the results to the stats channel, whose sender is taken. -/
def forwardResults (controller : Controller) (remote : List StreamStats) : Controller :=
  if controller.statsSender then
    { controller with
      statsSender := false
      pc := .forwarding (controller.streamResults.entries.map Sigma.snd) remote }
  else
    controller.finish (.returned (.ok ()))

end Controller

/-- The controller's own steps. -/
inductive ControllerEvent where
  /-- Reads the first `oldState`. -/
  | start
  /-- Locks and reads the test state. -/
  | turn
  | act
  /-- `shutdown.try_recv`. -/
  | poll
  /-- The mailbox wins the `select!`. -/
  | recv
  /-- The shutdown receiver wins the `select!`. -/
  | shutdown
  /-- A read of the client's control socket completes. -/
  | clientRead (outcome : Except Error ServerMessage)
  /-- A read of the server's control socket completes. -/
  | serverRead (outcome : Except Error ClientMessage)
  /-- A data connection is opened and `Hello` is written. -/
  | connect (outcome : Except Error TcpStream)
  /-- The answer to `Hello`. -/
  | reply (outcome : Except Error ServerMessage)
  /-- A write to the control socket ends. -/
  | write (delivered : Bool)
  /-- Locks and stores the new test state. -/
  | store
  | join
  /-- The handle of stream `id` completes within its five seconds. -/
  | collect (id : Nat)
  /-- The five seconds for stream `id` pass. -/
  | abandon (id : Nat)
  | collected
  /-- One of the results still to be forwarded is sent. -/
  | forward (index : Nat) (delivered : Bool)
  | done

/-- The steps of a spawned worker task. -/
inductive TaskEvent where
  | work (event : WorkerEvent)
  /-- `StreamTerminated` is sent. -/
  | post
  | finish
  | panic

/-- Everything that can happen to one side of a test. -/
inductive Event where
  | controller (event : ControllerEvent)
  | task (index : Nat) (event : TaskEvent)
  /-- The shutdown signal is sent. -/
  | ctrlC
  /-- Another task takes the lock of the test state. -/
  | acquire
  | release
  /-- Another task sends to the mailbox. -/
  | post (message : ControllerMessage)

namespace Controller

/-- `collectStreamResults` is done with one handle. -/
def collectOne (controller : Controller) (id : Nat) : Option Controller :=
  match controller.workers.lookup id with
  | none => none
  | some index =>
      match (controller.tasks[index]?).map Task.phase with
      | some (.finished (.ok result)) =>
          some { controller with
            workers := controller.workers.erase id
            streamResults := controller.streamResults.insert id result }
      | some (.finished (.error _)) =>
          some { controller with workers := controller.workers.erase id }
      | some .panicked => some { controller with workers := controller.workers.erase id }
      | _ => none

/-- The five seconds for one handle have passed. -/
def abandonOne (controller : Controller) (id : Nat) : Option Controller :=
  match controller.workers.lookup id with
  | none => none
  | some index =>
      if (controller.tasks[index]?).any Task.isFinished then none
      else some { controller with workers := controller.workers.erase id }

/-- What follows `collectStreamResults`. -/
def afterCollect (controller : Controller) (exchange : Bool) : Controller :=
  if exchange then
    match controller.perf.role with
    | .client => { controller with pc := .writingResults none }
    | .server => { controller with pc := .readingResults }
  else
    controller.forwardResults []

/-- The handle of a terminated stream completes. -/
def joinOne (controller : Controller) (id index : Nat) : Option Controller :=
  match (controller.tasks[index]?).map Task.phase with
  | some (.finished (.ok result)) =>
      some { controller with
        streamResults := controller.streamResults.insert id result }.afterTerminated
  | some (.finished (.error _)) => some controller.afterTerminated
  | some .panicked => some (controller.finish (.returned (.error .joinTaskError)))
  | _ => none

/-- Send one of the remaining results, the local ones first. -/
def forwardOne (controller : Controller) (localStats remoteStats : List StreamStats)
    (index : Nat) (delivered : Bool) : Option Controller :=
  let choice :=
    match localStats with
    | [] => remoteStats[index]?
    | _ => localStats[index]?
  match choice with
  | none => none
  | some stats =>
      if delivered then
        some { controller with
          forwarded := controller.forwarded ++ [stats]
          pc :=
            match localStats with
            | [] => .forwarding [] (remoteStats.eraseIdx index)
            | _ => .forwarding (localStats.eraseIdx index) remoteStats }
      else
        some (controller.finish (.returned (.error .sendStreamStatsError)))

/-- One step of `runController`. -/
def controllerStep (controller : Controller) : ControllerEvent → Option Controller
  | .start =>
      if controller.pc = .starting ∧ controller.locked = false then
        some { controller with oldState := controller.state, pc := .loopHead }
      else none
  | .turn =>
      if controller.pc = .loopHead ∧ controller.locked = false then
        some { controller with pc := .matched controller.state }
      else none
  | .act =>
      match controller.pc with
      | .matched state => some (controller.act state)
      | _ => none
  | .poll =>
      if controller.pc = .polling then
        match controller.shutdown with
        | .signalled =>
            some { controller.trySend .terminate with shutdown := .taken, pc := .selecting }
        | _ => some { controller with pc := .selecting }
      else none
  | .recv =>
      if controller.pc = .selecting then
        match controller.mailbox.recv with
        | some (message, mailbox) =>
            some ((controller.dequeue message mailbox).processInternalMessage message)
        | none => none
      else none
  | .shutdown =>
      if controller.pc = .selecting ∧ controller.shutdown ≠ .quiet then
        some ({ controller with shutdown := .taken }.setState .terminate)
      else none
  | .clientRead outcome =>
      if controller.perf.role = .client then
        match controller.pc, outcome with
        | .selecting, .ok message => some (controller.processServerMessage message)
        | .readingResults, .ok (.sendResults results) =>
            some (controller.forwardResults (markPeer results))
        | .readingResults, .ok message =>
            some (controller.finish (.returned (.error (.unexpectedServerMessage message))))
        | .selecting, .error error | .readingResults, .error error =>
            some (controller.finish (.returned (.error error)))
        | _, _ => none
      else none
  | .serverRead outcome =>
      if controller.perf.role = .server then
        match controller.pc, outcome with
        | .readingResults, .ok (.sendResults results) =>
            some { controller with pc := .writingResults (some results) }
        | .readingResults, .ok message =>
            some (controller.finish (.returned (.error (.unexpectedClientMessage message))))
        | .readingResults, .error error =>
            some (controller.finish (.returned (.error error)))
        | _, _ => none
      else none
  | .connect outcome =>
      match controller.pc, outcome with
      | .connecting total, .ok stream => some { controller with pc := .greeting total stream }
      | .connecting _, .error error =>
          some (controller.finish (.returned (.error error)))
      | _, _ => none
  | .reply outcome =>
      match controller.pc, outcome with
      | .greeting total stream, .ok _ =>
          let registered := controller.createAndRegisterStreamWorker stream
          if registered.alive then some (registered.createStreamsLoop total)
          else some registered
      | .greeting _ _, .error error =>
          some (controller.finish (.returned (.error error)))
      | _, _ => none
  | .write delivered =>
      match controller.pc with
      | .announcing target =>
          if delivered then
            some { controller with
              announced := controller.announced ++ [target]
              pc := .storing target }
          else
            some (controller.finish (.returned (.error (.serverWriteError .ioError))))
      | .writingResults none =>
          if delivered then
            some { controller with
              resultsSent := controller.resultsSent ++ [controller.streamResults]
              pc := .readingResults }
          else
            some (controller.finish (.returned (.error (.clientWriteError .ioError))))
      | .writingResults (some remote) =>
          if delivered then
            some ({ controller with
              resultsSent := controller.resultsSent ++ [controller.streamResults]
              }.forwardResults (markPeer remote))
          else
            some (controller.finish (.returned (.error (.serverWriteError .ioError))))
      | _ => none
  | .store =>
      match controller.pc with
      | .storing target =>
          if controller.locked then none
          else some { controller with state := target, pc := .loopHead }
      | _ => none
  | .join =>
      match controller.pc with
      | .joining id index => controller.joinOne id index
      | _ => none
  | .collect id =>
      match controller.pc with
      | .collecting _ => controller.collectOne id
      | _ => none
  | .abandon id =>
      match controller.pc with
      | .collecting _ => controller.abandonOne id
      | _ => none
  | .collected =>
      match controller.pc with
      | .collecting exchange =>
          if controller.workers.entries = [] then some (controller.afterCollect exchange)
          else none
      | _ => none
  | .forward index delivered =>
      match controller.pc with
      | .forwarding localStats remoteStats =>
          controller.forwardOne localStats remoteStats index delivered
      | _ => none
  | .done =>
      match controller.pc with
      | .forwarding [] [] => some (controller.finish (.returned (.ok ())))
      | _ => none

/-- The task ends with the error its worker returned. -/
def phaseAfter (worker : StreamWorker) : TaskPhase :=
  match worker.pc with
  | .returned (.error error) => .finished (.error error)
  | _ => .working

/-- One step of a spawned task. -/
def taskStep (controller : Controller) (index : Nat) (event : TaskEvent) :
    Option Controller :=
  match controller.tasks[index]? with
  | none => none
  | some task =>
      match event, task.phase with
      | .work event, .working =>
          (task.worker.step controller.build controller.publisher event).map fun worker =>
            { controller with
              tasks :=
                controller.tasks.set index { task with worker, phase := phaseAfter worker } }
      | .post, .working =>
          match task.worker.pc with
          | .returned (.ok result) =>
              let posted := controller.trySend (.streamTerminated task.worker.id)
              some { posted with
                tasks := controller.tasks.set index { task with phase := .posted result } }
          | _ => none
      | .finish, .posted result =>
          some { controller with
            tasks := controller.tasks.set index { task with phase := .finished (.ok result) } }
      | .panic, .working =>
          if task.isListening then
            some { controller with
              tasks := controller.tasks.set index { task with phase := .panicked } }
          else none
      | _, _ => none

/-- One step of one side of a test. -/
def step (controller : Controller) : Event → Option Controller
  | .controller event => controller.controllerStep event
  | .task index event => controller.taskStep index event
  | .ctrlC =>
      if controller.shutdown = .quiet then some { controller with shutdown := .signalled }
      else none
  | .acquire =>
      if controller.locked then none else some { controller with locked := true }
  | .release =>
      if controller.locked then some { controller with locked := false } else none
  | .post message => some (controller.trySend message)

end Controller

end Iperf
