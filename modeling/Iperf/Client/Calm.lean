import Iperf.Client.Streams
import Iperf.Controller.Exchange

/-!
# A client that nobody disturbs

No shutdown is signalled, no connection fails, and no worker ends before the
load.  Then nothing but `StreamTerminated` ever is in the mailbox, and a step of
the main loop keeps the client running.
-/

namespace Iperf

open Channel Transition

namespace Controller

variable {controller next : Controller}

theorem Move.quiet (move : Move controller next) (quiet : controller.shutdown = .quiet) :
    next.shutdown = .quiet := by
  cases move with
  | close next closes => exact closes.shutdown.trans quiet
  | finish next ends => exact ends.shutdown.trans quiet
  | pollSignal mailbox lost pc signalled posts =>
      rw [quiet] at signalled
      cases signalled
  | shutdown pc signalled => exact absurd quiet signalled
  | _ => exact quiet

/-- Who has posted has not failed. -/
theorem TaskMove.posted {index : Nat} {event : TaskEvent}
    (move : TaskMove controller index event next) {position : Nat} {task : Task}
    (found : controller.tasks[position]? = some task) (posted : task.hasPosted = true) :
    ∃ after, next.tasks[position]? = some after ∧ after.hasPosted = true := by
  rcases move.forward found with ⟨after, foundAfter, same | evolves⟩
  · exact ⟨after, foundAfter, same ▸ posted⟩
  · refine ⟨after, foundAfter, ?_⟩
    unfold Task.hasPosted at posted
    cases evolves with
    | work event worker working moved same => simp [working] at posted
    | post result working pc => simp [working] at posted
    | finish result waiting => rfl
    | panic working listening => simp [working] at posted

end Controller

namespace Client

open Controller

/-- No signal, no failing connection, and no worker that ends before the load. -/
def Orderly (client : Controller) : ClientEvent → Prop
  | .ctrlC => False
  | .controller (.connect (.error _)) => False
  | .controller (.reply (.error _)) => False
  | .controller (.clientRead (.error _)) => False
  | .controller _ => True
  | .task index event =>
      .startLoad ∈ client.publisher.sent ∨ client.pc.Closing ∨
        ∀ next, client.taskStep index event = some next →
          ∀ task ∈ next.tasks[index]?, task.isListening = true

variable {client next : Controller}

/-- Nothing waits in the mailbox but ended streams. -/
structure Calm (client : Controller) : Prop where
  quiet : client.shutdown = .quiet
  terminated : ∀ message ∈ client.mailbox.items, ∃ id, message = .streamTerminated id
  silent : ∀ target, client.pc ≠ .announcing target
  sender : ¬client.pc.Closing → client.statsSender = true
  joining : ∀ id index, client.pc = .joining id index →
    ∃ task, client.tasks[index]? = some task ∧ task.hasPosted = true

theorem new_calm (build : Build) (cookie : String) (params : Parameters) :
    Calm (new build cookie params) where
  quiet := rfl
  terminated := by
    rintro message ⟨⟩
  silent := by
    rintro target ⟨⟩
  sender := fun _ => rfl
  joining := by
    rintro id index ⟨⟩

/-- The handle of a stream that has terminated belongs to a task that has posted. -/
private theorem posted_of_head (opening : Opening client) {id index : Nat}
    (mail : .streamTerminated id ∈ client.mailbox.items)
    (kept : client.workers.lookup id = some index) :
    ∃ task, client.tasks[index]? = some task ∧ task.hasPosted = true := by
  have few : client.tasks.length < UInt16.size :=
    opening.bound.trans_lt client.perf.neededStreams_lt
  rcases opening.registered.author id (List.mem_append_right _ mail) with
    ⟨task, taskMem, own, posted⟩
  rcases List.mem_iff_getElem?.mp taskMem with ⟨position, found⟩
  have within := (List.getElem?_eq_some_iff.mp found).1
  rcases opening.registered.position id index kept with ⟨bound, same⟩
  have identity := (opening.registered.identity position task found).1
  rw [own, Nat.mod_eq_of_lt (within.trans few)] at identity
  rw [Nat.mod_eq_of_lt (bound.trans few)] at same
  rw [same, identity]
  exact ⟨task, found, posted⟩

theorem Calm.move (calm : Calm client) (opening : Opening client)
    (move : Controller.Move client next) : Calm next where
  quiet := move.quiet calm.quiet
  terminated := by
    cases move.mailbox with
    | same mailbox received lost =>
        rw [mailbox]
        exact calm.terminated
    | take message pc head received lost =>
        intro other otherMem
        apply calm.terminated
        rw [head]
        exact List.mem_cons_of_mem _ otherMem
    | post pc signalled taken posts received =>
        rw [calm.quiet] at signalled
        cases signalled
    | drop ended mailbox received lost =>
        rw [mailbox]
        rintro message ⟨⟩
  silent := move.silent opening.role
  sender := by
    intro after
    have before : ¬client.pc.Closing := fun closing => after (move.closing closing)
    exact (move.sender before after).trans (calm.sender before)
  joining := by
    intro id index pc
    cases move with
    | recvTerminated other position mailbox selecting head found =>
        cases pc
        exact posted_of_head opening (head ▸ List.mem_cons_self) found
    | recvStray other mailbox selecting head missing =>
        simp only [afterTerminatedPc] at pc
        split at pc <;> cases pc
    | join other position results task waiting found ended =>
        simp only [afterTerminatedPc] at pc
        split at pc <;> cases pc
    | recvCreate stream mailbox total selecting role head needed =>
        simp only at pc
        split at pc <;> cases pc
    | greeted total stream greeting =>
        simp only at pc
        split at pc <;> cases pc
    | recvTerminate mailbox selecting head =>
        rw [setStatePc_client opening.role] at pc
        cases pc
    | shutdown selecting signalled =>
        rw [setStatePc_client opening.role] at pc
        cases pc
    | close next closes =>
        have after := closes.after
        rw [pc] at after
        exact after.elim
    | finish next ends =>
        rcases ends.pc with ⟨ending, ended⟩
        rw [pc] at ended
        cases ended
    | _ => cases pc

theorem Calm.taskMove (calm : Calm client) {index : Nat} {event : TaskEvent}
    (move : TaskMove client index event next) : Calm next where
  quiet := move.frame.shutdown.trans calm.quiet
  terminated := by
    rcases move.mailbox with ⟨mailbox, -⟩ | ⟨task, result, -, -, -, -, -, posts⟩
    · rw [mailbox]
      exact calm.terminated
    · intro message messageMem
      cases posts with
      | sent alive items kept =>
          rw [items] at messageMem
          rcases List.mem_append.mp messageMem with old | new
          · exact calm.terminated message old
          · exact ⟨_, List.mem_singleton.mp new⟩
      | full alive full same logged =>
          rw [same] at messageMem
          exact calm.terminated message messageMem
      | gone gone same kept =>
          rw [same] at messageMem
          exact calm.terminated message messageMem
  silent := by
    rw [move.frame.pc]
    exact calm.silent
  sender := by
    rw [move.frame.pc, move.aside.sender]
    exact calm.sender
  joining := by
    intro id position pc
    rw [move.frame.pc] at pc
    rcases calm.joining id position pc with ⟨task, found, posted⟩
    exact move.posted found posted

/-- The state a step of the client is told to go to. -/
def hears (client : Controller) : ClientEvent → List State
  | .controller (.clientRead (.ok (.setState state))) =>
      if client.pc = .selecting then [state] else []
  | _ => []

/-- A client that nobody disturbs stores nothing but what it is told. -/
theorem Calm.hears_cases (calm : Calm client) (role : client.perf.role = .client)
    {event : ControllerEvent} (step : client.controllerStep event = some next) :
    (∃ target, client.pc = .selecting ∧ next = { client with pc := .storing target } ∧
      hears client (.controller event) = [target]) ∨
      (hears client (.controller event) = [] ∧ ∀ target, next.pc ≠ .storing target) := by
  by_cases told : ∃ target, client.pc = .selecting ∧
      event = .clientRead (.ok (.setState target))
  · left
    rcases told with ⟨target, pc, rfl⟩
    simp only [controllerStep, role, if_true, pc, Option.some.injEq] at step
    refine ⟨target, pc, ?_, if_pos pc⟩
    rw [← step]
    simp only [processServerMessage, setState, role, setStatePc]
  · right
    constructor
    · unfold hears
      split
      · rename_i target same
        cases same
        apply if_neg
        exact fun pc => told ⟨target, pc, rfl⟩
      · rfl
    · intro target storing
      apply told
      refine ⟨target, (move_of_controllerStep step).pc_of_storing role calm.silent storing, ?_⟩
      apply storing_of_step role calm.silent step storing
      rintro rfl
      constructor
      · exact calm.quiet
      · intro mail
        rcases calm.terminated _ mail with ⟨id, ended⟩
        cases ended

/-- One more stream can be registered. -/
private theorem Calm.registers (calm : Calm client) (opening : Opening client)
    {total : UInt16} {stream : TcpStream} (pc : client.pc = .greeting total stream) :
    client.createAndRegisterStreamWorker stream = client.register stream := by
  have running : client.alive = true := by simp [alive, pc]
  have looping : ¬client.pc.Closing := by
    rw [pc]
    exact not_false
  have more := (opening.opening total (by rw [pc]; rfl)).2
  have few : client.streamIndex.toNat + (1 : UInt16).toNat < UInt16.size := by
    rw [opening.counter running]
    exact Nat.lt_of_le_of_lt more client.perf.neededStreams_lt
  apply createAndRegisterStreamWorker_eq (calm.sender looping)
  exact (client.build.addU16_of_fits few).1

/-- Acting on the state of the test does not end it. -/
private theorem act_survives (role : client.perf.role = .client)
    (fits : client.perf.totalStreams < UInt16.size) {state : State}
    (loads : state = .running → client.oldState ≠ .running → client.hasListener = true) :
    (client.act state).alive = true := by
  cases state with
  | start =>
      simp only [act, role]
      rfl
  | createStreams cookie =>
      rcases client.build.addU16_of_fits fits with ⟨needed, -⟩
      simp only [act, role, createStreams, totalNeededStreams, needed, createStreamsLoop]
      split <;> rfl
  | running =>
      simp only [act]
      split
      · rfl
      · rename_i fresh
        rw [if_pos (loads rfl fresh)]
        rfl
  | exchangeResults => rfl
  | terminate => rfl

/-- Handling what is in the mailbox of a client does not end it. -/
private theorem Calm.recv_survives (calm : Calm client)
    (step : client.controllerStep .recv = some next) : next.alive = true := by
  simp only [controllerStep] at step
  split at step
  · split at step
    · rename_i message mailbox received
      cases step
      rcases calm.terminated message
        (Queue.recv_eq_some_iff.mp received ▸ List.mem_cons_self) with ⟨id, rfl⟩
      simp only [processInternalMessage]
      split
      · rfl
      · rw [afterTerminated_eq, alive_iff]
        exact afterTerminatedPc_running _ _
    · cases step
  · cases step

/-- Neither does what the server tells it. -/
private theorem clientRead_survives (role : client.perf.role = .client)
    (looping : ¬client.pc.Closing) {message : ServerMessage}
    (step : client.controllerStep (.clientRead (.ok message)) = some next) :
    next.alive = true := by
  simp only [controllerStep, role, if_true] at step
  split at step
  · rename_i message pc same
    cases step
    cases message with
    | setState state =>
        simp only [processServerMessage, setState, role, setStatePc]
        rfl
    | _ => rfl
  · rename_i pc same
    rw [pc] at looping
    exact absurd trivial looping
  · rename_i pc same
    rw [pc] at looping
    exact absurd trivial looping
  · cases step
    rename_i failed
    cases failed
  · rename_i failed
    cases failed
  · cases step

/-- A stream that is welcomed is registered, and the client goes on. -/
private theorem Calm.reply_survives (calm : Calm client) (opening : Opening client)
    {message : ServerMessage}
    (step : client.controllerStep (.reply (.ok message)) = some next) :
    next.alive = true := by
  simp only [controllerStep] at step
  split at step
  · rename_i total stream message pc same
    rw [calm.registers opening pc, register_alive] at step
    have running : client.alive = true := by simp [alive, pc]
    simp only [running, if_true, Option.some.injEq] at step
    rw [← step]
    simp only [createStreamsLoop]
    split <;> rfl
  · rename_i failed
    cases failed
  · cases step

/-- The stream whose handle is awaited has not failed. -/
private theorem Calm.join_survives (calm : Calm client)
    (step : client.controllerStep .join = some next) : next.alive = true := by
  simp only [controllerStep] at step
  split at step
  · rename_i id index pc
    rcases calm.joining id index pc with ⟨task, found, posted⟩
    unfold joinOne at step
    split at step
    · cases step
      rw [afterTerminated_eq, alive_iff]
      exact afterTerminatedPc_running _ _
    · cases step
      rw [afterTerminated_eq, alive_iff]
      exact afterTerminatedPc_running _ _
    · rename_i phase
      rw [found, Option.map_some, Option.some.injEq] at phase
      simp [Task.hasPosted, phase] at posted
    · cases step
  · cases step

/-- A step of the main loop keeps the client running. -/
theorem Calm.survives (calm : Calm client) (opening : Opening client)
    (fits : client.perf.totalStreams < UInt16.size)
    (loads : client.pc = .matched .running → client.oldState ≠ .running →
      client.hasListener = true)
    (looping : ¬client.pc.Closing) {event : ControllerEvent}
    (orderly : Orderly client (.controller event))
    (step : client.controllerStep event = some next) : next.alive = true := by
  have role := opening.role
  cases event with
  | start | turn =>
      simp only [controllerStep, Option.ite_none_right_eq_some, Option.some.injEq] at step
      rw [← step.2]
      rfl
  | act =>
      simp only [controllerStep] at step
      split at step
      · rename_i state pc
        cases step
        apply act_survives role fits
        rintro rfl
        exact loads pc
      · cases step
  | poll =>
      simp only [controllerStep, calm.quiet, Option.ite_none_right_eq_some,
        Option.some.injEq] at step
      rw [← step.2]
      rfl
  | recv => exact calm.recv_survives step
  | shutdown =>
      simp only [controllerStep, calm.quiet, ne_eq, not_true_eq_false, and_false, if_false,
        reduceCtorEq] at step
  | clientRead outcome =>
      cases outcome with
      | error error => exact orderly.elim
      | ok message => exact clientRead_survives role looping step
  | serverRead outcome => simp [controllerStep, role] at step
  | connect outcome =>
      cases outcome with
      | error error => exact orderly.elim
      | ok stream =>
          simp only [controllerStep] at step
          split at step
          · cases step
            rfl
          · rename_i failed
            cases failed
          · cases step
  | reply outcome =>
      cases outcome with
      | error error => exact orderly.elim
      | ok message => exact calm.reply_survives opening step
  | write delivered =>
      simp only [controllerStep] at step
      split at step
      · rename_i target pc
        exact absurd pc (calm.silent target)
      · rename_i pc
        rw [pc] at looping
        exact absurd trivial looping
      · rename_i pc
        rw [pc] at looping
        exact absurd trivial looping
      · cases step
  | store =>
      simp only [controllerStep] at step
      split at step
      · simp only [Option.ite_none_left_eq_some, Option.some.injEq] at step
        rw [← step.2]
        rfl
      · cases step
  | join => exact calm.join_survives step
  | collect id | abandon id | collected | forward index delivered =>
      simp only [controllerStep] at step
      split at step
      · rename_i pc
        rw [pc] at looping
        exact absurd trivial looping
      · cases step
  | done =>
      simp only [controllerStep] at step
      split at step
      · rename_i pc
        rw [pc] at looping
        exact absurd trivial looping
      · cases step

end Client

end Iperf
