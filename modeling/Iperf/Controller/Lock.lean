import Iperf.Controller.Core

/-!
# Steps do not need the lock to be held

The controller looks at the lock of the test state only to take it, so every
step it can take while another task holds the lock it can also take when nobody
does, with the same result.
-/

namespace Iperf

open Channel

namespace Controller

/-- The same test with nobody holding the lock. -/
def unlocked (controller : Controller) : Controller :=
  { controller with locked := false }

@[simp]
theorem unlocked_pc (controller : Controller) : controller.unlocked.pc = controller.pc :=
  rfl

@[simp]
theorem unlocked_perf (controller : Controller) :
    controller.unlocked.perf = controller.perf :=
  rfl

@[simp]
theorem unlocked_locked (controller : Controller) : controller.unlocked.locked = false :=
  rfl

@[simp]
theorem unlocked_shutdown (controller : Controller) :
    controller.unlocked.shutdown = controller.shutdown :=
  rfl

@[simp]
theorem unlocked_mailbox (controller : Controller) :
    controller.unlocked.mailbox = controller.mailbox :=
  rfl

@[simp]
theorem unlocked_tasks (controller : Controller) :
    controller.unlocked.tasks = controller.tasks :=
  rfl

@[simp]
theorem unlocked_workers (controller : Controller) :
    controller.unlocked.workers = controller.workers :=
  rfl

@[simp]
theorem unlocked_alive (controller : Controller) :
    controller.unlocked.alive = controller.alive :=
  rfl

theorem unlocked_of_free {controller : Controller} (free : controller.locked = false) :
    controller.unlocked = controller := by
  rw [unlocked, ← free]

@[simp]
theorem finish_unlocked (controller : Controller) (ending : Ending) :
    controller.unlocked.finish ending = (controller.finish ending).unlocked :=
  rfl

@[simp]
theorem setState_unlocked (controller : Controller) (target : State) :
    controller.unlocked.setState target = (controller.setState target).unlocked :=
  rfl

@[simp]
theorem trySend_unlocked (controller : Controller) (message : ControllerMessage) :
    controller.unlocked.trySend message = (controller.trySend message).unlocked := by
  cases running : controller.alive with
  | false => simp only [trySend, unlocked_alive, running, Bool.false_eq_true, if_false]
  | true =>
      simp only [trySend, unlocked_alive, unlocked_mailbox, running, if_true]
      cases controller.mailbox.trySend message <;> rfl

@[simp]
theorem createAndRegisterStreamWorker_unlocked (controller : Controller)
    (stream : TcpStream) :
    controller.unlocked.createAndRegisterStreamWorker stream =
      (controller.createAndRegisterStreamWorker stream).unlocked := by
  cases sender : controller.statsSender with
  | false =>
      have sender' : controller.unlocked.statsSender = false := sender
      simp only [createAndRegisterStreamWorker, sender, sender', Bool.false_eq_true, if_false,
        finish_unlocked]
  | true =>
      have sender' : controller.unlocked.statsSender = true := sender
      have counter : controller.unlocked.build.addU16 controller.unlocked.streamIndex 1 =
          controller.build.addU16 controller.streamIndex 1 := rfl
      simp only [createAndRegisterStreamWorker, sender, sender', counter, if_true]
      cases controller.build.addU16 controller.streamIndex 1 <;> rfl

@[simp]
theorem createStreamsLoop_unlocked (controller : Controller) (total : UInt16) :
    controller.unlocked.createStreamsLoop total =
      (controller.createStreamsLoop total).unlocked := by
  by_cases more : controller.streamIndex < total
  · have more' : controller.unlocked.streamIndex < total := more
    simp only [createStreamsLoop, more, more', if_true]
    rfl
  · have more' : ¬ controller.unlocked.streamIndex < total := more
    simp only [createStreamsLoop, more, more', if_false]
    rfl

theorem totalNeededStreams_unlocked (controller : Controller) :
    controller.unlocked.totalNeededStreams = controller.totalNeededStreams :=
  rfl

@[simp]
theorem createStreams_unlocked (controller : Controller) (state : State) :
    controller.unlocked.createStreams state = (controller.createStreams state).unlocked := by
  simp only [createStreams, totalNeededStreams_unlocked]
  cases controller.totalNeededStreams with
  | none => rfl
  | some total =>
      exact createStreamsLoop_unlocked { controller with oldState := state } total

@[simp]
theorem acceptStream_unlocked (controller : Controller) (stream : TcpStream) :
    controller.unlocked.acceptStream stream = (controller.acceptStream stream).unlocked := by
  simp only [acceptStream, totalNeededStreams_unlocked, unlocked_perf]
  cases controller.perf.role with
  | client => rfl
  | server =>
      cases controller.totalNeededStreams with
      | none => rfl
      | some total =>
          simp only [createAndRegisterStreamWorker_unlocked, unlocked_alive,
            unlocked_workers]
          split
          · split <;> rfl
          · rfl

@[simp]
theorem afterTerminated_unlocked (controller : Controller) :
    controller.unlocked.afterTerminated = controller.afterTerminated.unlocked := by
  by_cases last : controller.workers.entries = [] ∧ controller.perf.role = .server
  · simp only [afterTerminated, unlocked_workers, unlocked_perf, last, and_self, if_true,
      setState_unlocked]
  · simp only [afterTerminated, unlocked_workers, unlocked_perf, last, if_false]
    rfl

@[simp]
theorem processInternalMessage_unlocked (controller : Controller)
    (message : ControllerMessage) :
    controller.unlocked.processInternalMessage message =
      (controller.processInternalMessage message).unlocked := by
  cases message with
  | createStream stream => exact acceptStream_unlocked controller stream
  | streamTerminated id =>
      simp only [processInternalMessage, unlocked_workers]
      cases controller.workers.lookup id with
      | none => exact afterTerminated_unlocked controller
      | some task => rfl
  | terminate => rfl

@[simp]
theorem processServerMessage_unlocked (controller : Controller) (message : ServerMessage) :
    controller.unlocked.processServerMessage message =
      (controller.processServerMessage message).unlocked := by
  cases message <;> rfl

@[simp]
theorem act_unlocked (controller : Controller) (state : State) :
    controller.unlocked.act state = (controller.act state).unlocked := by
  cases state with
  | start =>
      simp only [act, unlocked_perf]
      cases controller.perf.role <;> rfl
  | createStreams cookie =>
      simp only [act, unlocked_perf, createStreams_unlocked]
      cases controller.perf.role <;> rfl
  | running =>
      simp only [act]
      change (if controller.oldState = .running then _ else
        if controller.hasListener then _ else _) = _
      split
      · rfl
      · split <;> rfl
  | exchangeResults => rfl
  | terminate => rfl

@[simp]
theorem forwardResults_unlocked (controller : Controller) (remote : List StreamStats) :
    controller.unlocked.forwardResults remote =
      (controller.forwardResults remote).unlocked := by
  simp only [forwardResults]
  change (if controller.statsSender then _ else _) = _
  split <;> rfl

@[simp]
theorem afterCollect_unlocked (controller : Controller) (exchange : Bool) :
    controller.unlocked.afterCollect exchange =
      (controller.afterCollect exchange).unlocked := by
  cases exchange with
  | false => exact forwardResults_unlocked controller []
  | true =>
      simp only [afterCollect, unlocked_perf, if_true]
      cases controller.perf.role <;> rfl

/-! ## Partial steps -/

variable {controller next : Controller}

theorem collectOne_unlocked {id : Nat} (step : controller.collectOne id = some next) :
    controller.unlocked.collectOne id = some next.unlocked := by
  simp only [collectOne, unlocked_workers, unlocked_tasks] at step ⊢
  split at step
  · simp at step
  · split at step
    · cases step
      rfl
    · cases step
      rfl
    · cases step
      rfl
    · simp at step

theorem abandonOne_unlocked {id : Nat} (step : controller.abandonOne id = some next) :
    controller.unlocked.abandonOne id = some next.unlocked := by
  simp only [abandonOne, unlocked_workers, unlocked_tasks] at step ⊢
  split at step
  · simp at step
  · split at step
    · simp at step
    · rename_i waiting
      cases step
      simp only [waiting, Bool.false_eq_true, if_false]
      rfl

theorem joinOne_unlocked {id index : Nat} (step : controller.joinOne id index = some next) :
    controller.unlocked.joinOne id index = some next.unlocked := by
  simp only [joinOne, unlocked_tasks] at step ⊢
  split at step
  · rename_i result ended
    cases step
    exact congrArg some (afterTerminated_unlocked
      { controller with streamResults := controller.streamResults.insert id result })
  · cases step
    exact congrArg some (afterTerminated_unlocked controller)
  · cases step
    rfl
  · simp at step

theorem forwardOne_unlocked {localStats remoteStats : List StreamStats} {index : Nat}
    {delivered : Bool}
    (step : controller.forwardOne localStats remoteStats index delivered = some next) :
    controller.unlocked.forwardOne localStats remoteStats index delivered =
      some next.unlocked := by
  simp only [forwardOne] at step ⊢
  split at step
  · simp at step
  · cases delivered with
    | true =>
        cases step
        rfl
    | false =>
        cases step
        rfl

/-- A step of the controller does not need the lock to be held. -/
theorem controllerStep_unlocked {event : ControllerEvent}
    (step : controller.controllerStep event = some next) :
    controller.unlocked.controllerStep event = some next.unlocked := by
  cases event with
  | start =>
      simp only [controllerStep] at step ⊢
      split at step
      · rename_i enabled
        cases step
        simp only [unlocked_pc, unlocked_locked, enabled.1, and_self, if_true]
        rfl
      · simp at step
  | turn =>
      simp only [controllerStep] at step ⊢
      split at step
      · rename_i enabled
        cases step
        simp only [unlocked_pc, unlocked_locked, enabled.1, and_self, if_true]
        rfl
      · simp at step
  | act =>
      simp only [controllerStep, unlocked_pc] at step ⊢
      split at step
      · cases step
        simp only [act_unlocked]
      · simp at step
  | poll =>
      simp only [controllerStep, unlocked_pc, unlocked_shutdown] at step ⊢
      split at step
      · rename_i pc
        simp only [pc, if_true]
        split at step
        · cases step
          simp only [trySend_unlocked]
          rfl
        · cases step
          rfl
      · simp at step
  | recv =>
      simp only [controllerStep, unlocked_pc, unlocked_mailbox] at step ⊢
      split at step
      · rename_i pc
        simp only [pc, if_true]
        split at step
        · rename_i message mailbox received
          cases step
          exact congrArg some
            (processInternalMessage_unlocked (controller.dequeue message mailbox) message)
        · simp at step
      · simp at step
  | shutdown =>
      simp only [controllerStep, unlocked_pc, unlocked_shutdown] at step ⊢
      split at step
      · rename_i enabled
        cases step
        simp only [enabled, ne_eq, not_false_eq_true, and_self, if_true]
        rfl
      · simp at step
  | clientRead outcome =>
      simp only [controllerStep, unlocked_pc, unlocked_perf] at step ⊢
      split at step
      · rename_i role
        simp only [role, if_true]
        split at step
        · cases step
          simp only [processServerMessage_unlocked]
        · cases step
          simp only [forwardResults_unlocked]
        · cases step
          rfl
        · cases step
          rfl
        · cases step
          rfl
        · simp at step
      · simp at step
  | serverRead outcome =>
      simp only [controllerStep, unlocked_pc, unlocked_perf] at step ⊢
      split at step
      · rename_i role
        simp only [role, if_true]
        split at step
        · cases step
          rfl
        · cases step
          rfl
        · cases step
          rfl
        · simp at step
      · simp at step
  | connect outcome =>
      simp only [controllerStep, unlocked_pc] at step ⊢
      split at step
      · cases step
        rfl
      · cases step
        rfl
      · simp at step
  | reply outcome =>
      simp only [controllerStep, unlocked_pc, createAndRegisterStreamWorker_unlocked,
        unlocked_alive] at step ⊢
      split at step
      · split at step
        · rename_i running
          cases step
          simp only [running, if_true, createStreamsLoop_unlocked]
        · rename_i gone
          cases step
          rw [if_neg gone]
      · cases step
        rfl
      · simp at step
  | write delivered =>
      simp only [controllerStep, unlocked_pc] at step ⊢
      split at step
      · cases delivered <;> (cases step; rfl)
      · cases delivered <;> (cases step; rfl)
      · cases delivered with
        | true =>
            cases step
            exact congrArg some (forwardResults_unlocked { controller with
              resultsSent := controller.resultsSent ++ [controller.streamResults] } _)
        | false =>
            cases step
            rfl
      · simp at step
  | store =>
      simp only [controllerStep, unlocked_pc, unlocked_locked] at step ⊢
      split at step
      · split at step
        · simp at step
        · cases step
          rfl
      · simp at step
  | join =>
      simp only [controllerStep, unlocked_pc] at step ⊢
      split at step
      · exact joinOne_unlocked step
      · simp at step
  | collect id =>
      simp only [controllerStep, unlocked_pc] at step ⊢
      split at step
      · exact collectOne_unlocked step
      · simp at step
  | abandon id =>
      simp only [controllerStep, unlocked_pc] at step ⊢
      split at step
      · exact abandonOne_unlocked step
      · simp at step
  | collected =>
      simp only [controllerStep, unlocked_pc, unlocked_workers] at step ⊢
      split at step
      · split at step
        · rename_i drained
          cases step
          simp only [drained, if_true, afterCollect_unlocked]
        · simp at step
      · simp at step
  | forward index delivered =>
      simp only [controllerStep, unlocked_pc] at step ⊢
      split at step
      · exact forwardOne_unlocked step
      · simp at step
  | done =>
      simp only [controllerStep, unlocked_pc] at step ⊢
      split at step
      · cases step
        rfl
      · simp at step

/-- A step of a worker task does not look at the lock at all. -/
theorem taskStep_unlocked {index : Nat} {event : TaskEvent}
    (step : controller.taskStep index event = some next) :
    controller.unlocked.taskStep index event = some next.unlocked := by
  simp only [taskStep, unlocked_tasks] at step ⊢
  split at step
  · simp at step
  · split at step
    · rename_i task found workerEvent phase
      obtain ⟨worker, moved, result⟩ := Option.map_eq_some_iff.mp step
      subst result
      exact Option.map_eq_some_iff.mpr ⟨worker, moved, rfl⟩
    · split at step
      · cases step
        simp only [trySend_unlocked]
        rfl
      · simp at step
    · cases step
      rfl
    · split at step
      · rename_i listening
        cases step
        rw [if_pos listening]
        rfl
      · simp at step
    · simp at step

end Controller

end Iperf
