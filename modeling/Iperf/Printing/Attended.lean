import Iperf.Controller.Signals
import Iperf.Printing.Results

/-!
# The printing loop and its senders

The printing loop ends only when every sender is gone, and nobody gets a sender later.
So no send ever fails, and a sender that finds the channel full waits for one line at
most to be printed.
-/

namespace Iperf

open Channel Transition

namespace Controller

variable {controller next : Controller}

/-- A task that listens after a step has listened before it. -/
theorem isListening_of_takes {build : Build} {publisher : Publisher} {task changed : Task}
    {event : TaskEvent} (takes : task.Takes build publisher event changed)
    (listening : changed.isListening = true) : task.isListening = true := by
  cases takes with
  | work event worker phase step =>
      apply Task.isListening_of_working phase
      intro result returned
      rw [StreamWorker.step_of_returned returned] at step
      cases step
  | post result phase pc => cases listening
  | finish result phase => cases listening
  | panic phase unmoved => exact unmoved

/-- No worker begins to listen by itself. -/
theorem hasListener_of_taskStep {index : Nat} {event : TaskEvent}
    (step : controller.taskStep index event = some next) (listener : next.hasListener = true) :
    controller.hasListener = true := by
  rcases takes_of_taskStep step with ⟨task, changed, found, tasks, takes⟩
  rcases List.any_eq_true.mp listener with ⟨other, otherMem, listening⟩
  apply List.any_eq_true.mpr
  rw [tasks] at otherMem
  rcases List.mem_or_eq_of_mem_set otherMem with before | same
  · exact ⟨other, before, listening⟩
  · rw [same] at listening
    exact ⟨task, List.mem_of_getElem? found, isListening_of_takes takes listening⟩

theorem Handed.event (handed : controller.Handed) {event : Event}
    (step : controller.step event = some next) : next.Handed := by
  cases event with
  | controller event => exact (handed.step step).1
  | task index event => exact handed.aside (move_of_taskStep step).aside
  | ctrlC | acquire | release =>
      simp only [Controller.step] at step
      split at step <;> cases step
      exact handed.aside (aside_of_fields _ _ _ _ _)
  | post message =>
      simp only [Controller.step] at step
      cases step
      rcases trySend_eq controller message with ⟨mailbox, lost, -, result⟩
      rw [result]
      exact handed.aside (aside_of_fields _ _ _ _ _)

/-- The test and its workers have let go of the stats channel. -/
structure Silent (controller : Controller) : Prop where
  ended : controller.alive = false
  sender : controller.hasStatsSender = false

theorem hasStatsSender_eq_false : controller.hasStatsSender = false ↔
    controller.statsSender = false ∧ controller.isForwarding = false ∧
      controller.hasListener = false := by
  simp [hasStatsSender, and_assoc]

/-- A test that nobody can print for has ended. -/
theorem Handed.silent (handed : controller.Handed) (gone : controller.hasStatsSender = false) :
    controller.Silent where
  ended := by
    rcases hasStatsSender_eq_false.mp gone with ⟨sender, forwarding, -⟩
    apply eq_false_of_ne_true
    intro running
    have early := handed.early (by
      intro localStats remoteStats pc
      rw [isForwarding, pc] at forwarding
      cases forwarding) running
    rw [early.2] at sender
    cases sender
  sender := gone

/-- It stays so, whatever happens. -/
theorem Silent.step (silent : controller.Silent) {event : Event}
    (step : controller.step event = some next) : next.Silent := by
  have gone := hasStatsSender_eq_false.mp silent.sender
  cases event with
  | controller event =>
      have alive := (move_of_controllerStep step).alive
      rw [silent.ended] at alive
      cases alive
  | task index event =>
      have frame := (move_of_taskStep step).frame
      constructor
      · rw [alive, frame.pc]
        exact silent.ended
      · rw [hasStatsSender_eq_false, frame.statsSender, isForwarding, frame.pc]
        refine ⟨gone.1, gone.2.1, ?_⟩
        apply eq_false_of_ne_true
        intro listener
        rw [hasListener_of_taskStep step listener] at gone
        cases gone.2.2
  | ctrlC | acquire | release =>
      simp only [Controller.step] at step
      split at step <;> cases step
      exact ⟨silent.ended, silent.sender⟩
  | post message =>
      simp only [Controller.step] at step
      cases step
      rcases trySend_eq controller message with ⟨mailbox, lost, -, result⟩
      rw [result]
      exact ⟨silent.ended, silent.sender⟩

end Controller

namespace Printout

variable {build : Build} {perf : Perf} {shutdown : Shutdown} {printout next : Printout}

/-- The printing loop is there as long as anybody may send. -/
structure Attended (printout : Printout) : Prop where
  handed : printout.controller.Handed
  silent : printout.stats.ended = true → printout.controller.Silent

theorem new_attended (build : Build) (perf : Perf) (shutdown : Shutdown) :
    (new build perf shutdown).Attended where
  handed := (Controller.new_handed build perf).aside (Controller.aside_of_fields _ _ _ _ _)
  silent := by
    rintro ⟨⟩

theorem Attended.step (attended : printout.Attended) {event : PrintoutEvent}
    (step : printout.step event = some next) : next.Attended := by
  cases move_of_step step with
  | quiet event genuine moved silent told kept =>
      constructor
      · exact attended.handed.event moved
      · rw [kept]
        exact fun ended => (attended.silent ended).step moved
  | line event genuine line moved offered running open_ added =>
      constructor
      · exact attended.handed.event moved
      · intro ended
        cases open_.symm.trans ended
  | print line kept running open_ lines printed =>
      constructor
      · rw [kept]
        exact attended.handed
      · intro ended
        cases open_.symm.trans ended
  | atEnd kept gone lines printed =>
      constructor
      · rw [kept]
        exact attended.handed
      · rw [kept]
        exact fun _ => attended.handed.silent gone

theorem attended_of_reachable
    (reachable : Reachable Printout.step (.new build perf shutdown) printout) :
    printout.Attended :=
  reachable.invariant Attended (fun _ _ _ attended step => attended.step step)
    (new_attended build perf shutdown)

/-- Once the printing loop is over, so is the test. -/
theorem over_of_ended (reachable : Reachable Printout.step (.new build perf shutdown) printout)
    (ended : printout.stats.ended = true) :
    printout.controller.alive = false ∧
      (∀ task ∈ printout.controller.tasks, task.isListening = false) ∧
      printout.printed = printout.lines := by
  have silent := (attended_of_reachable reachable).silent ended
  refine ⟨silent.ended, ?_, Drain.taken_of_ended ended⟩
  intro task taskMem
  apply eq_false_of_ne_true
  intro listening
  have gone := (Controller.hasStatsSender_eq_false.mp silent.sender).2.2
  rw [Controller.hasListener, List.any_eq_true.mpr ⟨task, taskMem, listening⟩] at gone
  cases gone

end Printout

end Iperf
