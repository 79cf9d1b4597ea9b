import Iperf.Controller.Frame
import Iperf.Opts
import Iperf.StreamWorker.Delivery

/-!
# The signals of a controller

The controller broadcasts `StartLoad` when the test starts running and
`Terminate` past its main loop, on a channel that retains one message.  A worker
that has read the first signal before the second is sent gets both.
-/

namespace Iperf

open Channel Transition StreamWorker

namespace Controller

variable {controller next : Controller} {event : Event} {index : Nat}

/-- The next act of the controller is to broadcast a signal. -/
def broadcasts (controller : Controller) : Bool :=
  match controller.pc with
  | .matched .running => decide (controller.oldState ≠ .running)
  | .matched .exchangeResults => true
  | .matched .terminate => true
  | _ => false

/-- The stream at `index` has read every signal by the time the next one is
broadcast. -/
def Timely (index : Nat) (controller : Controller) (event : Event) : Prop :=
  event = .controller .act → controller.broadcasts = true →
    ∀ task, controller.tasks[index]? = some task → task.isListening = true →
      controller.publisher.unread task.worker.receiver = []

/-- Neither the socket nor the stats channel of the stream at `index` fails, and
its worker only runs while the controller is alive. -/
def Healthy (index : Nat) (controller : Controller) (event : Event) : Prop :=
  event ≠ .task index .panic ∧
    ∀ work, event = .task index (.work work) → ¬ work.Breaks ∧ controller.alive = true

instance Timely.decidable (index : Nat) (controller : Controller) :
    (event : Event) → Decidable (controller.Timely index event)
  | .controller .act =>
      decidable_of_iff (controller.broadcasts = true →
          ∀ task ∈ controller.tasks[index]?, task.isListening = true →
            controller.publisher.unread task.worker.receiver = [])
        ⟨fun timely _ => timely, fun timely => timely rfl⟩
  | .controller .start | .controller .turn | .controller .poll | .controller .recv
  | .controller .shutdown | .controller (.clientRead _) | .controller (.serverRead _)
  | .controller (.connect _) | .controller (.reply _) | .controller (.write _)
  | .controller .store | .controller .join | .controller (.collect _)
  | .controller (.abandon _) | .controller .collected | .controller (.forward _ _)
  | .controller .done | .task _ _ | .ctrlC | .acquire | .release | .post _ =>
      .isTrue (by rintro ⟨⟩)

instance Healthy.decidable (index : Nat) (controller : Controller) :
    (event : Event) → Decidable (controller.Healthy index event)
  | .task position (.work work) =>
      decidable_of_iff (position = index → ¬work.Breaks ∧ controller.alive = true)
        (by simp [Healthy])
  | .task position .panic => decidable_of_iff (position ≠ index) (by simp [Healthy])
  | .task _ .post | .task _ .finish | .controller _ | .ctrlC | .acquire | .release | .post _ =>
      .isTrue (by simp [Healthy])

theorem loadFirst_of_prefix {earlier later : Publisher} (grows : earlier.sent <+: later.sent)
    (loadFirst : LoadFirst later) : LoadFirst earlier := by
  intro first rest sent
  obtain ⟨added, result⟩ := grows
  rw [sent] at result
  exact loadFirst first (rest ++ added) result.symm

/-- What the controller has broadcast so far. -/
structure Signals (controller : Controller) : Prop where
  opened : controller.alive = true → controller.publisher.closed = false
  ended : .terminate ∈ controller.publisher.sent → controller.pc.Closing
  first : .startLoad ∈ controller.publisher.sent → LoadFirst controller.publisher

theorem new_signals (build : Build) (perf : Perf) : (new build perf).Signals where
  opened := fun _ => rfl
  ended := fun sent => absurd sent List.not_mem_nil
  first := fun sent => absurd sent List.not_mem_nil

private theorem Signals.ended_move (signals : controller.Signals)
    (move : Move controller next) (sent : .terminate ∈ next.publisher.sent) :
    next.pc.Closing := by
  rcases move.publisher with same | ⟨pc, -, -, -, added⟩ | ⟨exchange, -, pc, -⟩
  · exact move.closing (signals.ended (same ▸ sent))
  · rw [added, List.mem_append] at sent
    rcases sent with earlier | now
    · have closing := signals.ended earlier
      rw [pc] at closing
      exact closing.elim
    · simp at now
  · rw [pc]
    trivial

private theorem Signals.first_move (signals : controller.Signals)
    (move : Move controller next) (loaded : .startLoad ∈ next.publisher.sent) :
    LoadFirst next.publisher := by
  rcases move.publisher with same | ⟨pc, -, -, -, added⟩ | ⟨exchange, -, -, added⟩
  · intro first rest sent
    exact signals.first (same ▸ loaded) first rest (same ▸ sent)
  · intro first rest sent
    rw [added] at sent
    cases earlier : controller.publisher.sent with
    | nil =>
        rw [earlier] at sent
        cases sent
        rfl
    | cons head tail =>
        rw [earlier] at sent
        cases sent
        cases first with
        | startLoad => rfl
        | terminate =>
            have closing := signals.ended (earlier ▸ List.mem_cons_self)
            rw [pc] at closing
            exact closing.elim
  · intro first rest sent
    rw [added, List.mem_append] at loaded
    have before : .startLoad ∈ controller.publisher.sent := by simpa using loaded
    obtain ⟨head, tail, earlier⟩ := List.exists_cons_of_ne_nil (List.ne_nil_of_mem before)
    rw [added, earlier] at sent
    cases sent
    exact signals.first before _ tail earlier

theorem Signals.step (signals : controller.Signals)
    (step : controller.step event = some next) : next.Signals := by
  cases happens_of_step step with
  | controller event next move =>
      exact ⟨fun running => (move.closed running).trans (signals.opened move.alive),
        signals.ended_move move, signals.first_move move⟩
  | task index event next move =>
      have frame := move.frame
      constructor
      · unfold alive
        rw [frame.pc, frame.publisher]
        exact signals.opened
      · rw [frame.pc, frame.publisher]
        exact signals.ended
      · rw [frame.publisher]
        exact signals.first
  | outside event next outside =>
      constructor
      · unfold alive
        rw [outside.pc, outside.publisher]
        exact signals.opened
      · rw [outside.pc, outside.publisher]
        exact signals.ended
      · rw [outside.publisher]
        exact signals.first

/-- Signals are only ever added. -/
theorem sent_prefix_of_step (step : controller.step event = some next) :
    controller.publisher.sent <+: next.publisher.sent := by
  cases happens_of_step step with
  | controller event next move => exact move.sent_prefix
  | task index event next move =>
      rw [move.frame.publisher]
  | outside event next outside =>
      rw [outside.publisher]

/-- A signal is sent in a step that was about to broadcast. -/
theorem Move.broadcasts (move : Move controller next) :
    next.publisher.sent = controller.publisher.sent ∨
      controller.broadcasts = true ∧
        ∃ signal, next.publisher.sent = controller.publisher.sent ++ [signal] := by
  rcases move.publisher with same | ⟨pc, transition, -, -, added⟩ | ⟨exchange, pc, -, added⟩
  · exact .inl same
  · exact .inr ⟨by simp [Controller.broadcasts, pc, transition], _, added⟩
  · refine .inr ⟨?_, _, added⟩
    cases exchange <;> simp [Controller.broadcasts, pc]

theorem act_of_broadcasts {event : ControllerEvent}
    (step : controller.controllerStep event = some next)
    (broadcasts : controller.broadcasts = true) : event = .act := by
  cases pc : controller.pc with
  | matched state => cases event <;> simp [controllerStep, pc] at step ⊢
  | _ => simp [Controller.broadcasts, pc] at broadcasts

end Controller

/-- The task has got every signal its worker has asked for, and has not failed. -/
structure Task.Informed (publisher : Publisher) (task : Task) : Prop where
  current : task.worker.Current publisher
  recent : task.isListening = true → (publisher.unread task.worker.receiver).length ≤ 1
  unfailed : task.hasFailed = false
  returned : ∀ result, task.phase = .posted result ∨ task.phase = .finished (.ok result) →
    task.worker.pc = .returned (.ok result)

/-- Only a worker that waits or is active listens. -/
theorem Task.isListening_of_working {task : Task} (phase : task.phase = .working)
    (running : ∀ result, task.worker.pc ≠ .returned result) : task.isListening = true := by
  unfold isListening
  split
  · rename_i result phase pc
    exact absurd pc (running result)
  · rfl
  · rename_i other
    exact absurd phase (fun phase => by simp_all)

namespace Controller

variable {controller next : Controller} {event : Event} {index : Nat}

/-- The stream at `index` is registered and informed. -/
def Informed (index : Nat) (controller : Controller) : Prop :=
  ∃ task, controller.tasks[index]? = some task ∧ task.Informed controller.publisher

private theorem Informed.controllerMove (informed : controller.Informed index)
    (move : Move controller next)
    (timely : controller.broadcasts = true →
      ∀ task, controller.tasks[index]? = some task → task.isListening = true →
        controller.publisher.unread task.worker.receiver = []) : next.Informed index := by
  obtain ⟨task, found, told⟩ := informed
  have kept : next.tasks[index]? = some task := by
    rcases move.tasks with same | ⟨stream, added⟩
    · rwa [same]
    · rw [added]
      have bound := (List.getElem?_eq_some_iff.mp found).1
      rwa [List.getElem?_append_left bound]
  refine ⟨task, kept, ?_⟩
  rcases move.broadcasts with same | ⟨broadcasts, signal, added⟩
  · constructor
    · exact told.current.congr same
    · rw [Broadcast.unread, same]
      exact told.recent
    · exact told.unfailed
    · exact told.returned
  · have sends : next.publisher.sent = (controller.publisher.send signal).sent := added
    constructor
    · exact (told.current.send signal).congr sends
    · intro listening
      have none := timely broadcasts task found listening
      rw [Broadcast.unread, sends]
      have one := Broadcast.unread_send told.current.within signal
      rw [none] at one
      exact (congrArg List.length one).le
    · exact told.unfailed
    · exact told.returned

/-- One step of the task itself. -/
private theorem Informed.ownMove (informed : controller.Informed index)
    (signals : controller.Signals) (loadFirst : LoadFirst controller.publisher)
    {own : TaskEvent} (healthy : controller.Healthy index (.task index own))
    (move : TaskMove controller index own next) : next.Informed index := by
  obtain ⟨task, found, told⟩ := informed
  have bound := (List.getElem?_eq_some_iff.mp found).1
  cases move with
  | work event source worker foundSource phase moved same =>
      cases found.symm.trans foundSource
      obtain ⟨whole, running⟩ := healthy.2 event rfl
      have opened := signals.opened running
      have active : ∀ result, task.worker.pc ≠ .returned result := by
        intro result pc
        cases moved <;> simp_all [WorkerPc.Active]
      have recent := told.recent (Task.isListening_of_working phase active)
      have current := told.current.move recent opened loadFirst whole moved
      refine ⟨_, List.getElem?_set_self bound, current, ?_, ?_, ?_⟩
      · intro _
        exact moved.unread_le recent opened
      · rcases phaseAfter_cases worker with ⟨working, -⟩ | ⟨error, failed, -⟩
        · simp [Task.hasFailed, working]
        · exact absurd failed (current.unfailed error)
      · rcases phaseAfter_cases worker with ⟨working, -⟩ | ⟨error, failed, -⟩
        · simp [working]
        · exact absurd failed (current.unfailed error)
  | post source result mailbox lost foundSource phase pc posts =>
      cases found.symm.trans foundSource
      refine ⟨_, List.getElem?_set_self bound, told.current, ?_, rfl, ?_⟩
      · simp [Task.isListening]
      · simp [pc]
  | finish source result foundSource phase =>
      cases found.symm.trans foundSource
      refine ⟨_, List.getElem?_set_self bound, told.current, ?_, rfl, ?_⟩
      · simp [Task.isListening]
      · simpa using told.returned result (.inl phase)
  | panic source foundSource phase listening => exact absurd rfl healthy.1

private theorem Informed.step (informed : controller.Informed index)
    (signals : controller.Signals) (loadFirst : LoadFirst controller.publisher)
    (healthy : controller.Healthy index event) (timely : controller.Timely index event)
    (step : controller.step event = some next) : next.Informed index := by
  cases happens_of_step step with
  | controller event next move =>
      apply informed.controllerMove move
      intro broadcasts
      exact timely (congrArg Event.controller (act_of_broadcasts step broadcasts)) broadcasts
  | task position event next move =>
      by_cases own : position = index
      · subst own
        exact informed.ownMove signals loadFirst healthy move
      · obtain ⟨task, found, told⟩ := informed
        obtain ⟨source, changed, -, tasks, -⟩ := move.evolves
        refine ⟨task, ?_, ?_⟩
        · rw [tasks, List.getElem?_set_ne own]
          exact found
        · rw [move.frame.publisher]
          exact told
  | outside event next outside =>
      obtain ⟨task, found, told⟩ := informed
      exact ⟨task, outside.tasks ▸ found, outside.publisher ▸ told⟩

/-! ## The end of a stream -/

/-- The task steps of a run of the worker. -/
def workEvents (index : Nat) (events : List WorkerEvent) : List Event :=
  events.map fun event => .task index (.work event)

/-- A worker that goes on has not returned. -/
private theorem unfailed_of_run {build : Build} {publisher : Publisher}
    {worker done : StreamWorker} {events : List WorkerEvent}
    (finished : run (StreamWorker.step build publisher) worker events = some done)
    (unfailed : ∀ error, done.pc ≠ .returned (.error error)) (error : Error) :
    worker.pc ≠ .returned (.error error) := by
  intro returned
  cases events with
  | nil =>
      cases finished
      exact unfailed error returned
  | cons event events =>
      rw [run, StreamWorker.step_of_returned returned] at finished
      cases finished

/-- A run of the worker is a run of its task. -/
private theorem run_workEvents {task : Task} {done : StreamWorker}
    {events : List WorkerEvent} (found : controller.tasks[index]? = some task)
    (phase : task.phase = .working)
    (finished : run (StreamWorker.step controller.build controller.publisher) task.worker
      events = some done)
    (unfailed : ∀ error, done.pc ≠ .returned (.error error)) :
    run Controller.step controller (workEvents index events) = some { controller with
      tasks := controller.tasks.set index { task with worker := done, phase := .working } } := by
  induction events generalizing controller task with
  | nil =>
      cases finished
      have same : ({ task with phase := .working } : Task) = task := by rw [← phase]
      obtain ⟨bound, atIndex⟩ := List.getElem?_eq_some_iff.mp found
      rw [same, ← atIndex, List.set_getElem_self bound]
      rfl
  | cons event events ih =>
      obtain ⟨worker, moved, rest⟩ :=
        (run_cons_eq_some_iff _ task.worker done event events).mp finished
      have bound := (List.getElem?_eq_some_iff.mp found).1
      have working : phaseAfter worker = .working := by
        rcases phaseAfter_cases worker with ⟨working, -⟩ | ⟨error, failed, -⟩
        · exact working
        · exact absurd failed (unfailed_of_run rest unfailed error)
      have step : controller.step (.task index (.work event)) = some { controller with
          tasks := controller.tasks.set index { task with worker, phase := .working } } := by
        simp only [Controller.step, taskStep, found, phase, moved, Option.map_some, working]
      rw [workEvents, List.map_cons, run_cons_of_step step]
      have later := @ih { controller with
        tasks := controller.tasks.set index { task with worker, phase := .working } }
        { task with worker, phase := .working } (List.getElem?_set_self bound) rfl rest
      simp only [List.set_set] at later
      exact later

/-- The stream can end with a summary, by steps of its own task none of which is
a failure. -/
def CanEnd (index : Nat) (controller : Controller) : Prop :=
  ∃ events final task summary,
    (∀ event ∈ events, ∃ own, event = .task index own ∧ own ≠ .panic ∧
      ∀ work, own = .work work → ¬ work.Breaks) ∧
    run Controller.step controller events = some final ∧
    final.tasks[index]? = some task ∧ task.phase = .finished (.ok summary) ∧
    summary.isSummary = true

private theorem canEnd_of_posted {task : Task} {summary : StreamStats}
    (found : controller.tasks[index]? = some task) (phase : task.phase = .posted summary)
    (isSummary : summary.isSummary = true) : controller.CanEnd index := by
  have bound := (List.getElem?_eq_some_iff.mp found).1
  have step : controller.step (.task index .finish) = some { controller with
      tasks := controller.tasks.set index { task with phase := .finished (.ok summary) } } := by
    simp only [Controller.step, taskStep, found, phase]
  refine ⟨[.task index .finish], _, _, summary, ?_, (run_singleton _ _ _).trans step,
    List.getElem?_set_self bound, rfl, isSummary⟩
  simp

private theorem CanEnd.of_run {events : List Event}
    (own : ∀ event ∈ events, ∃ own, event = .task index own ∧ own ≠ .panic ∧
      ∀ work, own = .work work → ¬ work.Breaks)
    (ran : run Controller.step controller events = some next) (ends : next.CanEnd index) :
    controller.CanEnd index := by
  obtain ⟨rest, final, task, summary, all, finished, result⟩ := ends
  refine ⟨events ++ rest, final, task, summary, ?_, run_append_of_run ran finished, result⟩
  intro event eventMem
  rcases List.mem_append.mp eventMem with before | after
  · exact own event before
  · exact all event after

theorem Informed.canEnd (informed : controller.Informed index)
    (loadFirst : LoadFirst controller.publisher) (loaded : controller.publisher.sent ≠ []) :
    controller.CanEnd index := by
  obtain ⟨task, found, told⟩ := informed
  cases phase : task.phase with
  | panicked =>
      have unfailed := told.unfailed
      simp [Task.hasFailed, phase] at unfailed
  | posted summary =>
      exact canEnd_of_posted found phase
        (told.current.summary summary (told.returned summary (.inl phase)))
  | finished result =>
      cases result with
      | error error =>
          have unfailed := told.unfailed
          simp [Task.hasFailed, phase] at unfailed
      | ok summary =>
          exact ⟨[], controller, task, summary, fun event eventMem =>
            absurd eventMem List.not_mem_nil, rfl, found, phase,
            told.current.summary summary (told.returned summary (.inr phase))⟩
  | working =>
      have recent : (controller.publisher.unread task.worker.receiver).length ≤ 1 ∨
          ∃ result, task.worker.pc = .returned result := by
        by_cases returned : ∃ result, task.worker.pc = .returned result
        · exact .inr returned
        · exact .inl (told.recent (Task.isListening_of_working phase (not_exists.mp returned)))
      have finish : CanFinish controller.build controller.publisher task.worker := by
        rcases recent with recent | ⟨result, returned⟩
        · exact told.current.canFinish controller.build recent loadFirst loaded
        · exact told.current.canFinish_of_returned controller.build returned
      obtain ⟨events, done, summary, whole, finished, pc, isSummary⟩ := finish
      have bound := (List.getElem?_eq_some_iff.mp found).1
      have works := run_workEvents found phase finished (by simp [pc])
      apply CanEnd.of_run _ works
      · let worked : Controller := { controller with
          tasks := controller.tasks.set index { task with worker := done, phase := .working } }
        have foundDone : worked.tasks[index]? =
            some { task with worker := done, phase := .working } := List.getElem?_set_self bound
        have posts : worked.step (.task index .post) =
            some { worked.trySend (.streamTerminated done.id) with
              tasks := worked.tasks.set index
                { task with worker := done, phase := .posted summary } } := by
          simp only [Controller.step, taskStep, foundDone, pc]
        apply CanEnd.of_run _ ((run_singleton _ _ _).trans posts)
        · have posted : (worked.tasks.set index
              { task with worker := done, phase := .posted summary })[index]? =
              some { task with worker := done, phase := .posted summary } :=
            List.getElem?_set_self (by simpa [worked] using bound)
          exact canEnd_of_posted posted rfl isSummary
        · simp
      · intro event eventMem
        obtain ⟨work, workMem, rfl⟩ := List.mem_map.mp eventMem
        exact ⟨.work work, rfl, by simp, fun other same => by
          cases same
          exact whole work workMem⟩

end Controller

/-! ## Before the first signal -/

theorem Task.working_of_isListening {task : Task} (listening : task.isListening = true) :
    task.phase = .working ∧ ∀ result, task.worker.pc ≠ .returned result := by
  unfold isListening at listening
  split at listening
  · cases listening
  · rename_i phase other
    exact ⟨phase, other⟩
  · cases listening

/-- While nothing is broadcast, who listens waits. -/
def Task.Fresh (publisher : Publisher) (task : Task) : Prop :=
  publisher.sent = [] → task.isListening = true →
    task.worker.pc = .waiting ∧ task.worker.observed = [] ∧ task.worker.receiver.next = 0

theorem Task.Fresh.evolves {publisher : Publisher} {task changed : Task}
    (fresh : task.Fresh publisher) (evolves : task.Evolves publisher changed) :
    changed.Fresh publisher := by
  intro none listening
  obtain ⟨phase, running⟩ := working_of_isListening listening
  cases evolves with
  | work event worker before moved same =>
      have active : ∀ result, task.worker.pc ≠ .returned result := by
        intro result pc
        cases moved <;> simp_all [WorkerPc.Active]
      obtain ⟨waiting, observed, first⟩ := fresh none (isListening_of_working before active)
      have unread : publisher.unread task.worker.receiver = [] := by
        simp [Broadcast.unread, none]
      cases moved with
      | start stage polled result =>
          have read := polled.1
          rw [Broadcast.recv_of_read unread] at read
          split at read <;> cases (Prod.mk.inj read).1
      | refuse error signal stage other yields polled result =>
          exact absurd result (running _)
      | poll content stage polled result => simp [waiting, WorkerPc.Active] at stage
      | lose error signal stage failure yields polled result =>
          simp [waiting, WorkerPc.Active] at stage
      | work stage unpolled result => simp [waiting, WorkerPc.Active] at stage
      | fail error breaks stage unpolled result => simp [waiting, WorkerPc.Active] at stage
      | succeed stats stage unpolled summary result =>
          simp [waiting, WorkerPc.Active] at stage
  | post result phase pc => cases phase
  | finish result before => cases phase
  | panic before listens => cases phase

theorem Task.Fresh.informed {publisher : Publisher} {task : Task}
    (fresh : task.Fresh publisher) (none : publisher.sent = [])
    (listening : task.isListening = true) : task.Informed publisher := by
  obtain ⟨waiting, observed, first⟩ := fresh none listening
  obtain ⟨phase, -⟩ := working_of_isListening listening
  constructor
  · constructor
    · simp [observed, none]
    · simp [first]
    · exact fun _ => first
    · exact fun started => absurd waiting started
    · simp [waiting]
    · simp [waiting]
  · simp [Broadcast.unread, none]
  · simp [hasFailed, phase]
  · simp [phase]

namespace Controller

variable {controller next : Controller} {event : Event} {index : Nat}

theorem fresh_of_reachable {build : Build} {perf : Perf}
    (reachable : Reachable Controller.step (new build perf) controller) :
    ∀ task ∈ controller.tasks, task.Fresh controller.publisher := by
  apply reachable.invariant
    (fun controller => ∀ task ∈ controller.tasks, task.Fresh controller.publisher)
  · intro source event target fresh step
    cases happens_of_step step with
    | controller event next move =>
        intro task taskMem none listening
        have before : source.publisher.sent = [] := by
          have grows := move.sent_prefix
          rw [none] at grows
          exact List.prefix_nil.mp grows
        rcases move.tasks with same | ⟨stream, added⟩
        · exact fresh task (same ▸ taskMem) before listening
        · rw [added] at taskMem
          rcases List.mem_append.mp taskMem with old | new
          · exact fresh task old before listening
          · rw [List.mem_singleton.mp new]
            exact ⟨rfl, rfl, congrArg List.length before⟩
    | task index event next move =>
        rw [move.frame.publisher]
        exact move.forall_tasks fresh fun _ _ _ holds evolves => holds.evolves evolves
    | outside event next outside =>
        rw [outside.tasks, outside.publisher]
        exact fresh
  · exact fun task taskMem => absurd taskMem List.not_mem_nil

/-! ## A signal too early -/

/-- The stream at `index` has missed a signal and will not end well. -/
def Overrun (index : Nat) (controller : Controller) : Prop :=
  ∃ task, controller.tasks[index]? = some task ∧ task.hasPosted = false ∧
    ((task.worker.pc = .waiting ∧
        1 < (controller.publisher.unread task.worker.receiver).length) ∨
      ∃ error, task.worker.pc = .returned (.error error))

private theorem unread_length_le {earlier later : Publisher} (receiver : Receiver)
    (grows : earlier.sent <+: later.sent) :
    (earlier.unread receiver).length ≤ (later.unread receiver).length := by
  have longer := grows.length_le
  simp only [Broadcast.unread, List.length_drop]
  omega

private theorem Overrun.keep {task : Task} (found : next.tasks[index]? = some task)
    (unposted : task.hasPosted = false)
    (missed : (task.worker.pc = .waiting ∧
        1 < (controller.publisher.unread task.worker.receiver).length) ∨
      ∃ error, task.worker.pc = .returned (.error error))
    (grows : controller.publisher.sent <+: next.publisher.sent) : next.Overrun index := by
  refine ⟨task, found, unposted, ?_⟩
  rcases missed with ⟨waiting, behind⟩ | failed
  · exact .inl ⟨waiting, behind.trans_le (unread_length_le _ grows)⟩
  · exact .inr failed

private theorem Overrun.evolves {task changed : Task} {publisher : Publisher}
    (evolves : task.Evolves publisher changed) (unposted : task.hasPosted = false)
    (missed : (task.worker.pc = .waiting ∧
        1 < (publisher.unread task.worker.receiver).length) ∨
      ∃ error, task.worker.pc = .returned (.error error)) :
    changed.hasPosted = false ∧
      ((changed.worker.pc = .waiting ∧
          1 < (publisher.unread changed.worker.receiver).length) ∨
        ∃ error, changed.worker.pc = .returned (.error error)) := by
  cases evolves with
  | work event worker phase moved same =>
      constructor
      · exact Task.hasPosted_work task worker
      · rcases missed with ⟨waiting, behind⟩ | ⟨error, failed⟩
        · exact .inr (moved.overrun waiting behind)
        · cases moved <;> simp_all [WorkerPc.Active]
  | post result phase pc => simp [pc] at missed
  | finish result phase => simp [Task.hasPosted, phase] at unposted
  | panic phase listening => exact ⟨rfl, missed⟩

private theorem Overrun.step (overrun : controller.Overrun index)
    (step : controller.step event = some next) : next.Overrun index := by
  obtain ⟨task, found, unposted, missed⟩ := overrun
  have grows := sent_prefix_of_step step
  cases happens_of_step step with
  | controller event next move =>
      apply Overrun.keep _ unposted missed grows
      rcases move.tasks with same | ⟨stream, added⟩
      · rwa [same]
      · rw [added]
        have bound := (List.getElem?_eq_some_iff.mp found).1
        rwa [List.getElem?_append_left bound]
  | task position event next move =>
      obtain ⟨after, foundAfter, same | evolves⟩ := move.forward found
      · exact Overrun.keep (same ▸ foundAfter) unposted missed grows
      · obtain ⟨unposted, missed⟩ := Overrun.evolves evolves unposted missed
        exact Overrun.keep foundAfter unposted missed grows
  | outside event next outside =>
      exact Overrun.keep (outside.tasks ▸ found) unposted missed grows

/-- A broadcast reaches the channel if somebody listens. -/
theorem sent_of_broadcasts (broadcasts : controller.broadcasts = true)
    (listener : controller.hasListener = true)
    (step : controller.controllerStep .act = some next) :
    ∃ signal, next.publisher = controller.publisher.send signal ∧
      next.tasks = controller.tasks := by
  cases pc : controller.pc with
  | matched state =>
      simp only [controllerStep, pc] at step
      cases step
      cases state with
      | running =>
          have transition : controller.oldState ≠ .running := by
            simpa [Controller.broadcasts, pc] using broadcasts
          simp only [act, transition, listener, if_false, if_true]
          exact ⟨_, rfl, rfl⟩
      | exchangeResults | terminate =>
          simp only [act, stopWorkers, listener, if_true]
          exact ⟨_, rfl, trivial⟩
      | start | createStreams cookie => simp [Controller.broadcasts, pc] at broadcasts
  | _ => simp [Controller.broadcasts, pc] at broadcasts

/-- A broadcast that finds the worker still waiting with a signal to read. -/
private theorem overrun_of_untimely {task : Task}
    (step : controller.step event = some next) (untimely : ¬ controller.Timely index event)
    (found : controller.tasks[index]? = some task) (waiting : task.worker.pc = .waiting) :
    next.Overrun index := by
  simp only [Timely, Classical.not_imp, not_forall] at untimely
  obtain ⟨rfl, broadcasts, other, foundOther, listening, unread⟩ := untimely
  cases found.symm.trans foundOther
  have listener : controller.hasListener = true :=
    List.any_eq_true.mpr ⟨task, List.mem_of_getElem? found, listening⟩
  obtain ⟨signal, publisher, tasks⟩ := sent_of_broadcasts broadcasts listener step
  obtain ⟨phase, -⟩ := Task.working_of_isListening listening
  refine ⟨task, tasks ▸ found, by simp [Task.hasPosted, phase], .inl ⟨waiting, ?_⟩⟩
  obtain ⟨first, rest, pending⟩ := List.exists_cons_of_ne_nil unread
  have within : task.worker.receiver.next ≤ controller.publisher.sent.length := by
    have some := congrArg List.length pending
    simp only [Broadcast.unread, List.length_drop, List.length_cons] at some
    omega
  rw [publisher, Broadcast.unread_send within, pending]
  simp

/-! ## Signals reach the workers -/

/-- What a stream that got its signals has seen, `StartLoad` first, and how it ends. -/
structure Reached (index : Nat) (controller : Controller) : Prop where
  first : controller.publisher.sent.head? = some .startLoad
  stream : ∃ task, controller.tasks[index]? = some task ∧
    (∃ count, task.worker.observed =
      (controller.publisher.sent.take count).map .message) ∧
    (task.worker.pc ≠ .waiting →
      task.worker.observed.head? = some (.message .startLoad)) ∧
    (∀ error, task.worker.pc ≠ .returned (.error error)) ∧
    (task.isFinished = true →
      task.worker.observed.head? = some (.message .startLoad) ∧
        ∃ summary, task.phase = .finished (.ok summary) ∧ summary.isSummary = true)
  canEnd : controller.CanEnd index

private theorem Informed.reached (informed : controller.Informed index)
    (loadFirst : LoadFirst controller.publisher)
    (loaded : .startLoad ∈ controller.publisher.sent) : controller.Reached index := by
  have some := List.ne_nil_of_mem loaded
  have head : controller.publisher.sent.head? = Option.some .startLoad := by
    obtain ⟨first, rest, sent⟩ := List.exists_cons_of_ne_nil some
    rw [sent, loadFirst first rest sent]
    rfl
  constructor
  · exact head
  · obtain ⟨task, found, told⟩ := informed
    have started : task.worker.pc ≠ .waiting →
        task.worker.observed.head? = Option.some (.message .startLoad) := by
      intro past
      rw [told.current.observed, List.head?_map, List.head?_take,
        if_neg (Nat.ne_of_gt (told.current.started past)), head]
      rfl
    refine ⟨task, found, ⟨_, told.current.observed⟩, started, told.current.unfailed, ?_⟩
    intro finished
    cases phase : task.phase with
    | working | posted => simp [Task.isFinished, phase] at finished
    | panicked =>
        have unfailed := told.unfailed
        simp [Task.hasFailed, phase] at unfailed
    | finished result =>
        cases result with
        | error error =>
            have unfailed := told.unfailed
            simp [Task.hasFailed, phase] at unfailed
        | ok summary =>
            have returned := told.returned summary (.inr phase)
            refine ⟨started ?_, summary, rfl, told.current.summary summary returned⟩
            rw [returned]
            rintro ⟨⟩
  · exact informed.canEnd loadFirst some

/-- A worker that subscribes before the first signal, whose socket and reports do
not fail and whose controller is there, gets every signal in order and ends with
a summary, as long as it has read each signal by the time the next one is
broadcast.  If the second one finds it still waiting for the first, it never
returns a summary. -/
theorem signals_reach_worker (build : Build) (perf : Perf) {before after : List Event}
    {middle final : Controller} {index : Nat} {task : Task}
    (started : run Controller.step (new build perf) before = some middle)
    (unsignalled : middle.publisher.sent = [])
    (subscribed : middle.tasks[index]? = some task) (listening : task.isListening = true)
    (finished : run Controller.step middle after = some final)
    (loaded : .startLoad ∈ final.publisher.sent)
    (healthy : Guarded Controller.step (Healthy index) middle after) :
    (Guarded Controller.step (Timely index) middle after → final.Reached index) ∧
    ∀ waiting event next later, final.tasks[index]? = some waiting →
      waiting.worker.pc = .waiting → ¬ final.Timely index event →
      final.step event = some next → Reachable Controller.step next later →
      ∀ ended, later.tasks[index]? = some ended →
        ∀ summary, ended.phase ≠ .finished (.ok summary) := by
  have signalsMiddle : middle.Signals :=
    Reachable.invariant Signals (fun _ _ _ signals step => signals.step step)
      (new_signals build perf) ⟨before, started⟩
  have signalsFinal : final.Signals :=
    Reachable.invariant Signals (fun _ _ _ signals step => signals.step step)
      signalsMiddle ⟨after, finished⟩
  have loadFirst := signalsFinal.first loaded
  constructor
  · intro timely
    have fresh := fresh_of_reachable ⟨before, started⟩ task (List.mem_of_getElem? subscribed)
    have initial : middle.Signals ∧ middle.Informed index :=
      ⟨signalsMiddle, task, subscribed, fresh.informed unsignalled listening⟩
    have informed := run_invariant_while
      (fun controller => LoadFirst controller.publisher)
      (fun controller => controller.Signals ∧ controller.Informed index)
      (fun _ _ _ step loadFirst => loadFirst_of_prefix (sent_prefix_of_step step) loadFirst)
      (fun _ _ _ ⟨signals, informed⟩ loadFirst _ ⟨healthy, timely⟩ step =>
        ⟨signals.step step, informed.step signals loadFirst healthy timely step⟩)
      initial (healthy.and timely) finished loadFirst
    exact informed.2.reached loadFirst loaded
  · intro waiting event next later found pc untimely step reachable ended foundEnded summary
    have overrun : later.Overrun index :=
      reachable.invariant (Overrun index) (fun _ _ _ overrun step => overrun.step step)
        (overrun_of_untimely step untimely found pc)
    obtain ⟨other, foundOther, unposted, -⟩ := overrun
    cases foundOther.symm.trans foundEnded
    intro phase
    simp [Task.hasPosted, phase] at unposted

/-- The server of a test with one stream. -/
def oneStream : Controller :=
  new ⟨true, true⟩ (Perf.newWithStatsReceiver "c" .server (.fromOpts {}))

/-- The stream is registered and `StartLoad` about to be broadcast. -/
private def loading : List Event :=
  [.controller .start, .controller .turn, .controller .act, .controller (.write true),
    .controller .store, .controller .turn, .controller .act, .controller .poll,
    .post (.createStream ⟨0⟩), .controller .recv, .controller (.write true),
    .controller .store, .controller .turn]

/-- The worker reads `StartLoad`, is told to terminate, and ends. -/
private def ending : List Event :=
  [.controller .act, .task 0 (.work (.signal 0 0)), .controller .poll, .ctrlC,
    .controller .shutdown, .controller (.write true), .controller .store, .controller .turn,
    .controller .act, .task 0 (.work (.head 0)), .task 0 (.work (.leave 0 none)),
    .task 0 (.work (.sent true)), .task 0 (.work (.summarize 0 none)), .task 0 .post,
    .task 0 .finish]

private theorem loading_runs : (run Controller.step oneStream loading).isSome = true := by
  decide +kernel

private def afterLoading : Controller :=
  (run Controller.step oneStream loading).get loading_runs

private theorem ending_runs : (run Controller.step afterLoading ending).isSome = true := by
  decide +kernel

private def afterEnding : Controller :=
  (run Controller.step afterLoading ending).get ending_runs

theorem signals_reach_worker_one :
    Reachable Controller.step oneStream afterEnding ∧ afterEnding.Reached 0 ∧
      afterEnding.publisher.sent = [.startLoad, .terminate] ∧
      afterEnding.tasks.map Task.isFinished = [true] ∧
      (afterEnding.tasks.map fun task => task.worker.observed) =
        [[.message .startLoad, .message .terminate]] := by
  have started : run Controller.step oneStream loading = some afterLoading :=
    (Option.some_get loading_runs).symm
  have finished : run Controller.step afterLoading ending = some afterEnding :=
    (Option.some_get ending_runs).symm
  have subscribed : (afterLoading.tasks[0]?).any Task.isListening = true := by decide +kernel
  rcases Option.any_eq_true _ _ |>.mp subscribed with ⟨task, found, listening⟩
  have healthy : Guarded Controller.step (Healthy 0) afterLoading ending := by decide +kernel
  have timely : Guarded Controller.step (Timely 0) afterLoading ending := by decide +kernel
  have sent : afterEnding.publisher.sent = [.startLoad, .terminate] := by decide +kernel
  have reached := (signals_reach_worker ⟨true, true⟩ _ started (by decide +kernel) found listening
    finished (by rw [sent]; exact List.mem_cons_self) healthy).1 timely
  refine ⟨⟨loading ++ ending, run_append_of_run started finished⟩, reached, sent, ?_, ?_⟩
  · decide +kernel
  · decide +kernel

/-- `StartLoad` and `Terminate` are broadcast before the worker is polled: it is
told that it missed a signal, and its result is lost. -/
theorem terminate_overruns_startLoad :
    ∃ final, Reachable Controller.step oneStream final ∧
      final.publisher.sent = [.startLoad, .terminate] ∧ final.alive = true ∧
      ∃ task, final.tasks[0]? = some task ∧ task.worker.observed = [.lagged 1] ∧
        task.worker.pc = .returned (.error (.streamWorkerError (.receiveError (.lagged 1)))) := by
  let observe : Controller → List WorkerMessage × Bool ×
      List (List (Received WorkerMessage) × WorkerPc) := fun controller =>
    (controller.publisher.sent, controller.alive,
      controller.tasks.map fun task => (task.worker.observed, task.worker.pc))
  have observed : (run Controller.step oneStream (loading ++
      [.controller .act, .controller .poll, .ctrlC, .controller .shutdown,
        .controller (.write true), .controller .store, .controller .turn, .controller .act,
        .task 0 (.work (.signal 0 0))])).map observe =
      some ([.startLoad, .terminate], true,
        [([.lagged 1], .returned (.error (.streamWorkerError (.receiveError (.lagged 1)))))]) :=
    rfl
  obtain ⟨final, finished, result⟩ := Option.map_eq_some_iff.mp observed
  simp only [observe, Prod.mk.injEq] at result
  obtain ⟨sent, alive, tasks⟩ := result
  have first := congrArg (·[0]?) tasks
  obtain ⟨task, found, same⟩ := by simpa using first
  exact ⟨final, ⟨_, finished⟩, sent, alive, task, found, same⟩

end Controller

end Iperf
