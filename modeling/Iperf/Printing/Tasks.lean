import Iperf.Controller.Exchange
import Iperf.Printing.Core
import Iperf.StreamWorker.Tally

/-!
# The lines of the spawned tasks

A step of a task either sends the line its worker is handing out, or it leaves the
reports alone.  What the lines say is an invariant of each worker.
-/

namespace Iperf

open Channel

namespace StreamWorker

variable {build : Build} {channel : Publisher} {worker next : StreamWorker}

/-- A line is sent. -/
theorem reports_of_sent (step : worker.step build channel (.sent true) = some next) :
    ∃ line, worker.handingOut = [line] ∧ next.reports = worker.reports ++ [line] ∧
      ∀ result, worker.pc ≠ .returned result := by
  cases entry_of_step step with
  | report progress now stats stage result sent =>
      exact ⟨stats, by simp only [handingOut, stage], sent, by simp [stage]⟩
  | finish progress stats stage result sent =>
      exact ⟨stats, by simp only [handingOut, stage], sent, by simp [stage]⟩
  | fail _ error result kept =>
      simp only [StreamWorker.step] at step
      split at step
      · cases step
        cases result
      · cases step
        cases result
      · cases step

/-- No line is sent. -/
theorem reports_of_silent {event : WorkerEvent} (silent : event ≠ .sent true)
    (step : worker.step build channel event = some next) : next.reports = worker.reports := by
  cases entry_of_step step with
  | report progress now stats stage result sent => exact absurd rfl silent
  | finish progress stats stage result sent => exact absurd rfl silent
  | start startTime intervalStart stage result kept => exact kept
  | fail _ error result kept => exact kept
  | enter now progress stage continues result kept => exact kept
  | stop now progress stage result kept => exact kept
  | gone now info progress stage result kept => exact kept
  | carry outcome now info progress stage goesOn early result kept => exact kept
  | due outcome now info progress lastCwnd stats stage goesOn late covers result kept =>
      exact kept
  | close now info progress stats stage covers result kept => exact kept
  | summarize now info progress stats stage duration bytes result kept => exact kept

/-- A worker returns its summary or an error. -/
theorem isSummary_of_step {event : WorkerEvent}
    (step : worker.step build channel event = some next) {summary : StreamStats}
    (returned : next.pc = .returned (.ok summary)) : summary.isSummary = true := by
  cases (move_of_step step).1 with
  | succeed stats stage unpolled final result =>
      rw [result] at returned
      cases returned
      exact final
  | start stage polled result | poll content stage polled result | work stage unpolled result =>
      rw [returned] at result
      exact result.elim
  | refuse error signal stage other yields polled result
  | lose error signal stage failure yields polled result
  | fail error breaks stage unpolled result =>
      rw [result] at returned
      cases returned

end StreamWorker

/-- One step of a spawned task, with the step of its worker. -/
inductive Task.Takes (build : Build) (publisher : Publisher) (task : Task) :
    TaskEvent → Task → Prop where
  | work (event : WorkerEvent) (worker : StreamWorker) (phase : task.phase = .working)
      (step : task.worker.step build publisher event = some worker) :
      Takes build publisher task (.work event)
        { task with worker, phase := Controller.phaseAfter worker }
  | post (result : StreamStats) (phase : task.phase = .working)
      (pc : task.worker.pc = .returned (.ok result)) :
      Takes build publisher task .post { task with phase := .posted result }
  | finish (result : StreamStats) (phase : task.phase = .posted result) :
      Takes build publisher task .finish { task with phase := .finished (.ok result) }
  | panic (phase : task.phase = .working) (listening : task.isListening = true) :
      Takes build publisher task .panic { task with phase := .panicked }

/-- The task that moves, and where the others stay. -/
theorem Controller.takes_of_taskStep {controller next : Controller} {index : Nat}
    {event : TaskEvent} (step : controller.taskStep index event = some next) :
    ∃ task changed, controller.tasks[index]? = some task ∧
      next.tasks = controller.tasks.set index changed ∧
      task.Takes controller.build controller.publisher event changed := by
  simp only [taskStep] at step
  split at step
  · cases step
  · rename_i task found
    refine ⟨task, ?_⟩
    split at step
    · rename_i phase
      rcases Option.map_eq_some_iff.mp step with ⟨worker, moved, rfl⟩
      exact ⟨_, found, rfl, .work _ worker phase moved⟩
    · rename_i phase
      split at step
      · rename_i result pc
        cases step
        exact ⟨_, found, rfl, .post result phase pc⟩
      · cases step
    · rename_i result phase
      cases step
      exact ⟨_, found, rfl, .finish result phase⟩
    · rename_i phase
      split at step
      · rename_i listening
        cases step
        exact ⟨_, found, rfl, .panic phase listening⟩
      · cases step
    · cases step

/-- What the lines of a task say, and that its result is the summary of its worker. -/
structure Task.Recorded (task : Task) : Prop where
  tallied : task.worker.Tallied
  labelled : task.worker.Labelled
  summary : ∀ result, task.worker.pc = .returned (.ok result) → result.isSummary = true
  ended : ∀ result, task.phase = .posted result ∨ task.phase = .finished (.ok result) →
    task.worker.pc = .returned (.ok result)

theorem Controller.newTask_recorded (controller : Controller) (stream : TcpStream) :
    (controller.newTask stream).Recorded where
  tallied := StreamWorker.new_tallied _ _ _ _
  labelled := StreamWorker.new_labelled _ _ _ _
  summary := by
    rintro result ⟨⟩
  ended := by
    rintro result (⟨⟨⟩⟩ | ⟨⟨⟩⟩)

theorem Task.Recorded.takes {build : Build} {publisher : Publisher} {task changed : Task}
    {event : TaskEvent} (recorded : task.Recorded)
    (takes : task.Takes build publisher event changed) : changed.Recorded := by
  cases takes with
  | work event worker phase step =>
      constructor
      · exact recorded.tallied.step step
      · exact recorded.labelled.step step
      · exact fun result returned => StreamWorker.isSummary_of_step step returned
      · rintro result (posted | finished)
        · rcases Controller.phaseAfter_cases worker with ⟨working, -⟩ | ⟨error, -, failed⟩
          · cases working.symm.trans posted
          · cases failed.symm.trans posted
        · rcases Controller.phaseAfter_cases worker with ⟨working, -⟩ | ⟨error, -, failed⟩
          · cases working.symm.trans finished
          · cases failed.symm.trans finished
  | post result phase pc =>
      constructor
      · exact recorded.tallied
      · exact recorded.labelled
      · exact recorded.summary
      · rintro other (⟨⟨⟩⟩ | ⟨⟨⟩⟩)
        exact pc
  | finish result phase =>
      constructor
      · exact recorded.tallied
      · exact recorded.labelled
      · exact recorded.summary
      · rintro other (⟨⟨⟩⟩ | ⟨⟨⟩⟩)
        exact recorded.ended result (.inl phase)
  | panic phase listening =>
      constructor
      · exact recorded.tallied
      · exact recorded.labelled
      · exact recorded.summary
      · rintro other (⟨⟨⟩⟩ | ⟨⟨⟩⟩)

/-- The result of a task carries its id, is a summary, and adds up its reports. -/
theorem Task.Recorded.result {task : Task} (recorded : task.Recorded) {result : StreamStats}
    (ended : task.phase = .posted result ∨ task.phase = .finished (.ok result)) :
    result.id = task.worker.id ∧ result.isPeer = false ∧ result.isSummary = true ∧
      ∃ last, Tally task.worker.reports (last + 1) result.bytesTransferred := by
  have returned := recorded.ended result ended
  have emitted : result ∈ task.worker.emitted := by
    simp only [StreamWorker.emitted, StreamWorker.handingOut, returned]
    exact List.mem_append_right _ List.mem_cons_self
  have own := recorded.labelled result emitted
  have tallied := recorded.tallied
  simp only [StreamWorker.Tallied, returned] at tallied
  exact ⟨own.id, own.isPeer, recorded.summary result returned, tallied⟩

namespace Controller

variable {controller next : Controller}

/-- The reports of the stream at `index` that the channel has accepted. -/
def reportsOf (controller : Controller) (index : Nat) : List StreamStats :=
  (controller.tasks[index]?).elim [] fun task => task.worker.reports

theorem reportsOf_of_found {index : Nat} {task : Task}
    (found : controller.tasks[index]? = some task) :
    controller.reportsOf index = task.worker.reports := by
  rw [reportsOf, found, Option.elim_some]

/-- A new stream has no reports yet. -/
theorem reportsOf_of_tasks (tasks : next.tasks = controller.tasks ∨
    ∃ stream, next.tasks = controller.tasks ++ [controller.newTask stream]) (index : Nat) :
    next.reportsOf index = controller.reportsOf index := by
  rcases tasks with same | ⟨stream, added⟩
  · rw [reportsOf, same, reportsOf]
  · rw [reportsOf, added, reportsOf]
    rcases Nat.lt_trichotomy index controller.tasks.length with before | last | after
    · rw [List.getElem?_append_left before]
    · rw [last, List.getElem?_concat_length, List.getElem?_eq_none (Nat.le_refl _)]
      rfl
    · have short : (controller.tasks ++ [controller.newTask stream]).length ≤ index := by
        rw [List.length_append, List.length_singleton]
        exact after
      rw [List.getElem?_eq_none short, List.getElem?_eq_none (Nat.le_of_lt after)]

/-- One task changes. -/
theorem reportsOf_of_set {index : Nat} {task changed : Task}
    (found : controller.tasks[index]? = some task)
    (tasks : next.tasks = controller.tasks.set index changed) (position : Nat) :
    next.reportsOf position =
      if index = position then changed.worker.reports else controller.reportsOf position := by
  have within := (List.getElem?_eq_some_iff.mp found).1
  rw [reportsOf, tasks, List.getElem?_set]
  by_cases same : index = position
  · simp only [same, if_true]
    rw [if_pos (same ▸ within), Option.elim_some]
  · simp only [same, if_false]
    rfl

/-- What a step of a task sends. -/
inductive Sends (controller : Controller) (index : Nat) (event : TaskEvent)
    (next : Controller) : Prop where
  | silent (offered : controller.offers (.task index event) = none)
      (kept : ∀ position, next.reportsOf position = controller.reportsOf position)
  | line (task : Task) (line : StreamStats)
      (found : controller.tasks[index]? = some task) (phase : task.phase = .working)
      (unreturned : ∀ result, task.worker.pc ≠ .returned result)
      (handing : task.worker.handingOut = [line])
      (offered : controller.offers (.task index event) = some line)
      (reported : ∀ position, next.reportsOf position =
        if index = position then controller.reportsOf position ++ [line]
        else controller.reportsOf position)

theorem sends_of_taskStep {index : Nat} {event : TaskEvent}
    (step : controller.taskStep index event = some next) : Sends controller index event next := by
  rcases takes_of_taskStep step with ⟨task, changed, found, tasks, takes⟩
  have reports := reportsOf_of_set found tasks
  have silently : controller.offers (.task index event) = none →
      changed.worker.reports = task.worker.reports → Sends controller index event next := by
    intro offered kept
    apply Sends.silent offered
    intro position
    rw [reports]
    by_cases same : index = position
    · rw [if_pos same, kept, ← same, reportsOf_of_found found]
    · rw [if_neg same]
  cases takes with
  | post result phase pc => exact silently rfl rfl
  | finish result phase => exact silently rfl rfl
  | panic phase listening => exact silently rfl rfl
  | work event worker phase moved =>
      by_cases sent : event = .sent true
      · subst sent
        rcases StreamWorker.reports_of_sent moved with ⟨line, handing, added, unreturned⟩
        have offered : controller.offers (.task index (.work (.sent true))) = some line := by
          simp only [offers, found, Option.bind_some]
          simp only [StreamWorker.handingOut] at handing
          split at handing
          · rename_i stage
            rw [stage]
            exact congrArg some (List.singleton_inj.mp handing)
          · rename_i stage
            rw [stage]
            exact congrArg some (List.singleton_inj.mp handing)
          · rename_i stage
            exact absurd stage (unreturned _)
          · cases handing
        apply Sends.line task line found phase unreturned handing offered
        intro position
        rw [reports]
        by_cases same : index = position
        · rw [if_pos same, if_pos same, added, ← same, reportsOf_of_found found]
        · rw [if_neg same, if_neg same]
      · have kept := StreamWorker.reports_of_silent sent moved
        refine silently ?_ kept
        cases event with
        | sent delivered =>
            cases delivered with
            | true => exact absurd rfl sent
            | false => rfl
        | _ => rfl

/-- The lines of every task stay as they should be. -/
theorem recorded_of_taskStep {index : Nat} {event : TaskEvent}
    (recorded : ∀ task ∈ controller.tasks, task.Recorded)
    (step : controller.taskStep index event = some next) :
    ∀ task ∈ next.tasks, task.Recorded := by
  rcases takes_of_taskStep step with ⟨task, changed, found, tasks, takes⟩
  intro other otherMem
  rw [tasks] at otherMem
  rcases List.mem_or_eq_of_mem_set otherMem with before | same
  · exact recorded other before
  · rw [same]
    exact (recorded task (List.mem_of_getElem? found)).takes takes

theorem recorded_of_tasks (recorded : ∀ task ∈ controller.tasks, task.Recorded)
    (tasks : next.tasks = controller.tasks ∨
      ∃ stream, next.tasks = controller.tasks ++ [controller.newTask stream]) :
    ∀ task ∈ next.tasks, task.Recorded := by
  intro task taskMem
  rcases tasks with same | ⟨stream, added⟩
  · exact recorded task (same ▸ taskMem)
  · rw [added] at taskMem
    rcases List.mem_append.mp taskMem with old | new
    · exact recorded task old
    · rw [List.mem_singleton.mp new]
      exact newTask_recorded controller stream

end Controller

end Iperf
