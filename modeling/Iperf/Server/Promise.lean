import Iperf.Controller.Exchange
import Iperf.Server.LifeCycle
import Iperf.Server.Surplus

/-!
# What the announcements of a server promise

An announcement is a promise to the client: with `Running` all streams are
registered, with `ExchangeResults` every one of them has ended.  Whatever the
server does afterwards, it keeps its promises.
-/

namespace Iperf

open Channel LifeCycle Transition

/-- A task that has ended stays as it is. -/
theorem Controller.TaskMove.finished {controller next : Controller} {index : Nat}
    {event : TaskEvent} (move : TaskMove controller index event next)
    (finished : ∀ task ∈ controller.tasks, task.isFinished = true) :
    ∀ task ∈ next.tasks, task.isFinished = true := by
  rcases move.evolves with ⟨source, changed, found, -, evolves⟩
  have ended := finished source (List.mem_of_getElem? found)
  rw [evolves.not_finished] at ended
  cases ended

namespace Server

variable {json : Json} {server next : Server} {event : ServerEvent}

structure Promised (server : Server) : Prop where
  load : .startLoad ∈ server.test.publisher.sent → .running ∈ server.test.announced
  running : .running ∈ server.test.announced →
    server.test.perf.neededStreams ≤ server.test.tasks.length
  exchange : .exchangeResults ∈ server.test.announced →
    ∀ task ∈ server.test.tasks, task.isFinished = true

theorem new_promised (build : Build) (perf : Perf) : (new build perf).Promised where
  load := by
    rintro ⟨⟩
  running := by
    rintro ⟨⟩
  exchange := by
    rintro ⟨⟩

/-- A server that has announced the exchange is past its `select!`. -/
theorem Tallied.not_selecting (tallied : server.Tallied)
    (announced : .exchangeResults ∈ server.test.announced) : server.test.pc ≠ .selecting := by
  intro pc
  have fits := tallied.sound.phased.test.fits
  rcases tallied.walked with ⟨log, walk, logged⟩
  rw [pc] at fits logged
  rw [logged, Pc.unstored_of_settled (by rintro target ⟨⟩), List.append_nil] at announced
  rcases fits with create | running
  · rw [create] at walk
    rw [walk.of_createStreams.2] at announced
    simp at announced
  · rw [running] at walk
    rw [walk.of_running] at announced
    simp at announced

/-- When the exchange is about to be announced, every task has ended. -/
theorem Tallied.all_finished (tallied : server.Tallied)
    (pc : server.test.pc = .announcing .exchangeResults) :
    ∀ task ∈ server.test.tasks, task.isFinished = true := by
  intro task taskMem
  rcases List.getElem?_of_mem taskMem with ⟨index, found⟩
  have empty := tallied.counted.exchanging (.inl pc)
  have looping : ¬server.test.pc.Closing := by
    rw [pc]
    exact not_false
  rcases tallied.counted.accounted looping index task found with kept | finished | joining
  · have none : server.test.workers.lookup index = none := by
      rw [AList.lookup_eq_none, AList.mem_keys, AList.keys, empty]
      exact List.not_mem_nil
    rw [none] at kept
    cases kept
  · exact finished
  · rw [pc] at joining
    cases joining

/-- What is announced after a step, if it is not the step that announces it. -/
theorem announced_before {state : State}
    (announced : next.test.announced = server.test.announced ∨
      ∃ target, server.test.pc = .announcing target ∧
        next = { server with
          test := { server.test with
            announced := server.test.announced ++ [target]
            pc := .storing target } })
    (stateMem : state ∈ next.test.announced) :
    state ∈ server.test.announced ∨
      (server.test.pc = .announcing state ∧ next.test.tasks = server.test.tasks) := by
  rcases announced with same | ⟨target, pc, result⟩
  · exact .inl (same ▸ stateMem)
  · rw [result] at stateMem ⊢
    rcases List.mem_append.mp stateMem with earlier | now
    · exact .inl earlier
    · rw [List.mem_singleton.mp now]
      exact .inr ⟨pc, rfl⟩

/-- A server that has announced the exchange registers no stream, and no task that has
ended changes. -/
private theorem Promised.finished (promised : server.Promised) (tallied : server.Tallied)
    (announced : .exchangeResults ∈ server.test.announced)
    (step : server.step json event = some next) :
    ∀ task ∈ next.test.tasks, task.isFinished = true := by
  have finished := promised.exchange announced
  cases move_of_step step with
  | controller event test move =>
      rcases move.tasks with same | ⟨stream, added⟩
      · rw [same]
        exact finished
      · have registers : test.tasks.length ≠ server.test.tasks.length := by
          rw [added, List.length_append]
          exact Nat.succ_ne_self _
        have selecting := (selecting_of_registers tallied.sound.phased.test move registers).1
        exact absurd selecting (tallied.not_selecting announced)
  | task index event test move => exact move.finished finished
  | ctrlC quiet => exact finished
  | accept event next move =>
      rw [move.outside.tasks]
      exact finished

/-- What a test has announced stays announced. -/
theorem announced_mono (step : server.step json event = some next) {state : State}
    (announced : state ∈ server.test.announced) : state ∈ next.test.announced := by
  rcases announced_of_step step with same | ⟨target, -, result⟩
  · exact same ▸ announced
  · rw [result]
    exact List.mem_append_left _ announced

/-- The load is started by a server that is running. -/
private theorem Promised.loaded (promised : server.Promised) (tallied : server.Tallied)
    (step : server.step json event = some next)
    (loaded : .startLoad ∈ next.test.publisher.sent) : .running ∈ next.test.announced := by
  have goesOn : .startLoad ∈ server.test.publisher.sent → .running ∈ next.test.announced :=
    fun earlier => announced_mono step (promised.load earlier)
  cases move_of_step step with
  | controller event test move =>
      rcases move.publisher with same | ⟨pc, -, -, -, -⟩ | ⟨exchange, -, -, sent⟩
      · exact goesOn (same ▸ loaded)
      · apply announced_mono step
        have read := tallied.sound.phased.test.fits
        rcases tallied.walked with ⟨log, walk, logged⟩
        rw [pc] at read logged
        rw [← show State.running = server.test.state from read] at walk
        rw [logged, walk.of_running]
        simp
      · apply goesOn
        change .startLoad ∈ test.publisher.sent at loaded
        rw [sent] at loaded
        simpa using loaded
  | task index event test move =>
      rw [move.frame.publisher] at loaded
      exact goesOn loaded
  | ctrlC quiet => exact goesOn loaded
  | accept event next move =>
      rw [move.outside.publisher] at loaded
      exact goesOn loaded

theorem Promised.step (promised : server.Promised) (tallied : server.Tallied)
    (step : server.step json event = some next) : next.Promised := by
  have announces := announced_of_step step
  constructor
  · exact promised.loaded tallied step
  · intro announced
    rw [perf_of_step step]
    apply Nat.le_trans _ (tasks_length_le step)
    rcases announced_before announces announced with earlier | ⟨pc, -⟩
    · exact promised.running earlier
    · have completes : server.test.pc.CompletesStreams := by
        rw [pc]
        rfl
      exact (tallied.counted.completing completes).2.1.ge
  · intro announced
    rcases announced_before announces announced with earlier | ⟨pc, tasks⟩
    · exact promised.finished tallied earlier step
    · rw [tasks]
      exact tallied.all_finished pc

theorem promised_of_reachable {build : Build} {perf : Perf} (role : perf.role = .server)
    (reachable : Reachable (Server.step json) (new build perf) server)
    (few : server.test.tasks.length < UInt16.size) : server.Promised := by
  have both : server.Tallied ∧ server.Promised := by
    apply reachable.invariant_while (fun server => server.test.tasks.length < UInt16.size)
      (fun server => server.Tallied ∧ server.Promised)
      (fun _ _ _ step few => (tasks_length_le step).trans_lt few) _
      ⟨⟨new_sound build role, Controller.new_counted build perf, [], .start, rfl⟩,
        new_promised build perf⟩ few
    rintro source event target ⟨tallied, promised⟩ - few step
    exact ⟨tallied.step few step, promised.step tallied step⟩
  exact both.2

end Server

end Iperf
