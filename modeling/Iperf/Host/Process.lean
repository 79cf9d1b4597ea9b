import Iperf.Host.Standing

/-!
# The process the server runs in

A worker begins with a buffer of as many bytes as its peer has asked for.  A capacity that
no vector can have panics in the task of the worker alone.  Where the allocator refuses the
bytes, though, the process aborts, and with it the accept loop and all tests.
-/

namespace Iperf

open Channel Transition

/-! ## The buffer of a worker -/

/-- The greatest capacity of a vector of bytes, `isize::MAX`. -/
def isizeMax : Nat := 9223372036854775807

/-- What becomes of `vec![0_u8; size]`. -/
inductive Allocation where
  | ready
  /-- The capacity overflows: a panic. -/
  | overflow
  /-- The allocator refuses: the process aborts. -/
  | refused
  deriving DecidableEq

/-- For an empty vector nothing is allocated, and a capacity above `isize::MAX` is not even
asked for. -/
def Allocation.possible (size : Nat) : Allocation → Bool
  | .ready => decide (size ≤ isizeMax)
  | .overflow => decide (isizeMax < size)
  | .refused => decide (0 < size ∧ size ≤ isizeMax)

namespace Controller

variable {controller next : Controller}

/-- Every worker has the parameters of its test. -/
def Equipped (controller : Controller) : Prop :=
  ∀ task ∈ controller.tasks, task.worker.params = controller.perf.params

theorem Equipped.step (equipped : controller.Equipped) {event : Event}
    (step : controller.step event = some next) : next.Equipped := by
  cases happens_of_step step with
  | controller event _ move =>
      intro task taskMem
      rw [move.perf]
      rcases move.tasks with same | ⟨stream, added⟩
      · exact equipped task (same ▸ taskMem)
      · rw [added] at taskMem
        rcases List.mem_append.mp taskMem with old | new
        · exact equipped task old
        · rw [List.mem_singleton.mp new]
          rfl
  | task index event _ move =>
      unfold Equipped
      rw [move.frame.perf]
      apply move.forall_tasks equipped
      intro task changed _ kept evolves
      cases evolves with
      | work event worker phase moved same => exact same.params.trans kept
      | post | finish | panic => exact kept
  | outside event _ outside =>
      intro task taskMem
      rw [outside.tasks] at taskMem
      rw [outside.perf]
      exact equipped task taskMem

end Controller

structure Process where
  host : Host
  /-- The workers that have their buffer, by test and position. -/
  buffers : List (Nat × Nat)
  /-- The worker whose buffer was refused. -/
  aborted : Option (Nat × Nat)

inductive ProcessEvent where
  | host (event : HostEvent)
  /-- A worker is polled for the first time and makes its buffer. -/
  | allocate (test index : Nat) (outcome : Allocation)

/-- What happens to the server. -/
def ProcessEvent.onHost : ProcessEvent → List HostEvent
  | .host event => [event]
  | .allocate test index .overflow => [.task test index .panic]
  | .allocate _ _ _ => []

/-- Besides its own events the server sees the panics of overflowing buffers. -/
theorem ProcessEvent.eq_of_onHost {own : ProcessEvent} {event : HostEvent}
    (shown : event ∈ own.onHost) :
    own = .host event ∨ ∃ test index, event = .task test index .panic := by
  cases own with
  | host other => exact .inl (congrArg _ (List.mem_singleton.mp shown).symm)
  | allocate test index outcome =>
      cases outcome with
      | overflow => exact .inr ⟨test, index, List.mem_singleton.mp shown⟩
      | ready | refused => cases shown

namespace Process

def new (build : Build) : Process where
  host := .new build
  buffers := []
  aborted := none

/-- A worker does nothing else before it has its buffer. -/
def admits (process : Process) : HostEvent → Bool
  | .task test index _ => decide ((test, index) ∈ process.buffers)
  | _ => true

/-- The task at `index` of `test`, if it has not been polled yet. -/
def unpolled (process : Process) (test index : Nat) : Option Task := do
  let controller ← process.host.tests[test]?
  let task ← controller.tasks[index]?
  if task.isListening ∧ (test, index) ∉ process.buffers then some task else none

def allocate (json : Json) (process : Process) (test index : Nat) :
    Allocation → Option Process
  | .ready => some { process with buffers := (test, index) :: process.buffers }
  | .overflow =>
      (process.host.step json (.task test index .panic)).map fun host => { process with host }
  | .refused => some { process with aborted := some (test, index) }

def step (json : Json) (process : Process) : ProcessEvent → Option Process
  | .host event =>
      if process.aborted = none ∧ process.admits event then
        (process.host.step json event).map fun host => { process with host }
      else none
  | .allocate test index outcome => do
      let task ← process.unpolled test index
      if process.aborted = none ∧ outcome.possible task.worker.params.blockSize then
        process.allocate json test index outcome
      else none

variable {json : Json} {process next : Process} {event : ProcessEvent}

theorem unpolled_eq_some {test index : Nat} {task : Task}
    (unpolled : process.unpolled test index = some task) :
    ∃ controller, process.host.tests[test]? = some controller ∧
      controller.tasks[index]? = some task := by
  simp only [Process.unpolled, Option.bind_eq_bind, Option.bind_eq_some_iff] at unpolled
  rcases unpolled with ⟨controller, found, other, held, same⟩
  split at same
  · cases same
    exact ⟨controller, found, held⟩
  · cases same

/-- What a step does to the server, and what becomes of the process. -/
structure Move (json : Json) (process next : Process) (event : ProcessEvent) : Prop where
  running : process.aborted = none
  host : run (Host.step json) process.host event.onHost = some next.host
  aborted : ∀ test index, next.aborted = some (test, index) ↔
    event = .allocate test index .refused
  asked : ∀ test index, event = .allocate test index .refused →
    ∃ controller task, next.host.tests[test]? = some controller ∧
      controller.tasks[index]? = some task ∧ 0 < task.worker.params.blockSize ∧
      task.worker.params.blockSize ≤ isizeMax

theorem move_of_step (step : process.step json event = some next) :
    Move json process next event := by
  -- Only a refusal aborts the process.
  have goesOn : process.aborted = none → next.aborted = process.aborted →
      (∀ test index, event ≠ .allocate test index .refused) →
      run (Host.step json) process.host event.onHost = some next.host →
      Move json process next event := by
    intro running kept other host
    refine ⟨running, host, ?_, fun test index refused => absurd refused (other test index)⟩
    intro test index
    rw [kept, running]
    exact iff_of_false (by rintro ⟨⟩) (other test index)
  cases event with
  | host event =>
      simp only [Process.step] at step
      split at step
      · rename_i may
        rcases Option.map_eq_some_iff.mp step with ⟨host, hosted, rfl⟩
        exact goesOn may.1 rfl (by rintro _ _ ⟨⟩) ((run_singleton _ _ _).trans hosted)
      · cases step
  | allocate test index outcome =>
      simp only [Process.step, Option.bind_eq_bind, Option.bind_eq_some_iff] at step
      rcases step with ⟨task, unpolled, step⟩
      split at step
      · rename_i may
        cases outcome with
        | ready =>
            cases step
            exact goesOn may.1 rfl (by rintro _ _ ⟨⟩) rfl
        | overflow =>
            rcases Option.map_eq_some_iff.mp step with ⟨host, hosted, rfl⟩
            exact goesOn may.1 rfl (by rintro _ _ ⟨⟩) ((run_singleton _ _ _).trans hosted)
        | refused =>
            cases step
            refine ⟨may.1, rfl, ?_, ?_⟩
            · intro other position
              simp
            · rintro _ _ ⟨⟩
              rcases unpolled_eq_some unpolled with ⟨controller, found, held⟩
              have size := of_decide_eq_true may.2
              exact ⟨controller, task, found, held, size⟩
      · cases step

/-- Until it aborts, the process runs the server. -/
theorem host_of_run {events : List ProcessEvent}
    (finished : run (Process.step json) process events = some next) :
    run (Host.step json) process.host (events.flatMap ProcessEvent.onHost) = some next.host := by
  induction events generalizing process with
  | nil =>
      rw [run_nil] at finished
      cases finished
      rfl
  | cons event events ih =>
      rcases (run_cons_eq_some_iff _ _ _ _ _).mp finished with ⟨middle, step, rest⟩
      rw [List.flatMap_cons]
      exact run_append_of_run (move_of_step step).host (ih rest)

/-- The accept loop ends in the process as it ends in the server. -/
theorem stopped_iff {build : Build} {events : List ProcessEvent}
    (finished : run (Process.step json) (.new build) events = some process) :
    process.host.accept = .stopped ↔
      ∃ event, .host event ∈ events ∧ HostEvent.isEnd event = true := by
  rw [Host.stopped_iff_of_run (host_of_run finished)]
  constructor
  · rintro ⟨event, eventMem, ends⟩
    rcases List.mem_flatMap.mp eventMem with ⟨own, ownMem, shown⟩
    rcases ProcessEvent.eq_of_onHost shown with rfl | ⟨test, index, rfl⟩
    · exact ⟨event, ownMem, ends⟩
    · cases ends
  · rintro ⟨event, eventMem, ends⟩
    exact ⟨event, List.mem_flatMap.mpr ⟨_, eventMem, List.mem_singleton_self _⟩, ends⟩

end Process

end Iperf
