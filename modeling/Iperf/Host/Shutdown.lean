import Iperf.Host.Servers
import Iperf.Printing.Results

/-!
# Shutting the server down

The signal reaches every test there is and every test there will be.  What a test that waits
in its main loop does then is decided by the write of its last announcement.  If the peer
takes it, the controller asks its workers to end, waits for each of them at most for the five
seconds, hands on what has been measured as the stats channel has room for it, and returns.
If the write fails, it returns with the error and hands on nothing.
-/

namespace Iperf

open Channel Transition

/-- A step of the controller that waits for no worker and for no message of the peer.  What
is written the peer takes, and the stats channel has room for what is handed on. -/
def ControllerEvent.isServed : ControllerEvent → Bool
  | .shutdown | .write true | .store | .turn | .act | .collect _ | .abandon _ | .collected
  | .forward _ true | .done => true
  | _ => false

namespace Controller

variable {controller next : Controller}

/-- The controller goes from one state to the other, with its writes and results taken. -/
abbrev GoesTo (controller next : Controller) : Prop :=
  ReachableBy (fun event => ControllerEvent.isServed event = true) controllerStep controller next

theorem goesTo_of_step {event : ControllerEvent} (own : event.isServed = true)
    (step : controller.controllerStep event = some next) : controller.GoesTo next :=
  ReachableBy.of_step own step

/-- The test has been told to end, and the workers have been told. -/
def toldToEnd (controller : Controller) : Controller :=
  { controller with
    shutdown := .taken
    state := .terminate
    announced :=
      match controller.perf.role with
      | .server => controller.announced ++ [State.terminate]
      | .client => controller.announced }.stopWorkers false

theorem goesTo_toldToEnd (pc : controller.pc = .selecting)
    (signalled : controller.shutdown ≠ .quiet) (unlocked : controller.locked = false) :
    controller.GoesTo controller.toldToEnd := by
  cases role : controller.perf.role with
  | server =>
      refine ⟨[.shutdown, .write true, .store, .turn, .act], ?_, ?_⟩
      · simp [ControllerEvent.isServed]
      · simp [run, controllerStep, pc, signalled, unlocked, setState, setStatePc, role, act,
          toldToEnd, stopWorkers, hasListener]
  | client =>
      refine ⟨[.shutdown, .store, .turn, .act], ?_, ?_⟩
      · simp [ControllerEvent.isServed]
      · simp [run, controllerStep, pc, signalled, unlocked, setState, setStatePc, role, act,
          toldToEnd, stopWorkers, hasListener]

/-- Stream `id` is still held, and its task has ended with a result. -/
def Measured (controller : Controller) (id : Nat) (stats : StreamStats) : Prop :=
  ∃ index, controller.workers.lookup id = some index ∧
    (controller.tasks[index]?).map Task.phase = some (.finished (.ok stats))

/-- One handle is done with: it completes, or its five seconds pass. -/
theorem goesTo_erase {exchange : Bool} (pc : controller.pc = .collecting exchange)
    {id index : Nat} (held : controller.workers.lookup id = some index) :
    ∃ results, controller.GoesTo { controller with
        workers := controller.workers.erase id
        streamResults := results } ∧
      (∀ stats, controller.Measured id stats → results.lookup id = some stats) ∧
      ∀ other, other ≠ id → results.lookup other = controller.streamResults.lookup other := by
  -- Only a stream that has ended with a result is measured.
  have unmeasured : (∀ result, (controller.tasks[index]?).map Task.phase ≠
      some (.finished (.ok result))) → ∀ stats, ¬controller.Measured id stats := by
    rintro other stats ⟨position, found, phase⟩
    rw [held] at found
    cases found
    exact other stats phase
  by_cases finished : (controller.tasks[index]?).any Task.isFinished = true
  · rcases Option.any_eq_true _ _ |>.mp finished with ⟨task, found, ended⟩
    have collects : ∀ {next}, controller.collectOne id = some next → controller.GoesTo next := by
      intro next done
      apply @goesTo_of_step _ _ (.collect id) rfl
      simp only [controllerStep, pc, done]
    cases phase : task.phase with
    | finished result =>
        cases result with
        | ok result =>
            refine ⟨controller.streamResults.insert id result, ?_, ?_, ?_⟩
            · apply collects
              simp only [collectOne, held, found, Option.map_some, phase]
            · rintro stats ⟨position, here, measured⟩
              rw [held] at here
              cases here
              rw [found, Option.map_some, phase, Option.some.injEq, TaskPhase.finished.injEq,
                Except.ok.injEq] at measured
              rw [AList.lookup_insert, measured]
            · exact fun other differs => AList.lookup_insert_ne differs
        | error error =>
            refine ⟨controller.streamResults, ?_, ?_, fun _ _ => rfl⟩
            · apply collects
              simp only [collectOne, held, found, Option.map_some, phase]
            · intro stats measured
              apply absurd measured (unmeasured _ stats)
              simp [found, phase]
    | panicked =>
        refine ⟨controller.streamResults, ?_, ?_, fun _ _ => rfl⟩
        · apply collects
          simp only [collectOne, held, found, Option.map_some, phase]
        · intro stats measured
          apply absurd measured (unmeasured _ stats)
          simp [found, phase]
    | working | posted result => simp [Task.isFinished, phase] at ended
  · refine ⟨controller.streamResults, ?_, ?_, fun _ _ => rfl⟩
    · apply @goesTo_of_step _ _ (.abandon id) rfl
      simp only [controllerStep, pc, abandonOne, held, finished, Bool.false_eq_true, if_false]
    · intro stats measured
      apply absurd measured (unmeasured _ stats)
      intro result phase
      rcases Option.map_eq_some_iff.mp phase with ⟨task, found, ended⟩
      rw [found, Option.any_some, Task.isFinished, ended] at finished
      exact finished rfl

/-- All handles are done with, one after the other. -/
theorem goesTo_collected {exchange : Bool} (pc : controller.pc = .collecting exchange) :
    ∃ results, controller.GoesTo { controller with workers := ∅, streamResults := results } ∧
      (∀ id stats, controller.Measured id stats → results.lookup id = some stats) ∧
      ∀ id, id ∉ controller.workers →
        results.lookup id = controller.streamResults.lookup id := by
  generalize held : controller.workers.entries = handles
  induction handles generalizing controller with
  | nil =>
      have none : controller.workers = ∅ := AList.ext held
      refine ⟨controller.streamResults, ?_, ?_, fun _ _ => rfl⟩
      · rw [← none]
        exact ReachableBy.refl _ _ _
      · rintro id stats ⟨index, found, -⟩
        rw [none] at found
        cases found
  | cons handle handles ih =>
      rcases handle with ⟨id, index⟩
      have found : controller.workers.lookup id = some index := by
        rw [AList.lookup, held, List.dlookup_cons_eq]
      rcases goesTo_erase pc found with ⟨results, goes, measured, others⟩
      have rest : (controller.workers.erase id).entries = handles := by
        change controller.workers.entries.kerase id = handles
        rw [held]
        exact List.kerase_cons_eq rfl
      rcases @ih { controller with
          workers := controller.workers.erase id
          streamResults := results } pc rest with ⟨final, later, rests, kept⟩
      have gone : id ∉ controller.workers.erase id := fun idMem => (AList.mem_erase.mp idMem).1 rfl
      refine ⟨final, goes.trans later, ?_, ?_⟩
      · rintro other stats ⟨position, here, phase⟩
        by_cases same : other = id
        · subst same
          rw [kept _ gone]
          exact measured stats ⟨position, here, phase⟩
        · apply rests
          exact ⟨position, (AList.lookup_erase_ne same).trans here, phase⟩
      · intro other missing
        have differs : other ≠ id := by
          rintro rfl
          exact missing (AList.lookup_isSome.mp (found ▸ rfl))
        rw [kept other fun otherMem => missing (AList.mem_erase.mp otherMem).2]
        exact others other differs

/-- The results are handed on, one after the other. -/
theorem goesTo_forwarded {locals : List StreamStats}
    (pc : controller.pc = .forwarding locals []) :
    controller.GoesTo ({ controller with
      forwarded := controller.forwarded ++ locals }.finish (.returned (.ok ()))) := by
  induction locals generalizing controller with
  | nil =>
      apply @goesTo_of_step _ _ .done rfl
      rw [List.append_nil]
      simp only [controllerStep, pc]
      rfl
  | cons line locals ih =>
      have sent : controller.GoesTo { controller with
          forwarded := controller.forwarded ++ [line]
          pc := .forwarding locals [] } := by
        apply @goesTo_of_step _ _ (.forward 0 true) rfl
        simp [controllerStep, pc, forwardOne]
      have rest := @ih { controller with
        forwarded := controller.forwarded ++ [line]
        pc := .forwarding locals [] } rfl
      rw [List.append_assoc, List.singleton_append] at rest
      exact sent.trans rest

/-- How a test ends that has been told to: with all it has measured handed on, and with its
workers told. -/
structure EndsAsTold (controller final : Controller) : Prop where
  returned : final.pc = .ended (.returned (.ok ()))
  tasks : final.tasks = controller.tasks
  told : controller.hasListener = true →
    final.publisher.sent = controller.publisher.sent ++ [.terminate]
  forwarded : final.forwarded = final.summaries
  measured : ∀ id stats, controller.Measured id stats → stats ∈ final.forwarded
  joined : ∀ id stats, controller.streamResults.lookup id = some stats →
    id ∉ controller.workers → stats ∈ final.forwarded

theorem mem_summaries {id : Nat} {stats : StreamStats}
    (found : controller.streamResults.lookup id = some stats) : stats ∈ controller.summaries :=
  List.mem_map_of_mem (List.mem_dlookup_iff controller.streamResults.nodupKeys |>.mp found)

/-- In its main loop a test has handed on nothing, and still holds its sender. -/
theorem goesTo_end (pc : controller.pc = .selecting) (signalled : controller.shutdown ≠ .quiet)
    (unlocked : controller.locked = false) (underway : controller.Underway) :
    ∃ final, controller.GoesTo final ∧ controller.EndsAsTold final := by
  rcases underway with ⟨none, sender⟩
  have told := goesTo_toldToEnd pc signalled unlocked
  rcases @goesTo_collected controller.toldToEnd false rfl with ⟨results, collects, rests, kept⟩
  let collected : Controller :=
    { controller.toldToEnd with workers := ∅, streamResults := results }
  have turns : collected.GoesTo { collected with
      statsSender := false
      pc := .forwarding collected.summaries [] } := by
    apply @goesTo_of_step _ _ .collected rfl
    have taken : collected.statsSender = true := sender
    change some (collected.forwardResults []) = _
    rw [forwardResults_eq taken]
  have hands := @goesTo_forwarded { collected with
    statsSender := false
    pc := .forwarding collected.summaries [] } collected.summaries rfl
  refine ⟨_, ((told.trans collects).trans turns).trans hands, ?_⟩
  have forwarded : controller.forwarded ++ collected.summaries = collected.summaries := by
    rw [none, List.nil_append]
  constructor
  · rfl
  · rfl
  · intro listening
    change (if controller.hasListener = true then controller.publisher.send .terminate
      else controller.publisher).close.sent = _
    rw [if_pos listening, Broadcast.close_sent]
    rfl
  · exact forwarded
  · intro id stats measured
    change stats ∈ controller.forwarded ++ collected.summaries
    rw [forwarded]
    exact @mem_summaries collected id stats (rests id stats measured)
  · intro id stats joined missing
    change stats ∈ controller.forwarded ++ collected.summaries
    rw [forwarded]
    exact @mem_summaries collected id stats ((kept id missing).trans joined)

/-- How a test ends that cannot announce its end: with nothing handed on, and with its workers
left to themselves. -/
structure EndsUnheard (controller final : Controller) : Prop where
  returned : final.pc = .ended (.returned (.error (.serverWriteError .ioError)))
  tasks : final.tasks = controller.tasks
  untold : final.publisher.sent = controller.publisher.sent
  forwarded : final.forwarded = []

theorem run_unheard (role : controller.perf.role = .server) (pc : controller.pc = .selecting)
    (signalled : controller.shutdown ≠ .quiet) (unlocked : controller.locked = false)
    (underway : controller.Underway) :
    ∃ final, run controllerStep controller [.shutdown, .write false] = some final ∧
      controller.EndsUnheard final := by
  refine ⟨({ controller with shutdown := .taken }.setState .terminate).finish
    (.returned (.error (.serverWriteError .ioError))), ?_, rfl, rfl, ?_, underway.1⟩
  · simp [run, controllerStep, pc, signalled, unlocked, setState, setStatePc, role, finish]
  · exact Broadcast.close_sent _

theorem handed_of_step {event : Event} (handed : controller.Handed)
    (step : controller.step event = some next) : next.Handed := by
  cases event with
  | controller event => exact (handed.step step).1
  | task index event => exact handed.aside (move_of_taskStep step).aside
  | ctrlC =>
      simp only [Controller.step] at step
      split at step
      · cases step
        exact handed.aside (aside_of_fields _ _ _ _ _)
      · cases step
  | acquire | release =>
      simp only [Controller.step] at step
      split at step
      all_goals cases step
      exact handed.aside (aside_of_fields _ _ _ _ _)
  | post message =>
      cases step
      rcases trySend_eq controller message with ⟨mailbox, lost, -, result⟩
      rw [result]
      exact handed.aside (aside_of_fields _ _ _ _ _)

end Controller

namespace Host

variable {json : Json} {host : Host}

/-- What the controller of one test does, the server does. -/
theorem run_test {test : Nat} {controller final : Controller} {events : List ControllerEvent}
    (found : host.tests[test]? = some controller)
    (ran : run Controller.controllerStep controller events = some final) :
    run (Host.step json) host (events.map (HostEvent.controller test)) =
      some { host with tests := host.tests.set test final } := by
  induction events generalizing host controller with
  | nil =>
      rw [run_nil] at ran
      cases ran
      rw [List.map_nil, run_nil]
      rcases List.getElem?_eq_some_iff.mp found with ⟨within, rfl⟩
      rw [List.set_getElem_self]
  | cons event events ih =>
      rcases (run_cons_eq_some_iff _ _ _ _ _).mp ran with ⟨middle, moved, rest⟩
      have step : host.step json (.controller test event) =
          some { host with tests := host.tests.set test middle } := by
        simp only [Host.step, found, Option.bind_eq_bind, Option.bind_some, moved]
        rfl
      rw [List.map_cons, run_cons_of_step step]
      have within := (List.getElem?_eq_some_iff.mp found).1
      have later := @ih { host with tests := host.tests.set test middle } middle
        (List.getElem?_set_self within) rest
      rw [List.set_set] at later
      exact later

/-- What a server has handed on, wherever its shutdown receiver stood at first. -/
theorem handed_of_startedAt {build : Build} {perf : Perf} {shutdown : Shutdown} {server : Server}
    (reachable : Reachable (Server.step json) (.startedAt build perf shutdown) server) :
    server.test.Handed := by
  apply Server.test_invariant (fun _ _ _ handed step => Controller.handed_of_step handed step) _
    reachable
  exact Controller.handed_of_early (by rintro _ _ ⟨⟩) rfl rfl

/-- The signal reaches every test, and no test ends as if it had been sent before.  Once it
has been sent, the write of its last announcement decides how a test ends that waits in its
main loop and is not locked.  Where the peer takes it and the stats channel takes the results,
the controller waits for nobody else: its workers are told, and everything that has been
measured is handed on.  Where the write fails, nothing is handed on. -/
theorem signal_ends_tests (json : Json) (build : Build) {host : Host}
    (reachable : Reachable (Host.step json) (.new build) host) :
    (∀ controller ∈ host.tests, controller.shutdown = .quiet ↔ host.shutdown = .quiet) ∧
      (host.shutdown ≠ .quiet → ∀ test controller, host.tests[test]? = some controller →
        controller.pc = .selecting → controller.locked = false →
          (∃ (events : List ControllerEvent) (final : Controller),
            (∀ event ∈ events, event.isServed = true) ∧
            run (Host.step json) host (events.map (HostEvent.controller test)) =
              some { host with tests := host.tests.set test final } ∧
            controller.EndsAsTold final) ∧
          ∃ final, run (Host.step json) host
              ([.shutdown, .write false].map (HostEvent.controller test)) =
              some { host with tests := host.tests.set test final } ∧
            controller.EndsUnheard final) := by
  rcases served_of_reachable reachable with ⟨-, servers, served⟩
  have told : ∀ controller ∈ host.tests,
      controller.shutdown = .quiet ↔ host.shutdown = .quiet := by
    intro controller controllerMem
    rw [← served.tests] at controllerMem
    rcases List.mem_map.mp controllerMem with ⟨server, serverMem, rfl⟩
    exact served.told server serverMem
  constructor
  · exact told
  · intro signalled test controller found pc unlocked
    rcases served.found found with ⟨server, here, rfl⟩
    rcases served.reached server (List.mem_of_getElem? here) with
      ⟨start, ⟨cookie, params, shutdown, rfl, -⟩, reached⟩
    have handed := handed_of_startedAt reached.reachable
    have underway : server.test.Underway := handed.underway pc (by rintro _ _ ⟨⟩) (by rintro _ ⟨⟩)
    have asked : server.test.shutdown ≠ .quiet := fun quiet =>
      signalled ((told _ (List.mem_of_getElem? found)).mp quiet)
    have role : server.test.perf.role = .server := by
      rcases reached.reachable with ⟨events, finished⟩
      rw [Server.perf_of_run finished]
      rfl
    constructor
    · rcases Controller.goesTo_end pc asked unlocked underway with
        ⟨final, ⟨events, taken, ran⟩, ends⟩
      exact ⟨events, final, taken, run_test found ran, ends⟩
    · rcases Controller.run_unheard role pc asked unlocked underway with ⟨final, ran, ends⟩
      exact ⟨final, run_test found ran, ends⟩

/-- The signal comes while the only stream of a test is under load. -/
private def interrupted : List HostEvent :=
  firstStream ++ ([.recv, .write true, .store, .turn, .act, .poll].map (HostEvent.controller 0)) ++
    [.ctrlC]

private theorem interrupted_runs :
    (run (Host.step (.ofDefaults "c")) (new ⟨true, true⟩) interrupted).isSome = true := by
  decide +kernel

private def afterInterrupt : Host :=
  (run (Host.step (.ofDefaults "c")) (new ⟨true, true⟩) interrupted).get interrupted_runs

private theorem afterInterrupt_reachable :
    Reachable (Host.step (.ofDefaults "c")) (.new ⟨true, true⟩) afterInterrupt :=
  ⟨interrupted, (Option.some_get interrupted_runs).symm⟩

/-- The test waits under load, with a worker that listens. -/
private theorem afterInterrupt_waits :
    (afterInterrupt.tests[0]?).any (fun controller =>
      decide (controller.pc = .selecting) && !controller.locked && controller.hasListener &&
        decide (controller.publisher.sent = [.startLoad])) = true := by
  decide +kernel

private theorem afterInterrupt_signalled : afterInterrupt.shutdown ≠ .quiet := by
  decide +kernel

theorem signal_ends_tests_interrupted :
    ∃ (host next cut : Host) (final unheard : Controller),
      Reachable (Host.step (.ofDefaults "c")) host next ∧ next.tests[0]? = some final ∧
      final.pc = .ended (.returned (.ok ())) ∧
      final.publisher.sent = [.startLoad, .terminate] ∧
      Reachable (Host.step (.ofDefaults "c")) host cut ∧ cut.tests[0]? = some unheard ∧
      unheard.publisher.sent = [.startLoad] ∧ unheard.forwarded = [] := by
  rcases Option.any_eq_true _ _ |>.mp afterInterrupt_waits with ⟨controller, found, waits⟩
  simp only [Bool.and_eq_true, decide_eq_true_eq, Bool.not_eq_true'] at waits
  rcases waits with ⟨⟨⟨selecting, unlocked⟩, listening⟩, loaded⟩
  rcases (signal_ends_tests (.ofDefaults "c") ⟨true, true⟩ afterInterrupt_reachable).2
    afterInterrupt_signalled 0 controller found selecting unlocked with
    ⟨⟨events, final, -, ran, ends⟩, unheard, cut, untold⟩
  have told := ends.told listening
  rw [loaded] at told
  have within := (List.getElem?_eq_some_iff.mp found).1
  generalize afterInterrupt = host at ran cut within
  exact ⟨host, _, _, final, unheard, ⟨_, ran⟩, List.getElem?_set_self within, ends.returned, told,
    ⟨_, cut⟩, List.getElem?_set_self within, untold.untold.trans loaded, untold.forwarded⟩

end Host

end Iperf
