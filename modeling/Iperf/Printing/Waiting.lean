import Iperf.Host.Standing
import Iperf.Printing.Sections

/-!
# What the server waits for

The accept loop, the tests and the printing loop together.  Where the accept loop has a
connection in hand it waits for two things only: the `Hello` of the connection, or room for
the stats receiver of the test it has made.  The room comes: the printing loop goes on until
it has printed the test before, whose controller is gone by then.
-/

namespace Iperf

open Channel Transition

namespace Controller

variable {controller next : Controller}

/-- A controller that has ended has dropped its stats sender. -/
def Dropped (controller : Controller) : Prop :=
  controller.alive = false → controller.statsSender = false

theorem dropped_of_alive (running : controller.alive = true) : controller.Dropped := by
  intro gone
  rw [running] at gone
  cases gone

theorem dropped_finish (controller : Controller) (ending : Ending) :
    (controller.finish ending).Dropped :=
  fun _ => rfl

theorem dropped_setState (controller : Controller) (target : State) :
    (controller.setState target).Dropped := by
  apply dropped_of_alive
  simp only [setState, alive, setStatePc]
  cases controller.perf.role <;> rfl

theorem dropped_afterTerminated (controller : Controller) :
    controller.afterTerminated.Dropped := by
  unfold afterTerminated
  split
  · exact dropped_setState controller .exchangeResults
  · exact dropped_of_alive rfl

theorem dropped_forwardResults (controller : Controller) (remote : List StreamStats) :
    (controller.forwardResults remote).Dropped := by
  unfold forwardResults
  split
  · exact dropped_of_alive rfl
  · exact dropped_finish controller _

theorem dropped_createStreamsLoop (controller : Controller) (total : UInt16) :
    (controller.createStreamsLoop total).Dropped := by
  unfold createStreamsLoop
  split <;> exact dropped_of_alive rfl

theorem dropped_register (running : controller.alive = true) (stream : TcpStream) :
    (controller.createAndRegisterStreamWorker stream).Dropped := by
  unfold createAndRegisterStreamWorker
  split
  · split
    · exact dropped_of_alive running
    · exact dropped_finish _ _
  · exact dropped_finish _ _

theorem dropped_acceptStream (running : controller.alive = true) (stream : TcpStream) :
    (controller.acceptStream stream).Dropped := by
  unfold acceptStream
  split
  · exact dropped_finish _ _
  · split
    · exact dropped_finish _ _
    · simp only
      split
      · split
        · exact dropped_setState _ _
        · exact dropped_of_alive rfl
      · exact dropped_register running stream

theorem dropped_processInternalMessage (running : controller.alive = true)
    (message : ControllerMessage) : (controller.processInternalMessage message).Dropped := by
  cases message with
  | createStream stream => exact dropped_acceptStream running stream
  | streamTerminated id =>
      simp only [processInternalMessage]
      split
      · exact dropped_of_alive rfl
      · exact dropped_afterTerminated controller
  | terminate => exact dropped_setState controller .terminate

theorem dropped_processServerMessage (controller : Controller) (message : ServerMessage) :
    (controller.processServerMessage message).Dropped := by
  cases message with
  | setState state => exact dropped_setState controller state
  | _ => exact dropped_of_alive rfl

theorem dropped_act (controller : Controller) (state : State) :
    (controller.act state).Dropped := by
  cases state with
  | start | createStreams cookie =>
      simp only [act]
      split
      · first
          | exact dropped_setState _ _
          | exact dropped_of_alive rfl
      · first
          | exact dropped_of_alive rfl
          | unfold createStreams
            split
            · exact dropped_finish _ _
            · exact dropped_createStreamsLoop _ _
  | running =>
      simp only [act]
      split
      · exact dropped_of_alive rfl
      · split
        · exact dropped_of_alive rfl
        · exact dropped_finish _ _
  | exchangeResults | terminate => exact dropped_of_alive rfl

theorem dropped_joinOne {id index : Nat} (step : controller.joinOne id index = some next) :
    next.Dropped := by
  unfold joinOne at step
  split at step <;> cases step
  · exact dropped_afterTerminated _
  · exact dropped_afterTerminated _
  · exact dropped_finish _ _

theorem dropped_forwardOne {localStats remoteStats : List StreamStats} {index : Nat}
    {delivered : Bool}
    (step : controller.forwardOne localStats remoteStats index delivered = some next) :
    next.Dropped := by
  simp only [forwardOne] at step
  split at step
  · cases step
  · split at step
    · cases step
      cases localStats <;> exact dropped_of_alive rfl
    · cases step
      exact dropped_finish _ _

theorem dropped_afterCollect (controller : Controller) (exchange : Bool) :
    (controller.afterCollect exchange).Dropped := by
  unfold afterCollect
  split
  · split <;> exact dropped_of_alive rfl
  · exact dropped_forwardResults controller []

/-- However the controller ends, its sender goes with it. -/
theorem dropped_of_controllerStep {event : ControllerEvent}
    (step : controller.controllerStep event = some next) : next.Dropped := by
  have running := (move_of_controllerStep step).alive
  cases event with
  | start | turn =>
      simp only [controllerStep] at step
      split at step <;> cases step
      exact dropped_of_alive rfl
  | act =>
      simp only [controllerStep] at step
      split at step <;> cases step
      exact dropped_act controller _
  | poll =>
      simp only [controllerStep] at step
      split at step
      · split at step <;> cases step <;> exact dropped_of_alive rfl
      · cases step
  | recv =>
      simp only [controllerStep] at step
      split at step
      · split at step <;> cases step
        exact @dropped_processInternalMessage (controller.dequeue _ _) running _
      · cases step
  | shutdown =>
      simp only [controllerStep] at step
      split at step <;> cases step
      exact dropped_setState _ _
  | clientRead outcome =>
      simp only [controllerStep] at step
      split at step
      · split at step <;> cases step
        · exact dropped_processServerMessage _ _
        · exact dropped_forwardResults _ _
        all_goals exact dropped_finish _ _
      · cases step
  | serverRead outcome =>
      simp only [controllerStep] at step
      split at step
      · split at step <;> cases step
        · exact dropped_of_alive rfl
        all_goals exact dropped_finish _ _
      · cases step
  | connect outcome =>
      simp only [controllerStep] at step
      split at step <;> cases step
      · exact dropped_of_alive rfl
      · exact dropped_finish _ _
  | reply outcome =>
      simp only [controllerStep] at step
      split at step
      · split at step <;> cases step
        · exact dropped_createStreamsLoop _ _
        · exact dropped_register running _
      · cases step
        exact dropped_finish _ _
      · cases step
  | write delivered =>
      simp only [controllerStep] at step
      split at step
      · split at step <;> cases step
        · exact dropped_of_alive rfl
        · exact dropped_finish _ _
      · split at step <;> cases step
        · exact dropped_of_alive rfl
        · exact dropped_finish _ _
      · split at step <;> cases step
        · exact dropped_forwardResults _ _
        · exact dropped_finish _ _
      · cases step
  | store =>
      simp only [controllerStep] at step
      split at step
      · split at step <;> cases step
        exact dropped_of_alive rfl
      · cases step
  | join =>
      simp only [controllerStep] at step
      split at step
      · exact dropped_joinOne step
      · cases step
  | collect id =>
      simp only [controllerStep] at step
      split at step
      · rename_i exchange pc
        unfold collectOne at step
        split at step
        · cases step
        · split at step <;> cases step <;> exact dropped_of_alive running
      · cases step
  | abandon id =>
      simp only [controllerStep] at step
      split at step
      · rename_i exchange pc
        unfold abandonOne at step
        split at step
        · cases step
        · split at step <;> cases step
          exact dropped_of_alive running
      · cases step
  | collected =>
      simp only [controllerStep] at step
      split at step
      · split at step <;> cases step
        exact dropped_afterCollect _ _
      · cases step
  | forward index delivered =>
      simp only [controllerStep] at step
      split at step
      · exact dropped_forwardOne step
      · cases step
  | done =>
      simp only [controllerStep] at step
      split at step <;> cases step
      exact dropped_finish _ _

theorem Dropped.step (dropped : controller.Dropped) {event : Event}
    (step : controller.step event = some next) : next.Dropped := by
  cases event with
  | controller event => exact dropped_of_controllerStep step
  | task index event =>
      have frame := (move_of_taskStep step).frame
      intro gone
      rw [frame.statsSender]
      apply dropped
      rw [alive, frame.pc] at gone
      exact gone
  | ctrlC | acquire | release =>
      simp only [Controller.step] at step
      split at step <;> cases step
      exact dropped
  | post message =>
      simp only [Controller.step] at step
      cases step
      rcases trySend_eq controller message with ⟨mailbox, lost, -, result⟩
      rw [result]
      exact dropped

/-- Only a worker is left of a controller that has ended. -/
theorem Dropped.listener (dropped : controller.Dropped) (gone : controller.alive = false)
    (sender : controller.hasStatsSender = true) : controller.hasListener = true := by
  have notForwarding : controller.isForwarding = false := by
    unfold isForwarding
    split
    · rename_i pc
      rw [alive, pc] at gone
      cases gone
    · rfl
  rw [hasStatsSender, dropped gone, notForwarding] at sender
  exact sender

end Controller

theorem Printout.dropped_of_reachable {build : Build} {perf : Perf} {shutdown : Shutdown}
    {printout : Printout}
    (reachable : Reachable Printout.step (.new build perf shutdown) printout) :
    printout.controller.Dropped := by
  apply reachable.invariant (fun printout : Printout => printout.controller.Dropped) _
    (by rintro ⟨⟩)
  intro source event target dropped step
  cases event with
  | side event =>
      simp only [Printout.step] at step
      split at step
      · simp only [Option.bind_eq_bind, Option.bind_eq_some_iff] at step
        rcases step with ⟨controller, moved, stats, -, done⟩
        cases done
        exact dropped.step moved
      · cases step
  | print | atEnd =>
      rcases Option.map_eq_some_iff.mp step with ⟨_, -, rfl⟩
      exact dropped

/-! ## The whole server -/

/-- Of an event of the accept loop or of a test. -/
def RunServerEvent.onHost (holds : HostEvent → Bool) : RunServerEvent → Bool
  | .host event => holds event
  | _ => false

/-- The printing loop goes on. -/
def RunServerEvent.isPrinting : RunServerEvent → Bool
  | .accept | .print | .atEnd => true
  | _ => false

namespace RunServer

variable {json : Json} {server next : RunServer}

/-- A test has been made, and there is no room for its stats receiver. -/
def awaitsRoom (server : RunServer) : Bool :=
  match server.host.accept with
  | .creating _ (.sendingStats _) => decide (server.perfStats.waiting.items.length = 1)
  | _ => false

theorem host_of_hostStep {event : HostEvent} (step : server.hostStep json event = some next) :
    server.host.step json event = some next.host := by
  simp only [hostStep, Option.bind_eq_bind, Option.bind_eq_some_iff] at step
  rcases step with ⟨host, hosted, step⟩
  rw [hosted]
  cases event with
  | controller | task | spawn =>
      simp only [Option.bind_eq_some_iff] at step
      rcases step with ⟨_, _, done⟩
      cases done
      rfl
  | _ =>
      cases step
      rfl

theorem host_of_step {event : RunServerEvent} (step : server.step json event = some next) :
    (∃ own, event = .host own ∧ server.host.step json own = some next.host) ∨
      (∀ holds, event.onHost holds = false) ∧ next.host = server.host := by
  cases event with
  | host event => exact .inl ⟨event, rfl, host_of_hostStep step⟩
  | accept | finish =>
      right
      refine ⟨fun _ => rfl, ?_⟩
      simp only [RunServer.step] at step
      split at step
      · rcases Option.map_eq_some_iff.mp step with ⟨_, -, rfl⟩
        rfl
      · cases step
  | print =>
      right
      refine ⟨fun _ => rfl, ?_⟩
      simp only [RunServer.step, Option.bind_eq_bind, Option.bind_eq_some_iff] at step
      rcases step with ⟨_, -, _, -, _, -, done⟩
      cases done
      rfl
  | atEnd =>
      right
      refine ⟨fun _ => rfl, ?_⟩
      simp only [RunServer.step, Option.bind_eq_bind, Option.bind_eq_some_iff] at step
      rcases step with ⟨_, -, _, -, _, -, _, -, done⟩
      cases done
      rfl

theorem host_reachable {build : Build}
    (reachable : Reachable (RunServer.step json) (.new build) server) :
    Reachable (Host.step json) (.new build) server.host := by
  apply reachable.invariant
    (fun server : RunServer => Reachable (Host.step json) (.new build) server.host) _
    (Reachable.refl _ _)
  intro source event target before step
  rcases host_of_step step with ⟨own, -, hosted⟩ | ⟨-, same⟩
  · exact before.tail hosted
  · rw [same]
    exact before

/-- Only at its end the printing loop leaves the channel of the stats receivers. -/
theorem perfStats_of_step {event : RunServerEvent} (other : event ≠ .finish)
    (step : server.step json event = some next) :
    next.perfStats = server.perfStats ∨ next.perfStats.ended = false := by
  cases event with
  | host event =>
      simp only [RunServer.step, hostStep, Option.bind_eq_bind, Option.bind_eq_some_iff] at step
      rcases step with ⟨host, hosted, step⟩
      cases event with
      | controller | task =>
          simp only [Option.bind_eq_some_iff] at step
          rcases step with ⟨_, _, done⟩
          cases done
          exact .inl rfl
      | spawn =>
          simp only [Option.bind_eq_some_iff] at step
          rcases step with ⟨_, sent, done⟩
          cases done
          exact .inr (Drain.send_eq_some sent).2.1
      | _ =>
          cases step
          exact .inl rfl
  | accept =>
      simp only [RunServer.step] at step
      split at step
      · rcases Option.map_eq_some_iff.mp step with ⟨_, took, rfl⟩
        exact .inr (Drain.take_eq_some took).2.1
      · cases step
  | print =>
      simp only [RunServer.step, Option.bind_eq_bind, Option.bind_eq_some_iff] at step
      rcases step with ⟨_, -, _, -, _, -, done⟩
      cases done
      exact .inl rfl
  | atEnd =>
      simp only [RunServer.step, Option.bind_eq_bind, Option.bind_eq_some_iff] at step
      rcases step with ⟨_, -, _, -, _, -, _, -, done⟩
      cases done
      exact .inl rfl
  | finish => exact absurd rfl other

/-- The printing loop does not leave before the accept loop. -/
theorem receiving_of_step {event : RunServerEvent} (standing : server.host.Standing json)
    (receiving : server.perfStats.ended = true → server.host.accept = .stopped)
    (step : server.step json event = some next) :
    next.perfStats.ended = true → next.host.accept = .stopped := by
  intro ended
  by_cases finishes : event = .finish
  · subst finishes
    simp only [RunServer.step] at step
    split at step
    · rcases Option.map_eq_some_iff.mp step with ⟨perfStats, finished, rfl⟩
      have gone := (Drain.finish_eq_some finished).2.1
      change server.host.accept = .stopped
      unfold HostPc.isRunning at gone
      split at gone
      · assumption
      · cases gone
    · cases step
  · rcases perfStats_of_step finishes step with same | running
    · have stopped := receiving (same ▸ ended)
      rcases host_of_step step with ⟨own, -, hosted⟩ | ⟨-, kept⟩
      · exact (standing.stopped_iff hosted).mpr (.inl stopped)
      · rw [kept]
        exact stopped
    · rw [ended] at running
      cases running

theorem receiving_of_reachable {build : Build}
    (reachable : Reachable (RunServer.step json) (.new build) server) :
    server.perfStats.ended = true → server.host.accept = .stopped := by
  have kept := reachable.invariant
    (fun server : RunServer => Reachable (RunServer.step json) (.new build) server ∧
      (server.perfStats.ended = true → server.host.accept = .stopped))
    (fun _ _ _ before step => ⟨before.1.tail step, receiving_of_step
      (Host.standing_of_reachable (host_reachable before.1)) before.2 step⟩)
    ⟨Reachable.refl _ _, by rintro ⟨⟩⟩
  exact kept.2

/-- A channel is at its end only if its test is the current one no longer. -/
def Timely (server : RunServer) : Prop :=
  ∀ test, server.IsOver test →
    test < server.perfStats.taken.length ∧ server.current ≠ some test

/-- Where one channel is changed. -/
theorem isOver_of_set {test other : Nat} {channel passed : StatsChannel}
    (held : server.stats[test]? = some channel)
    (stats : next.stats = server.stats.set test passed) (past : next.IsOver other) :
    (other = test ∧ passed.ended = true) ∨ (other ≠ test ∧ server.IsOver other) := by
  rcases past with ⟨found, heldNext, ended⟩
  rw [stats] at heldNext
  by_cases same : other = test
  · subst same
    rw [List.getElem?_set_self (List.getElem?_eq_some_iff.mp held).1] at heldNext
    cases heldNext
    exact .inl ⟨rfl, ended⟩
  · rw [List.getElem?_set_ne (Ne.symm same)] at heldNext
    exact .inr ⟨same, found, heldNext, ended⟩

theorem Timely.step (timely : server.Timely) (sectioned : server.Sectioned)
    (later : next.Sectioned) {event : RunServerEvent}
    (step : server.step json event = some next) : next.Timely := by
  cases move_of_step step with
  | aside tests length build stats unprinted =>
      intro test past
      rw [unprinted.perfStats, unprinted.current]
      exact timely test (isOver_of_stats stats.symm test past)
  | side test event controller changed channel passed found held moved tests build stats
      unprinted =>
      intro other past
      rw [unprinted.perfStats, unprinted.current]
      apply timely
      rcases isOver_of_set held stats past with ⟨rfl, ended⟩ | ⟨-, before⟩
      · exact ⟨channel, held, (Printout.kept_of_side moved).2.symm.trans ended⟩
      · exact before
  | spawn shutdown perf tests build stats sent current output =>
      rintro test ⟨channel, held, ended⟩
      rw [(Drain.send_eq_some sent).2.2.1, current]
      apply timely
      rw [stats] at held
      rcases Nat.lt_or_ge test server.stats.length with before | last
      · rw [List.getElem?_append_left before] at held
        exact ⟨channel, held, ended⟩
      · rw [List.getElem?_append_right last] at held
        cases List.mem_singleton.mp (List.mem_of_getElem? held)
        cases ended
  | accept test idle host stats took current output =>
      intro other past
      have before := (timely other (isOver_of_stats stats.symm other past)).1
      have longer : next.perfStats.taken.length = server.perfStats.taken.length + 1 := by
        rw [(Drain.take_eq_some took).2.2.1, List.length_append, List.length_singleton]
      rw [longer]
      constructor
      · exact Nat.lt_succ_of_lt before
      · intro same
        have position := later.current other same
        rw [longer, Nat.add_right_cancel_iff] at position
        exact absurd position (Nat.ne_of_lt before)
  | print test line channel rest busy held took host stats perfStats current output =>
      intro other past
      rw [perfStats, current]
      apply timely
      rcases isOver_of_set held stats past with ⟨-, ended⟩ | ⟨-, before⟩
      · rw [(Drain.take_eq_some took).2.1] at ended
        cases ended
      · exact before
  | atEnd test controller channel ended busy found held finished host stats perfStats current
      output =>
      intro other past
      rw [perfStats, current]
      refine ⟨?_, by rintro ⟨⟩⟩
      rcases isOver_of_set held stats past with ⟨rfl, -⟩ | ⟨-, before⟩
      · rw [← sectioned.current other busy]
        exact Nat.lt_succ_self other
      · exact (timely other before).1
  | finish idle host stats senders finished current output =>
      intro test past
      rw [(Drain.finish_eq_some finished).2.2.2.1, current]
      exact ⟨(timely test (isOver_of_stats stats.symm test past)).1, by rintro ⟨⟩⟩

theorem timely_of_reachable {build : Build}
    (reachable : Reachable (RunServer.step json) (.new build) server) : server.Timely := by
  have kept := reachable.invariant (fun server : RunServer => server.Sectioned ∧ server.Timely)
    (fun _ _ _ before step =>
      ⟨before.1.step step, before.2.step before.1 (before.1.step step) step⟩)
    ⟨new_sectioned build, by rintro test ⟨channel, ⟨⟩, -⟩⟩
  exact kept.2

/-! ## The printing loop -/

/-- The current test of the printing loop and its channel. -/
theorem found_of_current {build : Build}
    (reachable : Reachable (RunServer.step json) (.new build) server) {test : Nat}
    (busy : server.current = some test) :
    ∃ controller channel, server.host.tests[test]? = some controller ∧
      server.stats[test]? = some channel ∧ channel.ended = false ∧ controller.Dropped := by
  have sectioned := sectioned_of_reachable reachable
  have apart := apart_of_reachable reachable
  have within : test < server.host.tests.length := by
    have inside := server.perfStats.taken_first.length_le
    rw [sectioned.queue, List.length_range, ← sectioned.current test busy] at inside
    exact inside
  have found := List.getElem?_eq_getElem within
  have held := List.getElem?_eq_getElem (apart.sizes.symm ▸ within)
  refine ⟨_, _, found, held, ?_, ?_⟩
  · apply eq_false_of_ne_true
    intro ended
    exact (timely_of_reachable reachable test ⟨_, held, ended⟩).2 busy
  · rcases apart.runs test _ _ found held with ⟨perf, shutdown, alone⟩
    exact Printout.dropped_of_reachable alone

/-- Where the accept loop waits for room, the printing loop goes on, or a worker of the test
that it prints is left. -/
theorem printing_of_awaitsRoom {build : Build}
    (reachable : Reachable (RunServer.step json) (.new build) server)
    (waits : server.awaitsRoom = true) :
    (∃ event, event.isPrinting = true ∧ (server.step json event).isSome = true) ∨
      ∃ test controller, server.current = some test ∧
        server.host.tests[test]? = some controller ∧ controller.alive = false ∧
        controller.hasListener = true := by
  have standing := Host.standing_of_reachable (host_reachable reachable)
  unfold awaitsRoom at waits
  split at waits
  · rename_i shutdown perf creating
    have full := of_decide_eq_true waits
    cases busy : server.current with
    | none =>
        have running : server.perfStats.ended = false := by
          apply eq_false_of_ne_true
          intro ended
          rw [receiving_of_reachable reachable ended] at creating
          cases creating
        rcases Drain.take_of_full running full Nat.one_pos with ⟨test, rest, took⟩
        refine .inl ⟨.accept, rfl, ?_⟩
        simp only [RunServer.step, busy, took, Option.map_some, Option.isSome_some]
    | some test =>
        rcases found_of_current reachable busy with
          ⟨controller, channel, found, held, open_, dropped⟩
        have gone : controller.alive = false := by
          have dead := standing.slotted.creating shutdown _ creating test
          rw [Host.isAlive, found] at dead
          exact dead
        cases sender : controller.hasStatsSender with
        | true => exact .inr ⟨test, controller, rfl, found, gone, dropped.listener gone sender⟩
        | false =>
            left
            rcases Drain.goes_on open_ false (.inl rfl) with ⟨line, rest, took⟩ | ⟨rest, finished⟩
            · refine ⟨.print, rfl, ?_⟩
              simp only [RunServer.step, busy, held, took, Option.bind_eq_bind, Option.bind_some,
                Option.pure_def, Option.isSome_some]
            · refine ⟨.atEnd, rfl, ?_⟩
              simp only [RunServer.step, busy, found, held, sender, finished, Option.bind_eq_bind,
                Option.bind_some, Option.pure_def, Option.isSome_some]
  · cases waits

/-! ## The accept loop -/

/-- Beside the printing loop the accept loop takes the steps it could take without, except
that a test that has been made waits for room. -/
theorem isSome_hostStep {event : HostEvent} (own : event.isTurn = true) :
    (server.hostStep json event).isSome = true ↔ (server.host.step json event).isSome = true ∧
      (event = .spawn → (server.perfStats.send server.host.tests.length).isSome = true) := by
  unfold hostStep
  cases server.host.step json event with
  | none => simp
  | some host =>
      cases event with
      | spawn =>
          cases server.perfStats.send server.host.tests.length <;> simp
      | controller | task => cases own
      | _ => simp

/-- There is room exactly unless the channel is full. -/
theorem isSome_send {build : Build}
    (reachable : Reachable (RunServer.step json) (.new build) server)
    (working : server.host.accept.isFree = false) (test : Nat) :
    (server.perfStats.send test).isSome = true ↔ server.perfStats.waiting.items.length ≠ 1 := by
  have running : server.perfStats.ended = false := by
    apply eq_false_of_ne_true
    intro ended
    rw [receiving_of_reachable reachable ended] at working
    cases working
  rw [Drain.send, dif_pos running, Option.isSome_map, ← Option.ne_none_iff_isSome, ne_eq,
    Queue.trySend_eq_none_iff]

/-- Where the accept loop can go on. -/
theorem exists_turn_iff {build : Build}
    (reachable : Reachable (RunServer.step json) (.new build) server) :
    (∃ event, HostEvent.isTurn event = true ∧ (server.step json (.host event)).isSome = true) ↔
      server.host.accept.isFree = false ∧ server.host.accept.awaitsHello json = false ∧
        server.awaitsRoom = false := by
  have standing := Host.standing_of_reachable (host_reachable reachable)
  constructor
  · rintro ⟨event, own, goes⟩
    rcases (isSome_hostStep own).mp goes with ⟨hosted, room⟩
    rcases Option.isSome_iff_exists.mp hosted with ⟨host, step⟩
    have working := standing.working_of_turn own step
    refine ⟨working, Host.heard_of_turn own step, ?_⟩
    apply eq_false_of_ne_true
    intro waits
    unfold awaitsRoom at waits
    split at waits
    · rename_i shutdown perf creating
      cases event with
      | spawn =>
          exact (isSome_send reachable working _).mp (room rfl) (of_decide_eq_true waits)
      | handle | createHello | createWelcome | createParams | timeout =>
          simp [Host.step, creating] at step
      | _ => cases own
    · cases waits
  · rintro ⟨working, heard, roomy⟩
    rcases standing.exists_turn working heard with ⟨event, own, goes⟩
    refine ⟨event, own, (isSome_hostStep own).mpr ⟨goes, ?_⟩⟩
    rintro rfl
    rw [isSome_send reachable working]
    intro full
    rcases Option.isSome_iff_exists.mp goes with ⟨host, step⟩
    simp only [Host.step] at step
    split at step
    · rename_i shutdown perf creating
      simp only [awaitsRoom, creating, full, decide_true] at roomy
      cases roomy
    · cases step

end RunServer

/-- With no more than four steps for each connection the accept loop is back in its `select!`.
Until then it can take the next of them, unless it waits for a `Hello`, which ends when the
connection is closed, or for room, which the printing loop makes unless a worker of the test
before is left. -/
theorem RunServer.accept_loop_goes_on (json : Json) (build : Build)
    {events : List RunServerEvent} {server : RunServer}
    (finished : run (RunServer.step json) (.new build) events = some server) :
    server.host.accept.turns + events.countP (·.onHost HostEvent.isTurn) ≤
        4 * events.countP (·.onHost HostEvent.isAccept) ∧
      ((∃ event, HostEvent.isTurn event = true ∧
          (server.step json (.host event)).isSome = true) ↔
        server.host.accept.isFree = false ∧ server.host.accept.awaitsHello json = false ∧
          server.awaitsRoom = false) ∧
      (server.host.accept.awaitsHello json = true → ∀ bytes, ∃ next,
        server.step json (.host (.arrive bytes true)) = some next ∧
          next.host.accept.awaitsHello json = false) ∧
      (server.awaitsRoom = true →
        (∃ event, RunServerEvent.isPrinting event = true ∧
          (server.step json event).isSome = true) ∨
        ∃ test controller, server.current = some test ∧
          server.host.tests[test]? = some controller ∧ controller.alive = false ∧
          controller.hasListener = true) := by
  have reachable : Reachable (RunServer.step json) (.new build) server := ⟨events, finished⟩
  refine ⟨?_, exists_turn_iff reachable, ?_, printing_of_awaitsRoom reachable⟩
  · have paid := run_potential (Reachable (RunServer.step json) (.new build))
      (fun server => server.host.accept.turns) (·.onHost HostEvent.isTurn)
      (·.onHost HostEvent.isAccept) 4 (fun _ _ _ before step => before.tail step)
      (fun source event target before step => by
        rcases host_of_step step with ⟨own, rfl, hosted⟩ | ⟨outside, same⟩
        · exact (Host.standing_of_reachable (host_reachable before)).turns hosted
        · simp only [outside, same, Bool.false_eq_true, if_false, Nat.add_zero, Nat.le_refl])
      (Reachable.refl _ _) finished
    rw [show (RunServer.new build).host.accept.turns = 0 from rfl, Nat.zero_add] at paid
    exact paid
  · intro waits bytes
    rcases Host.heard_of_close waits bytes with ⟨host, step, heard⟩
    refine ⟨{ server with host }, ?_, heard⟩
    simp only [RunServer.step, hostStep, step, Option.bind_eq_bind, Option.bind_some,
      Option.pure_def]

/-- A test ends at once, and the next one is made before the printing loop looks. -/
def RunServer.untilFull : List RunServerEvent :=
  (Host.creation (.asking (.ofDefaults "c") "c" 0)).map .host ++
    controllerEvents 0 [.start, .turn, .act, .write false] ++
    (Host.creation (.asking (.ofDefaults "c") "c" 1)).dropLast.map .host

private theorem RunServer.untilFull_runs :
    (run (RunServer.step (.ofDefaults "c")) (.new ⟨true, true⟩) untilFull).isSome = true := by
  decide +kernel

/-- A connection that has sent nothing yet. -/
def RunServer.untilSilent : List RunServerEvent :=
  [.host (.accept (.silent 0))]

private theorem RunServer.untilSilent_runs :
    (run (RunServer.step (.ofDefaults "c")) (.new ⟨true, true⟩) untilSilent).isSome = true := by
  decide +kernel

/-- The accept loop waits for room, which the printing loop can make, or for a `Hello`, and
goes on when the connection is closed. -/
theorem RunServer.accept_loop_goes_on_two :
    ∃ full silent : RunServer,
      run (RunServer.step (.ofDefaults "c")) (.new ⟨true, true⟩) untilFull = some full ∧
      full.host.accept.turns + 7 ≤ 4 * 2 ∧ full.awaitsRoom = true ∧
      (∃ event, RunServerEvent.isPrinting event = true ∧
        (full.step (.ofDefaults "c") event).isSome = true) ∧
      run (RunServer.step (.ofDefaults "c")) (.new ⟨true, true⟩) untilSilent = some silent ∧
      silent.host.accept.awaitsHello (.ofDefaults "c") = true ∧
      ∃ next, silent.step (.ofDefaults "c") (.host (.arrive [] true)) = some next ∧
        next.host.accept.awaitsHello (.ofDefaults "c") = false := by
  let full := (run (RunServer.step (.ofDefaults "c")) (.new ⟨true, true⟩) untilFull).get
    untilFull_runs
  have toFull : run (RunServer.step (.ofDefaults "c")) (.new ⟨true, true⟩) untilFull =
      some full := (Option.some_get untilFull_runs).symm
  let silent := (run (RunServer.step (.ofDefaults "c")) (.new ⟨true, true⟩) untilSilent).get
    untilSilent_runs
  have toSilent : run (RunServer.step (.ofDefaults "c")) (.new ⟨true, true⟩) untilSilent =
      some silent := (Option.some_get untilSilent_runs).symm
  have turns : untilFull.countP (·.onHost HostEvent.isTurn) = 7 := by decide +kernel
  have accepts : untilFull.countP (·.onHost HostEvent.isAccept) = 2 := by decide +kernel
  have room : full.awaitsRoom = true := by decide +kernel
  have free : full.current = none := by decide +kernel
  have hello : silent.host.accept.awaitsHello (.ofDefaults "c") = true := by decide +kernel
  rcases accept_loop_goes_on (.ofDefaults "c") ⟨true, true⟩ toFull with ⟨paid, -, -, printing⟩
  rw [turns, accepts] at paid
  have prints := (printing room).resolve_right (by
    rintro ⟨test, controller, current, -⟩
    cases free.symm.trans current)
  rcases accept_loop_goes_on (.ofDefaults "c") ⟨true, true⟩ toSilent with ⟨-, -, closes, -⟩
  exact ⟨full, silent, toFull, paid, room, prints, toSilent, hello, closes hello []⟩

end Iperf
