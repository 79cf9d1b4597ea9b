import Iperf.Controller.Frame
import Iperf.Host.Core
import Iperf.Server.Step

/-!
# What a step of the server over many tests can do

`HostMove` lists the outcomes of a step.  Most of them leave the tests alone, or
leave to each test what is its own: `Keeps` says what that is.
-/

namespace Iperf

open Channel Transition

namespace Controller

/-- The connections in the messages the mailbox has accepted. -/
def streamsPosted (controller : Controller) : List TcpStream :=
  controller.accepted.filterMap fun message =>
    match message with
    | .createStream stream => some stream
    | _ => none

/-- A test that ends stays ended, and gets no connections. -/
structure Ages (controller next : Controller) : Prop where
  alive : next.alive = true → controller.alive = true
  streams : next.streamsPosted <+: controller.streamsPosted

/-- A test whose state is locked by someone else keeps it. -/
structure Keeps (controller next : Controller) : Prop extends Ages controller next where
  locked : next.locked = controller.locked
  state : controller.locked = true → next.state = controller.state

variable {controller next : Controller}

theorem Ages.refl (controller : Controller) : controller.Ages controller :=
  ⟨id, List.prefix_refl _⟩

theorem Keeps.refl (controller : Controller) : controller.Keeps controller :=
  ⟨Ages.refl controller, rfl, fun _ => rfl⟩

theorem streamsPosted_of_accepted (same : next.accepted = controller.accepted) :
    next.streamsPosted = controller.streamsPosted := by
  rw [streamsPosted, same, streamsPosted]

/-- A message that is no connection leaves the connections as they are. -/
theorem streamsPosted_append {message : ControllerMessage}
    (other : ∀ stream, message ≠ .createStream stream)
    (added : next.accepted = controller.accepted ++ [message]) :
    next.streamsPosted = controller.streamsPosted := by
  rw [streamsPosted, added, List.filterMap_append, streamsPosted]
  cases message with
  | createStream stream => exact absurd rfl (other stream)
  | streamTerminated id => exact List.append_nil _
  | terminate => exact List.append_nil _

theorem keeps_of_controllerStep {event : ControllerEvent}
    (step : controller.controllerStep event = some next) : controller.Keeps next := by
  have move := move_of_controllerStep step
  constructor
  · constructor
    · intro _
      exact move.alive
    · rcases move.accepted with same | added | ⟨-, earlier⟩
      · rw [streamsPosted_of_accepted same]
      · rw [streamsPosted_append (by simp) added]
      · exact earlier.filterMap _
  · exact move.locked
  · intro locked
    rcases move.state with same | ⟨target, -, free, -⟩
    · exact same
    · rw [free] at locked
      cases locked

theorem keeps_of_taskStep {index : Nat} {event : TaskEvent}
    (step : controller.taskStep index event = some next) : controller.Keeps next := by
  have move := move_of_taskStep step
  constructor
  · constructor
    · intro running
      simp only [Controller.alive, move.frame.pc] at running
      exact running
    · rcases move.accepted with same | ⟨task, result, -, -, -, -, -, added⟩
      · rw [streamsPosted_of_accepted same]
      · rw [streamsPosted_append (by simp) added]
  · exact move.frame.locked
  · intro _
    exact move.frame.state

/-- Sending changes the mailbox alone. -/
theorem trySend_alive (controller : Controller) (message : ControllerMessage) :
    (controller.trySend message).alive = controller.alive := by
  simp only [Controller.alive, trySend_pc]

/-- What an attempt to send adds to the connections. -/
theorem streamsPosted_trySend (controller : Controller) (message : ControllerMessage) :
    (controller.trySend message).streamsPosted = controller.streamsPosted ∨
      ∃ stream, message = .createStream stream ∧
        (controller.trySend message).streamsPosted = controller.streamsPosted ++ [stream] := by
  rcases trySend_eq controller message with ⟨mailbox, lost, posts, result⟩
  rw [result]
  rcases posts.accepted with same | added
  · exact .inl (streamsPosted_of_accepted same)
  · cases message with
    | createStream stream =>
        right
        refine ⟨stream, rfl, ?_⟩
        rw [streamsPosted, Controller.accepted, added, List.filterMap_append, streamsPosted]
        rfl
    | streamTerminated id => exact .inl (streamsPosted_append (by simp) added)
    | terminate => exact .inl (streamsPosted_append (by simp) added)

theorem keeps_trySend_terminate (controller : Controller) :
    controller.Keeps (controller.trySend .terminate) := by
  constructor
  · constructor
    · rw [trySend_alive]
      exact id
    · rcases streamsPosted_trySend controller .terminate with same | ⟨stream, other, -⟩
      · rw [same]
      · cases other
  · exact trySend_locked controller .terminate
  · intro _
    exact trySend_state controller .terminate

theorem keeps_signal (controller : Controller) : controller.Keeps (Host.signal controller) := by
  rw [Host.signal]
  split
  · exact ⟨⟨id, List.prefix_refl _⟩, rfl, fun _ => rfl⟩
  · exact Keeps.refl controller

/-- The lock changes hands. -/
theorem ages_lock (controller : Controller) (locked : Bool) :
    controller.Ages { controller with locked } :=
  ⟨id, List.prefix_refl _⟩

end Controller

namespace Host

variable {json : Json} {host next : Host}

/-- Every test of the one host is related to the same test of the other. -/
def TestsBy (related : Controller → Controller → Prop) (host next : Host) : Prop :=
  ∀ test : Nat, Option.Rel related host.tests[test]? next.tests[test]?

theorem TestsBy.refl {related : Controller → Controller → Prop}
    (reflexive : ∀ controller, related controller controller)
    (same : next.tests = host.tests) : TestsBy related host next := by
  intro test
  rw [same]
  cases host.tests[test]? with
  | none => exact .none
  | some controller => exact .some (reflexive controller)

theorem TestsBy.mono {weaker stronger : Controller → Controller → Prop}
    (implies : ∀ controller next, stronger controller next → weaker controller next)
    (tests : TestsBy stronger host next) : TestsBy weaker host next := by
  intro test
  have related := tests test
  generalize host.tests[test]? = before at related ⊢
  generalize next.tests[test]? = after at related ⊢
  cases related with
  | none => exact .none
  | some related => exact .some (implies _ _ related)

/-- One test changes. -/
theorem testsBy_of_set {related : Controller → Controller → Prop} {changed : Nat}
    {controller after : Controller} (reflexive : ∀ controller, related controller controller)
    (found : host.tests[changed]? = some controller) (step : related controller after)
    (set : next.tests = host.tests.set changed after) : TestsBy related host next := by
  intro test
  rw [set, List.getElem?_set]
  by_cases same : changed = test
  · subst same
    have within : changed < host.tests.length := (List.getElem?_eq_some_iff.mp found).1
    simp only [if_true, within, found]
    exact .some step
  · simp only [same, if_false]
    exact TestsBy.refl reflexive rfl test

theorem testsBy_of_modify {related : Controller → Controller → Prop} {changed : Nat}
    {change : Controller → Controller} (reflexive : ∀ controller, related controller controller)
    (step : ∀ controller, related controller (change controller))
    (modified : next.tests = host.tests.modify changed change) : TestsBy related host next := by
  intro test
  rw [modified, List.getElem?_modify]
  cases host.tests[test]? with
  | none => exact .none
  | some controller =>
      by_cases same : changed = test
      · simp only [same, if_true, Option.map_eq_map, Option.map_some]
        exact .some (step controller)
      · simp only [same, if_false, Option.map_eq_map, Option.map_some]
        exact .some (reflexive controller)

theorem testsBy_of_map {related : Controller → Controller → Prop}
    {change : Controller → Controller}
    (step : ∀ controller, related controller (change controller))
    (mapped : next.tests = host.tests.map change) : TestsBy related host next := by
  intro test
  rw [mapped, List.getElem?_map]
  cases host.tests[test]? with
  | none => exact .none
  | some controller => exact .some (step controller)

/-- Before it posts, `handleCreateStream` does nothing to a test but lock it. -/
theorem ages_of_acceptMove {server after : Server} {event : ServerEvent}
    (move : Server.AcceptMove json server event after)
    (notHanding : ∀ inbound, server.accept ≠ .handingOff inbound)
    (notFailed : ∀ error, server.accept ≠ .failed error) : server.test.Ages after.test := by
  cases move with
  | lookCreateStreams => exact Controller.ages_lock server.test true
  | noHello | crash | unwelcome => exact Controller.ages_lock server.test false
  | refuse => exact Controller.ages_lock server.test _
  | handOff inbound mailbox lost stage posts => exact absurd stage (notHanding inbound)
  | terminate error mailbox lost stage posts => exact absurd stage (notFailed error)
  | accept | lookOther | hello | otherCookie | welcome | stop =>
      exact Controller.Ages.refl server.test

/-- The three kinds of steps of `handleCreateStream`. -/
inductive Handles (json : Json) (host : Host) (test sender : Nat) :
    AcceptPc → ServerEvent → Host → Prop where
  | handOff (inbound : Inbound) :
      Handles json host test sender (.handingOff inbound) .handOff
        ((host.post sender (.createStream inbound.stream)).release test)
  | terminate (error : Error) :
      Handles json host test sender (.failed error) .terminate
        { host.post sender .terminate with accept := .idle }
  | inside (pc : AcceptPc) (event : ServerEvent) (controller : Controller) (after : Server)
      (found : host.tests[test]? = some controller)
      (open_ : ∀ inbound, pc ≠ .handingOff inbound) (fine : ∀ error, pc ≠ .failed error)
      (move : Server.AcceptMove json (host.view controller pc) event after) :
      Handles json host test sender pc event { host with
        tests := host.tests.set test after.test
        replies := after.replies
        accept := handlingPc test sender after.accept }

theorem handles_of_step {event : ServerEvent}
    (step : host.step json (.handle event) = some next) :
    ∃ test sender pc, host.accept = .handling test sender pc ∧
      Handles json host test sender pc event next := by
  simp only [Host.step] at step
  cases accept : host.accept with
  | handling test sender pc =>
      rw [accept] at step
      refine ⟨test, sender, pc, rfl, ?_⟩
      simp only [Host.handle] at step
      split at step
      · rename_i inbound
        cases event with
        | handOff =>
            cases step
            exact .handOff inbound
        | _ => cases step
      · rename_i error
        cases event with
        | terminate =>
            cases step
            exact .terminate error
        | _ => cases step
      · rename_i notHanding notFailed
        simp only [Option.bind_eq_bind, Option.bind_eq_some_iff] at step
        rcases step with ⟨controller, found, after, move, done⟩
        cases done
        exact .inside pc event controller after found notHanding notFailed
          (Server.acceptMove_of_acceptStep move)
  | _ => simp [accept] at step

/-- Where the accept loop goes without a change to anything else. -/
inductive Goes (host : Host) : HostEvent → HostPc → Prop where
  | idle (event : HostEvent) (outside : host.accept.isHandling = false) :
      Goes host event .idle
  | stopped (event : HostEvent) (outside : host.accept.isHandling = false) :
      Goes host event .stopped
  /-- From one point of `createPerf` to a later one. -/
  | create (event : HostEvent) (shutdown : Shutdown) (later : CreatePc) (before : Shutdown)
      (pc : CreatePc) (creating : host.accept = .creating before pc)
      (past : ∀ inbound, later ≠ .reading inbound) :
      Goes host event (.creating shutdown later)
  /-- Nothing is in flight. -/
  | start (shutdown : Shutdown) (inbound : Inbound) (idle : host.accept = .idle)
      (gone : host.upgrade = none) :
      Goes host (.accept inbound) (.creating shutdown (.reading inbound))
  | enter (test sender : Nat) (inbound : Inbound) (idle : host.accept = .idle)
      (upgraded : host.upgrade = some test)
      (channel : host.controllerChannel = some sender) :
      Goes host (.accept inbound) (.handling test sender (.upgraded inbound))
  | receive (test sender : Nat) (inbound : Inbound) (cookie : String) (bytes : List UInt8)
      (closed : Bool) (reading : host.accept = .handling test sender (.reading inbound cookie))
      (opened : inbound.peer.closed = false) :
      Goes host (.arrive bytes closed)
        (.handling test sender (.reading (inbound.receive bytes closed) cookie))
  | receiveFirst (shutdown : Shutdown) (inbound : Inbound) (bytes : List UInt8) (closed : Bool)
      (creating : host.accept = .creating shutdown (.reading inbound))
      (opened : inbound.peer.closed = false) :
      Goes host (.arrive bytes closed)
        (.creating shutdown (.reading (inbound.receive bytes closed)))

/-- The outcomes of a step. -/
inductive HostMove (json : Json) (host : Host) : HostEvent → Host → Prop where
  | tests (event : HostEvent) (tests : List Controller)
      (keeps : TestsBy Controller.Keeps host { host with tests } ∧
        tests.length = host.tests.length) :
      HostMove json host event { host with tests }
  | signal (quiet : host.shutdown = .quiet) : HostMove json host .ctrlC host.ctrlC
  | goes (event : HostEvent) (accept : HostPc) (goes : host.Goes event accept) :
      HostMove json host event { host with accept }
  | handle (event : ServerEvent) (next : Host) (test sender : Nat) (pc : AcceptPc)
      (accept : host.accept = .handling test sender pc)
      (handles : Handles json host test sender pc event next) :
      HostMove json host (.handle event) next
  | spawn (shutdown : Shutdown) (perf : Perf)
      (accept : host.accept = .creating shutdown (.sendingStats perf)) :
      HostMove json host .spawn (host.spawn shutdown perf)

private theorem move_of_acceptInbound (inbound : Inbound) (idle : host.accept = .idle) :
    HostMove json host (.accept inbound) (host.acceptInbound inbound) := by
  simp only [acceptInbound]
  split
  · rename_i test upgraded
    split
    · rename_i sender channel
      exact .goes _ _ (.enter test sender inbound idle upgraded channel)
    · exact .goes _ _ (.stopped _ (by rw [idle]; rfl))
  · rename_i gone
    exact .goes _ _ (.start _ inbound idle gone)

private theorem move_of_arrive {bytes : List UInt8} {closed : Bool}
    (step : host.arrive bytes closed = some next) :
    HostMove json host (.arrive bytes closed) next := by
  simp only [arrive] at step
  split at step
  · rename_i test sender inbound cookie reading
    split at step
    · cases step
    · rename_i opened
      cases step
      exact .goes _ _ (.receive test sender inbound cookie bytes closed reading
        (eq_false_of_ne_true opened))
  · rename_i shutdown inbound creating
    split at step
    · cases step
    · rename_i opened
      cases step
      exact .goes _ _ (.receiveFirst shutdown inbound bytes closed creating
        (eq_false_of_ne_true opened))
  · rename_i shutdown inbound cookie creating
    split at step
    · cases step
    · cases step
      exact .goes _ _ (.create _ _ _ shutdown _ creating (by rintro _ ⟨⟩))
  · cases step

private theorem move_of_createHello {event : HostEvent} {shutdown : Shutdown} {pc : CreatePc}
    (creating : host.accept = .creating shutdown pc) {inbound : Inbound}
    {outcome : ReadOutcome String}
    (step : host.createHello shutdown inbound outcome = some next) :
    HostMove json host event next := by
  cases outcome with
  | waiting => cases step
  | panicked =>
      cases step
      exact .goes _ _ (.stopped _ (by rw [creating]; rfl))
  | done result =>
      cases result with
      | error error =>
          cases step
          exact .goes _ _ (.idle _ (by rw [creating]; rfl))
      | ok cookie =>
          cases step
          exact .goes _ _ (.create _ _ _ shutdown pc creating (by rintro _ ⟨⟩))

private theorem move_of_createParams {event : HostEvent} {shutdown : Shutdown} {pc : CreatePc}
    (creating : host.accept = .creating shutdown pc) {cookie : String}
    {outcome : ReadOutcome ClientMessage}
    (step : host.createParams shutdown cookie outcome = some next) :
    HostMove json host event next := by
  cases outcome with
  | waiting => cases step
  | panicked =>
      cases step
      exact .goes _ _ (.stopped _ (by rw [creating]; rfl))
  | done result =>
      cases result with
      | error error =>
          cases step
          exact .goes _ _ (.idle _ (by rw [creating]; rfl))
      | ok message =>
          cases message with
          | sendParameters params =>
              cases step
              exact .goes _ _ (.create _ _ _ shutdown pc creating (by rintro _ ⟨⟩))
          | _ =>
              cases step
              exact .goes _ _ (.idle _ (by rw [creating]; rfl))

theorem hostMove_of_step {event : HostEvent} (step : host.step json event = some next) :
    HostMove json host event next := by
  cases event with
  | handle event =>
      rcases handles_of_step step with ⟨test, sender, pc, accept, handles⟩
      exact .handle event next test sender pc accept handles
  | arrive bytes closed => exact move_of_arrive step
  | controller test event =>
      simp only [Host.step, Option.bind_eq_bind, Option.bind_eq_some_iff] at step
      rcases step with ⟨controller, found, after, moves, done⟩
      cases done
      exact .tests _ _ ⟨testsBy_of_set Controller.Keeps.refl found
        (Controller.keeps_of_controllerStep moves) rfl, List.length_set⟩
  | task test index event =>
      simp only [Host.step, Option.bind_eq_bind, Option.bind_eq_some_iff] at step
      rcases step with ⟨controller, found, after, moves, done⟩
      cases done
      exact .tests _ _ ⟨testsBy_of_set Controller.Keeps.refl found
        (Controller.keeps_of_taskStep moves) rfl, List.length_set⟩
  | ctrlC =>
      simp only [Host.step] at step
      split at step
      · rename_i quiet
        cases step
        exact .signal quiet
      · cases step
  | accept inbound =>
      simp only [Host.step] at step
      split at step
      · rename_i idle
        cases step
        exact move_of_acceptInbound inbound idle
      · cases step
  | listenerError =>
      simp only [Host.step] at step
      split at step
      · rename_i idle
        cases step
        exact .goes _ _ (.stopped _ (by rw [idle]; rfl))
      · cases step
  | createHello =>
      simp only [Host.step] at step
      split at step
      · rename_i creating
        exact move_of_createHello creating step
      · cases step
  | createWelcome delivered =>
      simp only [Host.step] at step
      split at step
      · rename_i shutdown inbound cookie creating
        split at step
        · cases step
          exact .goes _ _ (.create _ _ _ shutdown _ creating (by rintro _ ⟨⟩))
        · cases step
          exact .goes _ _ (.idle _ (by rw [creating]; rfl))
      · cases step
  | createParams =>
      simp only [Host.step] at step
      split at step
      · rename_i creating
        exact move_of_createParams creating step
      · cases step
  | timeout =>
      simp only [Host.step] at step
      split at step
      · rename_i creating
        cases step
        exact .goes _ _ (.idle _ (by rw [creating]; rfl))
      · cases step
  | spawn =>
      simp only [Host.step] at step
      split at step
      · rename_i shutdown perf creating
        cases step
        exact .spawn shutdown perf creating
      · cases step
  | stop =>
      simp only [Host.step] at step
      split at step
      · rename_i idle
        split at step
        · cases step
          exact .goes _ _ (.stopped _ (by rw [idle]; rfl))
        · cases step
      · cases step

end Host

end Iperf
