import Iperf.Printing.RunServer

/-!
# Each test of the server by itself

Seen from one test, whatever the server does is a step of the test, a line of it that is
printed, or something that others do to its state, its mailbox and its shutdown receiver.
So every run of the server is, for each of its tests, a run of that test and its printing
loop.
-/

namespace Iperf

open Channel Transition

/-- What others do to a test. -/
def Event.isOuter : Event → Bool
  | .controller _ => false
  | .task _ _ => false
  | .post (.streamTerminated _) => false
  | _ => true

namespace Controller

variable {controller middle next : Controller}

/-- Others bring the test from one state to the other. -/
abbrev Outer (controller next : Controller) : Prop :=
  ReachableBy (fun event => Event.isOuter event = true) Controller.step controller next

theorem Outer.refl (controller : Controller) : controller.Outer controller :=
  ReachableBy.refl _ _ controller

theorem outer_of_step {event : Event} (outer : event.isOuter = true)
    (step : controller.step event = some next) : controller.Outer next :=
  ReachableBy.of_step outer step

theorem outer_unlock (controller : Controller) :
    controller.Outer { controller with locked := false } := by
  cases locked : controller.locked with
  | true =>
      apply @outer_of_step _ _ .release rfl
      simp only [step, locked, if_true]
  | false =>
      rw [← locked]
      exact Outer.refl controller

theorem outer_lock (unlocked : controller.locked = false) :
    controller.Outer { controller with locked := true } := by
  apply @outer_of_step _ _ .acquire rfl
  simp only [step, unlocked, Bool.false_eq_true, if_false]

theorem outer_signal (controller : Controller) : controller.Outer (Host.signal controller) := by
  unfold Host.signal
  split
  · rename_i quiet
    apply @outer_of_step _ _ .ctrlC rfl
    simp only [step, quiet, if_true]
  · exact Outer.refl controller

theorem outer_createStream (controller : Controller) (stream : TcpStream) :
    controller.Outer (controller.trySend (.createStream stream)) :=
  @outer_of_step controller _ (.post (.createStream stream)) rfl rfl

theorem outer_terminate (controller : Controller) :
    controller.Outer (controller.trySend .terminate) :=
  @outer_of_step controller _ (.post .terminate) rfl rfl

end Controller

/-- Others send nothing on the stats channel. -/
theorem Event.isOuter_silent {event : Event} (outer : event.isOuter = true)
    (controller : Controller) :
    event.isGenuine = true ∧ controller.offers event = none ∧ event.failsToSend = false := by
  cases event with
  | controller event | task index event => cases outer
  | post message =>
      cases message with
      | streamTerminated id => cases outer
      | _ => exact ⟨rfl, rfl, rfl⟩
  | _ => exact ⟨rfl, rfl, rfl⟩

/-- The printing loop does not notice what others do. -/
theorem Controller.Outer.printout {controller next : Controller}
    (outer : controller.Outer next) (stats : StatsChannel) :
    Reachable Printout.step ⟨controller, stats⟩ ⟨next, stats⟩ := by
  rcases outer with ⟨events, outside, ran⟩
  induction events generalizing controller with
  | nil =>
      rw [run_nil] at ran
      cases ran
      exact Reachable.refl _ _
  | cons event events ih =>
      rw [List.forall_mem_cons] at outside
      rcases (run_cons_eq_some_iff _ _ _ _ _).mp ran with ⟨middle, moved, rest⟩
      rcases Event.isOuter_silent outside.1 controller with ⟨genuine, silent, sound⟩
      have step : Printout.step ⟨controller, stats⟩ (.side event) = some ⟨middle, stats⟩ := by
        simp only [Printout.step, genuine, if_true, moved, Controller.pass, silent, sound,
          Bool.false_and]
        rfl
      exact ((Reachable.refl _ _).tail step).trans (ih outside.2 rest)

namespace Host

variable {json : Json} {host middle next : Host}

/-- Others move the tests twice. -/
theorem TestsBy.outer_trans (before : TestsBy Controller.Outer host middle)
    (after : TestsBy Controller.Outer middle next) : TestsBy Controller.Outer host next := by
  intro test
  have first := before test
  have second := after test
  generalize host.tests[test]? = source at first ⊢
  generalize middle.tests[test]? = between at first second
  generalize next.tests[test]? = target at second ⊢
  cases first with
  | none =>
      cases second with
      | none => exact .none
  | some first =>
      cases second with
      | some second => exact .some (first.trans second)

/-- What the accept loop does while it handles a connection, others do to the test. -/
theorem outer_of_acceptMove {server after : Server} {event : ServerEvent}
    (move : Server.AcceptMove json server event after)
    (notHanding : ∀ inbound, server.accept ≠ .handingOff inbound)
    (notFailed : ∀ error, server.accept ≠ .failed error) :
    server.test.Outer after.test := by
  cases move with
  | lookCreateStreams inbound cookie pc unlocked state => exact Controller.outer_lock unlocked
  | noHello | crash | unwelcome => exact Controller.outer_unlock server.test
  | refuse inbound holds =>
      cases holds with
      | true =>
          simp only [Bool.not_true, Bool.and_false]
          exact Controller.outer_unlock server.test
      | false =>
          simp only [Bool.not_false, Bool.and_true]
          exact Controller.Outer.refl server.test
  | handOff inbound mailbox lost stage posts => exact absurd stage (notHanding inbound)
  | terminate error mailbox lost stage posts => exact absurd stage (notFailed error)
  | accept | lookOther | hello | otherCookie | welcome | stop =>
      exact Controller.Outer.refl server.test

theorem outer_of_handles {test sender : Nat} {pc : AcceptPc} {event : ServerEvent}
    (handles : Handles json host test sender pc event next) :
    TestsBy Controller.Outer host next ∧ next.tests.length = host.tests.length ∧
      next.build = host.build := by
  cases handles with
  | handOff inbound =>
      refine ⟨?_, ?_, rfl⟩
      · have posted : TestsBy Controller.Outer host
            (host.post sender (.createStream inbound.stream)) :=
          testsBy_of_modify Controller.Outer.refl
            (fun controller => controller.outer_createStream inbound.stream) rfl
        apply posted.outer_trans
        exact testsBy_of_modify Controller.Outer.refl Controller.outer_unlock rfl
      · simp only [release, post, List.length_modify]
  | terminate error =>
      refine ⟨?_, ?_, rfl⟩
      · exact testsBy_of_modify Controller.Outer.refl Controller.outer_terminate rfl
      · simp only [post, List.length_modify]
  | inside pc event controller after found open_ fine move =>
      refine ⟨?_, List.length_set, rfl⟩
      exact testsBy_of_set Controller.Outer.refl found (outer_of_acceptMove move open_ fine) rfl

end Host

/-- No test takes a step of its own, and none is added. -/
def HostEvent.isAside : HostEvent → Bool
  | .controller _ _ => false
  | .task _ _ _ => false
  | .spawn => false
  | _ => true

namespace Host

variable {json : Json} {host next : Host}

/-- The tests are left alone. -/
structure Untouched (host next : Host) : Prop where
  tests : next.tests = host.tests
  build : next.build = host.build

theorem untouched_of_createHello {shutdown : Shutdown} {inbound : Inbound}
    {outcome : ReadOutcome String}
    (step : host.createHello shutdown inbound outcome = some next) : host.Untouched next := by
  cases outcome with
  | waiting => cases step
  | panicked =>
      cases step
      exact ⟨rfl, rfl⟩
  | done result =>
      cases result <;> cases step <;> exact ⟨rfl, rfl⟩

theorem untouched_of_createParams {shutdown : Shutdown} {cookie : String}
    {outcome : ReadOutcome ClientMessage}
    (step : host.createParams shutdown cookie outcome = some next) : host.Untouched next := by
  unfold createParams at step
  split at step <;> cases step <;> exact ⟨rfl, rfl⟩

theorem untouched_of_arrive {bytes : List UInt8} {closed : Bool}
    (step : host.arrive bytes closed = some next) : host.Untouched next := by
  unfold arrive at step
  split at step
  all_goals first
    | cases step
    | split at step
      · cases step
      · cases step
        exact ⟨rfl, rfl⟩

theorem untouched_acceptInbound (host : Host) (inbound : Inbound) :
    host.Untouched (host.acceptInbound inbound) := by
  unfold acceptInbound
  split
  · split <;> exact ⟨rfl, rfl⟩
  · exact ⟨rfl, rfl⟩

/-- The steps that are nobody's own: others move the tests, or nobody does. -/
theorem outer_of_step {event : HostEvent} (aside : event.isAside = true)
    (step : host.step json event = some next) :
    TestsBy Controller.Outer host next ∧ next.tests.length = host.tests.length ∧
      next.build = host.build := by
  have still : host.Untouched next → TestsBy Controller.Outer host next ∧
      next.tests.length = host.tests.length ∧ next.build = host.build := by
    intro untouched
    refine ⟨TestsBy.refl Controller.Outer.refl untouched.tests, ?_, untouched.build⟩
    rw [untouched.tests]
  cases event with
  | controller test event | task test index event | spawn => cases aside
  | handle event =>
      rcases handles_of_step step with ⟨test, sender, pc, -, handles⟩
      exact outer_of_handles handles
  | ctrlC =>
      simp only [Host.step] at step
      split at step
      · cases step
        refine ⟨testsBy_of_map Controller.outer_signal rfl, ?_, rfl⟩
        simp only [ctrlC, List.length_map]
      · cases step
  | arrive bytes closed => exact still (untouched_of_arrive step)
  | accept inbound =>
      simp only [Host.step] at step
      split at step
      · cases step
        exact still (untouched_acceptInbound host inbound)
      · cases step
  | createHello =>
      simp only [Host.step] at step
      split at step
      · exact still (untouched_of_createHello step)
      · cases step
  | createParams =>
      simp only [Host.step] at step
      split at step
      · exact still (untouched_of_createParams step)
      · cases step
  | createWelcome delivered =>
      simp only [Host.step] at step
      split at step
      · split at step <;> cases step <;> exact still ⟨rfl, rfl⟩
      · cases step
  | listenerError | timeout =>
      simp only [Host.step] at step
      split at step
      · cases step
        exact still ⟨rfl, rfl⟩
      · cases step
  | stop =>
      simp only [Host.step] at step
      split at step
      · split at step
        · cases step
          exact still ⟨rfl, rfl⟩
        · cases step
      · cases step

end Host

namespace RunServer

variable {json : Json} {server next : RunServer}

/-- Nothing but the hosted tests changes. -/
structure Unprinted (server next : RunServer) : Prop where
  perfStats : next.perfStats = server.perfStats
  current : next.current = server.current
  output : next.output = server.output

/-- What a step does to the tests, their channels and the output. -/
inductive Move (server next : RunServer) : Prop where
  | aside (tests : Host.TestsBy Controller.Outer server.host next.host)
      (length : next.host.tests.length = server.host.tests.length)
      (build : next.host.build = server.host.build) (stats : next.stats = server.stats)
      (unprinted : server.Unprinted next)
  /-- A test takes a step of its own. -/
  | side (test : Nat) (event : Event) (controller changed : Controller)
      (channel passed : StatsChannel) (found : server.host.tests[test]? = some controller)
      (held : server.stats[test]? = some channel)
      (step : Printout.step ⟨controller, channel⟩ (.side event) = some ⟨changed, passed⟩)
      (tests : next.host.tests = server.host.tests.set test changed)
      (build : next.host.build = server.host.build)
      (stats : next.stats = server.stats.set test passed) (unprinted : server.Unprinted next)
  | spawn (shutdown : Shutdown) (perf : Perf)
      (tests : next.host.tests = server.host.tests ++
        [{ Controller.new server.host.build perf with shutdown }])
      (build : next.host.build = server.host.build)
      (stats : next.stats = server.stats ++ [.new])
      (sent : server.perfStats.send server.host.tests.length = some next.perfStats)
      (current : next.current = server.current) (output : next.output = server.output)
  | accept (test : Nat) (idle : server.current = none) (host : next.host = server.host)
      (stats : next.stats = server.stats)
      (took : server.perfStats.take = some (test, next.perfStats))
      (current : next.current = some test)
      (output : next.output = server.output ++ [.accept test])
  | print (test : Nat) (line : StreamStats) (channel rest : StatsChannel)
      (busy : server.current = some test) (held : server.stats[test]? = some channel)
      (took : channel.take = some (line, rest)) (host : next.host = server.host)
      (stats : next.stats = server.stats.set test rest)
      (perfStats : next.perfStats = server.perfStats) (current : next.current = server.current)
      (output : next.output = server.output ++ [.stats test line])
  | atEnd (test : Nat) (controller : Controller) (channel ended : StatsChannel)
      (busy : server.current = some test) (found : server.host.tests[test]? = some controller)
      (held : server.stats[test]? = some channel)
      (finished : channel.finish controller.hasStatsSender = some ended)
      (host : next.host = server.host) (stats : next.stats = server.stats.set test ended)
      (perfStats : next.perfStats = server.perfStats) (current : next.current = none)
      (output : next.output = server.output)
  | finish (idle : server.current = none) (host : next.host = server.host)
      (stats : next.stats = server.stats) (senders : Bool)
      (finished : server.perfStats.finish senders = some next.perfStats)
      (current : next.current = none) (output : next.output = server.output)

/-- A test takes a step and its channel lets it pass. -/
private theorem move_of_pass {test : Nat} {event : Event} {controller changed : Controller}
    {stats : List StatsChannel} (genuine : event.isGenuine = true)
    (found : server.host.tests[test]? = some controller)
    (moved : controller.step event = some changed) (passes : server.pass test event = some stats)
    {host : Host} (tests : host.tests = server.host.tests.set test changed)
    (build : host.build = server.host.build) :
    Move server { server with host, stats } := by
  simp only [pass, found, Option.bind_eq_bind, Option.bind_some, Option.bind_eq_some_iff]
    at passes
  rcases passes with ⟨channel, held, passed, passes, done⟩
  cases done
  have step : Printout.step ⟨controller, channel⟩ (.side event) = some ⟨changed, passed⟩ := by
    simp only [Printout.step, genuine, if_true, moved, passes]
    rfl
  exact .side test event controller changed channel passed found held step tests build rfl
    ⟨rfl, rfl, rfl⟩

private theorem move_of_hostStep {event : HostEvent}
    (step : server.hostStep json event = some next) : Move server next := by
  simp only [hostStep, Option.bind_eq_bind, Option.bind_eq_some_iff] at step
  rcases step with ⟨host, hosted, step⟩
  have asides : event.isAside = true → some { server with host } = some next →
      Move server next := by
    intro aside same
    cases same
    rcases Host.outer_of_step aside hosted with ⟨tests, length, build⟩
    exact .aside tests length build rfl ⟨rfl, rfl, rfl⟩
  cases event with
  | controller test event =>
      simp only [Option.bind_eq_some_iff] at step
      rcases step with ⟨stats, passes, done⟩
      cases done
      simp only [Host.step, Option.bind_eq_bind, Option.bind_eq_some_iff] at hosted
      rcases hosted with ⟨controller, found, changed, moved, done⟩
      cases done
      exact @move_of_pass _ _ (.controller event) _ _ _ rfl found moved passes _ rfl rfl
  | task test index event =>
      simp only [Option.bind_eq_some_iff] at step
      rcases step with ⟨stats, passes, done⟩
      cases done
      simp only [Host.step, Option.bind_eq_bind, Option.bind_eq_some_iff] at hosted
      rcases hosted with ⟨controller, found, changed, moved, done⟩
      cases done
      exact @move_of_pass _ _ (.task index event) _ _ _ rfl found moved passes _ rfl rfl
  | spawn =>
      simp only [Option.bind_eq_some_iff] at step
      rcases step with ⟨perfStats, sent, done⟩
      cases done
      simp only [Host.step] at hosted
      split at hosted
      · rename_i shutdown perf creating
        cases hosted
        exact .spawn shutdown perf rfl rfl rfl sent rfl rfl
      · cases hosted
  | ctrlC | accept inbound | listenerError | arrive bytes closed | handle event | createHello
  | createWelcome delivered | createParams | timeout | stop => exact asides rfl step

theorem move_of_step {event : RunServerEvent} (step : server.step json event = some next) :
    Move server next := by
  cases event with
  | host event => exact move_of_hostStep step
  | accept =>
      simp only [RunServer.step] at step
      split at step
      · rename_i idle
        rcases Option.map_eq_some_iff.mp step with ⟨⟨test, perfStats⟩, took, rfl⟩
        exact .accept test idle rfl rfl took rfl rfl
      · cases step
  | print =>
      simp only [RunServer.step, Option.bind_eq_bind, Option.bind_eq_some_iff] at step
      rcases step with ⟨test, busy, channel, held, ⟨line, rest⟩, took, done⟩
      cases done
      exact .print test line channel rest busy held took rfl rfl rfl rfl rfl
  | atEnd =>
      simp only [RunServer.step, Option.bind_eq_bind, Option.bind_eq_some_iff] at step
      rcases step with ⟨test, busy, controller, found, channel, held, ended, finished, done⟩
      cases done
      exact .atEnd test controller channel ended busy found held finished rfl rfl rfl rfl rfl
  | finish =>
      simp only [RunServer.step] at step
      split at step
      · rename_i idle
        rcases Option.map_eq_some_iff.mp step with ⟨perfStats, finished, rfl⟩
        exact .finish idle rfl rfl _ finished idle rfl
      · cases step

/-! ## Tests by themselves -/

/-- Every test and its channel have come about by a run of their own. -/
structure Apart (server : RunServer) : Prop where
  sizes : server.stats.length = server.host.tests.length
  runs : ∀ (test : Nat) (controller : Controller) (channel : StatsChannel),
    server.host.tests[test]? = some controller → server.stats[test]? = some channel →
    ∃ perf shutdown, Reachable Printout.step (.new server.host.build perf shutdown)
      ⟨controller, channel⟩

theorem new_apart (build : Build) : (new build).Apart where
  sizes := rfl
  runs := by
    rintro test controller channel ⟨⟩

/-- One test goes on by itself. -/
theorem Apart.goes_on (apart : server.Apart) {test : Nat} {controller changed : Controller}
    {channel passed : StatsChannel} (found : server.host.tests[test]? = some controller)
    (held : server.stats[test]? = some channel)
    (reaches : Reachable Printout.step ⟨controller, channel⟩ ⟨changed, passed⟩)
    (tests : next.host.tests = server.host.tests.set test changed)
    (build : next.host.build = server.host.build)
    (stats : next.stats = server.stats.set test passed) : next.Apart where
  sizes := by
    rw [tests, stats, List.length_set, List.length_set]
    exact apart.sizes
  runs := by
    intro other after drained foundAfter heldAfter
    rw [build]
    rw [tests] at foundAfter
    rw [stats] at heldAfter
    by_cases same : test = other
    · subst same
      have inTests := (List.getElem?_eq_some_iff.mp found).1
      have inStats := (List.getElem?_eq_some_iff.mp held).1
      rw [List.getElem?_set_self inTests] at foundAfter
      rw [List.getElem?_set_self inStats] at heldAfter
      cases foundAfter
      cases heldAfter
      rcases apart.runs test controller channel found held with ⟨perf, shutdown, reached⟩
      exact ⟨perf, shutdown, reached.trans reaches⟩
    · rw [List.getElem?_set_ne same] at foundAfter heldAfter
      exact apart.runs other after drained foundAfter heldAfter

theorem set_self {α : Type} {list : List α} {index : Nat} {value : α}
    (found : list[index]? = some value) : list.set index value = list := by
  rcases List.getElem?_eq_some_iff.mp found with ⟨within, same⟩
  rw [← same]
  exact List.set_getElem_self within

/-- The printing loop goes on with one test. -/
theorem Apart.printing (apart : server.Apart) {test : Nat} {channel passed : StatsChannel}
    (held : server.stats[test]? = some channel)
    (reaches : ∀ controller, server.host.tests[test]? = some controller →
      Reachable Printout.step ⟨controller, channel⟩ ⟨controller, passed⟩)
    (host : next.host = server.host) (stats : next.stats = server.stats.set test passed) :
    next.Apart := by
  have within := (List.getElem?_eq_some_iff.mp held).1
  rw [apart.sizes] at within
  have found := List.getElem?_eq_getElem within
  apply apart.goes_on found held (reaches _ found) _ _ stats
  · rw [host, set_self found]
  · rw [host]

theorem Apart.step (apart : server.Apart) {event : RunServerEvent}
    (step : server.step json event = some next) : next.Apart := by
  cases move_of_step step with
  | aside tests length build stats unprinted =>
      constructor
      · rw [stats, length]
        exact apart.sizes
      · intro test controller channel found held
        rw [stats] at held
        have related := tests test
        rw [found] at related
        cases source : server.host.tests[test]? with
        | none =>
            rw [source] at related
            cases related
        | some earlier =>
            rw [source] at related
            cases related with
            | some outer =>
                rcases apart.runs test earlier channel source held with
                  ⟨perf, shutdown, reached⟩
                rw [build]
                exact ⟨perf, shutdown, reached.trans (outer.printout channel)⟩
  | side test event controller changed channel passed found held moved tests build stats
      unprinted =>
      exact apart.goes_on found held ((Reachable.refl _ _).tail moved) tests build stats
  | spawn shutdown perf tests build stats sent current output =>
      constructor
      · rw [tests, stats, List.length_append, List.length_append, apart.sizes]
        rfl
      · intro test controller channel found held
        rw [tests] at found
        rw [stats] at held
        rw [build]
        rcases Nat.lt_or_ge test server.host.tests.length with before | last
        · rw [List.getElem?_append_left before] at found
          rw [List.getElem?_append_left (apart.sizes ▸ before)] at held
          exact apart.runs test controller channel found held
        · rw [List.getElem?_append_right last] at found
          rw [List.getElem?_append_right (apart.sizes ▸ last), apart.sizes] at held
          have position : test - server.host.tests.length = 0 := by
            have within := (List.getElem?_eq_some_iff.mp found).1
            exact Nat.lt_one_iff.mp within
          rw [position] at found held
          cases found
          cases held
          exact ⟨perf, shutdown, Reachable.refl _ _⟩
  | accept test idle host stats took current output =>
      constructor
      · rw [host, stats]
        exact apart.sizes
      · rw [host, stats]
        exact apart.runs
  | print test line channel rest busy held took host stats perfStats current output =>
      apply apart.printing held _ host stats
      intro controller found
      apply (Reachable.refl _ _).tail
      · show Printout.step ⟨controller, channel⟩ .print = _
        simp only [Printout.step, took, Option.map_some]
  | atEnd test controller channel ended busy found held finished host stats perfStats current
      output =>
      apply apart.printing held _ host stats
      intro other foundOther
      cases found.symm.trans foundOther
      apply (Reachable.refl _ _).tail
      · show Printout.step ⟨controller, channel⟩ .atEnd = _
        simp only [Printout.step, finished, Option.map_some]
  | finish idle host stats senders finished current output =>
      constructor
      · rw [host, stats]
        exact apart.sizes
      · rw [host, stats]
        exact apart.runs

end RunServer

end Iperf
