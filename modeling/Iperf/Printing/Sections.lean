import Iperf.Printing.Attended
import Iperf.Printing.Order
import Iperf.Printing.Tests

/-!
# The server prints one test after the other

The output of the server is one section for each test, in the order in which the tests
were accepted, and the section of a test is whole before the next one begins.
-/

namespace Iperf

open Channel Transition

/-- What a consumer has taken of the numbers in order is how far it has come. -/
theorem taken_of_range {capacity count : Nat} {drain : Drain Nat capacity}
    (accepted : drain.accepted = List.range count) :
    drain.taken = List.range drain.taken.length := by
  have inside := drain.taken_first
  rw [accepted] at inside
  have whole := List.prefix_iff_eq_take.mp inside
  rw [List.take_range] at whole
  have short := inside.length_le
  rw [List.length_range] at short
  rw [Nat.min_eq_left short] at whole
  exact whole

/-- A step of a test takes nothing from its channel. -/
theorem Printout.kept_of_side {printout next : Printout} {event : Event}
    (step : printout.step (.side event) = some next) :
    next.stats.taken = printout.stats.taken ∧ next.stats.ended = printout.stats.ended := by
  simp only [Printout.step] at step
  split at step
  · simp only [Option.bind_eq_bind, Option.bind_eq_some_iff] at step
    rcases step with ⟨controller, -, stats, passes, done⟩
    cases done
    unfold Controller.pass at passes
    split at passes
    · rcases Drain.send_eq_some passes with ⟨running, open_, taken, -⟩
      exact ⟨taken, open_.trans running.symm⟩
    · split at passes
      · cases passes
      · cases passes
        exact ⟨rfl, rfl⟩
  · cases step

namespace RunServer

variable {json : Json} {server next : RunServer}

/-- The channel of a test is at its end. -/
def IsOver (server : RunServer) (test : Nat) : Prop :=
  ∃ channel, server.stats[test]? = some channel ∧ channel.ended = true

/-- The output is made of sections. -/
structure Sectioned (server : RunServer) : Prop where
  queue : server.perfStats.accepted = List.range server.host.tests.length
  output : server.output =
    (List.range server.perfStats.taken.length).flatMap server.sectionOf
  current : ∀ test, server.current = some test → test + 1 = server.perfStats.taken.length
  atEnd : ∀ test, test < server.perfStats.taken.length → server.current ≠ some test →
    server.IsOver test
  fresh : ∀ test, server.perfStats.taken.length ≤ test → server.printed test = []

theorem new_sectioned (build : Build) : (new build).Sectioned where
  queue := rfl
  output := rfl
  current := by
    rintro test ⟨⟩
  atEnd := by
    rintro test ⟨⟩
  fresh := fun _ _ => rfl

theorem printed_of_held {test : Nat} {channel : StatsChannel}
    (held : server.stats[test]? = some channel) : server.printed test = channel.taken := by
  rw [printed, held, Option.elim_some]

/-- One channel changes. -/
theorem printed_of_set {test : Nat} {channel changed : StatsChannel}
    (held : server.stats[test]? = some channel)
    (stats : next.stats = server.stats.set test changed) (other : Nat) :
    next.printed other = if test = other then changed.taken else server.printed other := by
  have within := (List.getElem?_eq_some_iff.mp held).1
  by_cases same : test = other
  · rw [if_pos same, printed, stats, ← same, List.getElem?_set_self within, Option.elim_some]
  · rw [if_neg same, printed, stats, List.getElem?_set_ne same, printed]

/-- The channels of other tests stay as they are. -/
theorem IsOver.set {test other : Nat} {changed : StatsChannel} (atEnd : server.IsOver other)
    (stats : next.stats = server.stats.set test changed)
    (ends : test = other → changed.ended = true) : next.IsOver other := by
  rcases atEnd with ⟨channel, held, ended⟩
  have within := (List.getElem?_eq_some_iff.mp held).1
  by_cases same : test = other
  · refine ⟨changed, ?_, ends same⟩
    rw [stats, same, List.getElem?_set_self within]
  · refine ⟨channel, ?_, ended⟩
    rw [stats, List.getElem?_set_ne same, held]

/-- Sections of which nothing more has been printed. -/
theorem sections_congr (count : Nat)
    (same : ∀ test, test < count → next.printed test = server.printed test) :
    (List.range count).flatMap next.sectionOf = (List.range count).flatMap server.sectionOf := by
  apply List.flatMap_congr
  intro test testMem
  rw [sectionOf, same test (List.mem_range.mp testMem), sectionOf]

/-- Nothing is printed. -/
theorem Sectioned.unprinted (sectioned : server.Sectioned) (unprinted : server.Unprinted next)
    (length : next.host.tests.length = server.host.tests.length)
    (printed : ∀ test, next.printed test = server.printed test)
    (atEnd : ∀ test, server.IsOver test → next.IsOver test) : next.Sectioned where
  queue := by
    rw [unprinted.perfStats, length]
    exact sectioned.queue
  output := by
    rw [unprinted.output, unprinted.perfStats, sectioned.output]
    exact (sections_congr _ fun test _ => printed test).symm
  current := by
    rw [unprinted.current, unprinted.perfStats]
    exact sectioned.current
  atEnd := by
    rw [unprinted.current, unprinted.perfStats]
    exact fun test taken other => atEnd test (sectioned.atEnd test taken other)
  fresh := by
    rw [unprinted.perfStats]
    exact fun test later => (printed test).trans (sectioned.fresh test later)

theorem printed_of_stats (stats : next.stats = server.stats) (test : Nat) :
    next.printed test = server.printed test := by
  rw [printed, stats, printed]

theorem isOver_of_stats (stats : next.stats = server.stats) (test : Nat)
    (atEnd : server.IsOver test) : next.IsOver test := by
  rw [IsOver, stats]
  exact atEnd

/-- A new test is behind all the others. -/
theorem Sectioned.spawn (sectioned : server.Sectioned) {controller : Controller}
    (tests : next.host.tests = server.host.tests ++ [controller])
    (stats : next.stats = server.stats ++ [.new])
    (sent : server.perfStats.send server.host.tests.length = some next.perfStats)
    (current : next.current = server.current) (output : next.output = server.output) :
    next.Sectioned := by
  rcases Drain.send_eq_some sent with ⟨-, -, taken, accepted⟩
  have printed : ∀ test, next.printed test = server.printed test := by
    intro test
    rcases Nat.lt_or_ge test server.stats.length with before | last
    · rw [RunServer.printed, stats, List.getElem?_append_left before, RunServer.printed]
    · have none : server.stats[test]? = none := List.getElem?_eq_none last
      rw [RunServer.printed, stats, List.getElem?_append_right last, RunServer.printed, none]
      cases test - server.stats.length <;> rfl
  constructor
  · rw [accepted, sectioned.queue, tests, List.length_append, List.length_singleton,
      List.range_succ]
  · rw [output, taken, sectioned.output]
    exact (sections_congr _ fun test _ => printed test).symm
  · rw [current, taken]
    exact sectioned.current
  · rw [current, taken]
    intro test earlier other
    rcases sectioned.atEnd test earlier other with ⟨channel, held, ended⟩
    refine ⟨channel, ?_, ended⟩
    rw [stats, List.getElem?_append_left (List.getElem?_eq_some_iff.mp held).1, held]
  · rw [taken]
    exact fun test later => (printed test).trans (sectioned.fresh test later)

/-- The next test is taken up, and its section begins. -/
theorem Sectioned.accept (sectioned : server.Sectioned) {test : Nat}
    (idle : server.current = none) (host : next.host = server.host)
    (stats : next.stats = server.stats)
    (took : server.perfStats.take = some (test, next.perfStats))
    (current : next.current = some test)
    (output : next.output = server.output ++ [.accept test]) : next.Sectioned := by
  rcases Drain.take_eq_some took with ⟨-, -, taken, accepted⟩
  have longer : next.perfStats.taken.length = server.perfStats.taken.length + 1 := by
    rw [taken, List.length_append, List.length_singleton]
  have queue : next.perfStats.accepted = List.range next.host.tests.length := by
    rw [accepted, host]
    exact sectioned.queue
  have position : test = server.perfStats.taken.length := by
    have ordered := taken_of_range queue
    rw [longer, List.range_succ, taken, taken_of_range sectioned.queue,
      List.length_range] at ordered
    exact (List.singleton_inj.mp (List.append_cancel_left ordered))
  have printed := fun test => printed_of_stats stats test
  constructor
  · exact queue
  · rw [output, longer, List.range_succ, List.flatMap_append, List.flatMap_singleton, ← position,
      sectionOf, printed, sectioned.fresh test (Nat.le_of_eq position.symm), sectioned.output,
      ← position, sections_congr test fun other _ => printed other]
    rfl
  · intro other same
    rw [current] at same
    cases same
    rw [longer, position]
  · intro other earlier differs
    rw [longer] at earlier
    apply isOver_of_stats stats
    apply sectioned.atEnd other _ (by rw [idle]; simp)
    apply Nat.lt_of_le_of_ne (Nat.le_of_lt_succ earlier)
    intro last
    rw [current, position, last] at differs
    exact differs rfl
  · intro other later
    rw [longer] at later
    exact (printed other).trans (sectioned.fresh other (Nat.le_of_succ_le later))

/-- A line goes to the end of the section of the current test. -/
theorem Sectioned.print (sectioned : server.Sectioned) {test : Nat} {line : StreamStats}
    {channel rest : StatsChannel} (busy : server.current = some test)
    (held : server.stats[test]? = some channel) (took : channel.take = some (line, rest))
    (host : next.host = server.host) (stats : next.stats = server.stats.set test rest)
    (perfStats : next.perfStats = server.perfStats) (current : next.current = server.current)
    (output : next.output = server.output ++ [.stats test line]) : next.Sectioned := by
  rcases Drain.take_eq_some took with ⟨running, -, taken, -⟩
  have position := sectioned.current test busy
  have printed := printed_of_set held stats
  constructor
  · rw [perfStats, host]
    exact sectioned.queue
  · rw [output, perfStats, sectioned.output, ← position, List.range_succ, List.flatMap_append,
      List.flatMap_append, List.flatMap_singleton, List.flatMap_singleton, sectionOf, sectionOf,
      printed test, if_pos rfl, taken, printed_of_held held, List.map_append,
      List.append_assoc]
    congr 1
    symm
    apply sections_congr
    intro other earlier
    rw [printed other, if_neg (Nat.ne_of_gt earlier)]
  · rw [current, perfStats]
    exact sectioned.current
  · rw [current, perfStats]
    intro other earlier differs
    apply (sectioned.atEnd other earlier differs).set stats
    intro same
    rw [busy, same] at differs
    exact absurd rfl differs
  · rw [perfStats]
    intro other later
    have differs : test ≠ other := by
      intro same
      rw [← position, same] at later
      exact absurd later (Nat.not_succ_le_self other)
    rw [printed other, if_neg differs]
    exact sectioned.fresh other later

/-- The section of the current test is whole. -/
theorem Sectioned.ends (sectioned : server.Sectioned) {test : Nat} {senders : Bool}
    {channel ended : StatsChannel} (busy : server.current = some test)
    (held : server.stats[test]? = some channel)
    (finished : channel.finish senders = some ended) (host : next.host = server.host)
    (stats : next.stats = server.stats.set test ended)
    (perfStats : next.perfStats = server.perfStats) (current : next.current = none)
    (output : next.output = server.output) : next.Sectioned := by
  rcases Drain.finish_eq_some finished with ⟨-, -, atEnd, taken, -⟩
  have printed : ∀ other, next.printed other = server.printed other := by
    intro other
    rw [printed_of_set held stats]
    by_cases same : test = other
    · rw [if_pos same, taken, ← same, printed_of_held held]
    · rw [if_neg same]
  constructor
  · rw [perfStats, host]
    exact sectioned.queue
  · rw [output, perfStats, sectioned.output]
    exact (sections_congr _ fun other _ => printed other).symm
  · intro other same
    rw [current] at same
    cases same
  · rw [perfStats]
    intro other earlier _
    by_cases same : test = other
    · refine ⟨ended, ?_, atEnd⟩
      rw [stats, ← same, List.getElem?_set_self (List.getElem?_eq_some_iff.mp held).1]
    · apply (sectioned.atEnd other earlier _).set stats (fun equal => absurd equal same)
      rw [busy]
      exact fun equal => same (Option.some.inj equal)
  · rw [perfStats]
    exact fun other later => (printed other).trans (sectioned.fresh other later)

theorem Sectioned.step (sectioned : server.Sectioned) {event : RunServerEvent}
    (step : server.step json event = some next) : next.Sectioned := by
  cases move_of_step step with
  | aside tests length build stats unprinted =>
      exact sectioned.unprinted unprinted length (printed_of_stats stats) (isOver_of_stats stats)
  | side test event controller changed channel passed found held moved tests build stats
      unprinted =>
      rcases Printout.kept_of_side moved with ⟨taken, ended⟩
      apply sectioned.unprinted unprinted
      · rw [tests, List.length_set]
      · intro other
        rw [printed_of_set held stats]
        by_cases same : test = other
        · rw [if_pos same, taken, ← same, printed_of_held held]
        · rw [if_neg same]
      · intro other atEnd
        apply atEnd.set stats
        intro same
        rcases atEnd with ⟨before, heldBefore, endedBefore⟩
        rw [← same, held] at heldBefore
        cases heldBefore
        exact ended.trans endedBefore
  | spawn shutdown perf tests build stats sent current output =>
      exact sectioned.spawn tests stats sent current output
  | accept test idle host stats took current output =>
      exact sectioned.accept idle host stats took current output
  | print test line channel rest busy held took host stats perfStats current output =>
      exact sectioned.print busy held took host stats perfStats current output
  | atEnd test controller channel ended busy found held finished host stats perfStats current
      output =>
      exact sectioned.ends busy held finished host stats perfStats current output
  | finish idle host stats senders finished current output =>
      rcases Drain.finish_eq_some finished with ⟨-, -, -, taken, accepted⟩
      have printed := printed_of_stats stats
      constructor
      · rw [accepted, host]
        exact sectioned.queue
      · rw [output, taken, sectioned.output]
        exact (sections_congr _ fun other _ => printed other).symm
      · intro test same
        rw [current] at same
        cases same
      · rw [taken]
        intro test earlier _
        apply isOver_of_stats stats
        exact sectioned.atEnd test earlier (by rw [idle]; simp)
      · rw [taken]
        exact fun test later => (printed test).trans (sectioned.fresh test later)

theorem sectioned_of_reachable {build : Build}
    (reachable : Reachable (RunServer.step json) (.new build) server) : server.Sectioned :=
  reachable.invariant Sectioned (fun _ _ _ sectioned step => sectioned.step step)
    (new_sectioned build)

theorem apart_of_reachable {build : Build}
    (reachable : Reachable (RunServer.step json) (.new build) server) : server.Apart :=
  reachable.invariant Apart (fun _ _ _ apart step => apart.step step) (new_apart build)

theorem lines_of_held {test : Nat} {channel : StatsChannel}
    (held : server.stats[test]? = some channel) : server.lines test = channel.accepted := by
  rw [lines, held, Option.elim_some]

/-- The section of a test that is over. -/
theorem Apart.of_over (apart : server.Apart) {test : Nat} (atEnd : server.IsOver test) :
    ∃ controller, server.host.tests[test]? = some controller ∧ controller.alive = false ∧
      (∀ task ∈ controller.tasks, task.isListening = false) ∧
      server.printed test = server.lines test := by
  rcases atEnd with ⟨channel, held, ended⟩
  have within := (List.getElem?_eq_some_iff.mp held).1
  rw [apart.sizes] at within
  have found := List.getElem?_eq_getElem within
  rcases apart.runs test _ channel found held with ⟨perf, shutdown, reachable⟩
  rcases Printout.over_of_ended reachable ended with ⟨gone, deaf, all⟩
  refine ⟨_, found, gone, deaf, ?_⟩
  rw [printed_of_held held, lines_of_held held]
  exact all

end RunServer

/-- Whatever the connections and the tests do, the server prints one section for each
test, in the order of the tests.  Before the next section begins the test is over: its
controller and its workers have ended, and all its lines are printed. -/
theorem RunServer.prints_in_sections (json : Json) (build : Build) {server : RunServer}
    (reachable : Reachable (RunServer.step json) (.new build) server) :
    ∃ count, count ≤ server.host.tests.length ∧
      server.output = (List.range count).flatMap server.sectionOf ∧
      ∀ test, test + 1 < count →
        ∃ controller, server.host.tests[test]? = some controller ∧ controller.alive = false ∧
          (∀ task ∈ controller.tasks, task.isListening = false) ∧
          server.printed test = server.lines test := by
  have sectioned := sectioned_of_reachable reachable
  have apart := apart_of_reachable reachable
  refine ⟨server.perfStats.taken.length, ?_, sectioned.output, ?_⟩
  · have inside := server.perfStats.taken_first.length_le
    rw [sectioned.queue, List.length_range] at inside
    exact inside
  · intro test earlier
    apply apart.of_over
    apply sectioned.atEnd test (Nat.lt_of_succ_lt earlier)
    intro busy
    exact absurd (sectioned.current test busy) (Nat.ne_of_lt earlier)

theorem RunServer.prints_in_sections_two :
    afterTwoTests.output.length = 6 ∧
      ∃ count, count ≤ 2 ∧
        afterTwoTests.output = (List.range count).flatMap afterTwoTests.sectionOf ∧
        ∀ test, test + 1 < count →
          ∃ controller, afterTwoTests.host.tests[test]? = some controller ∧
            controller.alive = false ∧
            (∀ task ∈ controller.tasks, task.isListening = false) ∧
            afterTwoTests.printed test = afterTwoTests.lines test := by
  have six : afterTwoTests.output.length = 6 := by decide +kernel
  have two : afterTwoTests.host.tests.length = 2 := by decide +kernel
  have sections := prints_in_sections (.ofDefaults "c") ⟨true, true⟩ afterTwoTests_reachable
  rw [two] at sections
  exact ⟨six, sections⟩

/-- The tests of the server do not disturb each other's lines: each of them and its stats
channel come about by a run of that test and a printing loop alone, and in its section
the lines of every stream and the results are in order. -/
theorem RunServer.sections_in_order (json : Json) (build : Build) {server : RunServer}
    (reachable : Reachable (RunServer.step json) (.new build) server) {test : Nat}
    {controller : Controller} (found : server.host.tests[test]? = some controller) :
    ∃ channel perf shutdown, server.stats[test]? = some channel ∧
      Reachable Printout.step (.new server.host.build perf shutdown) ⟨controller, channel⟩ ∧
      (controller.tasks.length < UInt16.size →
        (∀ index, Complete ((server.printed test).filter (·.isOfStream index))) ∧
          ∃ own peers, (server.printed test).filter StreamStats.isFinal = own ++ peers ∧
            Printout.InOrder controller own peers) := by
  have apart := apart_of_reachable reachable
  have within := (List.getElem?_eq_some_iff.mp found).1
  rw [← apart.sizes] at within
  have held := List.getElem?_eq_getElem within
  rcases apart.runs test controller _ found held with ⟨perf, shutdown, alone⟩
  refine ⟨_, perf, shutdown, held, alone, ?_⟩
  intro few
  have shown := Printout.shown_of_reachable alone few
  have earlier := (server.stats[test]).taken_first
  rw [printed_of_held held]
  constructor
  · exact fun index => (shown.complete few index).of_first (earlier.filter _)
  · exact shown.inOrder few earlier

theorem RunServer.sections_in_order_two :
    ∃ controller channel perf shutdown, afterTwoTests.stats[0]? = some channel ∧
      Reachable Printout.step (.new afterTwoTests.host.build perf shutdown)
        ⟨controller, channel⟩ ∧
      (afterTwoTests.printed 0).length = 4 ∧
      Complete ((afterTwoTests.printed 0).filter (·.isOfStream 0)) := by
  have within : 0 < afterTwoTests.host.tests.length := by decide +kernel
  have found : afterTwoTests.host.tests[0]? = some afterTwoTests.host.tests[0] :=
    List.getElem?_eq_getElem within
  rcases sections_in_order (.ofDefaults "c") ⟨true, true⟩ afterTwoTests_reachable found with
    ⟨channel, perf, shutdown, held, alone, inOrder⟩
  have few : (afterTwoTests.host.tests[0]?).all
      (fun controller => controller.tasks.length < UInt16.size) = true := by decide +kernel
  rw [found, Option.all_some, decide_eq_true_iff] at few
  have four : (afterTwoTests.printed 0).length = 4 := by decide +kernel
  exact ⟨_, channel, perf, shutdown, held, alone, four, (inOrder few).1 0⟩

end Iperf
