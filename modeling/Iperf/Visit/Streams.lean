import Iperf.Visit.Session

/-!
# Whose connections a test registers

Between tests that come and go, and clients that connect at any time, a test registers the
data connections of its own client and no others, and no other test registers them.
-/

namespace Iperf

open Channel Transition

namespace Controller

variable {controller : Controller}

theorem streamsPosted_eq (controller : Controller) :
    controller.streamsPosted = creates controller.accepted := by
  unfold streamsPosted creates
  apply List.filterMap_congr
  intro message _
  cases message <;> rfl

/-- What is registered has been posted. -/
theorem Enrolled.posted (enrolled : controller.Enrolled) {task : Task}
    (taskMem : task ∈ controller.tasks) : task.stream ∈ controller.streamsPosted := by
  rw [streamsPosted_eq, accepted, creates_append]
  exact List.mem_append_left _ (enrolled.enrolled.subset (List.mem_map_of_mem taskMem))

end Controller

namespace Host

variable {json : Json} {host next : Host}

theorem enrolled_of_reachable {build : Build}
    (reachable : Reachable (Host.step json) (.new build) host) {controller : Controller}
    (controllerMem : controller ∈ host.tests) : controller.Enrolled := by
  rcases served_of_reachable reachable with ⟨-, servers, served⟩
  rw [← served.tests] at controllerMem
  rcases List.mem_map.mp controllerMem with ⟨server, serverMem, rfl⟩
  rcases served.reached server serverMem with
    ⟨_, ⟨cookie, params, shutdown, rfl, -⟩, reached⟩
  have initial : (Server.startedAt host.build (.newWithStatsReceiver cookie .server params)
      shutdown).Admitted :=
    ⟨⟨List.prefix_refl _, fun _ => rfl⟩, List.Sublist.refl _, fun _ _ => rfl⟩
  have both : server.Phased ∧ server.Admitted := by
    apply reached.reachable.invariant (fun server => server.Phased ∧ server.Admitted) _
      ⟨Server.phased_startedAt _ rfl _, initial⟩
    intro source event target holds step
    exact ⟨holds.1.step step, holds.2.step holds.1 step⟩
  exact both.2.enrolled

/-- A connection gets into the mailbox of a test on the way through `handleCreateStream`. -/
theorem posted_of_step (slotted : host.Slotted json) {event : HostEvent}
    (step : host.step json event = some next) {index : Nat} {after : Controller}
    (found : next.tests[index]? = some after) {stream : TcpStream}
    (posted : stream ∈ after.streamsPosted) :
    (∃ before, host.tests[index]? = some before ∧ stream ∈ before.streamsPosted) ∨
      ∃ inbound, host.accept = .handling index index (.handingOff inbound) ∧
        inbound.stream = stream := by
  by_cases standing : index < host.tests.length
  · have here := List.getElem?_eq_getElem standing
    rcases streams_of_step slotted step here found with
      earlier | ⟨inbound, cookie, handling, -, -, added⟩
    · exact .inl ⟨_, here, earlier.subset posted⟩
    · rw [added] at posted
      rcases List.mem_append.mp posted with before | latest
      · exact .inl ⟨_, here, before⟩
      · exact .inr ⟨inbound, handling, (List.mem_singleton.mp latest).symm⟩
  · -- The test has just been made.
    have within := (List.getElem?_eq_some_iff.mp found).1
    by_cases spawns : event = .spawn
    · subst spawns
      simp only [Host.step] at step
      split at step
      · rename_i shutdown perf creating
        cases step
        change (host.tests ++ [_])[index]? = some after at found
        rw [List.getElem?_append_right (not_lt.mp standing), List.getElem?_singleton] at found
        split at found
        · cases found
          cases posted
        · cases found
      · cases step
    · have same := congrArg List.length (perfs_of_step spawns step)
      rw [List.length_map, List.length_map] at same
      rw [same] at within
      exact absurd within standing

end Host

namespace Visit

variable {json : Json} {caller : Caller} {build : Build} {visit next : Visit}

/-- The client's data connections are in the mailbox of its own test, and nothing else is. -/
def Separate (visit : Visit) : Prop :=
  ∀ (index : Nat) (controller : Controller), visit.host.tests[index]? = some controller →
    ∀ stream ∈ controller.streamsPosted,
      stream.id < visit.nextId ∧ (stream ∈ visit.opened ↔ visit.test = some index)

/-- A connection that is handed to a test is one of its client's. -/
theorem own_of_handingOff (known : visit.Known json caller)
    (reachable : Reachable (Host.step json) (.new build) visit.host)
    (hidden : visit.Private json caller) (greets : Understands json (.hello caller.cookie))
    {index : Nat} {inbound : Inbound}
    (handling : visit.host.accept = .handling index index (.handingOff inbound)) :
    inbound.stream ∈ visit.opened ↔ visit.test = some index := by
  rcases Host.served_of_reachable reachable with ⟨slotted, -⟩
  have authentic := (slotted.handling index index _ handling).2.2
  constructor
  · exact fun own => test_of_authentic known reachable greets handling
      (List.mem_singleton_self inbound) authentic (.inr own)
  · intro made
    rcases authentic with ⟨cookie, awaits, presents⟩
    rcases Host.cookie_of_awaits reachable awaits with ⟨controller, found, rfl⟩
    have asked := (known.recognised.own index made).1
    rw [perfs, List.getElem?_map, found] at asked
    have perf : controller.perf = caller.asked := Option.some.inj asked
    rw [perf] at presents
    by_contra other
    apply hidden inbound
    · rw [handling]
      exact List.mem_singleton_self inbound
    · rintro (dialed | own)
      · exact not_control_of_handling known made handling (List.mem_singleton_self inbound) dialed
      · exact other own
    · exact Inbound.presents_iff.mp presents

/-- The server moves. -/
private theorem Separate.host (separate : visit.Separate) (known : visit.Known json caller)
    (reachable : Reachable (Host.step json) (.new build) visit.host)
    (hidden : visit.Private json caller) (greets : Understands json (.hello caller.cookie))
    {event : HostEvent} {host : Host} (step : visit.host.step json event = some host) :
    ∀ (index : Nat) (controller : Controller), host.tests[index]? = some controller →
      ∀ stream ∈ controller.streamsPosted, index < visit.host.tests.length ∧
        stream.id < visit.nextId ∧ (stream ∈ visit.opened ↔ visit.test = some index) := by
  intro index controller found stream posted
  rcases Host.served_of_reachable reachable with ⟨slotted, -⟩
  rcases Host.posted_of_step slotted step found posted with
    ⟨before, here, earlier⟩ | ⟨inbound, handling, rfl⟩
  · exact ⟨(List.getElem?_eq_some_iff.mp here).1, separate index before here stream earlier⟩
  · have inboundMem : inbound ∈ visit.host.accept.inHand := by
      rw [handling]
      exact List.mem_singleton_self inbound
    rcases (slotted.handling index index _ handling).2.2 with ⟨cookie, ⟨_, here, -⟩, -⟩
    exact ⟨(List.getElem?_eq_some_iff.mp here).1,
      (known.distinct.current _ (known.distinct.inHand inbound inboundMem)).1,
      own_of_handingOff known reachable hidden greets handling⟩

/-- The client moves, or somebody connects. -/
theorem Separate.beside (separate : visit.Separate) (host : next.host = visit.host)
    (test : next.test = visit.test) (nextId : visit.nextId ≤ next.nextId)
    (opened : next.opened = visit.opened ∨ next.opened = visit.opened ++ [⟨visit.nextId⟩]) :
    next.Separate := by
  intro index controller found stream posted
  rcases separate index controller (host ▸ found) stream posted with ⟨lower, own⟩
  constructor
  · exact lower.trans_le nextId
  · rw [test, ← own]
    rcases opened with same | added
    · rw [same]
    · rw [added, List.mem_append, List.mem_singleton]
      apply or_iff_left
      rintro rfl
      exact lt_irrefl _ lower

theorem working_of_spawn {host : Host} (step : visit.host.step json .spawn = some host) :
    visit.host.accept.isFree = false := by
  simp only [Host.step] at step
  split at step
  · rename_i shutdown perf creating
    rw [creating]
    rfl
  · cases step

theorem Separate.step (separate : visit.Separate) (known : visit.Known json caller)
    (reachable : Reachable (Host.step json) (.new build) visit.host)
    (clear : visit.Clear json caller) (greets : Understands json (.hello caller.cookie))
    (move : Move json caller visit next) : next.Separate := by
  have moves := fun {event host} => @Separate.host json caller build visit separate known reachable
    clear.1 greets event host
  cases move with
  | dial | stranger => exact separate.beside rfl rfl (Nat.le_succ _) (.inl rfl)
  | fail | hello | reply | parameters | signal =>
      exact separate.beside rfl rfl (le_refl _) (.inl rfl)
  | client client _ running move =>
      cases move with
      | connect => exact separate.beside rfl rfl (Nat.le_succ _) (.inr rfl)
      | reply | read | own | rest => exact separate.beside rfl rfl (le_refl _) (.inl rfl)
  | accept index stream host waiting step =>
      exact fun index controller found stream posted =>
        (moves step index controller found stream posted).2
  | arrive bytes closed host arrives step =>
      exact fun index controller found stream posted =>
        (moves step index controller found stream posted).2
  | hostReads test message toServer host own head step =>
      exact fun index controller found stream posted =>
        (moves step index controller found stream posted).2
  | createWelcome delivered host step =>
      exact fun index controller found stream posted =>
        (moves step index controller found stream posted).2
  | host event host noAccept noArrive noWelcome noSpawn reads step =>
      exact fun index controller found stream posted =>
        (moves step index controller found stream posted).2
  | spawn host step =>
      intro index controller found stream posted
      rcases moves step index controller found stream posted with ⟨within, lower, own⟩
      constructor
      · exact lower
      · change stream ∈ visit.opened ↔ (if visit.control.isSome ∧ visit.current = visit.control then
          some visit.host.tests.length else visit.test) = some index
        rw [own]
        split
        · rename_i here
          -- The client has no test yet, and its test is a later one.
          apply iff_of_false
          · exact fun made => known.recognised.once index made (working_of_spawn step) here
          · intro same
            rw [Option.some.inj same] at within
            exact lt_irrefl _ within
        · rfl

/-- In every run in which nobody else presents the client's cookie and none of its data
connections is taken for a new client, the tests of the server keep apart: a stream that is
registered in the client's test is one of the client's data connections, and a stream that is
registered in any other test is none of them. -/
theorem streams_kept_apart {events : List VisitEvent}
    (greets : Understands json (.hello caller.cookie))
    (asks : Understands json (.sendParameters (.fromOpts caller.opts)))
    (guarded : Guarded (Visit.step json caller) (fun visit _ => visit.Clear json caller)
      (new build) events)
    (finished : run (Visit.step json caller) (new build) events = some visit) {index : Nat}
    {controller : Controller} (found : visit.host.tests[index]? = some controller) :
    ∀ task ∈ controller.tasks, task.stream ∈ visit.opened ↔ visit.test = some index := by
  have all : (visit.Known json caller ∧ visit.Separate) ∧
      Reachable (Host.step json) (.new build) visit.host := by
    apply run_invariant (fun visit : Visit => (visit.Known json caller ∧ visit.Separate) ∧
      Reachable (Host.step json) (.new build) visit.host) _
      ⟨⟨new_known json caller build, by rintro index controller ⟨⟩⟩, .refl _ _⟩ guarded finished
    rintro source event target ⟨⟨known, separate⟩, reachable⟩ clear step
    have move := move_of_step step
    constructor
    · exact ⟨known.step clear greets asks move, separate.step known reachable clear greets move⟩
    · exact reachable_of_move reachable move
  rcases all with ⟨⟨known, separate⟩, reachable⟩
  intro task taskMem
  have enrolled := Host.enrolled_of_reachable reachable (List.mem_of_getElem? found)
  exact (separate index controller found task.stream (enrolled.posted taskMem)).2

private theorem firstStream_registers :
    (run (Visit.step (.ofDefaults "c") sample) (new ⟨true, true⟩)
      (firstStream (.ofDefaults "c") sample)).map (fun visit =>
        (visit.test, visit.host.tests[0]?.map fun controller => controller.tasks.length)) =
          some (some 0, some 1) := by
  decide +kernel

theorem streams_kept_apart_firstStream :
    ∃ (visit : Visit) (controller : Controller),
      Reachable (Visit.step (.ofDefaults "c") sample) (new ⟨true, true⟩) visit ∧
      visit.host.tests[0]? = some controller ∧ controller.tasks.length = 1 ∧
      ∀ task ∈ controller.tasks, task.stream ∈ visit.opened := by
  rcases Option.map_eq_some_iff.mp firstStream_registers with ⟨visit, finished, observed⟩
  rcases Prod.mk.inj observed with ⟨made, registered⟩
  rcases Option.map_eq_some_iff.mp registered with ⟨controller, found, few⟩
  have own := streams_kept_apart ⟨by decide +kernel, by decide +kernel⟩
    ⟨by decide +kernel, by decide +kernel⟩ firstStream_clear finished found
  exact ⟨visit, controller, ⟨_, finished⟩, found, few,
    fun task taskMem => (own task taskMem).mpr made⟩

end Visit

end Iperf
