import Iperf.Host.Step

/-!
# One test at a time

The weak reference is set exactly when a controller is spawned, and only when
nothing owned the state it referred to before.  So at most one controller runs,
the sender kept beside the reference belongs to the same test, and the lock
that is held while a connection is authenticated is the lock of that test.
-/

namespace Iperf

open Channel Transition

namespace Host

variable {json : Json} {host next : Host}

/-- The state of `test` is locked by the accept loop, and asks for streams. -/
def Awaits (host : Host) (test : Nat) (cookie : String) : Prop :=
  ∃ controller, host.tests[test]? = some controller ∧ controller.locked = true ∧
    controller.state = .createStreams cookie

/-- What is known of the connection and the test inside `handleCreateStream`. -/
def Authentic (json : Json) (host : Host) (test : Nat) : AcceptPc → Prop
  | .reading _ cookie => host.Awaits test cookie
  | .welcoming inbound | .handingOff inbound =>
      ∃ cookie, host.Awaits test cookie ∧ inbound.presents json cookie = true
  | _ => True

/-- The slot, the sender and the lock belong to the one test that may run. -/
structure Slotted (json : Json) (host : Host) : Prop where
  paired : host.controllerChannel = host.inFlightTestState
  alive : ∀ test, host.isAlive test = true → host.inFlightTestState = some test
  creating : ∀ shutdown pc, host.accept = .creating shutdown pc →
    ∀ test, host.isAlive test = false
  handling : ∀ test sender pc, host.accept = .handling test sender pc →
    sender = test ∧ host.inFlightTestState = some test ∧ host.Authentic json test pc

theorem new_slotted (json : Json) (build : Build) : (new build).Slotted json where
  paired := rfl
  alive := by
    intro test running
    simp [isAlive, new] at running
  creating := by
    rintro shutdown pc ⟨⟩
  handling := by
    rintro test sender pc ⟨⟩

theorem isAlive_of_testsBy (tests : TestsBy Controller.Ages host next) {test : Nat}
    (running : next.isAlive test = true) : host.isAlive test = true := by
  have related := tests test
  rw [isAlive] at running ⊢
  generalize host.tests[test]? = before at related ⊢
  generalize next.tests[test]? = after at related running
  cases related with
  | none => cases running
  | some ages => exact ages.alive running

/-- A change that neither ends nor revives a test. -/
theorem isAlive_modify {changed : Nat} {change : Controller → Controller}
    (kept : ∀ controller, (change controller).alive = controller.alive)
    (modified : next.tests = host.tests.modify changed change) (test : Nat) :
    next.isAlive test = host.isAlive test := by
  simp only [isAlive, modified, List.getElem?_modify]
  cases host.tests[test]? with
  | none => rfl
  | some controller =>
      by_cases same : changed = test
      · simp only [same, if_true, Option.map_eq_map, Option.map_some, Option.any_some, kept]
      · simp only [same, if_false, Option.map_eq_map, Option.map_some, Option.any_some]

theorem isAlive_post (host : Host) (sender : Nat) (message : ControllerMessage) (test : Nat) :
    (host.post sender message).isAlive test = host.isAlive test :=
  isAlive_modify (fun controller => Controller.trySend_alive controller message) rfl test

theorem isAlive_release (host : Host) (held test : Nat) :
    (host.release held).isAlive test = host.isAlive test :=
  @isAlive_modify host (host.release held) held
    (fun controller => { controller with locked := false }) (fun _ => rfl) rfl test

theorem Awaits.keeps (tests : TestsBy Controller.Keeps host next) {test : Nat}
    {cookie : String} (awaits : host.Awaits test cookie) : next.Awaits test cookie := by
  rcases awaits with ⟨controller, found, locked, state⟩
  have related := tests test
  rw [found] at related
  generalize after : next.tests[test]? = result at related
  cases related with
  | some keeps =>
      exact ⟨_, after, keeps.locked.trans locked, (keeps.state locked).trans state⟩

theorem Authentic.keeps (tests : TestsBy Controller.Keeps host next) {test : Nat}
    {pc : AcceptPc} (authentic : host.Authentic json test pc) :
    next.Authentic json test pc := by
  cases pc with
  | reading inbound cookie => exact Awaits.keeps tests authentic
  | welcoming inbound =>
      rcases authentic with ⟨cookie, awaits, presents⟩
      exact ⟨cookie, awaits.keeps tests, presents⟩
  | handingOff inbound =>
      rcases authentic with ⟨cookie, awaits, presents⟩
      exact ⟨cookie, awaits.keeps tests, presents⟩
  | _ => trivial

/-- Steps of the tests themselves leave everything in its place. -/
theorem Slotted.keeps (slotted : host.Slotted json)
    (tests : TestsBy Controller.Keeps host next)
    (slot : next.inFlightTestState = host.inFlightTestState)
    (channel : next.controllerChannel = host.controllerChannel)
    (creating : ∀ shutdown pc, next.accept = .creating shutdown pc →
      ∃ before pc, host.accept = .creating before pc)
    (handling : ∀ test sender pc, next.accept = .handling test sender pc →
      host.accept = .handling test sender pc) : next.Slotted json := by
  have ages := tests.mono fun _ _ keeps => keeps.toAges
  constructor
  · rw [channel, slot]
    exact slotted.paired
  · intro test running
    rw [slot]
    exact slotted.alive test (isAlive_of_testsBy ages running)
  · intro shutdown pc accept test
    rcases creating shutdown pc accept with ⟨before, earlier, creatingBefore⟩
    apply eq_false_of_ne_true
    intro running
    have dead := slotted.creating before earlier creatingBefore test
    rw [isAlive_of_testsBy ages running] at dead
    cases dead
  · intro test sender pc accept
    rcases slotted.handling test sender pc (handling test sender pc accept) with
      ⟨same, slotted, authentic⟩
    exact ⟨same, slot.trans slotted, authentic.keeps tests⟩

/-- A step that changes nothing but where the accept loop stands. -/
theorem Slotted.moved (slotted : host.Slotted json) {accept : HostPc}
    (creating : ∀ shutdown pc, accept = .creating shutdown pc →
      ∃ before pc, host.accept = .creating before pc)
    (handling : ∀ test sender pc, accept ≠ .handling test sender pc) :
    Slotted json { host with accept } := by
  apply @Slotted.keeps json host { host with accept } slotted
    (TestsBy.refl Controller.Keeps.refl rfl) rfl rfl creating
  intro test sender pc moved
  exact absurd moved (handling test sender pc)

/-- Nothing is alive that the reference does not lead to. -/
theorem Slotted.dead_of_upgrade (slotted : host.Slotted json) (gone : host.upgrade = none)
    (test : Nat) : host.isAlive test = false := by
  apply eq_false_of_ne_true
  intro running
  have slot := slotted.alive test running
  rw [upgrade, slot, Option.filter_some, running, Bool.true_or] at gone
  cases gone

/-- Wherever the accept loop goes on its own, what it holds is in the slot. -/
theorem Slotted.goes (slotted : host.Slotted json) {event : HostEvent} {accept : HostPc}
    (goes : host.Goes event accept) : Slotted json { host with accept } := by
  cases goes with
  | idle _ outside => exact slotted.moved (by rintro _ _ ⟨⟩) (by rintro _ _ _ ⟨⟩)
  | stopped _ outside => exact slotted.moved (by rintro _ _ ⟨⟩) (by rintro _ _ _ ⟨⟩)
  | create _ shutdown later before pc creating past =>
      exact slotted.moved (fun _ _ _ => ⟨before, pc, creating⟩) (by rintro _ _ _ ⟨⟩)
  | receiveFirst shutdown inbound bytes closed creating opened =>
      exact slotted.moved (fun _ _ _ => ⟨shutdown, _, creating⟩) (by rintro _ _ _ ⟨⟩)
  | start shutdown inbound idle gone =>
      constructor
      · exact slotted.paired
      · exact slotted.alive
      · rintro _ _ -
        exact slotted.dead_of_upgrade gone
      · rintro _ _ _ ⟨⟩
  | enter test sender inbound idle upgraded channel =>
      have slot : host.inFlightTestState = some test := by
        rw [upgrade, Option.filter_eq_some_iff] at upgraded
        exact upgraded.1
      constructor
      · exact slotted.paired
      · exact slotted.alive
      · rintro _ _ ⟨⟩
      · rintro _ _ _ ⟨⟩
        constructor
        · have paired := slotted.paired
          rw [channel, slot] at paired
          exact Option.some.inj paired
        constructor
        · exact slot
        · exact trivial
  | receive test sender inbound cookie bytes closed reading opened =>
      constructor
      · exact slotted.paired
      · exact slotted.alive
      · rintro _ _ ⟨⟩
      · rintro _ _ _ ⟨⟩
        exact slotted.handling test sender _ reading

/-- The new test is the only one that runs, and the slot and the sender are its. -/
theorem Slotted.spawn (slotted : host.Slotted json) {shutdown : Shutdown} {perf : Perf}
    (accept : host.accept = .creating shutdown (.sendingStats perf)) :
    (host.spawn shutdown perf).Slotted json := by
  have dead := slotted.creating shutdown _ accept
  constructor
  · rfl
  · intro test running
    simp only [isAlive, Host.spawn, List.getElem?_append] at running
    split at running
    · have alive : host.isAlive test = true := running
      rw [dead test] at alive
      cases alive
    · rename_i outside
      have last : test - host.tests.length = 0 := by
        apply Nat.eq_zero_of_not_pos
        intro beyond
        rw [List.getElem?_eq_none beyond] at running
        cases running
      have same : test = host.tests.length :=
        Nat.le_antisymm (Nat.sub_eq_zero_iff_le.mp last) (Nat.le_of_not_lt outside)
      rw [same]
      rfl
  · rintro _ _ ⟨⟩
  · rintro _ _ _ ⟨⟩

/-- Where the accept loop goes on inside `handleCreateStream`. -/
theorem handlingPc_eq_handling {test sender other from_ : Nat} {pc after : AcceptPc}
    (goesOn : handlingPc test sender pc = .handling other from_ after) :
    other = test ∧ from_ = sender ∧ after = pc := by
  cases pc <;> simp [handlingPc] at goesOn <;> simp [goesOn]

theorem handlingPc_ne_creating (test sender : Nat) (pc : AcceptPc) (shutdown : Shutdown)
    (creating : CreatePc) : handlingPc test sender pc ≠ .creating shutdown creating := by
  cases pc <;> simp [handlingPc]

/-- After a step of `handleCreateStream` that is not the last. -/
theorem Slotted.inside (slotted : host.Slotted json) {test sender : Nat} {pc : AcceptPc}
    (accept : host.accept = .handling test sender pc) {controller : Controller}
    (found : host.tests[test]? = some controller) {after : Server}
    (ages : controller.Ages after.test)
    (authentic : Authentic json { host with tests := host.tests.set test after.test } test
      after.accept) :
    Slotted json { host with
      tests := host.tests.set test after.test
      replies := after.replies
      accept := handlingPc test sender after.accept } := by
  have before := slotted.handling test sender pc accept
  constructor
  · exact slotted.paired
  · intro other running
    apply slotted.alive
    exact isAlive_of_testsBy (testsBy_of_set Controller.Ages.refl found ages rfl) running
  · intro shutdown creating moved
    exact absurd moved (handlingPc_ne_creating test sender after.accept shutdown creating)
  · intro other from_ pc goesOn
    rcases handlingPc_eq_handling goesOn with ⟨rfl, rfl, rfl⟩
    exact ⟨before.1, before.2.1, authentic⟩

/-- After the last step of `handleCreateStream`. -/
theorem Slotted.back (slotted : host.Slotted json)
    (slot : next.inFlightTestState = host.inFlightTestState)
    (channel : next.controllerChannel = host.controllerChannel)
    (alive : ∀ test, next.isAlive test = host.isAlive test) (accept : next.accept = .idle) :
    next.Slotted json := by
  constructor
  · rw [channel, slot]
    exact slotted.paired
  · intro test running
    rw [alive] at running
    rw [slot]
    exact slotted.alive test running
  · intro shutdown pc creating
    rw [accept] at creating
    cases creating
  · intro test sender pc handling
    rw [accept] at handling
    cases handling

/-- A test whose state is locked now. -/
theorem awaits_of_set {controller after : Controller} {test : Nat} {cookie : String}
    (found : host.tests[test]? = some controller) (locked : after.locked = true)
    (state : after.state = .createStreams cookie) :
    Awaits { host with tests := host.tests.set test after } test cookie := by
  have within : test < host.tests.length := (List.getElem?_eq_some_iff.mp found).1
  refine ⟨after, ?_, locked, state⟩
  rw [List.getElem?_set_self within]

/-- A step that leaves the test alone leaves it awaited. -/
theorem Awaits.set {controller : Controller} {test : Nat} {cookie : String}
    (awaits : host.Awaits test cookie) (found : host.tests[test]? = some controller) :
    Awaits { host with tests := host.tests.set test controller } test cookie := by
  rcases awaits with ⟨same, foundSame, locked, state⟩
  rw [found] at foundSame
  cases foundSame
  exact awaits_of_set found locked state

theorem Slotted.handles (slotted : host.Slotted json) {test sender : Nat} {pc : AcceptPc}
    {event : ServerEvent} (accept : host.accept = .handling test sender pc)
    (handles : Handles json host test sender pc event next) : next.Slotted json := by
  have authentic := (slotted.handling test sender pc accept).2.2
  cases handles with
  | handOff inbound =>
      apply @Slotted.back json host
        ((host.post sender (.createStream inbound.stream)).release test) slotted rfl rfl _ rfl
      intro other
      rw [isAlive_release, isAlive_post]
  | terminate error =>
      apply @Slotted.back json host { host.post sender .terminate with accept := .idle }
        slotted rfl rfl _ rfl
      exact isAlive_post host sender .terminate
  | inside _ _ controller after found notHanding notFailed move =>
      have ages := ages_of_acceptMove move notHanding notFailed
      apply slotted.inside accept found ages
      cases move with
      | lookCreateStreams inbound cookie stage unlocked state =>
          exact awaits_of_set found rfl state
      | hello inbound cookie stage read =>
          rw [show pc = .reading inbound cookie from stage] at authentic
          exact ⟨cookie, Awaits.set authentic found, Inbound.presents_iff.mpr read⟩
      | welcome inbound stage =>
          rw [show pc = .welcoming inbound from stage] at authentic
          rcases authentic with ⟨cookie, awaits, presents⟩
          exact ⟨cookie, awaits.set found, presents⟩
      | handOff inbound mailbox lost stage posts => exact absurd stage (notHanding inbound)
      | terminate error mailbox lost stage posts => exact absurd stage (notFailed error)
      | _ => trivial

theorem Slotted.step (slotted : host.Slotted json) {event : HostEvent}
    (step : host.step json event = some next) : next.Slotted json := by
  cases hostMove_of_step step with
  | tests event tests keeps =>
      apply @Slotted.keeps json host { host with tests } slotted keeps.1 rfl rfl
      · intro shutdown pc accept
        exact ⟨shutdown, pc, accept⟩
      · intro test sender pc accept
        exact accept
  | signal quiet =>
      apply @Slotted.keeps json host host.ctrlC slotted
        (testsBy_of_map Controller.keeps_signal rfl) rfl rfl
      · intro shutdown pc accept
        simp only [Host.ctrlC] at accept
        split at accept
        · rename_i before earlier
          exact ⟨_, _, earlier⟩
        · exact ⟨_, _, accept⟩
      · intro test sender pc accept
        simp only [Host.ctrlC] at accept
        split at accept
        · cases accept
        · exact accept
  | goes event accept goes => exact slotted.goes goes
  | handle event _ test sender pc accept handles => exact slotted.handles accept handles
  | spawn shutdown perf accept => exact slotted.spawn accept

/-! ## What becomes of the slot and of the connections -/

/-- Only the end of a successful `createPerf` touches the slot. -/
theorem slot_of_step {event : HostEvent} (step : host.step json event = some next) :
    (event = .spawn ∧ next.tests.length = host.tests.length + 1) ∨
      (next.inFlightTestState = host.inFlightTestState ∧
        next.controllerChannel = host.controllerChannel) := by
  cases hostMove_of_step step with
  | tests event tests keeps => exact .inr ⟨rfl, rfl⟩
  | signal quiet => exact .inr ⟨rfl, rfl⟩
  | goes event accept goes => exact .inr ⟨rfl, rfl⟩
  | handle event _ test sender pc accept handles =>
      right
      cases handles with
      | handOff inbound => exact ⟨rfl, rfl⟩
      | terminate error => exact ⟨rfl, rfl⟩
      | inside _ _ controller after found notHanding notFailed move => exact ⟨rfl, rfl⟩
  | spawn shutdown perf accept =>
      left
      constructor
      · rfl
      · simp only [Host.spawn, List.length_append, List.length_singleton]

/-- No test comes back to life. -/
theorem alive_of_step {event : HostEvent} (step : host.step json event = some next)
    (other : event ≠ .spawn) {test : Nat} (running : next.isAlive test = true) :
    host.isAlive test = true := by
  cases hostMove_of_step step with
  | tests event tests keeps =>
      exact isAlive_of_testsBy (keeps.1.mono fun _ _ keeps => keeps.toAges) running
  | signal quiet =>
      refine isAlive_of_testsBy (testsBy_of_map ?_ rfl) running
      exact fun controller => (Controller.keeps_signal controller).toAges
  | goes event accept goes => exact running
  | handle event _ held sender pc accept handles =>
      cases handles with
      | handOff inbound =>
          rw [isAlive_release, isAlive_post] at running
          exact running
      | terminate error =>
          rw [← isAlive_post host sender .terminate]
          exact running
      | inside _ _ controller after found notHanding notFailed move =>
          exact isAlive_of_testsBy (testsBy_of_set Controller.Ages.refl found
            (ages_of_acceptMove move notHanding notFailed) rfl) running
  | spawn shutdown perf accept => exact absurd rfl other

/-- A connection that is accepted while nothing owns the state in the slot is the
start of a new test. -/
theorem accept_of_free {inbound : Inbound} (idle : host.accept = .idle)
    (free : ∀ test, host.inFlightTestState = some test → host.isAlive test = false) :
    ∃ shutdown next, host.step json (.accept inbound) = some next ∧
      next.accept = .creating shutdown (.reading inbound) := by
  have gone : host.upgrade = none := by
    rw [upgrade]
    cases slot : host.inFlightTestState with
    | none => rfl
    | some test =>
        have notHeld : host.references test = false := by
          rw [references, idle]
        rw [Option.filter_some, free test slot, notHeld]
        rfl
  refine ⟨if host.shutdown = .quiet then .quiet else .taken, host.acceptInbound inbound, ?_, ?_⟩
  · simp only [Host.step, idle]
  · simp only [Host.acceptInbound, gone]

/-- A connection gets into a mailbox only at the end of `handleCreateStream`, while
the accept loop still holds the lock. -/
theorem streams_of_step (slotted : host.Slotted json) {event : HostEvent}
    (step : host.step json event = some next) {test : Nat} {before after : Controller}
    (found : host.tests[test]? = some before) (foundNext : next.tests[test]? = some after) :
    after.streamsPosted <+: before.streamsPosted ∨
      ∃ inbound cookie, host.accept = .handling test test (.handingOff inbound) ∧
        before.state = .createStreams cookie ∧
        readCookie json inbound.peer = .done (.ok cookie) ∧
        after.streamsPosted = before.streamsPosted ++ [inbound.stream] := by
  have byAges : TestsBy Controller.Ages host next →
      after.streamsPosted <+: before.streamsPosted := by
    intro tests
    have related := tests test
    rw [found, foundNext] at related
    cases related with
    | some ages => exact ages.streams
  cases hostMove_of_step step with
  | tests event tests keeps => exact .inl (byAges (keeps.1.mono fun _ _ keeps => keeps.toAges))
  | signal quiet =>
      left
      apply byAges
      exact testsBy_of_map (fun controller => (Controller.keeps_signal controller).toAges) rfl
  | goes event accept goes => exact .inl (byAges (TestsBy.refl Controller.Ages.refl rfl))
  | spawn shutdown perf accept =>
      left
      simp only [Host.spawn] at foundNext
      rw [List.getElem?_append_left (List.getElem?_eq_some_iff.mp found).1, found] at foundNext
      cases foundNext
      exact List.prefix_refl _
  | handle event _ held sender pc accept handles =>
      have handling := slotted.handling held sender pc accept
      cases handles with
      | terminate error =>
          left
          apply byAges
          exact testsBy_of_modify Controller.Ages.refl
            (fun controller => (Controller.keeps_trySend_terminate controller).toAges) rfl
      | inside _ _ controller result foundHeld notHanding notFailed move =>
          left
          apply byAges
          apply testsBy_of_set Controller.Ages.refl foundHeld _ rfl
          exact ages_of_acceptMove move notHanding notFailed
      | handOff inbound =>
          rcases handling with ⟨rfl, -, cookie, ⟨controller, foundHeld, -, state⟩, presents⟩
          simp only [Host.release, Host.post, List.getElem?_modify, found] at foundNext
          by_cases same : sender = test
          · subst same
            rw [found] at foundHeld
            cases foundHeld
            simp only [if_true, Option.map_eq_map, Option.map_some, Option.some.injEq] at foundNext
            have posted : after.streamsPosted =
                (before.trySend (.createStream inbound.stream)).streamsPosted := by
              rw [← foundNext]
              rfl
            rw [posted]
            rcases Controller.streamsPosted_trySend before (.createStream inbound.stream) with
              unchanged | ⟨stream, sent, added⟩
            · exact .inl (unchanged ▸ List.prefix_refl _)
            · cases sent
              exact .inr ⟨inbound, cookie, accept, state, Inbound.presents_iff.mp presents, added⟩
          · left
            simp only [same, if_false, Option.map_eq_map, Option.map_some,
              Option.some.injEq] at foundNext
            rw [← foundNext]

/-- One test at a time: at most one controller runs; a `createPerf` that fails leaves
the slot as it was, and the next connection can start a test; so it can once the
controller has ended and the accept loop is back; and a connection is only posted
to the mailbox of the test whose state, at that moment, asks for streams with the
cookie the connection has presented. -/
theorem one_test_at_a_time {build : Build}
    (reachable : Reachable (Host.step json) (new build) host) :
    (∀ first second, host.isAlive first = true → host.isAlive second = true →
      first = second) ∧
    (∀ event next, host.step json event = some next → event ≠ .spawn →
      next.inFlightTestState = host.inFlightTestState ∧
        next.controllerChannel = host.controllerChannel ∧
        ∀ shutdown pc inbound, host.accept = .creating shutdown pc → next.accept = .idle →
          ∃ shutdown later, next.step json (.accept inbound) = some later ∧
            later.accept = .creating shutdown (.reading inbound)) ∧
    (∀ test, host.inFlightTestState = some test → host.isAlive test = false →
      host.references test = false →
      host.upgrade = none ∧
        ∀ inbound, host.accept = .idle →
          ∃ shutdown next, host.step json (.accept inbound) = some next ∧
            next.accept = .creating shutdown (.reading inbound)) ∧
    (∀ event next test before after, host.step json event = some next →
      host.tests[test]? = some before → next.tests[test]? = some after →
      after.streamsPosted <+: before.streamsPosted ∨
        ∃ inbound cookie, host.accept = .handling test test (.handingOff inbound) ∧
          before.state = .createStreams cookie ∧
          readCookie json inbound.peer = .done (.ok cookie) ∧
          after.streamsPosted = before.streamsPosted ++ [inbound.stream]) := by
  have slotted : host.Slotted json :=
    reachable.invariant (Slotted json) (fun _ _ _ slotted step => slotted.step step)
      (new_slotted json build)
  constructor
  · intro first second firstAlive secondAlive
    have same := slotted.alive first firstAlive
    rw [slotted.alive second secondAlive] at same
    exact (Option.some.inj same).symm
  constructor
  · intro event next step other
    rcases slot_of_step step with ⟨spawned, -⟩ | ⟨slot, channel⟩
    · exact absurd spawned other
    · constructor
      · exact slot
      constructor
      · exact channel
      · intro shutdown pc inbound creating idle
        have dead := slotted.creating shutdown pc creating
        apply accept_of_free idle
        intro test _
        apply eq_false_of_ne_true
        intro running
        have before := alive_of_step step other running
        rw [dead test] at before
        cases before
  constructor
  · intro test slot ended dropped
    constructor
    · rw [upgrade, slot, Option.filter_some, ended, dropped]
      rfl
    · intro inbound idle
      apply accept_of_free idle
      intro other same
      rw [slot] at same
      cases same
      exact ended
  · intro event next test before after step found foundNext
    exact streams_of_step slotted step found foundNext

private theorem firstStream_isSome :
    (run (Host.step (.ofDefaults "c")) (new ⟨true, true⟩) firstStream).isSome = true := by
  decide +kernel

theorem one_test_at_a_time_firstStream :
    ∃ host, run (Host.step (.ofDefaults "c")) (new ⟨true, true⟩) firstStream = some host ∧
      host.upgrade = some 0 ∧ ∀ test, host.isAlive test = true → test = 0 := by
  let host := (run (Host.step (.ofDefaults "c")) (new ⟨true, true⟩) firstStream).get
    firstStream_isSome
  have reached : run (Host.step (.ofDefaults "c")) (new ⟨true, true⟩) firstStream = some host :=
    (Option.some_get firstStream_isSome).symm
  obtain ⟨upgraded, alive⟩ : host.upgrade = some 0 ∧ host.isAlive 0 = true := by
    decide +kernel
  refine ⟨host, reached, upgraded, ?_⟩
  intro test running
  exact (one_test_at_a_time ⟨firstStream, reached⟩).1 test 0 running alive

end Host

end Iperf
