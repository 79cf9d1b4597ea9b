import Iperf.Host.Slot
import Iperf.NetUtil.Read

/-!
# Who keeps the accept loop waiting

The accept loop waits for the bytes of a connection in three places.  Only one
of them, the read of the parameters, gives up after a while; the two reads of a
`Hello` do not, and one of them holds the lock of the test state.  The server
stays free exactly as long as no connection is read from before its first
message is there.
-/

namespace Iperf

open Channel Transition

def ReadOutcome.isWaiting {α : Type} : ReadOutcome α → Bool
  | .waiting => true
  | _ => false

/-- The first message of the connection is not complete. -/
def Inbound.isSilent (json : Json) (inbound : Inbound) : Bool :=
  (serverReadMessage json inbound.peer).isWaiting

/-- Waits for the `Hello` of a connection. -/
def HostPc.awaitsHello (json : Json) : HostPc → Bool
  | .handling _ _ (.reading inbound _) => inbound.isSilent json
  | .creating _ (.reading inbound) => inbound.isSilent json
  | _ => false

/-- Waits for bytes that have not arrived. -/
def HostPc.awaitsBytes (json : Json) : HostPc → Bool
  | .creating _ (.awaitingParams inbound _) =>
      (serverReadMessage json (inbound.peer.rest json)).isWaiting
  | accept => accept.awaitsHello json

/-- About to take the lock of the test state. -/
def Pc.wantsLock : Pc → Bool
  | .starting | .loopHead | .storing _ => true
  | _ => false

namespace Host

/-- Where the accept loop waits for bytes it holds no lock and can give up, and no
controller waits for it to go on. -/
structure Free (json : Json) (host : Host) : Prop where
  unlocked : host.accept.awaitsBytes json = true → ∀ (test : Nat) (controller : Controller),
    host.tests[test]? = some controller → controller.locked = false
  timeout : host.accept.awaitsBytes json = true → (host.step json .timeout).isSome = true
  controllers : ∀ (test : Nat) (controller : Controller),
    host.tests[test]? = some controller → controller.pc.wantsLock = true →
      controller.locked = true → host.accept.awaitsBytes json = false

/-- A connection is only read from when its first message is there. -/
def Prompt (json : Json) (host : Host) : HostEvent → Prop
  | .accept inbound => host.upgrade = none → inbound.isSilent json = false
  | .handle .look => ∀ (test sender : Nat) (inbound : Inbound) (controller : Controller)
      (cookie : String), host.accept = .handling test sender (.upgraded inbound) →
      host.tests[test]? = some controller → controller.state = .createStreams cookie →
        inbound.isSilent json = false
  | _ => True

variable {json : Json} {host next : Host}

/-! ## The lock of a test -/

/-- The accept loop holds the lock of the state of `test`. -/
def locks (host : Host) (test : Nat) : Bool :=
  match host.accept with
  | .handling held _ pc => held == test && pc.holdsLock
  | _ => false

/-- A test state is locked by the accept loop or not at all. -/
def LocksAgree (host : Host) : Prop :=
  ∀ (test : Nat) (controller : Controller), host.tests[test]? = some controller →
    controller.locked = host.locks test

theorem new_locksAgree (build : Build) : (new build).LocksAgree := by
  intro test controller found
  simp [new] at found

theorem locks_of_outside (outside : host.accept.isHandling = false) (test : Nat) :
    host.locks test = false := by
  rw [locks]
  cases accept : host.accept with
  | handling held sender pc =>
      rw [accept] at outside
      cases outside
  | _ => rfl

/-- The lock goes with the place of the accept loop. -/
theorem locked_of_acceptMove {server after : Server} {event : ServerEvent}
    (move : Server.AcceptMove json server event after)
    (notHanding : ∀ inbound, server.accept ≠ .handingOff inbound)
    (notFailed : ∀ error, server.accept ≠ .failed error)
    (agrees : server.test.locked = server.accept.holdsLock) :
    after.test.locked = after.accept.holdsLock := by
  cases move with
  | accept inbound stage alive =>
      rw [agrees, stage]
      rfl
  | lookCreateStreams inbound cookie stage unlocked state => rfl
  | lookOther inbound stage unlocked state => exact unlocked
  | hello inbound cookie stage read =>
      rw [agrees, stage]
      rfl
  | otherCookie inbound cookie clientCookie stage read differs =>
      rw [agrees, stage]
      rfl
  | noHello inbound cookie error stage read => rfl
  | crash inbound cookie stage read => rfl
  | welcome inbound stage =>
      rw [agrees, stage]
      rfl
  | unwelcome inbound stage => rfl
  | handOff inbound mailbox lost stage posts => exact absurd stage (notHanding inbound)
  | refuse inbound holds delivered replies stage answer =>
      have same : server.test.locked = holds := by
        rw [agrees, stage]
        rfl
      simp only [same, Bool.and_not_self]
      rfl
  | terminate error mailbox lost stage posts => exact absurd stage (notFailed error)
  | stop stage signalled =>
      rw [agrees, stage]
      rfl

theorem holdsLock_handlingPc (test sender other : Nat) (pc : AcceptPc) (host : Host) :
    locks { host with accept := handlingPc test sender pc } other =
      (test == other && pc.holdsLock) := by
  cases pc <;> simp [locks, handlingPc, AcceptPc.holdsLock]

theorem LocksAgree.keeps (agree : host.LocksAgree) (tests : TestsBy Controller.Keeps host next)
    (locks : ∀ test, next.locks test = host.locks test) : next.LocksAgree := by
  intro test controller found
  have related := tests test
  rw [found] at related
  generalize before : host.tests[test]? = earlier at related
  cases related with
  | some keeps => rw [keeps.locked, locks, agree test _ before]

theorem LocksAgree.handles (agree : host.LocksAgree) {test sender : Nat} {pc : AcceptPc}
    {event : ServerEvent} (accept : host.accept = .handling test sender pc)
    (handles : Handles json host test sender pc event next) : next.LocksAgree := by
  have held : ∀ other, host.locks other = (test == other && pc.holdsLock) := by
    intro other
    rw [locks, accept]
  cases handles with
  | handOff inbound =>
      intro other controller found
      rw [locks_of_outside rfl]
      simp only [Host.release, Host.post, List.getElem?_modify] at found
      cases before : host.tests[other]? with
      | none => simp [before] at found
      | some earlier =>
          simp only [before, Option.map_eq_map, Option.map_some, Option.some.injEq] at found
          by_cases own : test = other
          · rw [if_pos own] at found
            rw [← found]
          · have free : earlier.locked = false := by
              rw [agree other earlier before, held, beq_eq_false_iff_ne.mpr own, Bool.false_and]
            rw [if_neg own] at found
            rw [← found]
            split
            · rw [Controller.trySend_locked, free]
            · exact free
  | terminate error =>
      apply @LocksAgree.keeps host { host.post sender .terminate with accept := .idle } agree
      · exact testsBy_of_modify Controller.Keeps.refl Controller.keeps_trySend_terminate rfl
      · intro other
        rw [locks_of_outside rfl, held, show (AcceptPc.failed error).holdsLock = false from rfl,
          Bool.and_false]
  | inside _ _ controller after found notHanding notFailed move =>
      intro other changed foundNext
      rw [holdsLock_handlingPc test sender other after.accept
        { host with tests := host.tests.set test after.test, replies := after.replies }]
      rw [List.getElem?_set] at foundNext
      by_cases own : test = other
      · subst own
        have within : test < host.tests.length := (List.getElem?_eq_some_iff.mp found).1
        simp only [if_true, within, Option.some.injEq] at foundNext
        rw [← foundNext, beq_self_eq_true, Bool.true_and]
        apply locked_of_acceptMove move notHanding notFailed
        have agrees := agree test controller found
        rw [held, beq_self_eq_true, Bool.true_and] at agrees
        exact agrees
      · simp only [own, if_false] at foundNext
        rw [agree other changed foundNext, held, beq_eq_false_iff_ne.mpr own, Bool.false_and,
          Bool.false_and]

theorem LocksAgree.step (agree : host.LocksAgree) {event : HostEvent}
    (step : host.step json event = some next) : next.LocksAgree := by
  cases hostMove_of_step step with
  | tests event tests keeps =>
      exact @LocksAgree.keeps host { host with tests } agree keeps.1 fun _ => rfl
  | signal quiet =>
      apply @LocksAgree.keeps host host.ctrlC agree (testsBy_of_map Controller.keeps_signal rfl)
      intro test
      cases accept : host.accept with
      | creating shutdown pc => cases shutdown <;> simp [locks, Host.ctrlC, accept]
      | _ => simp [locks, Host.ctrlC, accept]
  | goes event accept goes =>
      apply @LocksAgree.keeps host { host with accept } agree
        (TestsBy.refl Controller.Keeps.refl rfl)
      intro test
      cases goes with
      | idle _ outside => rw [locks_of_outside outside, locks_of_outside rfl]
      | stopped _ outside => rw [locks_of_outside outside, locks_of_outside rfl]
      | create _ shutdown later before pc creating past =>
          rw [locks_of_outside rfl, locks, creating]
      | receiveFirst shutdown inbound bytes closed creating opened =>
          rw [locks_of_outside rfl, locks, creating]
      | start shutdown inbound idle gone => rw [locks_of_outside rfl, locks, idle]
      | enter test sender inbound idle upgraded channel =>
          simp only [locks, idle, AcceptPc.holdsLock, Bool.and_false]
      | receive test sender inbound cookie bytes closed reading opened =>
          simp only [locks, reading, AcceptPc.holdsLock]
  | handle event _ held sender pc accept handles => exact agree.handles accept handles
  | spawn shutdown perf accept =>
      intro test controller found
      rw [locks_of_outside rfl]
      simp only [Host.spawn, List.getElem?_append] at found
      split at found
      · rw [agree test controller found, locks, accept]
      · rcases List.mem_singleton.mp (List.mem_of_getElem? found) with rfl
        rfl

/-! ## The wait for a `Hello` -/

theorem isSilent_receive {inbound : Inbound} (heard : inbound.isSilent json = false)
    (opened : inbound.peer.closed = false) (bytes : List UInt8) (closed : Bool) :
    (inbound.receive bytes closed).isSilent json = false := by
  have ended : serverReadMessage json inbound.peer ≠ .waiting := by
    intro waits
    rw [Inbound.isSilent, waits] at heard
    cases heard
  rw [Inbound.isSilent, Inbound.receive, serverReadMessage_append ended opened]
  exact heard

/-- Inside `handleCreateStream` only the look at the state leads to a wait. -/
theorem awaitsHello_of_handles {test sender : Nat} {pc : AcceptPc} {event : ServerEvent}
    (accept : host.accept = .handling test sender pc)
    (prompt : host.Prompt json (.handle event))
    (handles : Handles json host test sender pc event next) :
    next.accept.awaitsHello json = false := by
  cases handles with
  | handOff inbound => rfl
  | terminate error => rfl
  | inside _ _ controller after found notHanding notFailed move =>
      cases move with
      | lookCreateStreams inbound cookie stage unlocked state =>
          rw [show pc = .upgraded inbound from stage] at accept
          exact prompt test sender inbound controller cookie accept found state
      | _ => rfl

/-- A prompt step never leads to a wait for a `Hello`. -/
theorem awaitsHello_of_step {event : HostEvent} (heard : host.accept.awaitsHello json = false)
    (prompt : host.Prompt json event) (step : host.step json event = some next) :
    next.accept.awaitsHello json = false := by
  cases hostMove_of_step step with
  | tests event tests keeps => exact heard
  | signal quiet =>
      simp only [Host.ctrlC]
      split
      · rename_i pc creating
        rw [creating] at heard
        cases pc <;> exact heard
      · exact heard
  | goes event accept goes =>
      cases goes with
      | idle _ outside => rfl
      | stopped _ outside => rfl
      | create _ shutdown later before pc creating past =>
          cases later with
          | reading inbound => exact absurd rfl (past inbound)
          | _ => rfl
      | start shutdown inbound idle gone => exact prompt gone
      | enter test sender inbound idle upgraded channel => rfl
      | receive test sender inbound cookie bytes closed reading opened =>
          rw [reading] at heard
          exact isSilent_receive heard opened bytes closed
      | receiveFirst shutdown inbound bytes closed creating opened =>
          rw [creating] at heard
          exact isSilent_receive heard opened bytes closed
  | handle event _ test sender pc accept handles =>
      exact awaitsHello_of_handles accept prompt handles
  | spawn shutdown perf accept => rfl

/-- Where no `Hello` is awaited, the only wait is the one for the parameters. -/
theorem free_of_heard (agree : host.LocksAgree) (heard : host.accept.awaitsHello json = false) :
    host.Free json := by
  have waits : host.accept.awaitsBytes json = true →
      ∃ shutdown inbound cookie,
        host.accept = .creating shutdown (.awaitingParams inbound cookie) := by
    intro waits
    cases accept : host.accept with
    | creating shutdown pc =>
        cases pc with
        | awaitingParams inbound cookie => exact ⟨shutdown, inbound, cookie, rfl⟩
        | _ =>
            rw [accept] at waits heard
            exact absurd (heard.symm.trans waits) Bool.false_ne_true
    | _ =>
        rw [accept] at waits heard
        exact absurd (heard.symm.trans waits) Bool.false_ne_true
  have unlocked : host.accept.awaitsBytes json = true → ∀ (test : Nat) (controller : Controller),
      host.tests[test]? = some controller → controller.locked = false := by
    intro waiting test controller found
    rcases waits waiting with ⟨shutdown, inbound, cookie, accept⟩
    rw [agree test controller found, locks_of_outside (by rw [accept]; rfl)]
  constructor
  · exact unlocked
  · intro waiting
    rcases waits waiting with ⟨shutdown, inbound, cookie, accept⟩
    simp only [Host.step, accept, Option.isSome_some]
  · intro test controller found wants locked
    apply eq_false_of_ne_true
    intro waiting
    rw [unlocked waiting test controller found] at locked
    cases locked

/-- Whoever is silent where a `Hello` is awaited keeps the accept loop. -/
theorem not_free_of_awaitsHello (waits : host.accept.awaitsHello json = true) :
    ¬host.Free json := by
  intro free
  have bytes : host.accept.awaitsBytes json = true := by
    cases accept : host.accept with
    | creating shutdown pc =>
        rw [accept] at waits
        cases pc with
        | awaitingParams inbound cookie => cases waits
        | _ => exact waits
    | _ =>
        rw [accept] at waits
        exact waits
  have gives := free.timeout bytes
  cases accept : host.accept with
  | creating shutdown pc =>
      cases pc with
      | awaitingParams inbound cookie =>
          rw [accept] at waits
          cases waits
      | _ => simp [Host.step, accept] at gives
  | _ => simp [Host.step, accept] at gives

/-- A step that leads to no wait for a `Hello` is prompt. -/
theorem prompt_of_step {event : HostEvent} (step : host.step json event = some next)
    (heard : next.accept.awaitsHello json = false) : host.Prompt json event := by
  cases event with
  | accept inbound =>
      intro gone
      simp only [Host.step] at step
      split at step
      · simp only [acceptInbound, gone, Option.some.injEq] at step
        rw [← step] at heard
        exact heard
      · cases step
  | handle event =>
      cases event with
      | look =>
          intro test sender inbound controller cookie accept found state
          rcases handles_of_step step with ⟨held, from_, pc, same, handles⟩
          rw [accept] at same
          cases same
          cases handles with
          | inside _ _ other after foundHeld notHanding notFailed move =>
              rw [found] at foundHeld
              cases foundHeld
              cases move with
              | lookCreateStreams later _ stage unlocked _ =>
                  have same : AcceptPc.upgraded inbound = .upgraded later := stage
                  cases same
                  exact heard
              | lookOther _ stage unlocked different => exact absurd state (different cookie)
      | _ => trivial
  | _ => trivial

/-- The accept loop is free all along a run if and only if every connection it reads
from has sent its first message by then. -/
theorem free_iff_prompt {build : Build} {events : List HostEvent}
    (finished : run (Host.step json) (new build) events = some host) :
    (∀ before after state, events = before ++ after →
      run (Host.step json) (new build) before = some state → state.Free json) ↔
    Guarded (Host.step json) (Host.Prompt json) (new build) events := by
  apply holds_iff_guarded LocksAgree (fun host => host.accept.awaitsHello json = false)
    (Host.Free json)
  · exact fun _ _ _ agree step => agree.step step
  · exact fun _ _ _ _ heard prompt step => awaitsHello_of_step heard prompt step
  · exact fun _ agree heard => free_of_heard agree heard
  · intro source event target _ step free
    apply prompt_of_step step
    apply eq_false_of_ne_true
    intro waits
    exact not_free_of_awaitsHello waits free
  · exact new_locksAgree build
  · rfl
  · exact finished

theorem free_iff_prompt_creation :
    let events := creation (.asking (.ofDefaults "c") "c" 0)
    ∀ before after state, events = before ++ after →
      run (Host.step (.ofDefaults "c")) (new ⟨true, true⟩) before = some state →
        state.Free (.ofDefaults "c") := by
  intro events
  have ends : (run (Host.step (.ofDefaults "c")) (new ⟨true, true⟩) events).isSome = true := by
    decide +kernel
  apply (free_iff_prompt (Option.some_get ends).symm).mpr
  have heard : (Inbound.asking (.ofDefaults "c") "c" 0).isSilent (.ofDefaults "c") =
      false := by
    decide +kernel
  apply guarded_of_forall
  intro event member state
  cases event with
  | accept inbound =>
      have same : inbound = .asking (.ofDefaults "c") "c" 0 := by
        simpa [events, creation] using member
      intro _
      rw [same]
      exact heard
  | handle event => simp [events, creation] at member
  | _ => trivial

/-- The last stream of a test has arrived, and a connection that is silent gets hold
of the lock before the controller does. -/
def heldUp : List HostEvent :=
  firstStream ++ [.controller 0 .recv, .controller 0 (.write true), .accept (.silent 2),
    .handle .look]

set_option maxRecDepth 20000 in
/-- The controller waits for the lock, and only the silent connection can release it. -/
theorem controller_held_up :
    ∃ host controller, Reachable (Host.step (.ofDefaults "c")) (new ⟨true, true⟩) host ∧
      host.tests[0]? = some controller ∧ controller.pc = .storing .running ∧
      controller.locked = true ∧
      host.accept = .handling 0 0 (.reading (.silent 2) "c") ∧
      (host.step (.ofDefaults "c") .timeout).isNone = true ∧
      ¬host.Free (.ofDefaults "c") := by
  have ends : (run (Host.step (.ofDefaults "c")) (new ⟨true, true⟩) heldUp).isSome = true := rfl
  let host := (run (Host.step (.ofDefaults "c")) (new ⟨true, true⟩) heldUp).get ends
  have single : (host.tests[0]?).isSome = true := rfl
  let controller := (host.tests[0]?).get single
  exact ⟨host, controller, ⟨heldUp, (Option.some_get ends).symm⟩, (Option.some_get single).symm,
    rfl, rfl, rfl, rfl, not_free_of_awaitsHello rfl⟩

end Host

end Iperf
