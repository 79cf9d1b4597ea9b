import Iperf.Host.Hostage
import Iperf.Host.Servers
import Iperf.Host.Turn
import Iperf.Transition.Account

/-!
# What stops the accept loop, and what keeps it

The accept loop ends when its listener fails and when it is told to, and for no other
reason: a read returns whatever it reads, and the sender of the mailbox is there whenever
the test it belongs to is.  Of each connection it is done after four steps of its own, and
it can take the next of them unless it waits for the `Hello` of a connection.
-/

namespace Iperf

open Channel Transition

/-- A connection is accepted. -/
def HostEvent.isAccept : HostEvent → Bool
  | .accept _ => true
  | _ => false

variable {json : Json}

theorem readCookie_of_isSilent {inbound : Inbound} (silent : inbound.isSilent json = true) :
    readCookie json inbound.peer = .waiting := by
  rw [Inbound.isSilent] at silent
  rw [readCookie]
  generalize serverReadMessage json inbound.peer = outcome at silent ⊢
  cases outcome with
  | waiting => rfl
  | _ => cases silent

theorem readCookie_of_heard {inbound : Inbound} (heard : inbound.isSilent json = false) :
    readCookie json inbound.peer ≠ .waiting := by
  rw [Inbound.isSilent] at heard
  rw [readCookie]
  generalize serverReadMessage json inbound.peer = outcome at heard ⊢
  rcases outcome with _ | _ | (_ | (_ | _ | _))
  · cases heard
  all_goals rintro ⟨⟩

theorem opened_of_isSilent {inbound : Inbound} (silent : inbound.isSilent json = true) :
    inbound.peer.closed = false := by
  apply eq_false_of_ne_true
  intro closed
  rw [Inbound.isSilent, serverReadMessage_eq json closed] at silent
  cases silent

theorem isSilent_of_closed (inbound : Inbound) (bytes : List UInt8) :
    (inbound.receive bytes true).isSilent json = false := by
  rw [Inbound.isSilent, Inbound.receive, serverReadMessage_eq json rfl]
  rfl

namespace Host

variable {host next : Host} {event : HostEvent}

/-- Inside `handleCreateStream` there is always something left to do. -/
def Working (host : Host) : Prop :=
  ∀ test sender pc, host.accept = .handling test sender pc → 0 < pc.turns

theorem Working.busy (working : host.Working) : host.Busy := by
  intro test sender idle
  exact lt_irrefl _ (working test sender .idle idle)

theorem Working.step (working : host.Working) (step : host.step json event = some next) :
    next.Working := by
  intro test sender pc handling
  have turn := turn_of_step working.busy step
  rw [handling] at turn
  generalize accept : HostPc.handling test sender pc = later at turn
  cases turn with
  | still => exact working test sender pc accept.symm
  | enter | receive =>
      cases accept
      exact Nat.zero_lt_succ _
  | handle event _ _ _ _ before fewer sooner positive =>
      cases accept
      exact positive
  | _ => cases accept

/-- What is known of the accept loop wherever it stands. -/
structure Standing (json : Json) (host : Host) : Prop where
  slotted : host.Slotted json
  agree : host.LocksAgree
  working : host.Working
  within : ∀ test, host.inFlightTestState = some test → test < host.tests.length

theorem standing_of_reachable {build : Build}
    (reachable : Reachable (Host.step json) (.new build) host) : host.Standing json := by
  rcases served_of_reachable reachable with ⟨slotted, servers, served⟩
  constructor
  · exact slotted
  · exact reachable.invariant LocksAgree (fun _ _ _ agree step => agree.step step)
      (new_locksAgree build)
  · exact reachable.invariant Working (fun _ _ _ working step => working.step step)
      (by rintro test sender pc ⟨⟩)
  · exact fun test slot => Nat.lt_of_succ_le (Nat.le_of_eq (served.latest test slot))

theorem Standing.turn (standing : host.Standing json) (step : host.step json event = some next) :
    Turn json host event next.accept :=
  turn_of_step standing.working.busy step

/-! ## The end -/

/-- The sender of the mailbox is there whenever the test is. -/
theorem Standing.sender (standing : host.Standing json) {test : Nat}
    (upgraded : host.upgrade = some test) : host.controllerChannel = some test := by
  rw [standing.slotted.paired]
  exact (Option.filter_eq_some_iff.mp upgraded).1

/-- A step ends the accept loop only as its end. -/
theorem Standing.stopped_iff (standing : host.Standing json)
    (step : host.step json event = some next) :
    next.accept = .stopped ↔ host.accept = .stopped ∨ event.isEnd = true := by
  have turn := standing.turn step
  generalize next.accept = accept at turn ⊢
  cases turn with
  | still event waits runs =>
      rw [runs]
      exact (or_iff_left Bool.false_ne_true).symm
  | back event working runs =>
      rw [runs, or_iff_left Bool.false_ne_true]
      apply iff_of_false (by rintro ⟨⟩)
      intro stopped
      rw [stopped] at working
      exact lt_irrefl _ working
  | finish event idle ends => exact iff_of_true rfl (.inr ends)
  | crash test inbound idle upgraded missing =>
      rw [standing.sender upgraded] at missing
      cases missing
  | signal _ _ before | enter _ _ _ before | start _ _ before | handle _ _ _ _ _ before
  | receive _ _ _ _ _ _ before | receiveHello _ _ _ _ before | receiveParams _ _ _ _ _ before
  | welcoming _ _ _ before | awaiting _ _ _ before | asked _ _ _ _ before =>
      rw [before]
      exact iff_of_false (by rintro ⟨⟩) (by rintro (⟨⟨⟩⟩ | ⟨⟨⟩⟩))

/-- The accept loop ends exactly when its listener fails or it is told to. -/
theorem stopped_iff_of_run {build : Build} {events : List HostEvent}
    (finished : run (Host.step json) (new build) events = some host) :
    host.accept = .stopped ↔ ∃ event ∈ events, event.isEnd = true := by
  have latched := run_latched (Reachable (Host.step json) (new build))
    (fun host => host.accept = .stopped) (fun event => event.isEnd = true)
    (fun _ _ _ reachable step => reachable.tail step)
    (fun _ _ _ reachable step => (standing_of_reachable reachable).stopped_iff step)
    (Reachable.refl _ _) finished
  exact latched.trans (or_iff_right (by rintro ⟨⟩))

theorem Standing.turns (standing : host.Standing json)
    (step : host.step json event = some next) :
    next.accept.turns + (if event.isTurn then 1 else 0) ≤
      host.accept.turns + if event.isAccept then 4 else 0 := by
  have turn := standing.turn step
  generalize next.accept = accept at turn ⊢
  cases turn with
  | still event waits runs =>
      rw [waits]
      exact Nat.le_add_right _ _
  | back event working runs =>
      have paid : 0 + (if event.isTurn = true then 1 else 0) ≤ host.accept.turns := by
        split <;> omega
      exact Nat.le_add_right_of_le paid
  | finish event idle ends =>
      cases event with
      | listenerError | stop => exact Nat.zero_le _
      | _ => cases ends
  | crash => exact Nat.zero_le _
  | handle own test sender pc later before fewer sooner =>
      rw [before]
      exact sooner
  | signal _ _ before | enter _ _ _ before | start _ _ before | receive _ _ _ _ _ _ before
  | receiveHello _ _ _ _ before | receiveParams _ _ _ _ _ before | welcoming _ _ _ before
  | awaiting _ _ _ before | asked _ _ _ _ before =>
      rw [before]
      exact Nat.le_refl _

/-! ## What it waits for -/

/-- Only with a connection in hand there is something to do. -/
theorem Standing.working_of_turn (standing : host.Standing json) (own : event.isTurn = true)
    (step : host.step json event = some next) : host.accept.isFree = false := by
  have paid := standing.turns step
  have notAccept : event.isAccept = false := by
    cases event with
    | accept => cases own
    | _ => rfl
  simp only [own, notAccept, if_true, Bool.false_eq_true, if_false] at paid
  cases accept : host.accept with
  | idle | stopped =>
      rw [accept] at paid
      exact absurd paid (Nat.not_succ_le_zero _)
  | handling | creating => rfl

/-- Where the `Hello` is awaited, nothing can be done with the connection. -/
theorem heard_of_turn (own : event.isTurn = true) (step : host.step json event = some next) :
    host.accept.awaitsHello json = false := by
  apply eq_false_of_ne_true
  intro waits
  cases accept : host.accept with
  | idle | stopped =>
      rw [accept] at waits
      cases waits
  | creating shutdown pc =>
      rw [accept] at waits
      cases pc with
      | reading inbound =>
          have silent := readCookie_of_isSilent waits
          cases event with
          | createHello => simp [Host.step, accept, silent, Host.createHello] at step
          | handle | createWelcome | createParams | timeout | spawn =>
              simp [Host.step, accept] at step
          | _ => cases own
      | _ => cases waits
  | handling test sender pc =>
      rw [accept] at waits
      cases pc with
      | reading inbound cookie =>
          have silent := readCookie_of_isSilent waits
          cases event with
          | handle event =>
              rcases handles_of_step step with ⟨_, _, _, same, handles⟩
              rw [accept] at same
              cases same
              cases handles with
              | inside _ _ controller after found notHanding notFailed move =>
                  cases move with
                  | hello _ _ pc read | otherCookie _ _ _ pc read | noHello _ _ _ pc read
                  | crash _ _ pc read =>
                      cases pc
                      rw [silent] at read
                      cases read
                  | accept _ pc | lookCreateStreams _ _ pc | lookOther _ pc | welcome _ pc
                  | unwelcome _ pc | handOff _ _ _ pc | refuse _ _ _ _ pc
                  | terminate _ _ _ pc | stop pc => cases pc
          | createHello | createWelcome | createParams | timeout | spawn =>
              simp [Host.step, accept] at step
          | _ => cases own
      | _ => cases waits

/-- Whoever closes the connection lets the accept loop go on. -/
theorem heard_of_close (waits : host.accept.awaitsHello json = true) (bytes : List UInt8) :
    ∃ next, host.step json (.arrive bytes true) = some next ∧
      next.accept.awaitsHello json = false := by
  cases accept : host.accept with
  | idle | stopped =>
      rw [accept] at waits
      cases waits
  | creating shutdown pc =>
      rw [accept] at waits
      cases pc with
      | reading inbound =>
          refine ⟨{ host with
            accept := .creating shutdown (.reading (inbound.receive bytes true)) }, ?_,
            isSilent_of_closed inbound bytes⟩
          simp only [Host.step, arrive, accept, opened_of_isSilent waits, Bool.false_eq_true,
            if_false]
      | _ => cases waits
  | handling test sender pc =>
      rw [accept] at waits
      cases pc with
      | reading inbound cookie =>
          refine ⟨{ host with
            accept := .handling test sender (.reading (inbound.receive bytes true) cookie) }, ?_,
            isSilent_of_closed inbound bytes⟩
          simp only [Host.step, arrive, accept, opened_of_isSilent waits, Bool.false_eq_true,
            if_false]
      | _ => cases waits

private theorem handle_of_acceptStep {test sender : Nat} {pc : AcceptPc} {event : ServerEvent}
    {controller : Controller} (accept : host.accept = .handling test sender pc)
    (found : host.tests[test]? = some controller)
    (notHanding : ∀ inbound, pc ≠ .handingOff inbound) (notFailed : ∀ error, pc ≠ .failed error)
    (goes : ((host.view controller pc).acceptStep json event).isSome = true) :
    ∃ event, event.isTurn = true ∧ (host.step json event).isSome = true := by
  rcases Option.isSome_iff_exists.mp goes with ⟨after, step⟩
  refine ⟨.handle event, rfl, ?_⟩
  cases pc with
  | handingOff inbound => exact absurd rfl (notHanding inbound)
  | failed error => exact absurd rfl (notFailed error)
  | _ =>
      simp only [Host.step, accept, Host.handle, found, step, Option.bind_eq_bind,
        Option.bind_some, Option.pure_def, Option.isSome_some]

/-- Everywhere else the accept loop can go on. -/
theorem Standing.exists_turn (standing : host.Standing json)
    (working : host.accept.isFree = false) (heard : host.accept.awaitsHello json = false) :
    ∃ event, event.isTurn = true ∧ (host.step json event).isSome = true := by
  cases accept : host.accept with
  | idle | stopped =>
      rw [accept] at working
      cases working
  | creating shutdown pc =>
      rw [accept] at heard
      cases pc with
      | reading inbound =>
          refine ⟨.createHello, rfl, ?_⟩
          simp only [Host.step, accept]
          have ready := readCookie_of_heard heard
          generalize readCookie json inbound.peer = outcome at ready ⊢
          rcases outcome with _ | _ | (_ | _)
          · exact absurd rfl ready
          all_goals rfl
      | welcoming inbound cookie => exact ⟨.createWelcome true, rfl, by simp [Host.step, accept]⟩
      | awaitingParams inbound cookie => exact ⟨.timeout, rfl, by simp [Host.step, accept]⟩
      | sendingStats perf => exact ⟨.spawn, rfl, by simp [Host.step, accept]⟩
  | handling test sender pc =>
      rw [accept] at heard
      have within := standing.within test (standing.slotted.handling test sender pc accept).2.1
      rcases List.getElem?_eq_some_iff.mpr ⟨within, rfl⟩ with found
      generalize host.tests[test] = controller at found
      cases pc with
      | idle | stopped => exact absurd (standing.working test sender _ accept) (Nat.lt_irrefl 0)
      | handingOff inbound => exact ⟨.handle .handOff, rfl, by simp [Host.step, accept, handle]⟩
      | failed error => exact ⟨.handle .terminate, rfl, by simp [Host.step, accept, handle]⟩
      | upgraded inbound =>
          have unlocked : controller.locked = false := by
            rw [standing.agree test controller found, locks, accept]
            exact Bool.and_false _
          apply handle_of_acceptStep accept found (by rintro _ ⟨⟩) (by rintro _ ⟨⟩)
          show (Server.acceptStep json _ .look).isSome = true
          simp [Server.acceptStep, view, unlocked]
      | reading inbound cookie =>
          apply handle_of_acceptStep accept found (by rintro _ ⟨⟩) (by rintro _ ⟨⟩)
          show (Server.acceptStep json _ .hello).isSome = true
          have ready := readCookie_of_heard heard
          simp only [Server.acceptStep, view]
          generalize readCookie json inbound.peer = outcome at ready ⊢
          rcases outcome with _ | _ | (_ | clientCookie)
          · exact absurd rfl ready
          · rfl
          · rfl
          · simp only [Server.hello]
            split <;> rfl
      | welcoming inbound =>
          apply handle_of_acceptStep accept found (by rintro _ ⟨⟩) (by rintro _ ⟨⟩)
          show (Server.acceptStep json _ (.welcome true)).isSome = true
          simp [Server.acceptStep, view]
      | refusing inbound holds =>
          apply handle_of_acceptStep accept found (by rintro _ ⟨⟩) (by rintro _ ⟨⟩)
          show (Server.acceptStep json _ (.refuse true)).isSome = true
          simp [Server.acceptStep, view]

end Host

end Iperf
