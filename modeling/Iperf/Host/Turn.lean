import Iperf.Host.Step
import Iperf.NetUtil.Read
import Iperf.Session.Connections

/-!
# Where the accept loop goes

Each turn of the accept loop with what it has read: a connection is taken up, bytes arrive
on it, its first message is read, and it is let go or made a test of.  Nothing else has a
say in what a test is asked to do.
-/

namespace Iperf

open Channel Transition

/-- The connection `createPerf` is at work on. -/
def CreatePc.inHand : CreatePc → List Inbound
  | .reading inbound | .welcoming inbound _ | .awaitingParams inbound _ => [inbound]
  | .sendingStats _ => []

/-- The connection the accept loop is at work on. -/
def HostPc.inHand : HostPc → List Inbound
  | .handling _ _ pc => pc.inHand
  | .creating _ pc => pc.inHand
  | _ => []

/-- The accept loop is at work on no connection. -/
def HostPc.isFree : HostPc → Bool
  | .idle | .stopped => true
  | _ => false

/-- How many steps the accept loop takes, at most, until it is back in its `select!`. -/
def AcceptPc.turns : AcceptPc → Nat
  | .upgraded _ => 4
  | .reading _ _ => 3
  | .welcoming _ => 2
  | .handingOff _ | .refusing _ _ | .failed _ => 1
  | .idle | .stopped => 0

def CreatePc.turns : CreatePc → Nat
  | .reading _ => 4
  | .welcoming _ _ => 3
  | .awaitingParams _ _ => 2
  | .sendingStats _ => 1

theorem CreatePc.turns_pos (pc : CreatePc) : 0 < pc.turns := by
  cases pc <;> exact Nat.zero_lt_succ _

def HostPc.turns : HostPc → Nat
  | .handling _ _ pc => pc.turns
  | .creating _ pc => pc.turns
  | .idle | .stopped => 0

/-- A step of the accept loop with the connection it is at work on. -/
def HostEvent.isTurn : HostEvent → Bool
  | .handle _ | .createHello | .createWelcome _ | .createParams | .timeout | .spawn => true
  | _ => false

/-- The `select!` ends the accept loop. -/
def HostEvent.isEnd : HostEvent → Bool
  | .listenerError | .stop => true
  | _ => false

/-- A step by which no test is made, and none is touched. -/
def HostEvent.isOutside : HostEvent → Bool
  | .listenerError | .arrive _ _ | .createHello | .createWelcome _ | .createParams | .timeout
  | .stop => true
  | _ => false

/-! ## No read panics -/

theorem serverReadMessage_ne_panicked (json : Json) (peer : Peer) :
    serverReadMessage json peer ≠ .panicked := by
  intro panics
  have reads := @serverReadMessage_eq json { peer with closed := true } rfl
  rw [serverReadMessage] at panics reads
  split at panics
  · cases panics
  · rename_i feeds
    simp only [feeds] at reads
    cases reads
  · split at panics <;> cases panics

theorem readCookie_ne_panicked (json : Json) (peer : Peer) :
    readCookie json peer ≠ .panicked := by
  intro panics
  rw [readCookie] at panics
  split at panics
  · cases panics
  · rename_i reads
    exact serverReadMessage_ne_panicked json peer reads
  all_goals cases panics

namespace Host

variable {json : Json} {host next : Host} {event : HostEvent}

/-- How the accept loop moves on. -/
inductive Turn (json : Json) (host : Host) : HostEvent → HostPc → Prop where
  | still (event : HostEvent) (waits : event.isTurn = false) (runs : event.isEnd = false) :
      Turn json host event host.accept
  | signal (shutdown : Shutdown) (pc : CreatePc) (creating : host.accept = .creating shutdown pc) :
      Turn json host .ctrlC (.creating .signalled pc)
  | back (event : HostEvent) (working : 0 < host.accept.turns) (runs : event.isEnd = false) :
      Turn json host event .idle
  | finish (event : HostEvent) (idle : host.accept = .idle) (ends : event.isEnd = true) :
      Turn json host event .stopped
  /-- The sender of the mailbox is not there. -/
  | crash (test : Nat) (inbound : Inbound) (idle : host.accept = .idle)
      (upgraded : host.upgrade = some test) (missing : host.controllerChannel = none) :
      Turn json host (.accept inbound) .stopped
  | enter (test sender : Nat) (inbound : Inbound) (idle : host.accept = .idle) :
      Turn json host (.accept inbound) (.handling test sender (.upgraded inbound))
  | start (shutdown : Shutdown) (inbound : Inbound) (idle : host.accept = .idle) :
      Turn json host (.accept inbound) (.creating shutdown (.reading inbound))
  | handle (event : ServerEvent) (test sender : Nat) (pc later : AcceptPc)
      (handling : host.accept = .handling test sender pc)
      (fewer : ∀ inbound ∈ later.inHand, inbound ∈ pc.inHand) (sooner : later.turns < pc.turns)
      (working : 0 < later.turns) :
      Turn json host (.handle event) (.handling test sender later)
  | receive (bytes : List UInt8) (closed : Bool) (test sender : Nat) (inbound : Inbound)
      (cookie : String) (reading : host.accept = .handling test sender (.reading inbound cookie))
      (opened : inbound.peer.closed = false) :
      Turn json host (.arrive bytes closed)
        (.handling test sender (.reading (inbound.receive bytes closed) cookie))
  | receiveHello (bytes : List UInt8) (closed : Bool) (shutdown : Shutdown) (inbound : Inbound)
      (reading : host.accept = .creating shutdown (.reading inbound))
      (opened : inbound.peer.closed = false) :
      Turn json host (.arrive bytes closed)
        (.creating shutdown (.reading (inbound.receive bytes closed)))
  | receiveParams (bytes : List UInt8) (closed : Bool) (shutdown : Shutdown) (inbound : Inbound)
      (cookie : String)
      (reading : host.accept = .creating shutdown (.awaitingParams inbound cookie))
      (opened : inbound.peer.closed = false) :
      Turn json host (.arrive bytes closed)
        (.creating shutdown (.awaitingParams (inbound.receive bytes closed) cookie))
  | welcoming (shutdown : Shutdown) (inbound : Inbound) (cookie : String)
      (reading : host.accept = .creating shutdown (.reading inbound))
      (read : readCookie json inbound.peer = .done (.ok cookie)) :
      Turn json host .createHello (.creating shutdown (.welcoming inbound cookie))
  | awaiting (shutdown : Shutdown) (inbound : Inbound) (cookie : String)
      (welcoming : host.accept = .creating shutdown (.welcoming inbound cookie)) :
      Turn json host (.createWelcome true) (.creating shutdown (.awaitingParams inbound cookie))
  | asked (shutdown : Shutdown) (inbound : Inbound) (cookie : String) (params : Parameters)
      (awaiting : host.accept = .creating shutdown (.awaitingParams inbound cookie))
      (read : serverReadMessage json (inbound.peer.rest json) =
        .done (.ok (.sendParameters params))) :
      Turn json host .createParams
        (.creating shutdown (.sendingStats (.newWithStatsReceiver cookie .server params)))

/-- Inside `handleCreateStream` the accept loop is not in its `select!`. -/
def Busy (host : Host) : Prop :=
  ∀ test sender, host.accept ≠ .handling test sender .idle

theorem Turn.busy {accept : HostPc} (busy : host.Busy) (turn : Turn json host event accept) :
    ∀ test sender, accept ≠ .handling test sender .idle := by
  intro test sender
  cases turn with
  | still => exact busy test sender
  | handle event test sender pc later handling fewer sooner working =>
      rintro ⟨⟩
      exact lt_irrefl _ working
  | _ => rintro ⟨⟩

private theorem back_of_creating {shutdown : Shutdown} {pc : CreatePc}
    (creating : host.accept = .creating shutdown pc) (runs : event.isEnd = false) :
    Turn json host event .idle := by
  apply Turn.back _ _ runs
  rw [creating]
  exact pc.turns_pos

private theorem turn_of_handlingPc {own : ServerEvent} {test sender : Nat} {pc later : AcceptPc}
    (handling : host.accept = .handling test sender pc)
    (fewer : ∀ inbound ∈ later.inHand, inbound ∈ pc.inHand) (sooner : later.turns < pc.turns)
    (runs : later ≠ .stopped) : Turn json host (.handle own) (handlingPc test sender later) := by
  cases later with
  | idle =>
      apply Turn.back _ _ rfl
      rw [handling]
      exact sooner
  | stopped => exact absurd rfl runs
  | _ => exact .handle _ _ _ _ _ handling fewer sooner (Nat.zero_lt_succ _)

private theorem turn_of_handles {own : ServerEvent} {test sender : Nat} {pc : AcceptPc}
    (busy : host.Busy) (handling : host.accept = .handling test sender pc)
    (handles : Handles json host test sender pc own next) :
    Turn json host (.handle own) next.accept := by
  cases handles with
  | handOff inbound =>
      apply Turn.back _ _ rfl
      rw [handling]
      exact Nat.one_pos
  | terminate error =>
      apply Turn.back _ _ rfl
      rw [handling]
      exact Nat.one_pos
  | inside pc event controller after found notHanding notFailed move =>
      have forth : (∀ inbound ∈ after.accept.inHand, inbound ∈ pc.inHand) ∧
          after.accept.turns < pc.turns ∧ after.accept ≠ .stopped := by
        cases move with
        | accept inbound standing | stop standing =>
            rw [view] at standing
            cases standing
            exact absurd handling (busy test sender)
        | crash inbound cookie standing read => exact absurd read (readCookie_ne_panicked json _)
        | handOff inbound mailbox lost standing => exact absurd standing (notHanding inbound)
        | terminate error mailbox lost standing => exact absurd standing (notFailed error)
        | lookCreateStreams inbound cookie standing | lookOther inbound standing
        | hello inbound cookie standing | otherCookie inbound cookie other standing
        | welcome inbound standing =>
            rw [view] at standing
            cases standing
            exact ⟨fun _ inboundMem => inboundMem, by simp [AcceptPc.turns], by rintro ⟨⟩⟩
        | noHello inbound cookie error standing | unwelcome inbound standing
        | refuse inbound holds delivered replies standing =>
            rw [view] at standing
            cases standing
            exact ⟨fun _ none => (List.not_mem_nil none).elim, by simp [AcceptPc.turns],
              by rintro ⟨⟩⟩
      exact turn_of_handlingPc handling forth.1 forth.2.1 forth.2.2

private theorem turn_of_arrive {bytes : List UInt8} {closed : Bool}
    (step : host.arrive bytes closed = some next) :
    Turn json host (.arrive bytes closed) next.accept := by
  simp only [arrive] at step
  split at step
  · rename_i test sender inbound cookie reading
    split at step
    · cases step
    · rename_i opened
      cases step
      exact .receive _ _ test sender inbound cookie reading (eq_false_of_ne_true opened)
  · rename_i shutdown inbound reading
    split at step
    · cases step
    · rename_i opened
      cases step
      exact .receiveHello _ _ shutdown inbound reading (eq_false_of_ne_true opened)
  · rename_i shutdown inbound cookie reading
    split at step
    · cases step
    · rename_i opened
      cases step
      exact .receiveParams _ _ shutdown inbound cookie reading (eq_false_of_ne_true opened)
  · cases step

private theorem turn_of_createHello {shutdown : Shutdown} {inbound : Inbound}
    (reading : host.accept = .creating shutdown (.reading inbound))
    (step : host.createHello shutdown inbound (readCookie json inbound.peer) = some next) :
    Turn json host .createHello next.accept := by
  cases read : readCookie json inbound.peer with
  | waiting =>
      rw [read] at step
      cases step
  | panicked =>
      rw [read] at step
      exact absurd read (readCookie_ne_panicked json _)
  | done result =>
      rw [read] at step
      cases result with
      | error error =>
          cases step
          exact back_of_creating reading rfl
      | ok cookie =>
          cases step
          exact .welcoming shutdown inbound cookie reading read

private theorem turn_of_createParams {shutdown : Shutdown} {inbound : Inbound} {cookie : String}
    (awaiting : host.accept = .creating shutdown (.awaitingParams inbound cookie))
    (step : host.createParams shutdown cookie
      (serverReadMessage json (inbound.peer.rest json)) = some next) :
    Turn json host .createParams next.accept := by
  cases read : serverReadMessage json (inbound.peer.rest json) with
  | waiting =>
      rw [read] at step
      cases step
  | panicked =>
      rw [read] at step
      exact absurd read (serverReadMessage_ne_panicked json _)
  | done result =>
      rw [read] at step
      cases result with
      | error error =>
          cases step
          exact back_of_creating awaiting rfl
      | ok message =>
          cases message with
          | sendParameters params =>
              cases step
              exact .asked shutdown inbound cookie params awaiting read
          | hello | sendResults =>
              cases step
              exact back_of_creating awaiting rfl

theorem turn_of_step (busy : host.Busy) (step : host.step json event = some next) :
    Turn json host event next.accept := by
  cases event with
  | controller test event =>
      simp only [Host.step, Option.bind_eq_bind, Option.bind_eq_some_iff] at step
      rcases step with ⟨controller, found, after, moves, done⟩
      cases done
      exact .still _ rfl rfl
  | task test index event =>
      simp only [Host.step, Option.bind_eq_bind, Option.bind_eq_some_iff] at step
      rcases step with ⟨controller, found, after, moves, done⟩
      cases done
      exact .still _ rfl rfl
  | ctrlC =>
      simp only [Host.step] at step
      split at step
      · cases step
        unfold ctrlC
        split
        · rename_i pc creating
          exact .signal .quiet pc creating
        · exact .still _ rfl rfl
      · cases step
  | accept inbound =>
      simp only [Host.step] at step
      split at step
      · rename_i idle
        cases step
        unfold acceptInbound
        split
        · rename_i test upgraded
          split
          · rename_i sender channel
            exact .enter test sender inbound idle
          · rename_i missing
            exact .crash test inbound idle upgraded missing
        · exact .start _ inbound idle
      · cases step
  | listenerError =>
      simp only [Host.step] at step
      split at step
      · rename_i idle
        cases step
        exact .finish _ idle rfl
      · cases step
  | arrive bytes closed => exact turn_of_arrive step
  | handle own =>
      rcases handles_of_step step with ⟨test, sender, pc, handling, handles⟩
      exact turn_of_handles busy handling handles
  | createHello =>
      simp only [Host.step] at step
      split at step
      · rename_i shutdown inbound reading
        exact turn_of_createHello reading step
      · cases step
  | createWelcome delivered =>
      simp only [Host.step] at step
      split at step
      · rename_i shutdown inbound cookie welcoming
        split at step
        · rename_i delivers
          cases step
          exact delivers ▸ .awaiting shutdown inbound cookie welcoming
        · cases step
          exact back_of_creating welcoming rfl
      · cases step
  | createParams =>
      simp only [Host.step] at step
      split at step
      · rename_i shutdown inbound cookie awaiting
        exact turn_of_createParams awaiting step
      · cases step
  | timeout =>
      simp only [Host.step] at step
      split at step
      · rename_i creating
        cases step
        exact back_of_creating creating rfl
      · cases step
  | spawn =>
      simp only [Host.step] at step
      split at step
      · rename_i creating
        cases step
        exact back_of_creating creating rfl
      · cases step
  | stop =>
      simp only [Host.step] at step
      split at step
      · rename_i idle
        split at step
        · cases step
          exact .finish _ idle rfl
        · cases step
      · cases step

/-- Only a connection that has presented the cookie of a test is welcomed to it. -/
theorem welcomed_of_step (step : host.step json event = some next) {stream : TcpStream}
    (welcome : (stream, Reply.welcome) ∈ next.replies) :
    (stream, Reply.welcome) ∈ host.replies ∨ ∃ test sender inbound,
      host.accept = .handling test sender (.welcoming inbound) ∧ inbound.stream = stream := by
  cases hostMove_of_step step with
  | tests | signal | goes | spawn => exact .inl welcome
  | handle own _ test sender pc standing handles =>
      cases handles with
      | handOff | terminate => exact .inl welcome
      | inside _ _ controller after found notHanding notFailed move =>
          cases move with
          | welcome inbound stage =>
              rcases List.mem_append.mp welcome with before | latest
              · exact .inl before
              · cases List.mem_singleton.mp latest
                cases stage
                exact .inr ⟨test, sender, inbound, standing, rfl⟩
          | refuse inbound holds delivered replies stage answer =>
              left
              have inside : (stream, Reply.welcome) ∈ replies := welcome
              rcases answer with same | added
              · rw [same] at inside
                exact inside
              · rw [added] at inside
                rcases List.mem_append.mp inside with before | latest
                · exact before
                · cases List.mem_singleton.mp latest
          | _ => exact .inl welcome

/-! ## The tests -/

theorem map_perf_set {tests : List Controller} {changed : Nat} {controller after : Controller}
    (found : tests[changed]? = some controller) (same : after.perf = controller.perf) :
    (tests.set changed after).map Controller.perf = tests.map Controller.perf := by
  rw [List.map_set, same]
  apply List.ext_getElem?
  intro index
  rw [List.getElem?_set]
  split
  · rename_i here
    subst here
    rw [List.getElem?_map, found]
    split
    · rfl
    · rename_i outside
      rw [List.length_map] at outside
      exact absurd (List.getElem?_eq_some_iff.mp found).1 outside
  · rfl

theorem map_perf_modify {change : Controller → Controller}
    (same : ∀ controller, (change controller).perf = controller.perf) (tests : List Controller)
    (changed : Nat) :
    (tests.modify changed change).map Controller.perf = tests.map Controller.perf := by
  cases found : tests[changed]? with
  | none =>
      rw [List.modify_eq_set_getElem?, found]
      rfl
  | some controller =>
      rw [List.modify_eq_set_getElem?, found]
      exact map_perf_set found (same controller)

private theorem perfs_of_handles {test sender : Nat} {pc : AcceptPc} {own : ServerEvent}
    (handles : Handles json host test sender pc own next) :
    next.tests.map Controller.perf = host.tests.map Controller.perf := by
  have posts : ∀ message, (host.post sender message).tests.map Controller.perf =
      host.tests.map Controller.perf := fun message =>
    map_perf_modify (fun controller => controller.trySend_perf message) _ _
  cases handles with
  | handOff inbound =>
      exact (@map_perf_modify (fun controller => { controller with locked := false })
        (fun _ => rfl) _ test).trans (posts _)
  | terminate error => exact posts _
  | inside pc event controller after found notHanding notFailed move =>
      exact map_perf_set found move.outside.perf

/-- What a test is to do is settled when it is made. -/
theorem perfs_of_step (notSpawn : event ≠ .spawn) (step : host.step json event = some next) :
    next.tests.map Controller.perf = host.tests.map Controller.perf := by
  cases event with
  | controller test event =>
      simp only [Host.step, Option.bind_eq_bind, Option.bind_eq_some_iff] at step
      rcases step with ⟨controller, found, after, moves, done⟩
      cases done
      exact map_perf_set found (Controller.move_of_controllerStep moves).perf
  | task test index event =>
      simp only [Host.step, Option.bind_eq_bind, Option.bind_eq_some_iff] at step
      rcases step with ⟨controller, found, after, moves, done⟩
      cases done
      exact map_perf_set found (Controller.move_of_taskStep moves).frame.perf
  | handle own =>
      rcases handles_of_step step with ⟨test, sender, pc, handling, handles⟩
      exact perfs_of_handles handles
  | ctrlC =>
      simp only [Host.step] at step
      split at step
      · cases step
        change (host.tests.map signal).map Controller.perf = _
        rw [List.map_map]
        apply List.map_congr_left
        intro controller _
        simp only [Function.comp_apply, signal]
        split <;> rfl
      · cases step
  | accept inbound =>
      simp only [Host.step] at step
      split at step
      · cases step
        unfold acceptInbound
        split
        · split <;> rfl
        · rfl
      · cases step
  | arrive bytes closed =>
      simp only [Host.step, Host.arrive] at step
      split at step
      all_goals
        first
          | cases step
          | (split at step <;> cases step; rfl)
  | createHello =>
      simp only [Host.step] at step
      split at step
      · generalize readCookie json _ = outcome at step
        rcases outcome with _ | _ | (_ | _) <;> cases step <;> rfl
      · cases step
  | createParams =>
      simp only [Host.step] at step
      split at step
      · generalize serverReadMessage json _ = outcome at step
        rcases outcome with _ | _ | (_ | (_ | _ | _)) <;> cases step <;> rfl
      · cases step
  | createWelcome delivered =>
      simp only [Host.step] at step
      split at step
      · split at step <;> cases step <;> rfl
      · cases step
  | listenerError | timeout =>
      simp only [Host.step] at step
      split at step <;> cases step
      rfl
  | stop =>
      simp only [Host.step] at step
      split at step
      · split at step <;> cases step
        rfl
      · cases step
  | spawn => exact absurd rfl notSpawn

end Host

end Iperf
