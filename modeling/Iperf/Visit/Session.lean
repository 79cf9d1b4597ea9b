import Iperf.Visit.Beside

/-!
# The session of a client and its test

The client program and the test that the server has made for it are the two parties of a
session, whatever other tests and other clients do: each of their steps is one of the
session, and all the other steps leave the session as it is.
-/

namespace Iperf

open Channel Transition

namespace Server

theorem phased_startedAt (build : Build) {perf : Perf} (role : perf.role = .server)
    (shutdown : Shutdown) : (startedAt build perf shutdown).Phased := by
  have test := Controller.new_phased build role
  constructor
  · exact ⟨test.role, test.cookie, test.fits, test.unloaded, test.sound, test.started,
      test.terminated⟩
  · rfl
  · rintro ⟨⟩
  · rintro inbound cookie ⟨⟩

end Server

namespace Host

variable {json : Json} {host next : Host}

/-- A test asks for streams with its own cookie. -/
theorem cookie_of_awaits {build : Build}
    (reachable : Reachable (Host.step json) (.new build) host) {test : Nat} {cookie : String}
    (awaits : host.Awaits test cookie) :
    ∃ controller, host.tests[test]? = some controller ∧ controller.perf.cookie = cookie := by
  rcases awaits with ⟨controller, found, -, state⟩
  rcases served_of_reachable reachable with ⟨-, servers, served⟩
  rcases served.found found with ⟨server, here, rfl⟩
  rcases served.reached server (List.mem_of_getElem? here) with
    ⟨_, ⟨cookie, params, shutdown, rfl, -⟩, reached⟩
  have phased : server.Phased :=
    reached.reachable.invariant Server.Phased (fun _ _ _ phased step => phased.step step)
      (Server.phased_startedAt _ rfl _)
  exact ⟨server.test, found, (phased.test.cookie _ state).symm⟩

/-- The accept loop moves outside of all tests. -/
theorem Sees.aside {index : Nat} {pc : AcceptPc} (sees : host.Sees index pc)
    (outside : host.accept = .idle ∨ ∃ shutdown pc, host.accept = .creating shutdown pc)
    {accept : HostPc} (still : accept.isHandling = false) : Sees { host with accept } index pc := by
  have idle : pc = .idle := by
    rcases outside with standing | ⟨shutdown, own, standing⟩
    · rw [Sees, standing] at sees
      exact sees
    · rw [Sees, standing] at sees
      exact sees
  cases accept with
  | handling test sender pc => cases still
  | stopped => exact .inl idle
  | idle | creating shutdown pc => exact idle

/-- The accept loop goes on alone, or receives what it waits for. -/
inductive Aside (host : Host) (event : HostEvent) : HostPc → Prop where
  | outside (accept : HostPc)
      (free : host.accept = .idle ∨ ∃ shutdown pc, host.accept = .creating shutdown pc)
      (still : accept.isHandling = false) : Aside host event accept
  | receive (test sender : Nat) (inbound : Inbound) (cookie : String) (bytes : List UInt8)
      (closed : Bool) (arrives : event = .arrive bytes closed)
      (reading : host.accept = .handling test sender (.reading inbound cookie)) :
      Aside host event (.handling test sender (.reading (inbound.receive bytes closed) cookie))

theorem aside_of_step {event : HostEvent} (aside : event.isOutside = true)
    (step : host.step json event = some next) :
    ∃ accept, next = { host with accept } ∧ Aside host event accept := by
  cases event with
  | controller | task | ctrlC | accept | handle | spawn => cases aside
  | listenerError =>
      simp only [Host.step] at step
      split at step
      · rename_i idle
        cases step
        exact ⟨_, rfl, .outside _ (.inl idle) rfl⟩
      · cases step
  | arrive bytes closed =>
      simp only [Host.step, Host.arrive] at step
      split at step
      · rename_i test sender inbound cookie reading
        split at step
        · cases step
        · cases step
          exact ⟨_, rfl, .receive test sender inbound cookie bytes closed rfl reading⟩
      · rename_i shutdown inbound creating
        split at step
        · cases step
        · cases step
          exact ⟨_, rfl, .outside _ (.inr ⟨_, _, creating⟩) rfl⟩
      · rename_i shutdown inbound cookie creating
        split at step
        · cases step
        · cases step
          exact ⟨_, rfl, .outside _ (.inr ⟨_, _, creating⟩) rfl⟩
      · cases step
  | createHello =>
      simp only [Host.step] at step
      split at step
      · rename_i shutdown inbound creating
        have outside : ∀ accept : HostPc, accept.isHandling = false →
            Aside host .createHello accept :=
          fun accept still => .outside accept (.inr ⟨_, _, creating⟩) still
        generalize readCookie json inbound.peer = outcome at step
        rcases outcome with _ | _ | (_ | _) <;> cases step
        all_goals exact ⟨_, rfl, outside _ rfl⟩
      · cases step
  | createWelcome delivered =>
      simp only [Host.step] at step
      split at step
      · rename_i shutdown inbound cookie creating
        split at step
        all_goals
          cases step
          exact ⟨_, rfl, .outside _ (.inr ⟨_, _, creating⟩) rfl⟩
      · cases step
  | createParams =>
      simp only [Host.step] at step
      split at step
      · rename_i shutdown inbound cookie creating
        have outside : ∀ accept : HostPc, accept.isHandling = false →
            Aside host .createParams accept :=
          fun accept still => .outside accept (.inr ⟨_, _, creating⟩) still
        generalize serverReadMessage json (inbound.peer.rest json) = outcome at step
        rcases outcome with _ | _ | (_ | (_ | _ | _)) <;> cases step
        all_goals exact ⟨_, rfl, outside _ rfl⟩
      · cases step
  | timeout =>
      simp only [Host.step] at step
      split at step
      · rename_i shutdown inbound cookie creating
        cases step
        exact ⟨_, rfl, .outside _ (.inr ⟨_, _, creating⟩) rfl⟩
      · cases step
  | stop =>
      simp only [Host.step] at step
      split at step
      · rename_i idle
        split at step
        · cases step
          exact ⟨_, rfl, .outside _ (.inl idle) rfl⟩
        · cases step
      · cases step

end Host

namespace Visit

variable {json : Json} {caller : Caller} {build : Build} {visit next : Visit}

/-- The test is the server of the session. -/
structure Seated (json : Json) (caller : Caller) (visit : Visit) (session : Session)
    (test : Nat) : Prop where
  accept : ∃ pc, visit.host.Sees test pc ∧
    session.server.accept = pc.map (visit.whole json caller)
  test : visit.host.tests[test]? = some session.server.test

/-- What has come about between the client and its test.  As long as there is no test, its
shutdown receiver may stand anywhere. -/
structure Meets (json : Json) (caller : Caller) (build : Build) (visit : Visit) : Prop where
  untouched : ¬visit.IsRunning → visit.opened = [] ∧ visit.toClient = [] ∧
    visit.toServer = [] ∧ visit.shutdown ≠ .taken
  alone : ∀ client, visit.startup = .running client → visit.test = none → ∀ shutdown,
    ∃ session, visit.Beside json caller client (caller.session build shutdown) session ∧
      session.server = .startedAt build caller.asked shutdown
  together : ∀ client test, visit.startup = .running client → visit.test = some test →
    ∃ shutdown session, (visit.host.shutdown = .quiet → shutdown = .quiet) ∧
      visit.Beside json caller client (caller.session build shutdown) session ∧
      visit.Seated json caller session test

theorem new_meets (json : Json) (caller : Caller) (build : Build) :
    (new build).Meets json caller build where
  untouched := fun _ => ⟨rfl, rfl, rfl, Shutdown.noConfusion⟩
  alone := by rintro client ⟨⟩
  together := by rintro client test ⟨⟩

/-! ## What leaves the session as it is -/

/-- A connection of the client gets through to its own test. -/
theorem test_of_authentic (known : visit.Known json caller)
    (reachable : Reachable (Host.step json) (.new build) visit.host)
    (greets : Understands json (.hello caller.cookie)) {test sender : Nat} {pc : AcceptPc}
    {inbound : Inbound} (standing : visit.host.accept = .handling test sender pc)
    (inboundMem : inbound ∈ pc.inHand)
    (authentic : ∃ cookie, visit.host.Awaits test cookie ∧ inbound.presents json cookie = true)
    (own : visit.IsOwn inbound.stream) : visit.test = some test := by
  rcases authentic with ⟨cookie, awaits, presents⟩
  rcases Host.cookie_of_awaits reachable awaits with ⟨controller, found, same⟩
  have atWork : inbound ∈ visit.host.accept.inHand := by
    rw [standing]
    exact inboundMem
  have cookies := readCookie_own known.spoken greets atWork own (Inbound.presents_iff.mp presents)
  apply known.recognised.tests test controller.perf
  · rw [perfs, List.getElem?_map, found]
    rfl
  · rw [same, cookies]

/-- Somebody else is answered. -/
theorem welcomed_elsewhere (known : visit.Known json caller)
    (reachable : Reachable (Host.step json) (.new build) visit.host)
    (greets : Understands json (.hello caller.cookie)) {event : HostEvent} {host : Host}
    (step : visit.host.step json event = some host)
    (elsewhere : ∀ test sender pc, visit.test = some test →
      visit.host.accept = .handling test sender pc → event.isOutside = true) :
    ∀ stream ∈ visit.opened, (stream, Reply.welcome) ∈ host.replies →
      (stream, Reply.welcome) ∈ visit.host.replies := by
  intro stream own welcome
  rcases Host.welcomed_of_step step welcome with before | ⟨test, sender, inbound, standing, rfl⟩
  · exact before
  · rcases Host.served_of_reachable reachable with ⟨slotted, -⟩
    have made := test_of_authentic known reachable greets standing
      (List.mem_singleton_self inbound) (slotted.handling test sender _ standing).2.2 (.inr own)
    rcases Host.aside_of_step (elsewhere test sender _ made standing) step with ⟨accept, rfl, -⟩
    exact welcome

/-- A step that has nothing to do with the client or its test. -/
theorem Meets.aside (meets : visit.Meets json caller build) {host : Host}
    {backlog : List TcpStream} {current : Option TcpStream} {greeted : List TcpStream}
    (fewer : ∀ stream ∈ backlog, stream ∈ visit.backlog)
    (quiet : host.shutdown = .quiet → visit.host.shutdown = .quiet)
    (welcomed : ∀ stream ∈ visit.opened, (stream, Reply.welcome) ∈ host.replies →
      (stream, Reply.welcome) ∈ visit.host.replies)
    (tests : ∀ test, visit.test = some test → ∀ controller,
      visit.host.tests[test]? = some controller → host.tests[test]? = some controller)
    (sees : ∀ test pc, visit.test = some test → visit.host.Sees test pc → host.Sees test pc) :
    Meets json caller build { visit with host, backlog, current, greeted } := by
  constructor
  · exact meets.untouched
  · intro client running none shutdown
    rcases meets.alone client running none shutdown with ⟨session, beside, fresh⟩
    exact ⟨session, beside.keep rfl rfl rfl rfl fewer welcomed, fresh⟩
  · intro client test running made
    rcases meets.together client test running made with ⟨shutdown, session, told, beside, seated⟩
    rcases seated.accept with ⟨pc, standing, accept⟩
    refine ⟨shutdown, session, fun still => told (quiet still),
      beside.keep rfl rfl rfl rfl fewer welcomed, ?_⟩
    exact ⟨⟨pc, sees test pc made standing, accept⟩, tests test made _ seated.test⟩

/-! ## The test moves by itself -/

variable {client : Controller} {start session : Session} {test : Nat}

/-- A step of the test is one of the session. -/
theorem Seated.own (beside : visit.Beside json caller client start session)
    (seated : visit.Seated json caller session test) {event : ServerEvent} {after : Controller}
    {toClient : List ServerMessage} {toServer : List ClientMessage}
    (own : event.isOwn = true)
    (moved : session.serverStep json event = some { session with
      server := { session.server with test := after }
      toClient
      toServer }) {host : Host} (accept : ∀ pc, visit.host.Sees test pc → host.Sees test pc)
    (replies : host.replies = visit.host.replies)
    (found : host.tests[test]? = some after) :
    ∃ session', Beside json caller { visit with host, toClient, toServer } client start session' ∧
      Seated json caller { visit with host, toClient, toServer } session' test := by
  rcases seated.accept with ⟨pc, sees, standing⟩
  have attained := beside.attained.test own moved
  have welcomed : ∀ stream ∈ visit.opened, (stream, Reply.welcome) ∈ host.replies →
      (stream, Reply.welcome) ∈ session.server.replies := by
    rw [replies]
    exact beside.welcomed
  exact ⟨_, { beside with attained, welcomed, toClient := rfl, toServer := rfl },
    ⟨pc, accept pc sees, standing⟩, found⟩

/-- A step in which the client's test has a part. -/
theorem Meets.own (meets : visit.Meets json caller build) (known : visit.Known json caller)
    (made : visit.test = some test) {host : Host} {backlog : List TcpStream}
    {current : Option TcpStream} {greeted : List TcpStream} {toClient : List ServerMessage}
    {toServer : List ClientMessage}
    (quiet : host.shutdown = .quiet → visit.host.shutdown = .quiet)
    (goes : ∀ {client start session}, visit.Beside json caller client start session →
      visit.Seated json caller session test → ∃ session',
        Beside json caller { visit with host, backlog, current, greeted, toClient, toServer }
          client start session' ∧
        Seated json caller { visit with host, backlog, current, greeted, toClient, toServer }
          session' test) :
    Meets json caller build { visit with host, backlog, current, greeted, toClient, toServer } := by
  constructor
  · exact fun idle => absurd (known.recognised.own test made).2 idle
  · intro client running none
    exact absurd (made.symm.trans none) (by rintro ⟨⟩)
  · intro client other running same
    cases made.symm.trans same
    rcases meets.together client test running made with ⟨shutdown, session, told, beside, seated⟩
    rcases goes beside seated with ⟨session', besideNext, seatedNext⟩
    exact ⟨shutdown, session', fun still => told (quiet still), besideNext, seatedNext⟩

/-- The controller of a test moves. -/
private theorem Meets.controller (meets : visit.Meets json caller build)
    (known : visit.Known json caller) {index : Nat} {event : ControllerEvent} {host : Host}
    (reads : ∀ message, event = .serverRead (.ok message) → visit.test ≠ some index)
    (step : visit.host.step json (.controller index event) = some host) :
    Meets json caller build { visit with
      host
      toClient := visit.toClient ++ visit.hostWrites index event } := by
  simp only [Host.step, Option.bind_eq_bind, Option.bind_eq_some_iff] at step
  rcases step with ⟨controller, found, after, moves, done⟩
  cases done
  have within := (List.getElem?_eq_some_iff.mp found).1
  by_cases made : visit.test = some index
  · refine meets.own known made id ?_
    intro client start session beside seated
    cases found.symm.trans seated.test
    have moved := @Session.serverStep_own json session event after
      (fun message same => reads message same made) moves
    have writes : session.toClient ++ Session.serverWrites session.server.test event =
        visit.toClient ++ visit.hostWrites index event := by
      rw [beside.toClient, hostWrites, if_pos made, seated.test]
      rfl
    rw [writes, beside.toServer] at moved
    exact seated.own beside rfl moved (fun _ => id) rfl (List.getElem?_set_self within)
  · have silent : visit.hostWrites index event = [] := if_neg made
    rw [silent, List.append_nil]
    refine meets.aside (fun _ => id) id (fun _ _ => id) ?_ (fun _ _ _ => id)
    intro test own controller here
    have other : index ≠ test := by
      rintro rfl
      exact made own
    exact (List.getElem?_set_ne other).trans here

/-- The client's test reads what the client has written. -/
private theorem Meets.hostReads (meets : visit.Meets json caller build)
    (known : visit.Known json caller) {message : ClientMessage} {toServer : List ClientMessage}
    {host : Host} (made : visit.test = some test) (head : visit.toServer = message :: toServer)
    (step : visit.host.step json (.controller test (.serverRead (.ok message))) = some host) :
    Meets json caller build { visit with host, toServer } := by
  simp only [Host.step, Option.bind_eq_bind, Option.bind_eq_some_iff] at step
  rcases step with ⟨controller, found, after, moves, done⟩
  cases done
  have within := (List.getElem?_eq_some_iff.mp found).1
  refine meets.own known made id ?_
  intro client start session beside seated
  cases found.symm.trans seated.test
  have moved : session.serverStep json (.controller (.serverRead (.ok message))) =
      some { session with
        server := { session.server with test := after }
        toClient := visit.toClient
        toServer } := by
    rw [← beside.toClient]
    simp only [Session.serverStep, beside.toServer, head, if_true, Server.step, moves,
      Option.map_some]
  exact seated.own beside rfl moved (fun _ => id) rfl (List.getElem?_set_self within)

/-- A worker of a test moves. -/
private theorem Meets.task (meets : visit.Meets json caller build)
    (known : visit.Known json caller) {index worker : Nat} {event : TaskEvent} {host : Host}
    (step : visit.host.step json (.task index worker event) = some host) :
    Meets json caller build { visit with host } := by
  simp only [Host.step, Option.bind_eq_bind, Option.bind_eq_some_iff] at step
  rcases step with ⟨controller, found, after, moves, done⟩
  cases done
  have within := (List.getElem?_eq_some_iff.mp found).1
  by_cases made : visit.test = some index
  · refine meets.own known made id ?_
    intro client start session beside seated
    cases found.symm.trans seated.test
    have moved : session.serverStep json (.task worker event) = some { session with
        server := { session.server with test := after }
        toClient := visit.toClient
        toServer := visit.toServer } := by
      rw [← beside.toClient, ← beside.toServer]
      simp only [Session.serverStep, Server.step, moves, Option.map_some]
    exact seated.own beside rfl moved (fun _ => id) rfl (List.getElem?_set_self within)
  · refine meets.aside (fun _ => id) id (fun _ _ => id) ?_ (fun _ _ _ => id)
    intro test own controller here
    have other : index ≠ test := by
      rintro rfl
      exact made own
    exact (List.getElem?_set_ne other).trans here

/-- The signal reaches the test, unless it has been told before. -/
private theorem Meets.ctrlC (meets : visit.Meets json caller build)
    (known : visit.Known json caller) :
    Meets json caller build { visit with host := visit.host.ctrlC } := by
  have quiet : visit.host.ctrlC.shutdown = .quiet → visit.host.shutdown = .quiet :=
    fun told => Shutdown.noConfusion (show Shutdown.signalled = .quiet from told)
  have sees : ∀ test pc, visit.host.Sees test pc → visit.host.ctrlC.Sees test pc := by
    intro test pc sees
    unfold Host.Sees Host.ctrlC at *
    cases standing : visit.host.accept with
    | creating shutdown own => cases shutdown <;> rw [standing] at sees <;> exact sees
    | _ =>
        rw [standing] at sees
        exact sees
  by_cases own : ∃ test, visit.test = some test
  · rcases own with ⟨test, made⟩
    refine meets.own known made quiet ?_
    intro client start session beside seated
    have found : visit.host.ctrlC.tests[test]? = some (Host.signal session.server.test) := by
      change (visit.host.tests.map Host.signal)[test]? = _
      rw [List.getElem?_map, seated.test]
      rfl
    by_cases untold : session.server.test.shutdown = .quiet
    · have moved : session.serverStep json .ctrlC = some { session with
          server := { session.server with test := Host.signal session.server.test }
          toClient := visit.toClient
          toServer := visit.toServer } := by
        rw [← beside.toClient, ← beside.toServer]
        simp only [Session.serverStep, Server.step, Controller.step, untold, if_true,
          Option.map_some, Host.signal]
      exact seated.own beside rfl moved (sees test) rfl found
    · rcases seated.accept with ⟨pc, standing, accept⟩
      have still : Host.signal session.server.test = session.server.test := if_neg untold
      exact ⟨session, beside.keep rfl rfl rfl rfl (fun _ => id) (fun _ _ => id),
        ⟨pc, sees test pc standing, accept⟩, still ▸ found⟩
  · exact meets.aside (fun _ => id) quiet (fun _ _ => id)
      (fun test made => absurd ⟨test, made⟩ own) (fun test pc _ => sees test pc)

/-! ## A connection on its way to the test -/

theorem mem_inHand_of_toRead {pc : AcceptPc} {inbound : Inbound} (toRead : inbound ∈ pc.toRead) :
    inbound ∈ pc.inHand := by
  cases pc with
  | upgraded other | reading other cookie =>
      rw [← Option.some.inj toRead]
      exact List.mem_singleton_self other
  | _ => cases toRead

/-- The accept loop stands in the session where it stands in the visit. -/
theorem Seated.standing (seated : visit.Seated json caller session test) {sender : Nat}
    {pc : AcceptPc} (handling : visit.host.accept = .handling test sender pc) :
    session.server.accept = pc.map (visit.whole json caller) := by
  rcases seated.accept with ⟨seen, sees, accept⟩
  rw [Host.Sees, handling] at sees
  rw [accept, sees.trans (if_pos rfl)]

/-- The client's control connection does not come back. -/
theorem not_control_of_handling (known : visit.Known json caller) (made : visit.test = some test)
    {held sender : Nat} {pc : AcceptPc} (handling : visit.host.accept = .handling held sender pc)
    {inbound : Inbound} (inboundMem : inbound ∈ pc.inHand) :
    visit.control ≠ some inbound.stream := by
  intro dialed
  apply known.recognised.once test made (by rw [handling]; rfl)
  have current := known.distinct.inHand inbound (by rw [handling]; exact inboundMem)
  exact ⟨dialed ▸ rfl, current.trans dialed.symm⟩

/-- What the server of the session is going to read has been sent. -/
theorem Seated.consistent (beside : visit.Beside json caller client start session)
    (seated : visit.Seated json caller session test) (known : visit.Known json caller)
    (hidden : visit.Private json caller) (made : visit.test = some test) {sender : Nat}
    {pc : AcceptPc} (handling : visit.host.accept = .handling test sender pc) :
    session.Consistent json caller.cookie := by
  have accept := seated.standing handling
  have read : ∀ inbound ∈ session.server.accept.toRead, ∃ before ∈ pc.inHand,
      inbound = visit.whole json caller before := by
    intro inbound toRead
    rw [accept, AcceptPc.toRead_map] at toRead
    rcases Option.map_eq_some_iff.mp toRead with ⟨before, here, same⟩
    exact ⟨before, mem_inHand_of_toRead here, same.symm⟩
  constructor
  · intro inbound toRead own
    rcases read inbound toRead with ⟨before, -, rfl⟩
    rw [whole_stream, beside.opened] at own
    rw [whole, if_pos own]
  · intro inbound toRead other
    rcases read inbound toRead with ⟨before, beforeMem, rfl⟩
    rw [whole_stream, beside.opened] at other
    rw [whole, if_neg other]
    apply hidden before (by rw [handling]; exact beforeMem)
    rintro (dialed | own)
    · exact not_control_of_handling known made handling beforeMem dialed
    · exact other own
  · intro inbound toRead
    have distinct := beside.distinct
    rw [Session.unread, Option.mem_def.mp toRead] at distinct
    exact (List.nodup_cons.mp distinct).1

/-- The session reads what has arrived by the time it is read. -/
theorem readCookie_whole (known : visit.Known json caller)
    (greets : Understands json (.hello caller.cookie)) {inbound : Inbound}
    (inboundMem : inbound ∈ visit.host.accept.inHand)
    (read : readCookie json inbound.peer ≠ .waiting) :
    readCookie json (visit.whole json caller inbound).peer = readCookie json inbound.peer := by
  by_cases own : inbound.stream ∈ visit.opened
  · rcases known.spoken.arrived inbound inboundMem (.inr own) with ⟨first, whole⟩
    rw [known.spoken.data inbound.stream own] at first whole
    rw [Visit.whole, if_pos own, readCookie_ended greets first (whole own) read]
    exact Session.Greets.readCookie greets
  · rw [whole, if_neg own]

/-- The session goes on with the connection. -/
theorem Beside.attain (beside : visit.Beside json caller client start session)
    (seated : visit.Seated json caller session test) (known : visit.Known json caller)
    (hidden : visit.Private json caller) (made : visit.test = some test) {sender : Nat}
    {pc : AcceptPc} {event : ServerEvent} {after : Server}
    (handling : visit.host.accept = .handling test sender pc)
    (noAccept : ∀ inbound, event ≠ .accept inbound)
    (moved : Server.acceptStep json ⟨session.server.test, pc, session.server.replies⟩ event =
      some after)
    (goes : session.server.acceptStep json event =
      some { after with accept := after.accept.map (visit.whole json caller) }) :
    Session.Attained json caller.cookie start { session with
      server := { after with accept := after.accept.map (visit.whole json caller) } } ∧
    List.Sublist (Session.unread { session with
      server := { after with accept := after.accept.map (visit.whole json caller) } })
      session.unread := by
  have accept := seated.standing handling
  cases toRead : after.accept.toRead with
  | none =>
      have settled : (after.accept.map (visit.whole json caller)).toRead = none := by
        rw [AcceptPc.toRead_map, toRead]
        rfl
      constructor
      · exact beside.attained.settle (seated.consistent beside known hidden made handling) settled
          noAccept goes
      · simp only [Session.unread, settled, Option.toList_none, List.nil_append, List.map_append]
        exact List.sublist_append_right _ _
  | some inbound =>
      cases Server.acceptMove_of_acceptStep moved with
      | accept inbound => exact absurd rfl (noAccept inbound)
      | lookCreateStreams inbound cookie stage unlocked state =>
          have upgraded : session.server.accept =
              .upgraded (visit.whole json caller inbound) := by
            rw [accept, show pc = _ from stage]
            rfl
          constructor
          · exact beside.attained.look upgraded unlocked state
          · simp only [Session.unread, upgraded]
            exact List.Sublist.refl _
      | _ => cases toRead

/-- A step on the way of a connection to the client's test. -/
theorem Seated.handle (beside : visit.Beside json caller client start session)
    (seated : visit.Seated json caller session test) (known : visit.Known json caller)
    (hidden : visit.Private json caller) (greets : Understands json (.hello caller.cookie))
    (made : visit.test = some test) {pc : AcceptPc} {event : ServerEvent} {host : Host}
    (handling : visit.host.accept = .handling test test pc)
    (step : visit.host.handle json test test event pc = some host) :
    ∃ session', Beside json caller { visit with host } client start session' ∧
      Seated json caller { visit with host } session' test := by
  have accept := seated.standing handling
  have inHand : visit.host.accept.inHand = pc.inHand := by
    rw [handling]
    rfl
  rcases @Host.handle_server json visit.host host test
    ⟨session.server.test, pc, session.server.replies⟩ event seated.test step with
    ⟨after, added, moved, answers, rfl⟩
  have noAccept : ∀ inbound, event ≠ .accept inbound := by
    rintro inbound rfl
    simp only [Server.acceptStep] at moved
    split at moved
    · exact known.busy test test handling
    · cases moved
  have same : session.server =
      ⟨session.server.test, pc.map (visit.whole json caller), session.server.replies⟩ := by
    rw [← accept]
  have goes : session.server.acceptStep json event =
      some { after with accept := after.accept.map (visit.whole json caller) } := by
    rw [same]
    apply Server.acceptStep_map (fun inbound => whole_stream inbound) noAccept _ moved
    rintro inbound asked reading rfl
    apply readCookie_whole known greets
    · rw [inHand, show pc = _ from reading]
      exact List.mem_singleton_self inbound
    · intro waits
      simp only [Server.acceptStep, show pc = _ from reading, waits, Server.hello] at moved
      cases moved
  rcases beside.attain seated known hidden made handling noAccept moved goes with
    ⟨attained, fewer⟩
  have welcomed : ∀ stream ∈ visit.opened,
      (stream, Reply.welcome) ∈ visit.host.replies ++ added →
        (stream, Reply.welcome) ∈ after.replies := by
    rw [answers]
    intro stream own welcome
    rcases List.mem_append.mp welcome with before | latest
    · exact List.mem_append_left _ (beside.welcomed stream own before)
    · exact List.mem_append_right _ latest
  have distinct := beside.distinct.sublist fewer
  have waiting := fun stream streamMem => beside.waiting stream (fewer.subset streamMem)
  refine ⟨_, { beside with attained, welcomed, distinct, waiting }, ⟨after.accept, ?_, rfl⟩,
    List.getElem?_set_self (List.getElem?_eq_some_iff.mp seated.test).1⟩
  unfold Host.Sees
  cases after.accept with
  | idle => rfl
  | stopped => exact .inr rfl
  | _ => exact (if_pos rfl).symm

private theorem Meets.handle (meets : visit.Meets json caller build)
    (known : visit.Known json caller)
    (reachable : Reachable (Host.step json) (.new build) visit.host)
    (hidden : visit.Private json caller) (greets : Understands json (.hello caller.cookie))
    {event : ServerEvent} {host : Host} (step : visit.host.step json (.handle event) = some host) :
    Meets json caller build { visit with host } := by
  have elsewhere := @welcomed_elsewhere json caller build visit known reachable greets _ host step
  simp only [Host.step] at step
  split at step
  · rename_i held sender pc handling
    rcases Host.served_of_reachable reachable with ⟨slotted, servers, served⟩
    rcases served.handled slotted handling with ⟨rfl, server, -, rfl, here, -⟩
    by_cases made : visit.test = some sender
    · exact meets.own known made (fun told => by
          rcases Host.handle_server here step with ⟨after, added, -, -, rfl⟩
          exact told)
        fun beside seated => seated.handle beside known hidden greets made handling step
    · have other : ∀ test, visit.test = some test → sender ≠ test := by
        rintro test own rfl
        exact made own
      have welcomed := elsewhere fun test _ _ own standing => by
        rw [handling] at standing
        cases standing
        exact absurd own made
      rcases Host.handle_server here step with ⟨after, added, -, -, rfl⟩
      refine meets.aside (fun _ => id) id welcomed ?_ ?_
      · intro test own controller found
        exact (List.getElem?_set_ne (other test own)).trans found
      · intro test pc own sees
        exact Host.sees_of_other handling (Host.handlingPc_cases sender sender after.accept)
          (other test own) sees
  · cases step

/-- More arrives on a connection on its way to the test. -/
theorem Seated.receive (beside : visit.Beside json caller client start session)
    (seated : visit.Seated json caller session test) {sender : Nat} {inbound : Inbound}
    {cookie : String}
    (handling : visit.host.accept = .handling test sender (.reading inbound cookie))
    (bytes : List UInt8) (closed : Bool) (greeted : List TcpStream) :
    ∃ session', Beside json caller { visit with
        host := { visit.host with
          accept := .handling test sender (.reading (inbound.receive bytes closed) cookie) }
        greeted } client start session' ∧
      Seated json caller { visit with
        host := { visit.host with
          accept := .handling test sender (.reading (inbound.receive bytes closed) cookie) }
        greeted } session' test := by
  have accept := seated.standing handling
  have stream : (visit.whole json caller (inbound.receive bytes closed)).stream =
      (visit.whole json caller inbound).stream := by
    rw [whole_stream, whole_stream]
    rfl
  have same : ∀ sends,
      (AcceptPc.reading (visit.whole json caller (inbound.receive bytes closed)) cookie).foreseen
        sends = session.server.accept.foreseen sends := by
    intro sends
    simp only [accept, AcceptPc.map, AcceptPc.foreseen, stream]
  have attained := beside.attained.resend same
  have unread : Session.unread { session with server := { session.server with
      accept := .reading (visit.whole json caller (inbound.receive bytes closed)) cookie } } =
      session.unread := by
    simp only [Session.unread, accept, AcceptPc.map, AcceptPc.toRead, Option.toList_some,
      List.map_append, List.map_cons, List.map_nil, stream]
  have distinct := unread ▸ beside.distinct
  have waiting := unread ▸ beside.waiting
  exact ⟨_, { beside with attained, distinct, waiting },
    ⟨.reading (inbound.receive bytes closed) cookie, (if_pos rfl).symm, rfl⟩, seated.test⟩

/-- The accept loop goes on, or receives what it waits for. -/
private theorem Meets.goesOn (meets : visit.Meets json caller build)
    (known : visit.Known json caller)
    (reachable : Reachable (Host.step json) (.new build) visit.host)
    (greets : Understands json (.hello caller.cookie)) {event : HostEvent}
    (aside : event.isOutside = true) {host : Host} {greeted : List TcpStream}
    (step : visit.host.step json event = some host) :
    Meets json caller build { visit with host, greeted } := by
  have welcomed := welcomed_elsewhere known reachable greets step fun _ _ _ _ _ => aside
  rcases Host.aside_of_step aside step with ⟨accept, rfl, goes⟩
  cases goes with
  | outside _ free still =>
      exact meets.aside (fun _ => id) id welcomed (fun _ _ _ => id)
        fun test pc _ sees => sees.aside free still
  | receive held sender inbound cookie bytes closed arrives handling =>
      by_cases made : visit.test = some held
      · exact meets.own known made id
          fun beside seated => seated.receive beside handling bytes closed greeted
      · refine meets.aside (fun _ => id) id welcomed (fun _ _ _ => id) ?_
        intro test pc own sees
        have other : held ≠ test := by
          rintro rfl
          exact made own
        exact Host.sees_of_other handling (.inr (.inr ⟨_, rfl⟩)) other sees

/-- The listener yields a connection while the client's test is in flight. -/
theorem Seated.enter (beside : visit.Beside json caller client start session)
    (seated : visit.Seated json caller session test) (distinct : visit.Distinct) {index : Nat}
    {stream : TcpStream} (waiting : visit.backlog[index]? = some stream)
    (idle : visit.host.accept = .idle) (alive : visit.host.isAlive test = true) (sender : Nat) :
    ∃ session', Beside json caller { visit with
        host := { visit.host with
          accept := .handling test sender (.upgraded ⟨stream, ⟨[], false⟩⟩) }
        backlog := visit.backlog.eraseIdx index
        current := some stream } client start session' ∧
      Seated json caller { visit with
        host := { visit.host with
          accept := .handling test sender (.upgraded ⟨stream, ⟨[], false⟩⟩) }
        backlog := visit.backlog.eraseIdx index
        current := some stream } session' test := by
  have free : session.server.accept = .idle := by
    rcases seated.accept with ⟨pc, sees, accept⟩
    rw [Host.Sees, idle] at sees
    rw [accept, sees]
    rfl
  have running : session.server.test.alive = true := by
    rw [Host.isAlive, seated.test] at alive
    exact alive
  rcases List.mem_map.mp (beside.backlog stream (List.mem_of_getElem? waiting)) with
    ⟨inbound, inboundMem, rfl⟩
  rcases List.getElem?_of_mem inboundMem with ⟨place, here⟩
  have unread : session.unread = session.backlog.map Inbound.stream := by
    simp only [Session.unread, free, AcceptPc.toRead, Option.toList_none, List.nil_append]
  have apart : (session.backlog.map Inbound.stream).Nodup := unread ▸ beside.distinct
  have stream : (visit.whole json caller ⟨inbound.stream, ⟨[], false⟩⟩).stream = inbound.stream :=
    whole_stream _
  have same : ∀ sends,
      (AcceptPc.upgraded (visit.whole json caller ⟨inbound.stream, ⟨[], false⟩⟩)).foreseen sends =
        (AcceptPc.upgraded inbound).foreseen sends := by
    intro sends
    simp only [AcceptPc.foreseen, stream]
  have attained := (beside.attained.accept here free running).resend same
  have rest : (session.backlog.eraseIdx place).map Inbound.stream =
      (session.backlog.map Inbound.stream).eraseIdx place :=
    (List.eraseIdx_map Inbound.stream session.backlog place).symm
  have erased : inbound.stream ∉ (session.backlog.map Inbound.stream).eraseIdx place := by
    apply not_mem_eraseIdx apart
    rw [List.getElem?_map, here]
    rfl
  have later : Session.unread { session with
      server := { session.server with
        accept := .upgraded (visit.whole json caller ⟨inbound.stream, ⟨[], false⟩⟩) }
      backlog := session.backlog.eraseIdx place } =
      inbound.stream :: (session.backlog.map Inbound.stream).eraseIdx place := by
    simp only [Session.unread, AcceptPc.toRead, Option.toList_some, List.map_cons, stream, rest,
      List.cons_append, List.nil_append]
  have backlog : ∀ other ∈ visit.backlog.eraseIdx index,
      other ∈ (session.backlog.eraseIdx place).map Inbound.stream := by
    intro other otherMem
    rw [rest]
    have among := beside.backlog other (List.eraseIdx_subset otherMem)
    rcases List.getElem?_of_mem among with ⟨position, found⟩
    apply List.mem_eraseIdx_iff_getElem?.mpr
    refine ⟨position, ?_, found⟩
    rintro rfl
    rw [List.getElem?_map, here] at found
    apply not_mem_eraseIdx distinct.distinct waiting
    rw [show inbound.stream = other from Option.some.inj found]
    exact otherMem
  have distinct : (Session.unread { session with
      server := { session.server with
        accept := .upgraded (visit.whole json caller ⟨inbound.stream, ⟨[], false⟩⟩) }
      backlog := session.backlog.eraseIdx place }).Nodup := by
    rw [later]
    exact List.nodup_cons.mpr ⟨erased, apart.eraseIdx place⟩
  have lower : ∀ other ∈ Session.unread { session with
      server := { session.server with
        accept := .upgraded (visit.whole json caller ⟨inbound.stream, ⟨[], false⟩⟩) }
      backlog := session.backlog.eraseIdx place }, other.id < visit.nextId := by
    intro other otherMem
    apply beside.waiting
    rw [unread]
    rw [later] at otherMem
    rcases List.mem_cons.mp otherMem with rfl | among
    · exact List.mem_map_of_mem inboundMem
    · exact List.eraseIdx_subset among
  exact ⟨_, { beside with attained, backlog, distinct, waiting := lower },
    ⟨.upgraded ⟨inbound.stream, ⟨[], false⟩⟩, (if_pos rfl).symm, rfl⟩, seated.test⟩

private theorem Meets.accept (meets : visit.Meets json caller build)
    (known : visit.Known json caller)
    (reachable : Reachable (Host.step json) (.new build) visit.host)
    {index : Nat} {stream : TcpStream} {host : Host}
    (waiting : visit.backlog[index]? = some stream)
    (step : visit.host.step json (.accept ⟨stream, ⟨[], false⟩⟩) = some host) :
    Meets json caller build { visit with
      host
      backlog := visit.backlog.eraseIdx index
      current := some stream } := by
  have idle := idle_of_accept step
  have fewer : ∀ other ∈ visit.backlog.eraseIdx index, other ∈ visit.backlog :=
    fun other otherMem => List.eraseIdx_subset otherMem
  rcases Host.served_of_reachable reachable with ⟨slotted, -⟩
  simp only [Host.step, idle, Option.some.injEq] at step
  subst step
  unfold Host.acceptInbound
  split
  · rename_i held upgraded
    have alive : visit.host.isAlive held = true := by
      rw [Host.upgrade, Option.filter_eq_some_iff, Host.references, idle, Bool.or_false]
        at upgraded
      exact upgraded.2
    split
    · rename_i sender channel
      by_cases made : visit.test = some held
      · exact meets.own known made id
          fun beside seated => seated.enter beside known.distinct waiting idle alive sender
      · refine meets.aside fewer id (fun _ _ => id) (fun _ _ _ => id) ?_
        intro test pc own sees
        have other : held ≠ test := by
          rintro rfl
          exact made own
        rw [Host.Sees, idle] at sees
        exact sees.trans (if_neg other).symm
    · exact meets.aside fewer id (fun _ _ => id) (fun _ _ _ => id)
        fun test pc _ sees => sees.aside (.inl idle) rfl
  · exact meets.aside fewer id (fun _ _ => id) (fun _ _ _ => id)
      fun test pc _ sees => sees.aside (.inl idle) rfl

/-! ## The test is made -/

private theorem Meets.spawn (meets : visit.Meets json caller build)
    (known : visit.Known json caller)
    (reachable : Reachable (Host.step json) (.new build) visit.host) {host : Host}
    (step : visit.host.step json .spawn = some host) :
    Meets json caller build { visit with
      host
      test :=
        if visit.control.isSome ∧ visit.current = visit.control then
          some visit.host.tests.length
        else visit.test } := by
  simp only [Host.step] at step
  split at step
  · rename_i shutdown perf creating
    cases step
    have working : visit.host.accept.isFree = false := by
      rw [creating]
      rfl
    have stage := known.recognised.stage
    rw [creating] at stage
    rcases Host.served_of_reachable reachable with ⟨-, servers, served⟩
    by_cases own : visit.IsControl
    · have same : perf = caller.asked := (stage.2 own).1
      have none : visit.test = none :=
        Option.eq_none_iff_forall_ne_some.mpr fun test made =>
          known.recognised.once test made working own
      have made : (if visit.control.isSome ∧ visit.current = visit.control then
          some visit.host.tests.length else visit.test) = some visit.host.tests.length := if_pos own
      rw [made]
      constructor
      · exact meets.untouched
      · exact fun client running none => absurd none (by rintro ⟨⟩)
      · rintro client test running ⟨⟩
        rcases meets.alone client running none shutdown with ⟨session, beside, fresh⟩
        refine ⟨shutdown, session, (served.prepared shutdown _ creating).1.mpr,
          beside.keep rfl rfl rfl rfl (fun _ => id) (fun _ _ => id), ⟨.idle, rfl, ?_⟩, ?_⟩
        · rw [fresh]
          rfl
        · rw [fresh]
          change (visit.host.tests ++ [_])[visit.host.tests.length]? = _
          rw [List.getElem?_concat_length, same, Host.build_of_reachable reachable]
          rfl
    · have still : (if visit.control.isSome ∧ visit.current = visit.control then
          some visit.host.tests.length else visit.test) = visit.test := if_neg own
      rw [still]
      refine meets.aside (fun _ => id) id (fun _ _ => id) ?_ ?_
      · intro test _ controller found
        exact (List.getElem?_append_left (List.getElem?_eq_some_iff.mp found).1).trans found
      · intro test pc _ sees
        rw [Host.Sees, creating] at sees
        exact sees
  · cases step

theorem mem_numbered {streams : List TcpStream} {count : Nat}
    (numbers : streams = (List.range' 0 count).map TcpStream.mk) {stream : TcpStream} :
    stream ∈ streams ↔ stream.id < count := by
  rw [numbers, List.mem_map]
  constructor
  · rintro ⟨id, idMem, rfl⟩
    rw [List.mem_range'_1, Nat.zero_add] at idMem
    exact idMem.2
  · intro lower
    refine ⟨stream.id, ?_, rfl⟩
    rw [List.mem_range'_1, Nat.zero_add]
    exact ⟨Nat.zero_le _, lower⟩

/-- The session begins once everybody has connected that is there, and the client has been
told if it has. -/
theorem attained_spawned (json : Json) (caller : Caller) (build : Build) (shutdown : Shutdown)
    {told : Shutdown} (untaken : told ≠ .taken) (count : Nat) : ∃ backlog : List Inbound,
      Session.Attained json caller.cookie (caller.session build shutdown)
        { caller.session build shutdown with
          client := spawned caller told
          backlog
          nextId := count } ∧
      backlog.map Inbound.stream = (List.range' 0 count).map TcpStream.mk := by
  have begins : Session.Attained json caller.cookie (caller.session build shutdown)
      (caller.session build shutdown) := Session.attained_self rfl rfl
  rcases begins.strangers rfl count with ⟨backlog, attained, numbers⟩
  change Session.Attained json caller.cookie _ { caller.session build shutdown with
    backlog := [] ++ backlog
    nextId := 0 + count } at attained
  rw [List.nil_append, Nat.zero_add] at attained
  refine ⟨backlog, ?_, numbers⟩
  cases told with
  | quiet => exact attained
  | signalled =>
      have moved : Session.clientStep json { caller.session build shutdown with
          backlog
          nextId := count } .ctrlC = some { caller.session build shutdown with
          client := spawned caller .signalled
          backlog
          nextId := count } := rfl
      apply attained.client moved rfl
      rintro stream streamMem rfl
      exact lt_irrefl _ ((mem_numbered numbers).mp streamMem)
  | taken => exact absurd rfl untaken

/-- The controller of the client is spawned. -/
private theorem Meets.parameters (meets : visit.Meets json caller build)
    (known : visit.Known json caller) {control : TcpStream} {bytes : List UInt8}
    (asking : visit.startup = .asking) :
    Meets json caller build { visit.send control bytes with
      startup := .running (spawned caller visit.shutdown) } := by
  have idle : ¬visit.IsRunning := by
    rintro ⟨client, running⟩
    rw [asking] at running
    cases running
  have none : ∀ test, visit.test ≠ some test :=
    fun test made => idle (known.recognised.own test made).2
  rcases meets.untouched idle with ⟨opened, toClient, toServer, untaken⟩
  constructor
  · exact fun idle => absurd ⟨_, rfl⟩ idle
  · rintro client ⟨⟩ - shutdown
    rcases attained_spawned json caller build shutdown untaken visit.nextId with
      ⟨backlog, attained, numbers⟩
    refine ⟨{ caller.session build shutdown with
      client := spawned caller visit.shutdown
      backlog
      nextId := visit.nextId }, ?_, rfl⟩
    constructor
    · exact attained
    · rintro - stream ⟨⟩
    · rfl
    · exact opened.symm
    · rfl
    · exact toClient.symm
    · exact toServer.symm
    · exact fun stream streamMem =>
        (mem_numbered numbers).mpr (known.distinct.waiting stream streamMem)
    · change (backlog.map Inbound.stream).Nodup
      rw [numbers]
      exact (List.nodup_range' 1).map fun _ _ same => TcpStream.mk.inj same
    · exact fun stream streamMem => (mem_numbered numbers).mp streamMem
    · intro stream own
      have before : stream ∈ visit.opened := own
      rw [opened] at before
      cases before
  · exact fun client test _ made => absurd made (none test)

/-! ## The client moves -/

theorem inHand_of_sees {host : Host} {pc : AcceptPc} (sees : host.Sees test pc) :
    ∀ inbound ∈ pc.inHand, inbound ∈ host.accept.inHand := by
  intro inbound inboundMem
  unfold Host.Sees at sees
  split at sees
  · rename_i held sender own handling
    split at sees
    · rw [handling]
      exact sees ▸ inboundMem
    · rw [sees] at inboundMem
      cases inboundMem
  · rcases sees with rfl | rfl <;> cases inboundMem
  · rw [sees] at inboundMem
    cases inboundMem

/-- What a step of the client leaves as it is. -/
theorem stays_of_clientMove (move : ClientMove json visit client next) :
    ∃ after, next.startup = .running after ∧ next.host = visit.host ∧ next.test = visit.test ∧
      (next.opened = visit.opened ∨ next.opened = visit.opened ++ [⟨visit.nextId⟩]) := by
  cases move with
  | connect after => exact ⟨after, rfl, rfl, rfl, .inr rfl⟩
  | reply total stream after => exact ⟨after, rfl, rfl, rfl, .inl rfl⟩
  | read message toClient after => exact ⟨after, rfl, rfl, rfl, .inl rfl⟩
  | own event after => exact ⟨after, rfl, rfl, rfl, .inl rfl⟩
  | rest event after => exact ⟨after, rfl, rfl, rfl, .inl rfl⟩

/-- The client's connections are told apart from the one at work on, also when there is one
more. -/
theorem whole_later (distinct : visit.Distinct) (nextOpened : next.opened = visit.opened ∨
      next.opened = visit.opened ++ [⟨visit.nextId⟩]) :
    ∀ inbound ∈ visit.host.accept.inHand,
      visit.whole json caller inbound = next.whole json caller inbound := by
  intro inbound inboundMem
  rcases nextOpened with same | added
  · rw [whole, whole, same]
  · have lower := (distinct.current _ (distinct.inHand inbound inboundMem)).1
    have apart : inbound.stream ≠ ⟨visit.nextId⟩ := by
      intro same
      rw [same] at lower
      exact lt_irrefl _ lower
    have still : inbound.stream ∈ next.opened ↔ inbound.stream ∈ visit.opened := by
      rw [added, List.mem_append, List.mem_singleton]
      exact or_iff_left apart
    unfold whole
    simp only [still]

/-- The client moves, or somebody connects. -/
private theorem Meets.beside (meets : visit.Meets json caller build)
    (distinct : visit.Distinct) (host : next.host = visit.host) (test : next.test = visit.test)
    (nextOpened : next.opened = visit.opened ∨ next.opened = visit.opened ++ [⟨visit.nextId⟩])
    (running : visit.startup = .running client) (after : Controller)
    (nextRunning : next.startup = .running after)
    (goes : ∀ {start session}, visit.Beside json caller client start session → ∃ session',
      next.Beside json caller after start session' ∧ session'.server = session.server) :
    next.Meets json caller build := by
  constructor
  · exact fun idle => absurd ⟨after, nextRunning⟩ idle
  · intro other otherRunning none shutdown
    cases nextRunning.symm.trans otherRunning
    rcases meets.alone client running (test ▸ none) shutdown with ⟨session, beside, fresh⟩
    rcases goes beside with ⟨session', besideNext, server⟩
    exact ⟨session', besideNext, server.trans fresh⟩
  · intro other own otherRunning made
    cases nextRunning.symm.trans otherRunning
    rcases meets.together client own running (test ▸ made) with
      ⟨shutdown, session, told, beside, seated⟩
    rcases goes beside with ⟨session', besideNext, server⟩
    rcases seated.accept with ⟨pc, sees, accept⟩
    have whole : pc.map (visit.whole json caller) = pc.map (next.whole json caller) :=
      AcceptPc.map_congr fun inbound inboundMem =>
        whole_later distinct nextOpened inbound (inHand_of_sees sees inbound inboundMem)
    refine ⟨shutdown, session', host ▸ told, besideNext, ⟨pc, host ▸ sees, ?_⟩, ?_⟩
    · rw [server, accept, whole]
    · rw [server, host]
      exact seated.test

/-- The client program does not run its controller yet, or never will. -/
theorem Meets.idle (meets : visit.Meets json caller build) (before : ¬visit.IsRunning)
    (idle : ¬next.IsRunning) (opened : next.opened = visit.opened)
    (toClient : next.toClient = visit.toClient) (toServer : next.toServer = visit.toServer)
    (untaken : visit.shutdown ≠ .taken → next.shutdown ≠ .taken) :
    next.Meets json caller build := by
  rcases meets.untouched before with ⟨none, unheard, unsaid, never⟩
  constructor
  · exact fun _ => ⟨opened.trans none, toClient.trans unheard, toServer.trans unsaid, untaken never⟩
  · exact fun client running => absurd ⟨client, running⟩ idle
  · exact fun client test running => absurd ⟨client, running⟩ idle

/-! ## The runs -/

theorem Meets.step (meets : visit.Meets json caller build) (known : visit.Known json caller)
    (reachable : Reachable (Host.step json) (.new build) visit.host)
    (clear : visit.Clear json caller) (greets : Understands json (.hello caller.cookie))
    (move : Move json caller visit next) : next.Meets json caller build := by
  have idles : ∀ {startup : Startup}, visit.startup = startup →
      (∀ client, startup ≠ .running client) → ¬visit.IsRunning := by
    rintro startup rfl never ⟨client, running⟩
    exact never client running
  cases move with
  | dial dialing =>
      exact meets.idle (idles dialing (by rintro _ ⟨⟩)) (by rintro ⟨_, ⟨⟩⟩) rfl rfl rfl id
  | fail notRunning =>
      exact meets.idle (idles rfl notRunning) (by rintro ⟨_, ⟨⟩⟩) rfl rfl rfl id
  | hello control bytes greeting =>
      exact meets.idle (idles greeting (by rintro _ ⟨⟩)) (by rintro ⟨_, ⟨⟩⟩) rfl rfl rfl id
  | reply control awaiting =>
      exact meets.idle (idles awaiting (by rintro _ ⟨⟩)) (by rintro ⟨_, ⟨⟩⟩) rfl rfl rfl id
  | parameters control bytes asking => exact meets.parameters known asking
  | signal notRunning =>
      exact meets.idle (idles rfl notRunning) (idles rfl notRunning) rfl rfl rfl
        fun _ => Shutdown.noConfusion
  | client client _ running move =>
      rcases stays_of_clientMove move with ⟨after, nextRunning, host, test, opened⟩
      apply meets.beside known.distinct host test opened running after nextRunning
      intro start session beside
      rcases beside.clientMove known.distinct clear.2 (known.spoken.perf client running) move with
        ⟨other, session', otherRunning, goes, server⟩
      cases nextRunning.symm.trans otherRunning
      exact ⟨session', goes, server⟩
  | accept index stream host waiting step => exact meets.accept known reachable waiting step
  | arrive bytes closed host arrives step => exact meets.goesOn known reachable greets rfl step
  | hostReads test message toServer host own head step =>
      exact meets.hostReads known own head step
  | createWelcome delivered host step => exact meets.goesOn known reachable greets rfl step
  | spawn host step => exact meets.spawn known reachable step
  | host event host noAccept noArrive noWelcome noSpawn reads step =>
      cases event with
      | controller index own =>
          exact meets.controller known (fun message same => reads index message (same ▸ rfl)) step
      | task index worker own => exact (List.append_nil _).symm ▸ meets.task known step
      | ctrlC =>
          simp only [Host.step] at step
          split at step
          · cases step
            exact (List.append_nil _).symm ▸ meets.ctrlC known
          · cases step
      | handle own =>
          exact (List.append_nil _).symm ▸ meets.handle known reachable clear.1 greets step
      | listenerError | createHello | createParams | timeout | stop =>
          exact (List.append_nil _).symm ▸ meets.goesOn known reachable greets rfl step
      | accept inbound => exact absurd rfl (noAccept inbound)
      | arrive bytes closed => exact absurd rfl (noArrive bytes closed)
      | createWelcome delivered => exact absurd rfl (noWelcome delivered)
      | spawn => exact absurd rfl noSpawn
  | stranger =>
      by_cases runs : visit.IsRunning
      · rcases runs with ⟨client, running⟩
        exact meets.beside known.distinct rfl rfl (.inl rfl) running client running
          fun beside => beside.stranger known.distinct
      · exact meets.idle runs runs rfl rfl rfl id

/-- The client and its test are the two parties of a session, in every run in which nobody
else presents the client's cookie and none of its data connections is taken for a new client.
Whatever others do, the session gets to where the client and its test are, by steps of its own
that never break a rule of sessions; its messages and connections are theirs. -/
theorem client_and_test_meet {events : List VisitEvent}
    (greets : Understands json (.hello caller.cookie))
    (asks : Understands json (.sendParameters (.fromOpts caller.opts)))
    (guarded : Guarded (Visit.step json caller) (fun visit _ => visit.Clear json caller)
      (new build) events)
    (finished : run (Visit.step json caller) (new build) events = some visit)
    (made : visit.test = some test) :
    ∃ client shutdown session, visit.startup = .running client ∧
      (visit.host.shutdown = .quiet → shutdown = .quiet) ∧
      ReachableBy (SessionEvent.Honest json caller.cookie) (Session.step json)
        (caller.session build shutdown) session ∧
      session.client = client ∧ visit.host.tests[test]? = some session.server.test ∧
      session.toClient = visit.toClient ∧ session.toServer = visit.toServer ∧
      session.opened = visit.opened := by
  have both : (visit.Known json caller ∧ visit.Meets json caller build) ∧
      Reachable (Host.step json) (.new build) visit.host := by
    apply run_invariant (fun visit : Visit => (visit.Known json caller ∧
      visit.Meets json caller build) ∧ Reachable (Host.step json) (.new build) visit.host) _
      ⟨⟨new_known json caller build, new_meets json caller build⟩, .refl _ _⟩ guarded finished
    rintro source event target ⟨⟨known, meets⟩, reachable⟩ clear step
    have move := move_of_step step
    constructor
    · exact ⟨known.step clear greets asks move, meets.step known reachable clear greets move⟩
    · exact reachable_of_move reachable move
  rcases both with ⟨⟨known, meets⟩, -⟩
  rcases (known.recognised.own test made).2 with ⟨client, running⟩
  rcases meets.together client test running made with ⟨shutdown, session, told, beside, seated⟩
  have silent : ∀ id : Nat, readCookie json ((fun _ => ⟨[], false⟩ : Nat → Peer) id) ≠
      .done (.ok caller.cookie) := by
    rintro id ⟨⟩
  refine ⟨client, shutdown, _, running, told, beside.attained _ silent, beside.client, seated.test,
    beside.toClient, beside.toServer, beside.opened⟩

private theorem firstStream_runs :
    (run (Visit.step (.ofDefaults "c") sample) (new ⟨true, true⟩)
      (firstStream (.ofDefaults "c") sample)).map (fun visit => (visit.test, visit.opened)) =
        some (some 0, [⟨2⟩]) := by
  decide +kernel

theorem firstStream_clear :
    Guarded (Visit.step (.ofDefaults "c") sample)
      (fun visit _ => visit.Clear (.ofDefaults "c") sample)
      (new ⟨true, true⟩) (firstStream (.ofDefaults "c") sample) := by
  decide +kernel

theorem client_and_test_meet_firstStream :
    ∃ (visit : Visit) (session : Session) (shutdown : Shutdown),
      Reachable (Visit.step (.ofDefaults "c") sample) (new ⟨true, true⟩) visit ∧
      ReachableBy (SessionEvent.Honest (.ofDefaults "c") "c") (Session.step (.ofDefaults "c"))
        (sample.session ⟨true, true⟩ shutdown) session ∧
      visit.startup = .running session.client ∧
      visit.host.tests[0]? = some session.server.test ∧ session.opened = [⟨2⟩] := by
  rcases Option.map_eq_some_iff.mp firstStream_runs with ⟨visit, finished, observed⟩
  rcases Prod.mk.inj observed with ⟨made, opened⟩
  rcases client_and_test_meet ⟨by decide +kernel, by decide +kernel⟩
    ⟨by decide +kernel, by decide +kernel⟩ firstStream_clear finished made with
    ⟨client, shutdown, session, running, -, reached, rfl, seated, -, -, same⟩
  exact ⟨visit, session, shutdown, ⟨_, finished⟩, reached, running, seated, same.trans opened⟩

end Visit

end Iperf
