import Iperf.Host.Asked
import Iperf.Host.Slot
import Iperf.Server.Over

/-!
# Each test of the server is a server of its own

The model of one test in flight hands a connection over with everything its peer is
going to send, and knows nothing of other tests.  Here the bytes arrive while they are
waited for, and one test follows another.  Both are the same: a connection is read once,
so whatever its peer will have sent by then can be thought of as sent from the start.
-/

namespace Iperf

open Channel Transition

/-! ## What the peer sends does not matter before it is read -/

/-- The same point, with something else sent by the peer. -/
def AcceptPc.withPeer (peer : Peer) : AcceptPc → AcceptPc
  | .upgraded inbound => .upgraded { inbound with peer }
  | .reading inbound cookie => .reading { inbound with peer } cookie
  | pc => pc

namespace Server

variable {json : Json} {start server after : Server} {event : ServerEvent}

/-- A server whose shutdown receiver stands at `shutdown` when the test is created. -/
def startedAt (build : Build) (perf : Perf) (shutdown : Shutdown) : Server :=
  { test := { Controller.new build perf with shutdown }, accept := .idle, replies := [] }

def withPeer (server : Server) (peer : Peer) : Server :=
  { server with accept := server.accept.withPeer peer }

theorem withPeer_self (server : Server) : ∃ peer, server.withPeer peer = server := by
  rcases server with ⟨test, accept, replies⟩
  cases accept with
  | upgraded inbound => exact ⟨inbound.peer, rfl⟩
  | reading inbound cookie => exact ⟨inbound.peer, rfl⟩
  | _ => exact ⟨⟨[], false⟩, rfl⟩

/-- The server is reached, whatever is sent on the connection it has not read yet. -/
def Reached (json : Json) (server start : Server) : Prop :=
  ∀ peer, Reachable (Server.step json) start (server.withPeer peer)

theorem Reached.reachable (reached : server.Reached json start) :
    Reachable (Server.step json) start server := by
  rcases server.withPeer_self with ⟨peer, same⟩
  exact same ▸ reached peer

/-- Nothing is left to be read. -/
theorem reached_of_settled (settled : ∀ peer, server.accept.withPeer peer = server.accept)
    (reachable : Reachable (Server.step json) start server) : server.Reached json start := by
  intro peer
  rw [withPeer, settled peer]
  exact reachable

/-- A step of the test alone. -/
theorem Reached.test (reached : server.Reached json start) {test : Controller}
    (step : ∀ accept, Server.step json { server with accept } event =
      some { server with accept, test }) : Reached json { server with test } start :=
  fun peer => (reached peer).tail (step (server.accept.withPeer peer))

theorem step_of_acceptStep (step : server.acceptStep json event = some after) :
    server.step json event = some after := by
  cases event with
  | controller event | task index event | ctrlC => cases step
  | _ => exact step

theorem Reached.acceptStep (reached : server.Reached json start)
    (step : server.acceptStep json event = some after) : after.Reached json start := by
  have reachable : Reachable (Server.step json) start after :=
    reached.reachable.tail (step_of_acceptStep step)
  cases acceptMove_of_acceptStep step with
  | accept inbound pc alive =>
      intro peer
      have idle : server.withPeer peer = server := by
        rw [withPeer, pc]
        exact congrArg (Server.mk _ · _) pc.symm
      have next : Server.step json server (.accept { inbound with peer }) =
          some { server with accept := .upgraded { inbound with peer } } := by
        simp only [Server.step, Server.acceptStep, pc, alive, if_true]
      exact (idle ▸ reached peer).tail next
  | lookCreateStreams inbound cookie pc state unlocked =>
      intro peer
      have next : Server.step json (server.withPeer peer) .look =
          some { server with
            test := { server.test with locked := true }
            accept := .reading { inbound with peer } cookie } := by
        simp only [Server.step, Server.acceptStep, withPeer, pc, AcceptPc.withPeer, unlocked,
          Bool.false_eq_true, if_false, look, state]
      exact (reached peer).tail next
  | lookOther | hello | otherCookie | noHello | crash | welcome | unwelcome | handOff
  | refuse | terminate | stop => exact reached_of_settled (fun _ => rfl) reachable

/-- A step that answers nothing. -/
private theorem acceptStep_silent (same : after.replies = server.replies)
    (again : ∀ replies, acceptStep json { server with replies } event =
      some { after with replies }) :
    ∃ added, after.replies = server.replies ++ added ∧
      ∀ replies, acceptStep json { server with replies } event =
        some { after with replies := replies ++ added } := by
  refine ⟨[], ?_, ?_⟩
  · rw [same, List.append_nil]
  · intro replies
    rw [List.append_nil]
    exact again replies

/-- What is answered does not depend on the answers before. -/
theorem acceptStep_answers (step : server.acceptStep json event = some after) :
    ∃ added, after.replies = server.replies ++ added ∧
      ∀ replies, acceptStep json { server with replies } event =
        some { after with replies := replies ++ added } := by
  cases event with
  | controller event | task index event | ctrlC => cases step
  | accept inbound =>
      simp only [acceptStep] at step
      split at step
      · rename_i pc
        split at step
        · rename_i alive
          cases step
          apply acceptStep_silent
          · rfl
          · intro replies
            simp only [acceptStep, pc, alive, if_true]
        · cases step
      · cases step
  | look =>
      simp only [acceptStep] at step
      split at step
      · rename_i inbound pc
        split at step
        · cases step
        · rename_i unlocked
          cases step
          apply acceptStep_silent
          · unfold look
            split <;> rfl
          · intro replies
            simp only [acceptStep, pc, unlocked, Bool.false_eq_true, if_false, look]
            split <;> rfl
      · cases step
  | hello =>
      simp only [acceptStep] at step
      split at step
      · rename_i inbound cookie pc
        simp only [acceptStep, pc]
        generalize readCookie json inbound.peer = outcome at step ⊢
        cases outcome with
        | waiting => cases step
        | panicked =>
            cases step
            exact ⟨[], (List.append_nil _).symm, fun replies => by rw [List.append_nil]; rfl⟩
        | done result =>
            cases result with
            | error error =>
                cases step
                exact ⟨[], (List.append_nil _).symm, fun replies => by rw [List.append_nil]; rfl⟩
            | ok clientCookie =>
                simp only [hello] at step ⊢
                split at step
                · rename_i same
                  cases step
                  refine ⟨[], (List.append_nil _).symm, fun replies => ?_⟩
                  rw [List.append_nil, if_pos same]
                · rename_i other
                  cases step
                  refine ⟨[], (List.append_nil _).symm, fun replies => ?_⟩
                  rw [List.append_nil, if_neg other]
      · cases step
  | welcome delivered =>
      simp only [acceptStep] at step
      split at step
      · rename_i inbound pc
        cases delivered with
        | true =>
            cases step
            refine ⟨_, rfl, fun replies => ?_⟩
            simp only [acceptStep, pc, if_true]
        | false =>
            cases step
            apply acceptStep_silent
            · rfl
            · intro replies
              simp only [acceptStep, pc, Bool.false_eq_true, if_false, unlock]
      · cases step
  | handOff =>
      simp only [acceptStep] at step
      split at step
      · rename_i inbound pc
        cases step
        apply acceptStep_silent
        · rfl
        · intro replies
          simp only [acceptStep, pc]
      · cases step
  | refuse delivered =>
      simp only [acceptStep] at step
      split at step
      · rename_i inbound holds pc
        cases step
        cases delivered with
        | true =>
            refine ⟨_, rfl, fun replies => ?_⟩
            simp only [acceptStep, pc, if_true]
        | false =>
            apply acceptStep_silent
            · rfl
            · intro replies
              simp only [acceptStep, pc, Bool.false_eq_true, if_false]
      · cases step
  | terminate =>
      simp only [acceptStep] at step
      split at step
      · rename_i error pc
        cases step
        apply acceptStep_silent
        · rfl
        · intro replies
          simp only [acceptStep, pc]
      · cases step
  | stop =>
      simp only [acceptStep] at step
      split at step
      · rename_i pc
        split at step
        · rename_i signalled
          cases step
          apply acceptStep_silent
          · rfl
          · intro replies
            simp only [acceptStep, pc, signalled, if_true, ne_eq, not_false_eq_true]
        · cases step
      · cases step

end Server

/-- A controller takes the signal only once it has been sent. -/
theorem Controller.quiet_of_controllerStep {controller next : Controller}
    {event : ControllerEvent} (step : controller.controllerStep event = some next) :
    next.shutdown = .quiet ↔ controller.shutdown = .quiet := by
  cases move_of_controllerStep step with
  | close next closes => rw [closes.shutdown]
  | finish next ends => rw [ends.shutdown]
  | pollSignal mailbox lost pc signalled posts =>
      rw [signalled]
      exact iff_of_false Shutdown.noConfusion Shutdown.noConfusion
  | shutdown pc signalled => exact iff_of_false Shutdown.noConfusion signalled
  | _ => exact Iff.rfl

namespace Host

variable {json : Json} {host next : Host} {servers : List Server}

/-- Where the accept loop stands, seen from the test at `index`. -/
def Sees (host : Host) (index : Nat) (accept : AcceptPc) : Prop :=
  match host.accept with
  | .handling test _ pc => accept = if test = index then pc else .idle
  | .stopped => accept = .idle ∨ accept = .stopped
  | _ => accept = .idle

/-- Where a server comes from: a test that has been created with these parameters, when its
shutdown receiver stood as that of the accept loop. -/
def Origin (host : Host) (start : Server) : Prop :=
  ∃ cookie params shutdown,
    start = .startedAt host.build (.newWithStatsReceiver cookie .server params) shutdown ∧
      (host.shutdown = .quiet → shutdown = .quiet)

/-- A test in the making gets the parameters that have been read, and a shutdown receiver. -/
def Prepared (host : Host) : Prop :=
  ∀ shutdown pc, host.accept = .creating shutdown pc →
    (shutdown = .quiet ↔ host.shutdown = .quiet) ∧
      ∀ perf, pc = .sendingStats perf →
        ∃ cookie params, perf = .newWithStatsReceiver cookie .server params

/-- The tests are servers of their own, and together they have given all answers. -/
structure Served (json : Json) (host : Host) (servers : List Server) : Prop where
  tests : servers.map Server.test = host.tests
  replies : servers.flatMap Server.replies = host.replies
  sees : ∀ (index : Nat) (server : Server), servers[index]? = some server →
    host.Sees index server.accept
  reached : ∀ server ∈ servers, ∃ start, host.Origin start ∧ server.Reached json start
  latest : ∀ test, host.inFlightTestState = some test → test + 1 = host.tests.length
  prepared : host.Prepared
  told : ∀ server ∈ servers, server.test.shutdown = .quiet ↔ host.shutdown = .quiet

theorem new_served (json : Json) (build : Build) : (new build).Served json [] where
  tests := rfl
  replies := rfl
  sees := by
    rintro index server ⟨⟩
  reached := by
    rintro server ⟨⟩
  latest := by
    rintro test ⟨⟩
  prepared := by
    rintro shutdown pc ⟨⟩
  told := by
    rintro server ⟨⟩

theorem Served.found (served : host.Served json servers) {index : Nat} {controller : Controller}
    (found : host.tests[index]? = some controller) :
    ∃ server, servers[index]? = some server ∧ server.test = controller := by
  rw [← served.tests, List.getElem?_map] at found
  exact Option.map_eq_some_iff.mp found

/-- The accept loop moves outside of all tests. -/
theorem Served.aside (served : host.Served json servers)
    (outside : host.accept = .idle ∨ ∃ shutdown pc, host.accept = .creating shutdown pc)
    {accept : HostPc} (still : accept.isHandling = false)
    (prepared : Prepared { host with accept }) : Served json { host with accept } servers := by
  constructor
  · exact served.tests
  · exact served.replies
  · intro index server found
    have idle : server.accept = .idle := by
      have sees := served.sees index server found
      rcases outside with pc | ⟨shutdown, pc, creating⟩
      · rw [Sees, pc] at sees
        exact sees
      · rw [Sees, creating] at sees
        exact sees
    cases accept with
    | handling test sender pc => cases still
    | stopped => exact .inl idle
    | idle | creating shutdown pc => exact idle
  · exact served.reached
  · exact served.latest
  · exact prepared
  · exact served.told

theorem getElem?_set_cases {α : Type} {list : List α} {changed index : Nat} {value after : α}
    (found : (list.set changed after)[index]? = some value) :
    (index = changed ∧ value = after) ∨ (changed ≠ index ∧ list[index]? = some value) := by
  rw [List.getElem?_set] at found
  split at found
  · rename_i same
    split at found
    · exact .inl ⟨same.symm, (Option.some.inj found).symm⟩
    · cases found
  · rename_i other
    exact .inr ⟨other, found⟩

/-- The last of the servers gives an answer, or none does. -/
theorem flatMap_replies_set {changed : Nat} {server after : Server}
    {added : List (TcpStream × Reply)} (found : servers[changed]? = some server)
    (answers : after.replies = server.replies ++ added)
    (last : added = [] ∨ changed + 1 = servers.length) :
    (servers.set changed after).flatMap Server.replies =
      servers.flatMap Server.replies ++ added := by
  rcases List.getElem?_eq_some_iff.mp found with ⟨within, here⟩
  have whole : servers = servers.take changed ++ server :: servers.drop (changed + 1) := by
    rw [← here, List.getElem_cons_drop, List.take_append_drop]
  have set : servers.set changed after =
      servers.take changed ++ after :: servers.drop (changed + 1) :=
    List.set_eq_take_append_cons_drop.trans (if_pos within)
  rw [set]
  conv_rhs => rw [whole]
  simp only [List.flatMap_append, List.flatMap_cons, answers]
  rcases last with none | last
  · simp only [none, List.append_nil]
  · have none : servers.drop (changed + 1) = [] := by
      rw [last, List.drop_length]
    simp only [none, List.flatMap_nil, List.append_nil, List.append_assoc]

/-- One server moves. -/
theorem Served.set (served : host.Served json servers) {changed : Nat} {server after : Server}
    {accept : HostPc} {added : List (TcpStream × Reply)}
    (found : servers[changed]? = some server)
    (steps : ∀ start, server.Reached json start → after.Reached json start)
    (quiet : after.test.shutdown = .quiet ↔ server.test.shutdown = .quiet)
    (answers : after.replies = server.replies ++ added)
    (last : added = [] ∨ changed + 1 = servers.length)
    (here : Sees { host with accept } changed after.accept)
    (there : ∀ index pc, changed ≠ index → host.Sees index pc →
      Sees { host with accept } index pc) (prepared : Prepared { host with accept }) :
    Served json { host with
      tests := host.tests.set changed after.test
      replies := host.replies ++ added
      accept } (servers.set changed after) := by
  constructor
  · rw [List.map_set, served.tests]
  · rw [flatMap_replies_set found answers last, served.replies]
  · intro index other moved
    rcases getElem?_set_cases moved with ⟨rfl, rfl⟩ | ⟨apart, before⟩
    · exact here
    · exact there index other.accept apart (served.sees index other before)
  · intro other otherMem
    rcases List.mem_or_eq_of_mem_set otherMem with before | rfl
    · exact served.reached other before
    · rcases served.reached server (List.mem_of_getElem? found) with ⟨start, origin, reached⟩
      exact ⟨start, origin, steps start reached⟩
  · intro test slot
    change test + 1 = (host.tests.set changed after.test).length
    rw [List.length_set]
    exact served.latest test slot
  · exact prepared
  · intro other otherMem
    rcases List.mem_or_eq_of_mem_set otherMem with before | rfl
    · exact served.told other before
    · exact quiet.trans (served.told server (List.mem_of_getElem? found))

/-- A step of one test by itself. -/
theorem Served.own (served : host.Served json servers) {changed : Nat} (event : ServerEvent)
    {controller test : Controller} (found : host.tests[changed]? = some controller)
    (quiet : test.shutdown = .quiet ↔ controller.shutdown = .quiet)
    (step : ∀ server : Server, server.test = controller →
      server.step json event = some { server with test }) :
    ∃ after, Served json { host with tests := host.tests.set changed test } after := by
  rcases served.found found with ⟨server, here, same⟩
  refine ⟨servers.set changed { server with test }, ?_⟩
  have moved : Served json { host with
      tests := host.tests.set changed test
      replies := host.replies ++ []
      accept := host.accept } (servers.set changed { server with test }) := by
    apply @Served.set json host servers served changed server { server with test } host.accept []
      here
    · intro start reached
      exact reached.test fun accept => step { server with accept } same
    · rw [same]
      exact quiet
    · exact (List.append_nil _).symm
    · exact .inl rfl
    · exact served.sees changed server here
    · exact fun index pc apart sees => sees
    · exact served.prepared
  rw [List.append_nil] at moved
  exact moved

/-- The signal reaches every test. -/
private theorem Served.ctrlC (served : host.Served json servers) :
    ∃ after, host.ctrlC.Served json after := by
  refine ⟨servers.map fun server => { server with test := signal server.test }, ?_⟩
  constructor
  · change _ = host.tests.map signal
    rw [← served.tests, List.map_map, List.map_map]
    rfl
  · rw [List.flatMap_map]
    exact served.replies
  · intro index after found
    rw [List.getElem?_map] at found
    rcases Option.map_eq_some_iff.mp found with ⟨server, before, rfl⟩
    have sees := served.sees index server before
    unfold Sees Host.ctrlC at *
    cases accept : host.accept with
    | creating shutdown pc =>
        rw [accept] at sees
        cases shutdown with
        | quiet | signalled | taken => exact sees
    | idle | stopped | handling test sender pc =>
        rw [accept] at sees
        exact sees
  · intro after afterMem
    rcases List.mem_map.mp afterMem with ⟨server, serverMem, rfl⟩
    rcases served.reached server serverMem with
      ⟨start, ⟨cookie, params, shutdown, same, -⟩, reached⟩
    refine ⟨start, ⟨cookie, params, shutdown, same, by rintro ⟨⟩⟩, ?_⟩
    unfold signal
    split
    · rename_i quiet
      apply @Server.Reached.test json start server .ctrlC reached
      intro accept
      simp only [Server.step, Controller.step, quiet, if_true, Option.map_some]
    · exact reached
  · intro test slot
    change test + 1 = (host.tests.map signal).length
    rw [List.length_map]
    exact served.latest test slot
  · intro shutdown pc creating
    constructor
    · unfold Host.ctrlC at creating
      cases accept : host.accept with
      | creating before earlier =>
          rw [accept] at creating
          cases before with
          | quiet | signalled | taken =>
              cases creating
              exact iff_of_false Shutdown.noConfusion Shutdown.noConfusion
      | idle | stopped | handling test sender pc =>
          rw [accept] at creating
          cases creating
    · unfold Host.ctrlC at creating
      cases accept : host.accept with
      | creating before earlier =>
          rw [accept] at creating
          cases before with
          | quiet | signalled | taken =>
              cases creating
              exact (served.prepared _ _ accept).2
      | idle | stopped | handling test sender pc =>
          rw [accept] at creating
          cases creating
  · intro after afterMem
    rcases List.mem_map.mp afterMem with ⟨server, -, rfl⟩
    have signalled : (signal server.test).shutdown ≠ .quiet := by
      unfold signal
      split
      · exact Shutdown.noConfusion
      · rename_i told
        exact told
    exact iff_of_false signalled Shutdown.noConfusion

/-- A new test is a server that has done nothing yet. -/
private theorem Served.spawn (served : host.Served json servers) {shutdown : Shutdown}
    {perf : Perf} (creating : host.accept = .creating shutdown (.sendingStats perf)) :
    (host.spawn shutdown perf).Served json (servers ++ [.startedAt host.build perf shutdown]) := by
  rcases served.prepared shutdown _ creating with ⟨told, made⟩
  rcases made perf rfl with ⟨cookie, params, same⟩
  constructor
  · rw [List.map_append, served.tests]
    rfl
  · rw [List.flatMap_append, served.replies]
    exact List.append_nil _
  · intro index server found
    change server.accept = .idle
    rw [List.getElem?_append] at found
    split at found
    · have sees := served.sees index server found
      rw [Sees, creating] at sees
      exact sees
    · rw [List.getElem?_singleton] at found
      split at found
      · rw [← Option.some.inj found]
        rfl
      · cases found
  · intro server serverMem
    rcases List.mem_append.mp serverMem with before | new
    · exact served.reached server before
    · rw [List.mem_singleton.mp new]
      exact ⟨_, ⟨cookie, params, shutdown, same ▸ rfl, told.mpr⟩,
        Server.reached_of_settled (fun _ => rfl) (.refl _ _)⟩
  · rintro test ⟨⟩
    change host.tests.length + 1 = (host.tests ++ [_]).length
    rw [List.length_append, List.length_singleton]
  · rintro _ _ ⟨⟩
  · intro server serverMem
    rcases List.mem_append.mp serverMem with before | new
    · exact served.told server before
    · rw [List.mem_singleton.mp new]
      exact told

theorem modify_eq_set {controller : Controller} {changed : Nat} {tests : List Controller}
    (change : Controller → Controller) (found : tests[changed]? = some controller) :
    tests.modify changed change = tests.set changed (change controller) := by
  rw [List.modify_eq_set_getElem?, found]
  rfl

/-- With the lock and the mailbox of one test, the accept loop does to it what its server
does. -/
theorem handle_server {test : Nat} {server : Server} {event : ServerEvent}
    (here : host.tests[test]? = some server.test)
    (step : host.handle json test test event server.accept = some next) :
    ∃ after added, server.acceptStep json event = some after ∧
      after.replies = server.replies ++ added ∧
      next = { host with
        tests := host.tests.set test after.test
        replies := host.replies ++ added
        accept := handlingPc test test after.accept } := by
  simp only [Host.handle] at step
  split at step
  · rename_i inbound standing
    cases event with
    | handOff =>
        cases step
        refine ⟨{ server with
          test := { server.test.trySend (.createStream inbound.stream) with locked := false }
          accept := .idle }, [], ?_, (List.append_nil _).symm, ?_⟩
        · simp only [Server.acceptStep, standing]
        · have tests : ((host.post test (.createStream inbound.stream)).release test).tests =
              host.tests.set test
                { server.test.trySend (.createStream inbound.stream) with locked := false } := by
            simp only [Host.post, Host.release, List.modify_modify_eq]
            exact modify_eq_set _ here
          rw [List.append_nil]
          exact congrArg (fun tests => { host with tests, accept := .idle }) tests
    | _ => cases step
  · rename_i error standing
    cases event with
    | terminate =>
        cases step
        refine ⟨{ server with test := server.test.trySend .terminate, accept := .idle }, [], ?_,
          (List.append_nil _).symm, ?_⟩
        · simp only [Server.acceptStep, standing]
        · rw [Host.post, modify_eq_set _ here, List.append_nil]
          rfl
    | _ => cases step
  · simp only [Option.bind_eq_bind, Option.bind_eq_some_iff] at step
    rcases step with ⟨controller, found, viewed, moved, done⟩
    rw [here] at found
    cases found
    rcases Server.acceptStep_answers moved with ⟨added, answers, again⟩
    refine ⟨{ viewed with replies := server.replies ++ added }, added, again server.replies, rfl,
      ?_⟩
    cases done
    rw [answers]
    rfl

/-- The server of the test at hand. -/
theorem Served.handled (served : host.Served json servers) (slotted : host.Slotted json)
    {test sender : Nat} {pc : AcceptPc} (accept : host.accept = .handling test sender pc) :
    sender = test ∧ ∃ server, servers[test]? = some server ∧ server.accept = pc ∧
      host.tests[test]? = some server.test ∧ test + 1 = servers.length := by
  rcases slotted.handling test sender pc accept with ⟨same, slot, -⟩
  have latest := served.latest test slot
  have length : servers.length = host.tests.length := by
    rw [← served.tests, List.length_map]
  have within : test < servers.length := by
    rw [length, ← latest]
    exact Nat.lt_succ_self test
  refine ⟨same, servers[test], List.getElem?_eq_getElem within, ?_, ?_, latest.trans length.symm⟩
  · have sees := served.sees test _ (List.getElem?_eq_getElem within)
    rw [Sees, accept] at sees
    exact sees.trans (if_pos rfl)
  · rw [← served.tests, List.getElem?_map, List.getElem?_eq_getElem within]
    rfl

/-- Outside of the test at hand nothing has been seen, and nothing is. -/
theorem sees_of_other {test sender : Nat} {pc : AcceptPc} {accept : HostPc}
    (handling : host.accept = .handling test sender pc)
    (after : accept = .idle ∨ accept = .stopped ∨ ∃ later, accept = .handling test sender later)
    {index : Nat} {seen : AcceptPc} (other : test ≠ index) (sees : host.Sees index seen) :
    Sees { host with accept } index seen := by
  rw [Sees, handling] at sees
  have idle : seen = .idle := sees.trans (if_neg other)
  rcases after with rfl | rfl | ⟨later, rfl⟩
  · exact idle
  · exact .inl idle
  · exact idle.trans (if_neg other).symm

theorem handlingPc_cases (test sender : Nat) (pc : AcceptPc) :
    handlingPc test sender pc = .idle ∨ handlingPc test sender pc = .stopped ∨
      ∃ later, handlingPc test sender pc = .handling test sender later := by
  cases pc with
  | idle => exact .inl rfl
  | stopped => exact .inr (.inl rfl)
  | _ => exact .inr (.inr ⟨_, rfl⟩)

theorem prepared_of_other {accept : HostPc}
    (other : ∀ shutdown pc, accept ≠ .creating shutdown pc) :
    Prepared { host with accept } :=
  fun shutdown pc creating => absurd creating (other shutdown pc)

/-- A step on the way of a connection to its test is a step of the server of that test. -/
private theorem Served.handle (served : host.Served json servers) (slotted : host.Slotted json)
    {test sender : Nat} {pc : AcceptPc} (accept : host.accept = .handling test sender pc)
    {event : ServerEvent} (step : host.handle json test sender event pc = some next) :
    ∃ after, next.Served json after := by
  rcases served.handled slotted accept with ⟨rfl, server, found, rfl, here, last⟩
  rcases handle_server here step with ⟨after, added, moved, answers, result⟩
  subst result
  refine ⟨servers.set sender after, ?_⟩
  have shutdown := (Server.acceptMove_of_acceptStep moved).shutdown
  apply served.set found (fun start reached => reached.acceptStep moved) (by rw [shutdown])
    answers (.inr last)
  · unfold Sees
    cases stage : after.accept with
    | idle => rfl
    | stopped => exact .inr rfl
    | _ => exact (if_pos rfl).symm
  · intro index seen other sees
    exact sees_of_other accept (handlingPc_cases sender sender after.accept) other sees
  · apply prepared_of_other
    exact fun shutdown pc creating => handlingPc_ne_creating _ _ _ _ _ creating

/-- The accept loop goes on in one test, and does nothing to it yet. -/
private theorem Served.goesOn (served : host.Served json servers) {changed : Nat} {server : Server}
    (stage : AcceptPc) {accept : HostPc} (found : servers[changed]? = some server)
    (steps : ∀ start, server.Reached json start →
      Server.Reached json { server with accept := stage } start)
    (here : Sees { host with accept } changed stage)
    (there : ∀ index pc, changed ≠ index → host.Sees index pc →
      Sees { host with accept } index pc) (prepared : Prepared { host with accept }) :
    ∃ after, Served json { host with accept } after := by
  refine ⟨servers.set changed { server with accept := stage }, ?_⟩
  have moved := @Served.set json host servers served changed server
    { server with accept := stage } accept [] found steps Iff.rfl (List.append_nil _).symm
    (.inl rfl) here there prepared
  have tests : host.tests.set changed server.test = host.tests := by
    rw [← served.tests, ← List.map_set]
    rcases List.getElem?_eq_some_iff.mp found with ⟨within, rfl⟩
    rw [List.set_getElem_self]
  rw [List.append_nil] at moved
  change Served json { host with
    tests := host.tests.set changed server.test
    accept } _ at moved
  rw [tests] at moved
  exact moved

/-- A connection comes in while a test is in flight. -/
private theorem Served.enter (served : host.Served json servers) (idle : host.accept = .idle)
    {test : Nat} (upgraded : host.upgrade = some test) (inbound : Inbound) (sender : Nat) :
    ∃ after, Served json { host with accept := .handling test sender (.upgraded inbound) }
      after := by
  have alive : host.isAlive test = true := by
    rw [upgrade, Option.filter_eq_some_iff, references, idle, Bool.or_false] at upgraded
    exact upgraded.2
  rw [isAlive, Option.any_eq_true] at alive
  rcases alive with ⟨controller, here, running⟩
  rcases served.found here with ⟨server, found, rfl⟩
  have standing : server.accept = .idle := by
    have sees := served.sees test server found
    rw [Sees, idle] at sees
    exact sees
  apply served.goesOn (.upgraded inbound) found
  · intro start reached
    apply @Server.Reached.acceptStep json start server _ (.accept inbound) reached
    simp only [Server.acceptStep, standing, running, if_true]
  · exact (if_pos rfl).symm
  · intro index seen other sees
    rw [Sees, idle] at sees
    exact sees.trans (if_neg other).symm
  · exact prepared_of_other (by rintro shutdown pc ⟨⟩)

/-- More of what the peer sends arrives at the connection that is read. -/
private theorem Served.receive (served : host.Served json servers) (slotted : host.Slotted json)
    {test sender : Nat} {inbound : Inbound} {cookie : String}
    (accept : host.accept = .handling test sender (.reading inbound cookie)) (peer : Peer) :
    ∃ after, Served json { host with
      accept := .handling test sender (.reading { inbound with peer } cookie) } after := by
  rcases served.handled slotted accept with ⟨rfl, server, found, standing, -⟩
  apply served.goesOn (.reading { inbound with peer } cookie) found
  · intro start reached other
    have same := reached other
    rw [Server.withPeer, standing] at same
    exact same
  · exact (if_pos rfl).symm
  · exact fun index seen other sees => sees_of_other accept (.inr (.inr ⟨_, rfl⟩)) other sees
  · exact prepared_of_other (by rintro shutdown pc ⟨⟩)

theorem Served.step (served : host.Served json servers) (slotted : host.Slotted json)
    {event : HostEvent} (step : host.step json event = some next) :
    ∃ after, next.Served json after := by
  -- Elsewhere the accept loop goes from one point outside of all tests to another.
  have aside : (host.accept = .idle ∨ ∃ shutdown pc, host.accept = .creating shutdown pc) →
      ∀ accept : HostPc, accept.isHandling = false → Prepared { host with accept } →
        ∃ after, Served json { host with accept } after :=
    fun outside accept still prepared => ⟨servers, served.aside outside still prepared⟩
  have idles : (host.accept = .idle ∨ ∃ shutdown pc, host.accept = .creating shutdown pc) →
      ∃ after, Served json { host with accept := .idle } after :=
    fun outside => aside outside .idle rfl (prepared_of_other (by rintro shutdown pc ⟨⟩))
  have stops : (host.accept = .idle ∨ ∃ shutdown pc, host.accept = .creating shutdown pc) →
      ∃ after, Served json { host with accept := .stopped } after :=
    fun outside => aside outside .stopped rfl (prepared_of_other (by rintro shutdown pc ⟨⟩))
  -- A test in the making keeps its shutdown receiver.
  have creates : ∀ {shutdown pc}, host.accept = .creating shutdown pc → ∀ later,
      (∀ perf, later = .sendingStats perf →
        ∃ cookie params, perf = .newWithStatsReceiver cookie .server params) →
      ∃ after, Served json { host with accept := .creating shutdown later } after := by
    intro shutdown pc creating later made
    apply aside (.inr ⟨_, _, creating⟩) (.creating shutdown later) rfl
    rintro _ _ ⟨⟩
    exact ⟨(served.prepared _ _ creating).1, made⟩
  cases event with
  | controller test event =>
      simp only [Host.step, Option.bind_eq_bind, Option.bind_eq_some_iff] at step
      rcases step with ⟨controller, found, after, moves, done⟩
      cases done
      apply served.own (.controller event) found (Controller.quiet_of_controllerStep moves)
      rintro server rfl
      simp only [Server.step, moves, Option.map_some]
  | task test index event =>
      simp only [Host.step, Option.bind_eq_bind, Option.bind_eq_some_iff] at step
      rcases step with ⟨controller, found, after, moves, done⟩
      cases done
      apply served.own (.task index event) found
        (by rw [(Controller.move_of_taskStep moves).frame.shutdown])
      rintro server rfl
      simp only [Server.step, moves, Option.map_some]
  | ctrlC =>
      simp only [Host.step] at step
      split at step
      · cases step
        exact served.ctrlC
      · cases step
  | accept inbound =>
      simp only [Host.step] at step
      split at step
      · rename_i idle
        cases step
        unfold acceptInbound
        split
        · rename_i test upgraded
          split
          · rename_i sender channel
            exact served.enter idle upgraded inbound sender
          · exact stops (.inl idle)
        · apply aside (.inl idle)
          · rfl
          · rintro _ _ ⟨⟩
            constructor
            · split
              · rename_i quiet
                exact iff_of_true rfl quiet
              · rename_i signalled
                exact iff_of_false Shutdown.noConfusion signalled
            · rintro perf ⟨⟩
      · cases step
  | listenerError =>
      simp only [Host.step] at step
      split at step
      · rename_i idle
        cases step
        exact stops (.inl idle)
      · cases step
  | arrive bytes closed =>
      simp only [Host.step, Host.arrive] at step
      split at step
      · rename_i test sender inbound cookie reading
        split at step
        · cases step
        · cases step
          exact served.receive slotted reading _
      · rename_i shutdown inbound creating
        split at step
        · cases step
        · cases step
          exact creates creating _ (by rintro perf ⟨⟩)
      · rename_i shutdown inbound cookie creating
        split at step
        · cases step
        · cases step
          exact creates creating _ (by rintro perf ⟨⟩)
      · cases step
  | handle event =>
      simp only [Host.step] at step
      split at step
      · rename_i test sender pc accept
        exact served.handle slotted accept step
      · cases step
  | createHello =>
      simp only [Host.step] at step
      split at step
      · rename_i shutdown inbound creating
        generalize readCookie json inbound.peer = outcome at step
        cases outcome with
        | waiting => cases step
        | panicked =>
            cases step
            exact stops (.inr ⟨_, _, creating⟩)
        | done result =>
            cases result with
            | error error =>
                cases step
                exact idles (.inr ⟨_, _, creating⟩)
            | ok cookie =>
                cases step
                exact creates creating _ (by rintro perf ⟨⟩)
      · cases step
  | createWelcome delivered =>
      simp only [Host.step] at step
      split at step
      · rename_i shutdown inbound cookie creating
        split at step
        · cases step
          exact creates creating _ (by rintro perf ⟨⟩)
        · cases step
          exact idles (.inr ⟨_, _, creating⟩)
      · cases step
  | createParams =>
      simp only [Host.step] at step
      split at step
      · rename_i shutdown inbound cookie creating
        generalize serverReadMessage json (inbound.peer.rest json) = outcome at step
        cases outcome with
        | waiting => cases step
        | panicked =>
            cases step
            exact stops (.inr ⟨_, _, creating⟩)
        | done result =>
            cases result with
            | error error =>
                cases step
                exact idles (.inr ⟨_, _, creating⟩)
            | ok message =>
                cases message with
                | sendParameters params =>
                    cases step
                    apply creates creating
                    rintro perf ⟨⟩
                    exact ⟨cookie, params, rfl⟩
                | _ =>
                    cases step
                    exact idles (.inr ⟨_, _, creating⟩)
      · cases step
  | timeout =>
      simp only [Host.step] at step
      split at step
      · rename_i shutdown inbound cookie creating
        cases step
        exact idles (.inr ⟨_, _, creating⟩)
      · cases step
  | spawn =>
      simp only [Host.step] at step
      split at step
      · rename_i shutdown perf creating
        cases step
        exact ⟨_, served.spawn creating⟩
      · cases step
  | stop =>
      simp only [Host.step] at step
      split at step
      · rename_i idle
        split at step
        · cases step
          exact stops (.inl idle)
        · cases step
      · cases step

theorem served_of_reachable {build : Build}
    (reachable : Reachable (Host.step json) (.new build) host) :
    host.Slotted json ∧ ∃ servers, host.Served json servers := by
  apply reachable.invariant
    (fun host : Host => host.Slotted json ∧ ∃ servers, host.Served json servers) _
    ⟨new_slotted json build, [], new_served json build⟩
  rintro source event target ⟨slotted, servers, served⟩ step
  exact ⟨slotted.step step, served.step slotted step⟩

theorem build_of_reachable {build : Build}
    (reachable : Reachable (Host.step json) (.new build) host) : host.build = build := by
  apply reachable.invariant (fun host : Host => host.build = build) _ rfl
  intro source event target same step
  cases hostMove_of_step step with
  | handle event next test sender pc accept handles =>
      cases handles with
      | handOff | terminate | inside => exact same
  | tests | signal | goes | spawn => exact same

/-- A server starts with the cookie and the parameters its test has. -/
theorem Served.started (served : host.Served json servers) {server : Server}
    (serverMem : server ∈ servers) :
    ∃ shutdown, (host.shutdown = .quiet → shutdown = .quiet) ∧
      Reachable (Server.step json) (.startedAt host.build server.test.perf shutdown) server := by
  rcases served.reached server serverMem with
    ⟨start, ⟨cookie, params, shutdown, rfl, told⟩, reached⟩
  have perf : server.test.perf = .newWithStatsReceiver cookie .server params := by
    rcases reached.reachable with ⟨events, finished⟩
    exact Server.perf_of_run finished
  rw [perf]
  exact ⟨shutdown, told, reached.reachable⟩

/-- The server over many tests is a row of servers with one test each.  The tests have the
cookies and parameters that have been read, in this order; each comes about by a run of its
own server, which starts with those of its test; between them these servers have given all
the answers, one test after the other; and wherever a connection is handled, the accept loop
stands there in the server of the test at hand, with the lock and the mailbox of that test. -/
theorem tests_are_servers (json : Json) (build : Build) {events : List HostEvent} {host : Host}
    (finished : run (Host.step json) (.new build) events = some host) :
    ∃ servers : List Server, servers.map Server.test = host.tests ∧
      servers.flatMap Server.replies = host.replies ∧
      (noted (Host.step json) noteParams [] (.new build) events).filterMap (Inbound.asks json) =
        servers.map (·.test.perf) ++ host.accept.asked ∧
      (∀ server ∈ servers, ∃ shutdown, (host.shutdown = .quiet → shutdown = .quiet) ∧
        Reachable (Server.step json) (.startedAt build server.test.perf shutdown) server) ∧
      ∀ test sender pc, host.accept = .handling test sender pc →
        sender = test ∧ ∃ server, servers[test]? = some server ∧ server.accept = pc := by
  have reachable : Reachable (Host.step json) (.new build) host := ⟨events, finished⟩
  rcases served_of_reachable reachable with ⟨slotted, servers, served⟩
  refine ⟨servers, served.tests, served.replies, ?_, ?_, ?_⟩
  · rw [(sourced_of_run finished).perfs, ← served.tests, List.map_map]
    rfl
  · intro server serverMem
    have started := served.started serverMem
    rw [build_of_reachable reachable] at started
    exact started
  · intro test sender pc accept
    rcases served.handled slotted accept with ⟨same, server, found, standing, -⟩
    exact ⟨same, server, found, standing⟩

/-- The first test gets its stream and fails to announce the load.  The next one gets a
stream too, and another connection comes in. -/
def twoStreams : List HostEvent :=
  firstStream ++ [.controller 0 .recv, .controller 0 (.write false)] ++
    creation (.asking (.ofDefaults "c") "c" 2) ++
    (Server.opening ++ Server.admission (.presenting (.ofDefaults "c") "c" 3)).map
      (.ofServer 1) ++
    [.accept (.silent 4)]

theorem twoStreams_runs :
    (run (Host.step (.ofDefaults "c")) (new ⟨true, true⟩) twoStreams).isSome = true := by
  decide +kernel

theorem tests_are_servers_two :
    ∃ (host : Host) (first second : Server),
      run (Host.step (.ofDefaults "c")) (new ⟨true, true⟩) twoStreams = some host ∧
      [first.test, second.test] = host.tests ∧
      [first.test.perf, second.test.perf] =
        [.newWithStatsReceiver "c" .server (.fromOpts {}),
          .newWithStatsReceiver "c" .server (.fromOpts {})] ∧
      first.replies ++ second.replies = [(⟨1⟩, .welcome), (⟨3⟩, .welcome)] ∧
      (∀ server ∈ [first, second], ∃ shutdown, Reachable (Server.step (.ofDefaults "c"))
        (.startedAt ⟨true, true⟩ server.test.perf shutdown) server) ∧
      ∃ test pc, host.accept = .handling test test pc ∧
        [first, second][test]?.map Server.accept = some pc := by
  let host := (run (Host.step (.ofDefaults "c")) (new ⟨true, true⟩) twoStreams).get
    twoStreams_runs
  have finished : run (Host.step (.ofDefaults "c")) (new ⟨true, true⟩) twoStreams = some host :=
    (Option.some_get twoStreams_runs).symm
  obtain ⟨two, replies, made, handling⟩ : host.tests.length = 2 ∧
      host.replies = [(⟨1⟩, .welcome), (⟨3⟩, .welcome)] ∧ host.accept.asked = [] ∧
      host.accept.isHandling = true := by
    decide +kernel
  have asked : (noted (Host.step (.ofDefaults "c")) noteParams [] (new ⟨true, true⟩)
      twoStreams).filterMap (Inbound.asks (.ofDefaults "c")) =
        [.newWithStatsReceiver "c" .server (.fromOpts {}),
          .newWithStatsReceiver "c" .server (.fromOpts {})] := by
    decide +kernel
  rcases tests_are_servers (.ofDefaults "c") ⟨true, true⟩ finished with
    ⟨servers, tests, answers, perfs, started, handled⟩
  rw [← tests, List.length_map] at two
  rcases List.length_eq_two.mp two with ⟨first, second, rfl⟩
  rw [asked, made, List.append_nil] at perfs
  refine ⟨host, first, second, finished, tests, perfs.symm, ?_, ?_, ?_⟩
  · rw [← replies, ← answers]
    simp only [List.flatMap_cons, List.flatMap_nil, List.append_nil]
  · exact fun server serverMem => (started server serverMem).imp fun _ => And.right
  · cases accept : host.accept with
    | handling test sender pc =>
        rcases handled test sender pc accept with ⟨rfl, server, found, standing⟩
        exact ⟨sender, pc, rfl, Option.map_eq_some_iff.mpr ⟨server, found, standing⟩⟩
    | idle | creating shutdown pc | stopped =>
        rw [accept] at handling
        cases handling

end Host

end Iperf
