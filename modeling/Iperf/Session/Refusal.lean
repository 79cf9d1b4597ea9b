import Iperf.Client.Streams
import Iperf.NetUtil.Framing
import Iperf.Server.Over
import Iperf.Session.Connections
import Iperf.Session.Invitation

/-!
# Refused connections

`setState` writes the new state to the control socket first and stores it
afterwards.  A client that has read `CreateStreams` may so meet a server whose
state is still `Start`, and be refused.  Nothing else refuses a connection of the
client, as long as streams are missing and nobody has asked for the end.
-/

namespace Iperf

open Channel Transition

namespace Session

variable {json : Json} {session next : Session} {event : SessionEvent}

/-! ## Looking at a connection of the client -/

/-- The accept loop is about to look at a connection of the client. -/
def Meets (session : Session) (inbound : Inbound) : Prop :=
  session.server.accept = .upgraded inbound ∧ inbound.stream ∈ session.opened

/-- The server has asked for streams and has not stored that it did. -/
def Unstored (session : Session) : Prop :=
  session.server.test.pc = .storing (.createStreams session.server.test.perf.cookie)

/-- No connection of the client is looked at while the state is not stored. -/
def Stored (session : Session) (event : SessionEvent) : Prop :=
  event = .server .look → ∀ inbound, session.Meets inbound → ¬ session.Unstored

/-- The connection has been refused, or is going to be. -/
def Refuses (session : Session) (stream : TcpStream) : Prop :=
  (stream, .inFlight) ∈ session.server.replies ∨
    ∃ inbound holds, session.server.accept = .refusing inbound holds ∧ inbound.stream = stream

/-- The connection has been answered with `Welcome` once the accept loop is done
with it, if nothing fails. -/
def LeadsToWelcome (json : Json) (session : Session) (stream : TcpStream) : Prop :=
  ∃ later, run (Session.step json) session [.server .hello, .server (.welcome true)] =
    some later ∧ (stream, .welcome) ∈ later.server.replies

/-- The server understands the `Hello` of the client. -/
def Greets (json : Json) (cookie : String) : Prop :=
  json.client.fromSlice (json.client.toVec (.message (.hello cookie))) =
      some (.message (.hello cookie)) ∧
    (json.client.toVec (.message (.hello cookie))).length ≤ maxControlMessageSize

theorem Greets.readCookie {cookie : String} (greets : Greets json cookie) :
    Iperf.readCookie json (.sending json.client (.hello cookie)) = .done (.ok cookie) := by
  obtain ⟨decodes, small⟩ := greets
  apply readCookie_hello decodes small _ []
  simp only [Peer.sending, writeControlMessage_eq (small.trans Reader.max_le_u32Max),
    Option.getD_some, List.append_nil]

/-- What is known about a connection of the client that the accept loop meets. -/
private theorem looked_cases {clientBuild serverBuild : Build} {cookie : String}
    {params : Parameters}
    (reachable : Reachable (Session.step json) (new clientBuild serverBuild cookie params)
      session) {inbound : Inbound} (meets : session.Meets inbound)
    (unfinished : ¬ session.server.test.Over) :
    session.server.test.perf.cookie = cookie ∧
      inbound.peer = .sending json.client (.hello cookie) ∧
      ((session.server.test.state = .createStreams cookie ∧ ¬ session.Unstored) ∨
        (session.server.test.state = .start ∧ session.Unstored)) := by
  have atServer := server_reachable reachable
  have atClient := client_reachable reachable
  have perf : session.server.test.perf.cookie = cookie := by
    rw [Server.perf_of_reachable atServer]
    rfl
  have clientPerf : session.client.perf.cookie = cookie := by
    rw [Client.perf_of_reachable atClient]
    rfl
  have numbered := numbered_of_reachable reachable
  have peer := numbered.own inbound
    (List.mem_append_left _ (by rw [meets.1]; exact List.mem_singleton_self _)) meets.2
  rw [clientPerf] at peer
  constructor
  · exact perf
  constructor
  · exact peer
  · have asking := (informed_of_reachable reachable).opened (List.ne_nil_of_mem meets.2)
    rcases Server.creating_of_announced rfl atServer asking unfinished with create | start
    · left
      constructor
      · exact perf ▸ create
      · intro unstored
        have fits := (Server.sound_of_reachable rfl atServer).phased.test.fits
        rw [unstored] at fits
        have early := (fits.early.2 _ rfl).1
        rw [create] at early
        cases early
    · exact .inr start

/-- A connection that has come past the look is welcomed, if nothing fails. -/
theorem leadsToWelcome_of_reading {inbound : Inbound} {cookie : String}
    (pc : session.server.accept = .reading inbound cookie)
    (read : readCookie json inbound.peer = .done (.ok cookie)) :
    session.LeadsToWelcome json inbound.stream := by
  let welcomed : Server := { session.server with
    accept := .handingOff inbound
    replies := session.server.replies ++ [(inbound.stream, .welcome)] }
  refine ⟨{ session with server := welcomed }, ?_, ?_⟩
  · simp [run, Session.step, serverStep, Server.step, Server.acceptStep, Server.hello, pc, read,
      welcomed]
  · exact List.mem_append_right _ (List.mem_singleton_self _)

/-- A connection that is being refused is not welcomed. -/
theorem not_leadsToWelcome_of_refusing {inbound : Inbound} {holds : Bool} {stream : TcpStream}
    (pc : session.server.accept = .refusing inbound holds) :
    ¬ session.LeadsToWelcome json stream := by
  rintro ⟨later, finished, -⟩
  simp [run, Session.step, serverStep, Server.step, Server.acceptStep, pc] at finished

/-- The look of the accept loop decides, by the state it finds. -/
theorem look_cases {inbound : Inbound} (pc : session.server.accept = .upgraded inbound)
    (step : session.step json (.server .look) = some next) :
    (∃ cookie, session.server.test.state = .createStreams cookie ∧
      next.server.accept = .reading inbound cookie) ∨
    ((∀ cookie, session.server.test.state ≠ .createStreams cookie) ∧
      next.server.accept = .refusing inbound false) := by
  cases move_of_step step with
  | server event server toClient toServer moved =>
      cases Server.move_of_step moved with
      | accept event next move =>
          cases move with
          | lookCreateStreams other cookie here unlocked state =>
              cases pc.symm.trans here
              exact .inl ⟨cookie, state, rfl⟩
          | lookOther other here unlocked state =>
              cases pc.symm.trans here
              exact .inr ⟨state, rfl⟩

/-- No connection of the client is refused before the test is over. -/
def Welcoming (session : Session) : Prop :=
  ∀ stream ∈ session.opened, session.Refuses stream → session.server.test.Over

end Session

namespace Server

variable {json : Json} {server next : Server} {event : ServerEvent}

/-- How the accept loop comes to refuse a connection. -/
theorem refuses_of_step (step : server.step json event = some next) :
    (∀ answer ∈ next.replies, answer.2 = .inFlight → answer ∈ server.replies ∨
      ∃ inbound holds, server.accept = .refusing inbound holds ∧
        inbound.stream = answer.1) ∧
    ∀ inbound holds, next.accept = .refusing inbound holds →
      server.accept = .refusing inbound holds ∨
      (event = .look ∧ server.accept = .upgraded inbound) ∨
      ∃ cookie, server.accept = .reading inbound cookie ∧
        readCookie json inbound.peer ≠ .done (.ok cookie) := by
  cases move_of_step step with
  | controller | task | ctrlC =>
      exact ⟨fun _ answerMem _ => .inl answerMem, fun _ _ refusing => .inl refusing⟩
  | accept event next move =>
      cases move with
      | welcome inbound pc =>
          constructor
          · intro answer answerMem refused
            rcases List.mem_append.mp answerMem with old | new
            · exact .inl old
            · rw [List.mem_singleton.mp new] at refused
              cases refused
          · exact fun _ _ refusing => by cases refusing
      | refuse inbound holds delivered replies pc answered =>
          constructor
          · intro answer answerMem refused
            rcases answered with same | added
            · exact .inl (same ▸ answerMem)
            · change answer ∈ replies at answerMem
              rw [added] at answerMem
              rcases List.mem_append.mp answerMem with old | new
              · exact .inl old
              · exact .inr ⟨inbound, holds, pc, by rw [List.mem_singleton.mp new]⟩
          · exact fun _ _ refusing => by cases refusing
      | lookOther inbound pc unlocked state =>
          constructor
          · exact fun _ answerMem _ => .inl answerMem
          · intro other holds refusing
            cases refusing
            exact .inr (.inl ⟨rfl, pc⟩)
      | otherCookie inbound cookie clientCookie pc read differs =>
          constructor
          · exact fun _ answerMem _ => .inl answerMem
          · intro other holds refusing
            cases refusing
            refine .inr (.inr ⟨cookie, pc, ?_⟩)
            rw [read]
            simpa using differs
      | accept | lookCreateStreams | hello | noHello | crash | unwelcome | handOff | terminate
      | stop =>
          exact ⟨fun _ answerMem _ => .inl answerMem, fun _ _ refusing => by cases refusing⟩

end Server

namespace Session

variable {json : Json} {session next : Session} {event : SessionEvent}

/-- Refusing is the server's business. -/
private theorem Welcoming.server (welcoming : session.Welcoming)
    {clientBuild serverBuild : Build} {cookie : String} {params : Parameters}
    (reachable : Reachable (Session.step json) (new clientBuild serverBuild cookie params)
      session) (greets : Greets json cookie) {event : ServerEvent} {server : Server}
    (moved : session.server.step json event = some server)
    (opened : next.opened = session.opened) (result : next.server = server)
    (stored : session.Stored (.server event)) : next.Welcoming := by
  obtain ⟨replies, accept⟩ := Server.refuses_of_step moved
  have stays := Server.over_of_step moved
  intro stream streamMem refuses
  rw [opened] at streamMem
  rw [result]
  rcases refuses with refused | ⟨inbound, holds, refusing, same⟩
  · rw [result] at refused
    rcases replies _ refused rfl with old | before
    · exact stays (welcoming stream streamMem (.inl old))
    · exact stays (welcoming stream streamMem (.inr before))
  · rw [result] at refusing
    subst same
    rcases accept inbound holds refusing with before | ⟨look, pc⟩ | ⟨other, pc, differs⟩
    · exact stays (welcoming _ streamMem (.inr ⟨inbound, holds, before, rfl⟩))
    · -- The state is not `CreateStreams`, so the test is over.
      by_contra unfinished
      have meets : session.Meets inbound := ⟨pc, streamMem⟩
      have earlier : ¬ session.server.test.Over := fun before => unfinished (stays before)
      subst look
      obtain ⟨-, -, ⟨create, -⟩ | ⟨-, unstored⟩⟩ := looked_cases reachable meets earlier
      · cases Server.move_of_step moved with
        | accept event next move =>
            cases move with
            | lookCreateStreams => cases refusing
            | lookOther _ _ _ state => exact state cookie create
      · exact stored rfl inbound meets unstored
    · -- The client presents the cookie of the test.
      have atServer := server_reachable reachable
      have numbered := numbered_of_reachable reachable
      have peer := numbered.own inbound
        (List.mem_append_left _ (by rw [pc]; exact List.mem_singleton_self _)) streamMem
      have own := (Server.sound_of_reachable rfl atServer).phased.reading inbound other pc
      rw [Server.perf_of_reachable atServer] at own
      rw [Client.perf_of_reachable (client_reachable reachable)] at peer
      rw [peer, own] at differs
      exact absurd greets.readCookie differs

theorem Welcoming.step (welcoming : session.Welcoming)
    {clientBuild serverBuild : Build} {cookie : String} {params : Parameters}
    (reachable : Reachable (Session.step json) (new clientBuild serverBuild cookie params)
      session) (greets : Greets json cookie) (stored : session.Stored event)
    (step : session.step json event = some next) : next.Welcoming := by
  have numbered := numbered_of_reachable reachable
  cases move_of_step step with
  | connect client moved =>
      intro stream streamMem refuses
      rcases List.mem_append.mp streamMem with old | new
      · exact welcoming stream old refuses
      · -- Nobody has been answered on a connection that is just being opened.
        rw [List.mem_singleton] at new
        subst new
        rcases refuses with refused | ⟨inbound, holds, refusing, same⟩
        · exact absurd (numbered.answered _ refused) (lt_irrefl _)
        · change session.server.accept = .refusing inbound holds at refusing
          have small := numbered.underway inbound
            (List.mem_append_left _ (by rw [refusing]; exact List.mem_singleton_self _))
          rw [same] at small
          exact absurd small (lt_irrefl _)
  | server event server toClient toServer moved =>
      exact welcoming.server reachable greets moved rfl rfl stored
  | accept index inbound server waiting moved =>
      exact welcoming.server reachable greets moved rfl rfl (fun look => by cases look)
  | reply | read | client | stranger => exact welcoming

/-- A connection of the client that the accept loop looks at while streams are
missing and nobody has asked for the end is welcomed exactly if the announced
state is stored.  In a run in which every such look comes after that, no
connection of the client is refused before the test is over. -/
theorem own_streams_welcomed (json : Json) (clientBuild serverBuild : Build) (cookie : String)
    (params : Parameters) {events : List SessionEvent} {session : Session}
    (finished : run (Session.step json) (new clientBuild serverBuild cookie params) events =
      some session)
    (greets : Greets json cookie) :
    (∀ inbound next, session.Meets inbound → ¬ session.server.test.Over →
      session.step json (.server .look) = some next →
      (next.LeadsToWelcome json inbound.stream ↔ ¬ session.Unstored)) ∧
    (Guarded (Session.step json) Stored (new clientBuild serverBuild cookie params) events →
      session.Welcoming) := by
  have reachable : Reachable (Session.step json)
      (new clientBuild serverBuild cookie params) session := ⟨events, finished⟩
  constructor
  · intro inbound next meets unfinished step
    obtain ⟨own, peer, found⟩ := looked_cases reachable meets unfinished
    rcases found with ⟨create, stored⟩ | ⟨start, unstored⟩
    · rcases look_cases meets.1 step with ⟨other, state, reading⟩ | ⟨state, -⟩
      · rw [create, State.createStreams.injEq] at state
        subst state
        have read := greets.readCookie
        rw [← peer] at read
        exact iff_of_true (leadsToWelcome_of_reading reading read) stored
      · exact absurd create (state cookie)
    · rcases look_cases meets.1 step with ⟨other, state, -⟩ | ⟨-, refusing⟩
      · rw [start] at state
        cases state
      · exact iff_of_false (not_leadsToWelcome_of_refusing refusing) (not_not_intro unstored)
  · intro stored
    have both : Reachable (Session.step json)
        (new clientBuild serverBuild cookie params) session ∧ session.Welcoming := by
      apply run_invariant (fun session => Reachable (Session.step json)
        (new clientBuild serverBuild cookie params) session ∧ session.Welcoming) _
        ⟨.refl _ _, fun _ streamMem => absurd streamMem List.not_mem_nil⟩ stored finished
      rintro source event target ⟨reachable, welcoming⟩ stored step
      exact ⟨reachable.tail step, welcoming.step reachable greets stored step⟩
    exact both.2

/-- The connection of a test of one stream is about to be looked at. -/
private def arrival : List SessionEvent :=
  Server.opening.map .server ++ (Client.joining "c").map .client ++
    [.client (.controller (.connect (.ok ⟨0⟩))), .accept 0]

theorem own_streams_welcomed_one :
    ∃ session next, run (Session.step (.ofCookie "c")) (sample {}) arrival = some session ∧
      session.opened = [⟨0⟩] ∧ session.step (.ofCookie "c") (.server .look) = some next ∧
      next.LeadsToWelcome (.ofCookie "c") ⟨0⟩ ∧ session.Welcoming := by
  let reached := run (Session.step (.ofCookie "c")) (sample {}) arrival
  let session := reached.get rfl
  have finished : reached = some session := rfl
  let looked := session.step (.ofCookie "c") (.server .look)
  let next := looked.get rfl
  have step : looked = some next := rfl
  have welcomed := own_streams_welcomed (.ofCookie "c") ⟨true, true⟩ ⟨true, true⟩ "c"
    (.fromOpts {}) finished ⟨rfl, by decide⟩
  have meets : session.Meets (session.hello (.ofCookie "c") ⟨0⟩) :=
    ⟨rfl, List.mem_singleton_self _⟩
  have unfinished : ¬ session.server.test.Over := by
    rintro (enough | received | signalled)
    · exact absurd enough (by decide)
    · exact absurd received List.not_mem_nil
    · exact signalled rfl
  have stored : Guarded (Session.step (.ofCookie "c")) Stored (sample {}) arrival := by
    apply guarded_of_forall
    intro event eventMem state look
    subst look
    simp [arrival, Server.opening, Server.announcement, Server.turn, Client.joining] at eventMem
  exact ⟨session, next, finished, rfl, step,
    (welcomed.1 _ next meets unfinished step).mpr (fun unstored => by cases unstored),
    welcomed.2 stored⟩

/-- The client connects and the accept loop looks at it after the announcement is
written and before the state is stored: the client's own connection is refused,
with no stream registered and no end asked for. -/
theorem own_stream_refused :
    ∃ session, Reachable (Session.step (.ofCookie "c")) (sample {}) session ∧
      session.opened = [⟨0⟩] ∧ session.server.replies = [(⟨0⟩, .inFlight)] ∧
      ¬ session.server.test.Over ∧ ¬ session.Welcoming := by
  let observe : Session → List TcpStream × List (TcpStream × Reply) × Nat × Nat ×
      List ControllerMessage × Shutdown := fun session =>
    (session.opened, session.server.replies, session.server.test.tasks.length,
      session.server.test.perf.neededStreams, session.server.test.received,
      session.server.test.shutdown)
  let events : List SessionEvent :=
    [.server (.controller .start), .server (.controller .turn), .server (.controller .act),
      .server (.controller (.write true))] ++ (Client.joining "c").map .client ++
    [.client (.controller (.connect (.ok ⟨0⟩))), .accept 0, .server .look,
      .server (.refuse true)]
  have observed : (run (Session.step (.ofCookie "c")) (sample {}) events).map observe =
      some ([⟨0⟩], [(⟨0⟩, .inFlight)], 0, 1, [], .quiet) := rfl
  obtain ⟨session, finished, result⟩ := Option.map_eq_some_iff.mp observed
  simp only [observe, Prod.mk.injEq] at result
  obtain ⟨opened, replies, tasks, needed, received, shutdown⟩ := result
  have unfinished : ¬ session.server.test.Over := by
    simp [Controller.Over, Controller.Asked, tasks, needed, received, shutdown]
  refine ⟨session, ⟨events, finished⟩, opened, replies, unfinished, fun welcoming => ?_⟩
  apply unfinished
  apply welcoming ⟨0⟩ (by simp [opened])
  left
  simp [replies]

end Session

end Iperf
