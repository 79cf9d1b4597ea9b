import Iperf.Client.Core
import Iperf.Server.Core

/-!
# A client and a server

One test as seen from outside: the client, the server, the messages on their
way over the control connection, and the connections waiting at the listener.
Connections are numbered in the order in which they are opened, whoever opens
them; the listener may yield them in any order.
-/

namespace Iperf

open Channel Transition

structure Session where
  client : Controller
  server : Server
  /-- The connections the listener has not yielded yet. -/
  backlog : List Inbound
  /-- What the server has written and the client has not read. -/
  toClient : List ServerMessage
  /-- What the client has written and the server has not read. -/
  toServer : List ClientMessage
  nextId : Nat
  /-- The data connections of the client, in the order they were opened. -/
  opened : List TcpStream

inductive SessionEvent where
  | client (event : ClientEvent)
  /-- The server moves, but for accepting a connection. -/
  | server (event : ServerEvent)
  /-- The listener yields one of its connections. -/
  | accept (index : Nat)
  /-- Somebody else connects. -/
  | stranger (peer : Peer)

namespace Session

def new (clientBuild serverBuild : Build) (cookie : String) (params : Parameters) : Session :=
  { client := Client.new clientBuild cookie params
    server := Server.new serverBuild (Perf.newWithStatsReceiver cookie .server params)
    backlog := []
    toClient := []
    toServer := []
    nextId := 0
    opened := [] }

/-- A data connection of the client, with the `Hello` it sends. -/
def hello (json : Json) (session : Session) (stream : TcpStream) : Inbound where
  stream := stream
  peer := .sending json.client (.hello session.client.perf.cookie)

/-- What a step of the client's controller writes to the control connection. -/
def clientWrites (client : Controller) : ControllerEvent → List ClientMessage
  | .write true =>
      match client.pc with
      | .writingResults none => [.sendResults client.streamResults]
      | _ => []
  | _ => []

/-- What a step of the server's controller writes to the control connection. -/
def serverWrites (test : Controller) : ControllerEvent → List ServerMessage
  | .write true =>
      match test.pc with
      | .announcing target => [.setState target]
      | .writingResults (some _) => [.sendResults test.streamResults]
      | _ => []
  | _ => []

/-- The client has been welcomed on the connection it is opening. -/
def isWelcomed (session : Session) : Bool :=
  match session.client.pc with
  | .greeting _ stream => decide ((stream, Reply.welcome) ∈ session.server.replies)
  | _ => false

def clientStep (json : Json) (session : Session) : ClientEvent → Option Session
  | .controller (.connect (.ok stream)) =>
      if stream = ⟨session.nextId⟩ then
        (session.client.controllerStep (.connect (.ok stream))).map fun client =>
          { session with
            client
            backlog := session.backlog ++ [session.hello json stream]
            nextId := session.nextId + 1
            opened := session.opened ++ [stream] }
      else none
  | .controller (.reply (.ok message)) =>
      if message = .welcome ∧ session.isWelcomed = true then
        (session.client.controllerStep (.reply (.ok message))).map fun client =>
          { session with client }
      else none
  | .controller (.clientRead (.ok message)) =>
      match session.toClient with
      | [] => none
      | head :: toClient =>
          if head = message then
            (session.client.controllerStep (.clientRead (.ok message))).map fun client =>
              { session with client, toClient }
          else none
  | .controller event =>
      (session.client.controllerStep event).map fun client =>
        { session with client, toServer := session.toServer ++ clientWrites session.client event }
  | event => (Client.step session.client event).map fun client => { session with client }

def serverStep (json : Json) (session : Session) : ServerEvent → Option Session
  | .accept _ => none
  | .controller (.serverRead (.ok message)) =>
      match session.toServer with
      | [] => none
      | head :: toServer =>
          if head = message then
            (session.server.step json (.controller (.serverRead (.ok message)))).map
              fun server => { session with server, toServer }
          else none
  | .controller event =>
      (session.server.step json (.controller event)).map fun server =>
        { session with
          server
          toClient := session.toClient ++ serverWrites session.server.test event }
  | event => (session.server.step json event).map fun server => { session with server }

def step (json : Json) (session : Session) : SessionEvent → Option Session
  | .client event => session.clientStep json event
  | .server event => session.serverStep json event
  | .accept index =>
      match session.backlog[index]? with
      | none => none
      | some inbound =>
          (session.server.step json (.accept inbound)).map fun server =>
            { session with server, backlog := session.backlog.eraseIdx index }
  | .stranger peer =>
      some { session with
        backlog := session.backlog ++ [⟨⟨session.nextId⟩, peer⟩]
        nextId := session.nextId + 1 }

/-- The outcomes of one step of a session. -/
inductive Move (json : Json) (session : Session) : SessionEvent → Session → Prop where
  | connect (client : Controller)
      (step : session.client.controllerStep (.connect (.ok ⟨session.nextId⟩)) = some client) :
      Move json session (.client (.controller (.connect (.ok ⟨session.nextId⟩))))
        { session with
          client
          backlog := session.backlog ++ [session.hello json ⟨session.nextId⟩]
          nextId := session.nextId + 1
          opened := session.opened ++ [⟨session.nextId⟩] }
  | reply (client : Controller) (welcomed : session.isWelcomed = true)
      (step : session.client.controllerStep (.reply (.ok .welcome)) = some client) :
      Move json session (.client (.controller (.reply (.ok .welcome)))) { session with client }
  | read (message : ServerMessage) (toClient : List ServerMessage) (client : Controller)
      (head : session.toClient = message :: toClient)
      (step : session.client.controllerStep (.clientRead (.ok message)) = some client) :
      Move json session (.client (.controller (.clientRead (.ok message))))
        { session with client, toClient }
  | client (event : ClientEvent) (client : Controller) (toServer : List ClientMessage)
      (step : Client.step session.client event = some client)
      (noConnect : ∀ stream, event ≠ .controller (.connect (.ok stream)))
      (noReply : ∀ message, event ≠ .controller (.reply (.ok message)))
      (noRead : ∀ message, event ≠ .controller (.clientRead (.ok message))) :
      Move json session (.client event) { session with client, toServer }
  | server (event : ServerEvent) (server : Server) (toClient : List ServerMessage)
      (toServer : List ClientMessage) (step : session.server.step json event = some server)
      (noAccept : ∀ inbound, event ≠ .accept inbound)
      (writes : toClient = session.toClient ∨ ∃ own, event = .controller own ∧
        toClient = session.toClient ++ serverWrites session.server.test own) :
      Move json session (.server event) { session with server, toClient, toServer }
  | accept (index : Nat) (inbound : Inbound) (server : Server)
      (waiting : session.backlog[index]? = some inbound)
      (step : session.server.step json (.accept inbound) = some server) :
      Move json session (.accept index)
        { session with server, backlog := session.backlog.eraseIdx index }
  | stranger (peer : Peer) :
      Move json session (.stranger peer)
        { session with
          backlog := session.backlog ++ [⟨⟨session.nextId⟩, peer⟩]
          nextId := session.nextId + 1 }

variable {json : Json} {session next : Session} {event : SessionEvent}

private theorem move_of_clientStep {event : ClientEvent}
    (step : session.clientStep json event = some next) :
    Move json session (.client event) next := by
  unfold clientStep at step
  split at step
  · rename_i stream
    split at step
    · rename_i fresh
      subst fresh
      obtain ⟨client, moved, result⟩ := Option.map_eq_some_iff.mp step
      subst result
      exact .connect client moved
    · cases step
  · split at step
    · rename_i enabled
      obtain ⟨rfl, welcomed⟩ := enabled
      obtain ⟨client, moved, result⟩ := Option.map_eq_some_iff.mp step
      subst result
      exact .reply client welcomed moved
    · cases step
  · split at step
    · cases step
    · rename_i head toClient control
      split at step
      · rename_i same
        subst same
        obtain ⟨client, moved, result⟩ := Option.map_eq_some_iff.mp step
        subst result
        exact .read head toClient client control moved
      · cases step
  · rename_i own noConnect noReply noRead
    obtain ⟨client, moved, result⟩ := Option.map_eq_some_iff.mp step
    subst result
    apply Move.client (.controller own) client _ moved
    · rintro stream same
      cases same
      exact noConnect stream rfl
    · rintro message same
      cases same
      exact noReply message rfl
    · rintro message same
      cases same
      exact noRead message rfl
  · rename_i other
    obtain ⟨client, moved, result⟩ := Option.map_eq_some_iff.mp step
    subst result
    apply Move.client _ client session.toServer moved
    · exact fun stream same => other _ same
    · exact fun message same => other _ same
    · exact fun message same => other _ same

private theorem move_of_serverStep {event : ServerEvent}
    (step : session.serverStep json event = some next) :
    Move json session (.server event) next := by
  unfold serverStep at step
  split at step
  · cases step
  · split at step
    · cases step
    · split at step
      · obtain ⟨server, moved, result⟩ := Option.map_eq_some_iff.mp step
        subst result
        exact .server _ server session.toClient _ moved (by simp) (.inl rfl)
      · cases step
  · rename_i own noRead
    obtain ⟨server, moved, result⟩ := Option.map_eq_some_iff.mp step
    subst result
    exact .server _ server _ session.toServer moved (by simp) (.inr ⟨own, rfl, rfl⟩)
  · rename_i noAccept noRead noController
    obtain ⟨server, moved, result⟩ := Option.map_eq_some_iff.mp step
    subst result
    exact .server _ server session.toClient session.toServer moved noAccept (.inl rfl)

/-- Every step of a session is one of the listed moves. -/
theorem move_of_step (step : session.step json event = some next) :
    Move json session event next := by
  cases event with
  | client event => exact move_of_clientStep step
  | server event => exact move_of_serverStep step
  | accept index =>
      simp only [Session.step] at step
      split at step
      · cases step
      · rename_i inbound waiting
        obtain ⟨server, moved, result⟩ := Option.map_eq_some_iff.mp step
        subst result
        exact .accept index inbound server waiting moved
  | stranger peer =>
      cases step
      exact .stranger peer

/-! ## The two parties of a session -/

/-- A step of a session is one of the client, or leaves the client alone. -/
theorem client_of_step (step : session.step json event = some next) :
    next.client = session.client ∨
      ∃ event, Client.step session.client event = some next.client := by
  cases move_of_step step with
  | connect client moved => exact .inr ⟨.controller (.connect (.ok ⟨session.nextId⟩)), moved⟩
  | reply client welcomed moved => exact .inr ⟨.controller (.reply (.ok .welcome)), moved⟩
  | read message toClient client head moved =>
      exact .inr ⟨.controller (.clientRead (.ok message)), moved⟩
  | client event client toServer moved => exact .inr ⟨event, moved⟩
  | server | accept | stranger => exact .inl rfl

/-- A step of a session is one of the server, or leaves the server alone. -/
theorem server_of_step (step : session.step json event = some next) :
    next.server = session.server ∨
      ∃ event, session.server.step json event = some next.server := by
  cases move_of_step step with
  | server event server toClient toServer moved => exact .inr ⟨event, moved⟩
  | accept index inbound server waiting moved => exact .inr ⟨.accept inbound, moved⟩
  | connect | reply | read | client | stranger => exact .inl rfl

variable {clientBuild serverBuild : Build} {cookie : String} {params : Parameters}

theorem client_reachable
    (reachable : Reachable (Session.step json) (new clientBuild serverBuild cookie params)
      session) :
    Reachable Client.step (Client.new clientBuild cookie params) session.client := by
  apply reachable.invariant
    (fun session => Reachable Client.step (Client.new clientBuild cookie params) session.client)
    _ (.refl _ _)
  intro source event target sofar step
  rcases client_of_step step with same | ⟨event, moved⟩
  · exact same ▸ sofar
  · exact sofar.tail moved

theorem server_reachable
    (reachable : Reachable (Session.step json) (new clientBuild serverBuild cookie params)
      session) :
    Reachable (Server.step json)
      (.new serverBuild (Perf.newWithStatsReceiver cookie .server params)) session.server := by
  apply reachable.invariant
    (fun session => Reachable (Server.step json)
      (.new serverBuild (Perf.newWithStatsReceiver cookie .server params)) session.server)
    _ (.refl _ _)
  intro source event target sofar step
  rcases server_of_step step with same | ⟨event, moved⟩
  · exact same ▸ sofar
  · exact sofar.tail moved

/-! ## Common schedules -/

/-- A client with these options and its server. -/
def sample (opts : ClientOpts) : Session :=
  new ⟨true, true⟩ ⟨true, true⟩ "c" (.fromOpts opts)

/-- The client opens a data connection and is welcomed; both sides register it. -/
def connection (id : Nat) : List SessionEvent :=
  [.client (.controller (.connect (.ok ⟨id⟩))), .accept 0, .server .look, .server .hello,
    .server (.welcome true), .client (.controller (.reply (.ok .welcome))), .server .handOff,
    .server (.controller .recv)]

end Session

end Iperf
