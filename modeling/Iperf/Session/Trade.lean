import Iperf.Controller.Exchange
import Iperf.Server.Order
import Iperf.Session.Core

/-!
# What crosses the control connection

Nothing but the announcements and one map is ever written to the control
connection by the server, and nothing but one map by the client.  `Trade` says
which messages a step of both sides moves.
-/

namespace Iperf

open Channel Transition

namespace Session

/-- What a run of both sides is remembered by: the results each side has joined,
with the positions of their tasks, and the maps it has read in the exchange. -/
structure Log where
  clientJoined : List (Nat × StreamStats)
  serverJoined : List (Nat × StreamStats)
  clientTaken : List Results
  serverTaken : List Results

def Log.empty : Log :=
  ⟨[], [], [], []⟩

def Log.note (log : Log) (session : Session) : SessionEvent → Log
  | .client (.controller event) =>
      { log with
        clientJoined := log.clientJoined ++ session.client.joins event
        clientTaken := log.clientTaken ++ session.client.takes event }
  | .server (.controller event) =>
      { log with
        serverJoined := log.serverJoined ++ session.server.test.joins event
        serverTaken := log.serverTaken ++ session.server.test.takes event }
  | _ => log

/-- The control connection does not fail. -/
def Steady : Session → SessionEvent → Prop
  | _, .client (.controller event) => ¬event.Breaks
  | _, .server (.controller event) => ¬event.Breaks
  | _, _ => True

/-- What a step moves over the control connection. -/
inductive Trade (session : Session) : SessionEvent → Session → Prop where
  | client (event : ControllerEvent) (next : Session)
      (step : session.client.controllerStep event = some next.client)
      (noRead : ∀ message, event ≠ .clientRead (.ok message))
      (server : next.server = session.server) (toClient : next.toClient = session.toClient)
      (toServer : next.toServer = session.toServer ++ clientWrites session.client event) :
      Trade session (.client (.controller event)) next
  | clientReads (message : ServerMessage) (next : Session)
      (step : session.client.controllerStep (.clientRead (.ok message)) = some next.client)
      (server : next.server = session.server)
      (toClient : session.toClient = message :: next.toClient)
      (toServer : next.toServer = session.toServer) :
      Trade session (.client (.controller (.clientRead (.ok message)))) next
  | server (event : ControllerEvent) (next : Session)
      (step : session.server.test.controllerStep event = some next.server.test)
      (noRead : ∀ message, event ≠ .serverRead (.ok message))
      (client : next.client = session.client)
      (toClient : next.toClient = session.toClient ++ serverWrites session.server.test event)
      (toServer : next.toServer = session.toServer) :
      Trade session (.server (.controller event)) next
  | serverReads (message : ClientMessage) (next : Session)
      (step : session.server.test.controllerStep (.serverRead (.ok message)) =
        some next.server.test)
      (client : next.client = session.client) (toClient : next.toClient = session.toClient)
      (toServer : session.toServer = message :: next.toServer) :
      Trade session (.server (.controller (.serverRead (.ok message)))) next
  | rest (event : SessionEvent) (next : Session)
      (client : session.client.Rests next.client)
      (server : session.server.test.Rests next.server.test)
      (toClient : next.toClient = session.toClient)
      (toServer : next.toServer = session.toServer)
      (silent : ∀ log : Log, log.note session event = log)
      (steady : ∀ session : Session, session.Steady event) :
      Trade session event next

variable {json : Json} {session next : Session} {event : SessionEvent}

/-- Apart from its controller, a client is moved by its tasks and the signal. -/
theorem rests_of_client {event : ClientEvent} {client after : Controller}
    (other : ∀ own, event ≠ .controller own) (step : Client.step client event = some after) :
    client.Rests after := by
  cases event with
  | controller event => exact absurd rfl (other event)
  | task index event => exact .task index event step
  | ctrlC =>
      simp only [Client.step, Controller.step] at step
      split at step
      · cases step
        exact .outside (Controller.aside_of_fields _ _ _ _ _)
          (Controller.outside_of_fields _ _ _ _ _)
      · cases step

theorem rests_of_acceptMove {server after : Server} {event : ServerEvent}
    (move : Server.AcceptMove json server event after) : server.test.Rests after.test := by
  apply Controller.Rests.outside _ move.outside
  cases move <;> exact Controller.aside_of_fields _ _ _ _ _

theorem rests_of_server {event : ServerEvent} {server after : Server}
    (other : ∀ own, event ≠ .controller own)
    (step : server.step json event = some after) : server.test.Rests after.test := by
  cases event with
  | controller event => exact absurd rfl (other event)
  | task index event =>
      rcases Option.map_eq_some_iff.mp step with ⟨test, moved, result⟩
      rw [← result]
      exact .task index event moved
  | ctrlC =>
      simp only [Server.step, Controller.step] at step
      split at step
      · cases step
        exact .outside (Controller.aside_of_fields _ _ _ _ _)
          (Controller.outside_of_fields _ _ _ _ _)
      · cases step
  | _ =>
      simp only [Server.step] at step
      exact rests_of_acceptMove (Server.acceptMove_of_acceptStep step)

private theorem trade_of_clientStep {event : ClientEvent}
    (step : session.clientStep json event = some next) :
    Trade session (.client event) next := by
  unfold clientStep at step
  split at step
  · rename_i stream
    split at step
    · rcases Option.map_eq_some_iff.mp step with ⟨client, moved, result⟩
      subst result
      exact .client _ _ moved (by simp) rfl rfl (List.append_nil _).symm
    · cases step
  · rename_i message
    split at step
    · rcases Option.map_eq_some_iff.mp step with ⟨client, moved, result⟩
      subst result
      exact .client _ _ moved (by simp) rfl rfl (List.append_nil _).symm
    · cases step
  · rename_i message
    split at step
    · cases step
    · rename_i head toClient control
      split at step
      · rename_i same
        subst same
        rcases Option.map_eq_some_iff.mp step with ⟨client, moved, result⟩
        subst result
        exact .clientReads head _ moved rfl control rfl
      · cases step
  · rename_i own noConnect noReply noRead
    rcases Option.map_eq_some_iff.mp step with ⟨client, moved, result⟩
    subst result
    apply Trade.client own _ moved
    · rintro message rfl
      exact noRead message rfl
    · rfl
    · rfl
    · rfl
  · rename_i other
    rcases Option.map_eq_some_iff.mp step with ⟨client, moved, result⟩
    subst result
    apply Trade.rest
    · exact rests_of_client other moved
    · exact .refl _
    · rfl
    · rfl
    · intro log
      cases event with
      | controller event => exact absurd rfl (other event)
      | _ => rfl
    · intro session
      cases event with
      | controller event => exact absurd rfl (other event)
      | _ => trivial

private theorem trade_of_serverStep {event : ServerEvent}
    (step : session.serverStep json event = some next) :
    Trade session (.server event) next := by
  have own : ∀ {server : Server} {event : ControllerEvent},
      session.server.step json (.controller event) = some server →
        session.server.test.controllerStep event = some server.test := by
    intro server event moved
    rcases Option.map_eq_some_iff.mp moved with ⟨test, step, result⟩
    rw [← result]
    exact step
  unfold serverStep at step
  split at step
  · cases step
  · rename_i message
    split at step
    · cases step
    · rename_i head toServer control
      split at step
      · rename_i same
        subst same
        rcases Option.map_eq_some_iff.mp step with ⟨server, moved, result⟩
        subst result
        exact .serverReads head _ (own moved) rfl rfl control
      · cases step
  · rename_i event noRead
    rcases Option.map_eq_some_iff.mp step with ⟨server, moved, result⟩
    subst result
    apply Trade.server event _ (own moved)
    · rintro message rfl
      exact noRead message rfl
    · rfl
    · rfl
    · rfl
  · rename_i noAccept noRead other
    rcases Option.map_eq_some_iff.mp step with ⟨server, moved, result⟩
    subst result
    apply Trade.rest
    · exact .refl _
    · exact rests_of_server other moved
    · rfl
    · rfl
    · intro log
      cases event with
      | controller event => exact absurd rfl (other event)
      | _ => rfl
    · intro session
      cases event with
      | controller event => exact absurd rfl (other event)
      | _ => trivial

theorem trade_of_step (step : session.step json event = some next) :
    Trade session event next := by
  cases event with
  | client event => exact trade_of_clientStep step
  | server event => exact trade_of_serverStep step
  | accept index =>
      simp only [Session.step] at step
      split at step
      · cases step
      · rcases Option.map_eq_some_iff.mp step with ⟨server, moved, result⟩
        subst result
        exact .rest _ _ (.refl _) (rests_of_server (by simp) moved) rfl rfl (fun _ => rfl)
          fun _ => trivial
  | stranger peer =>
      cases step
      exact .rest _ _ (.refl _) (.refl _) rfl rfl (fun _ => rfl) fun _ => trivial

/-! ## What is written -/

/-- Everything a server has written to the control connection. -/
def said (test : Controller) : List ServerMessage :=
  test.announced.map .setState ++ test.resultsSent.map .sendResults

section Writes

variable {controller after : Controller} {taken : List Results}

theorem forwardResults_sent (controller : Controller) (remote : List StreamStats) :
    (controller.forwardResults remote).resultsSent = controller.resultsSent ∧
      (controller.forwardResults remote).announced = controller.announced := by
  unfold Controller.forwardResults
  split <;> exact ⟨rfl, rfl⟩

/-- Only a write changes what has been written. -/
theorem quiet_of_event {event : ControllerEvent}
    (step : controller.controllerStep event = some after)
    (other : ∀ delivered, event ≠ .write delivered) :
    after.announced = controller.announced ∧ after.resultsSent = controller.resultsSent := by
  constructor
  · rcases (Controller.move_of_controllerStep step).announced with same | ⟨target, pc, -⟩
    · exact same
    · cases event with
      | write delivered => exact absurd rfl (other delivered)
      | _ => simp [Controller.controllerStep, pc] at step
  · cases Controller.resultMove_of_step step with
    | loop _ _ _ _ kept => exact kept.sent
    | fail _ _ _ _ _ kept => exact kept.sent
    | collected exchange pc none =>
        unfold Controller.afterCollect
        split
        · split <;> rfl
        · exact (forwardResults_sent controller []).1
    | send pc => exact absurd rfl (other true)
    | answer remote pc => exact absurd rfl (other true)
    | read remote role pc => exact (forwardResults_sent controller (Controller.markPeer remote)).1
    | stop | join | collect | drop | take | forward | abandoned | done => rfl

theorem serverWrites_of_event {event : ControllerEvent}
    (other : ∀ delivered, event ≠ .write delivered) :
    serverWrites controller event = [] ∧ clientWrites controller event = [] := by
  cases event with
  | write delivered => exact absurd rfl (other delivered)
  | _ => exact ⟨rfl, rfl⟩

/-- A server writes its announcements and then its map. -/
theorem said_of_step {event : ControllerEvent} (role : controller.perf.role = .server)
    (traded : controller.Traded taken)
    (step : controller.controllerStep event = some after) :
    said after = said controller ++ serverWrites controller event := by
  by_cases write : ∃ delivered, event = .write delivered
  · rcases write with ⟨delivered, rfl⟩
    simp only [Controller.controllerStep] at step
    split at step
    · rename_i target pc
      have untraded := traded.untraded (by simp [pc, Pc.Closing])
      cases delivered with
      | false =>
          cases step
          exact (List.append_nil _).symm
      | true =>
          cases step
          simp only [said, untraded.sent, List.map_nil, List.append_nil, List.map_append,
            serverWrites, pc, List.map_cons]
    · rename_i pc
      have stage := traded.stage (traded.state_of_trading (.inl ⟨none, pc⟩))
      rw [Controller.Stage, pc] at stage
      rw [stage.1] at role
      cases role
    · rename_i remote pc
      cases delivered with
      | false =>
          cases step
          exact (List.append_nil _).symm
      | true =>
          cases step
          rw [said, (forwardResults_sent _ _).1, (forwardResults_sent _ _).2]
          simp only [said, List.map_append, serverWrites, pc, List.map_cons, List.map_nil,
            List.append_assoc]
    · cases step
  · have other : ∀ delivered, event ≠ .write delivered :=
      fun delivered same => write ⟨delivered, same⟩
    rcases quiet_of_event step other with ⟨announced, sent⟩
    rw [said, announced, sent, (serverWrites_of_event other).1, List.append_nil, said]

/-- A client writes nothing but its map. -/
theorem sent_of_step {event : ControllerEvent} (role : controller.perf.role = .client)
    (traded : controller.Traded taken) (silent : ∀ target, controller.pc ≠ .announcing target)
    (step : controller.controllerStep event = some after) :
    after.resultsSent.map ClientMessage.sendResults =
      controller.resultsSent.map .sendResults ++ clientWrites controller event := by
  by_cases write : ∃ delivered, event = .write delivered
  · rcases write with ⟨delivered, rfl⟩
    simp only [Controller.controllerStep] at step
    split at step
    · rename_i target pc
      exact absurd pc (silent target)
    · rename_i pc
      cases delivered with
      | false =>
          cases step
          exact (List.append_nil _).symm
      | true =>
          cases step
          simp only [List.map_append, clientWrites, pc, List.map_cons, List.map_nil]
    · rename_i remote pc
      have stage := traded.stage (traded.state_of_trading (.inl ⟨some remote, pc⟩))
      rw [Controller.Stage, pc] at stage
      rw [stage.1] at role
      cases role
    · cases step
  · have other : ∀ delivered, event ≠ .write delivered :=
      fun delivered same => write ⟨delivered, same⟩
    rw [(quiet_of_event step other).2, (serverWrites_of_event other).2, List.append_nil]

end Writes

end Session

end Iperf
