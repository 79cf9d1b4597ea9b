import Iperf.Visit.Core

/-!
# What a step of a visit can do

The steps of the client program one by one, those of its controller as in a session, and
those of the server by what they mean for the client.
-/

namespace Iperf

open Channel Transition

namespace Visit

/-- What a step of the server writes to the client's control connection. -/
def heard (visit : Visit) : HostEvent → List ServerMessage
  | .controller test event => visit.hostWrites test event
  | _ => []

/-- The outcomes of one step of the client's controller. -/
inductive ClientMove (json : Json) (visit : Visit) (client : Controller) : Visit → Prop where
  | connect (next : Controller)
      (step : client.controllerStep (.connect (.ok ⟨visit.nextId⟩)) = some next) :
      ClientMove json visit client
        { visit.send ⟨visit.nextId⟩
            (Peer.sending json.client (.hello client.perf.cookie)).bytes with
          startup := .running next
          backlog := visit.backlog ++ [⟨visit.nextId⟩]
          nextId := visit.nextId + 1
          opened := visit.opened ++ [⟨visit.nextId⟩] }
  | reply (total : UInt16) (stream : TcpStream) (next : Controller)
      (pc : client.pc = .greeting total stream) (welcomed : visit.isWelcomed stream = true)
      (step : client.controllerStep (.reply (.ok .welcome)) = some next) :
      ClientMove json visit client { visit with startup := .running next }
  | read (message : ServerMessage) (toClient : List ServerMessage) (next : Controller)
      (head : visit.toClient = message :: toClient)
      (step : client.controllerStep (.clientRead (.ok message)) = some next) :
      ClientMove json visit client { visit with startup := .running next, toClient }
  | own (event : ControllerEvent) (next : Controller)
      (noConnect : ∀ stream, event ≠ .connect (.ok stream))
      (noReply : ∀ message, event ≠ .reply (.ok message))
      (noRead : ∀ message, event ≠ .clientRead (.ok message))
      (step : client.controllerStep event = some next) :
      ClientMove json visit client { visit with
        startup := .running next
        toServer := visit.toServer ++ Session.clientWrites client event }
  | rest (event : ClientEvent) (next : Controller)
      (noController : ∀ own, event ≠ .controller own)
      (step : Client.step client event = some next) :
      ClientMove json visit client { visit with startup := .running next }

/-- The outcomes of one step of a visit. -/
inductive Move (json : Json) (caller : Caller) (visit : Visit) : Visit → Prop where
  | dial (dialing : visit.startup = .dialing) :
      Move json caller visit { visit with
        startup := .greeting
        control := some ⟨visit.nextId⟩
        backlog := visit.backlog ++ [⟨visit.nextId⟩]
        nextId := visit.nextId + 1 }
  | fail (notRunning : ∀ client, visit.startup ≠ .running client) :
      Move json caller visit { visit with startup := .failed }
  | hello (control : TcpStream) (bytes : List UInt8) (greeting : visit.startup = .greeting)
      (dialed : visit.control = some control)
      (writes : writeControlMessage json.client (.message (.hello caller.cookie)) = some bytes) :
      Move json caller visit { visit.send control bytes with startup := .awaiting }
  | reply (control : TcpStream) (awaiting : visit.startup = .awaiting)
      (dialed : visit.control = some control) (welcomed : visit.isWelcomed control = true) :
      Move json caller visit { visit with startup := .asking }
  | parameters (control : TcpStream) (bytes : List UInt8) (asking : visit.startup = .asking)
      (dialed : visit.control = some control)
      (writes : writeControlMessage json.client
        (.message (.sendParameters (.fromOpts caller.opts))) = some bytes) :
      Move json caller visit { visit.send control bytes with
        startup := .running (spawned caller visit.shutdown) }
  | signal (notRunning : ∀ client, visit.startup ≠ .running client)
      (quiet : visit.shutdown = .quiet) :
      Move json caller visit { visit with shutdown := .signalled }
  | client (client : Controller) (next : Visit) (running : visit.startup = .running client)
      (move : ClientMove json visit client next) : Move json caller visit next
  | accept (index : Nat) (stream : TcpStream) (host : Host)
      (waiting : visit.backlog[index]? = some stream)
      (step : visit.host.step json (.accept ⟨stream, ⟨[], false⟩⟩) = some host) :
      Move json caller visit { visit with
        host
        backlog := visit.backlog.eraseIdx index
        current := some stream }
  | arrive (bytes : List UInt8) (closed : Bool) (host : Host)
      (arrives : visit.arrives bytes closed = true)
      (step : visit.host.step json (.arrive bytes closed) = some host) :
      Move json caller visit { visit with host }
  | hostReads (test : Nat) (message : ClientMessage) (toServer : List ClientMessage)
      (host : Host) (own : visit.test = some test) (head : visit.toServer = message :: toServer)
      (step : visit.host.step json (.controller test (.serverRead (.ok message))) = some host) :
      Move json caller visit { visit with host, toServer }
  | createWelcome (delivered : Bool) (host : Host)
      (step : visit.host.step json (.createWelcome delivered) = some host) :
      Move json caller visit { visit with
        host
        greeted :=
          if delivered then visit.greeted ++ visit.host.accept.inHand.map Inbound.stream
          else visit.greeted }
  | spawn (host : Host) (step : visit.host.step json .spawn = some host) :
      Move json caller visit { visit with
        host
        test :=
          if visit.control.isSome ∧ visit.current = visit.control then
            some visit.host.tests.length
          else visit.test }
  | host (event : HostEvent) (host : Host) (noAccept : ∀ inbound, event ≠ .accept inbound)
      (noArrive : ∀ bytes closed, event ≠ .arrive bytes closed)
      (noWelcome : ∀ delivered, event ≠ .createWelcome delivered) (noSpawn : event ≠ .spawn)
      (reads : ∀ test message, event = .controller test (.serverRead (.ok message)) →
        visit.test ≠ some test)
      (step : visit.host.step json event = some host) :
      Move json caller visit { visit with host, toClient := visit.toClient ++ visit.heard event }
  | stranger :
      Move json caller visit { visit with
        backlog := visit.backlog ++ [⟨visit.nextId⟩]
        nextId := visit.nextId + 1 }

variable {json : Json} {caller : Caller} {visit next : Visit}

theorem clientMove_of_step {client : Controller} {event : ClientEvent}
    (step : visit.clientStep json client event = some next) :
    ClientMove json visit client next := by
  unfold clientStep at step
  split at step
  · split at step
    · rename_i here
      subst here
      rcases Option.map_eq_some_iff.mp step with ⟨after, moved, rfl⟩
      exact .connect after moved
    · cases step
  · split at step
    · rename_i total stream pc
      split at step
      · rename_i enabled
        rcases enabled with ⟨rfl, welcomed⟩
        rcases Option.map_eq_some_iff.mp step with ⟨after, moved, rfl⟩
        exact .reply total stream after pc welcomed moved
      · cases step
    · cases step
  · split at step
    · cases step
    · rename_i message head toClient control
      split at step
      · rename_i same
        subst same
        rcases Option.map_eq_some_iff.mp step with ⟨after, moved, rfl⟩
        exact .read head toClient after control moved
      · cases step
  · rename_i own noConnect noReply noRead
    rcases Option.map_eq_some_iff.mp step with ⟨after, moved, rfl⟩
    exact .own own after (fun stream same => noConnect stream (by rw [same]))
      (fun message same => noReply message (by rw [same]))
      (fun message same => noRead message (by rw [same])) moved
  · rename_i other
    rcases Option.map_eq_some_iff.mp step with ⟨after, moved, rfl⟩
    exact .rest event after other moved

theorem move_of_write {message : ClientMessage} {delivered : Bool} {later : Startup}
    (notRunning : ∀ client, visit.startup ≠ .running client)
    (sends : ∀ control bytes, visit.control = some control →
      writeControlMessage json.client (.message message) = some bytes →
      Move json caller visit { visit.send control bytes with startup := later }) :
    Move json caller visit (visit.write json message delivered later) := by
  unfold write
  split
  · rename_i control bytes dialed writes
    split
    · exact sends control bytes dialed writes
    · exact .fail notRunning
  · exact .fail notRunning

private theorem move_of_hostStep {event : HostEvent}
    (step : visit.hostStep json event = some next) : Move json caller visit next := by
  unfold hostStep at step
  split at step
  · cases step
  · cases step
  · rename_i test message
    split at step
    · rename_i own
      split at step
      · cases step
      · rename_i head toServer waiting
        split at step
        · rename_i same
          subst same
          rcases Option.map_eq_some_iff.mp step with ⟨host, moved, rfl⟩
          exact .hostReads test head toServer host own waiting moved
        · cases step
    · rename_i other
      rcases Option.map_eq_some_iff.mp step with ⟨host, moved, rfl⟩
      have silent : visit.heard (.controller test (.serverRead (.ok message))) = [] :=
        if_neg other
      have move := @Move.host json caller visit (.controller test (.serverRead (.ok message))) host
        (by rintro _ ⟨⟩) (by rintro _ _ ⟨⟩) (by rintro _ ⟨⟩) (by rintro ⟨⟩)
        (by rintro _ _ ⟨⟩; exact other) moved
      rw [silent, List.append_nil] at move
      exact move
  · rename_i test own noRead
    rcases Option.map_eq_some_iff.mp step with ⟨host, moved, rfl⟩
    apply Move.host (.controller test own) host
    · rintro _ ⟨⟩
    · rintro _ _ ⟨⟩
    · rintro _ ⟨⟩
    · rintro ⟨⟩
    · rintro _ message ⟨⟩
      exact absurd rfl (noRead message)
    · exact moved
  · rename_i delivered
    rcases Option.map_eq_some_iff.mp step with ⟨host, moved, rfl⟩
    exact .createWelcome delivered host moved
  · rcases Option.map_eq_some_iff.mp step with ⟨host, moved, rfl⟩
    exact .spawn host moved
  · rename_i noAccept noArrive noRead noController noWelcome noSpawn
    rcases Option.map_eq_some_iff.mp step with ⟨host, moved, rfl⟩
    have silent : visit.heard event = [] := by
      cases event with
      | controller test own => exact absurd rfl (noController test own)
      | _ => rfl
    have move := @Move.host json caller visit event host noAccept noArrive noWelcome noSpawn
      (fun test message same => absurd same (noController test _)) moved
    rw [silent, List.append_nil] at move
    exact move

/-- Every step of a visit is one of the listed moves. -/
theorem move_of_step {event : VisitEvent} (step : visit.step json caller event = some next) :
    Move json caller visit next := by
  cases event with
  | dial connected =>
      simp only [Visit.step] at step
      split at step
      · rename_i dialing
        cases connected <;> cases step
        · exact .fail (by rw [dialing]; rintro _ ⟨⟩)
        · exact .dial dialing
      · cases step
  | hello delivered =>
      simp only [Visit.step] at step
      split at step
      · rename_i greeting
        cases step
        exact move_of_write (by rw [greeting]; rintro _ ⟨⟩)
          fun control bytes dialed writes => .hello control bytes greeting dialed writes
      · cases step
  | reply result =>
      simp only [Visit.step] at step
      split at step
      · rename_i control message awaiting dialed
        split at step
        · rename_i enabled
          cases step
          exact .reply control awaiting dialed enabled.2
        · cases step
      · rename_i awaiting
        cases step
        exact .fail (by rw [awaiting]; rintro _ ⟨⟩)
      · cases step
  | parameters delivered =>
      simp only [Visit.step] at step
      split at step
      · rename_i asking
        cases step
        exact move_of_write (by rw [asking]; rintro _ ⟨⟩)
          fun control bytes dialed writes => .parameters control bytes asking dialed writes
      · cases step
  | signal =>
      simp only [Visit.step] at step
      split at step
      · cases step
      · rename_i notRunning
        split at step
        · rename_i quiet
          cases step
          exact .signal notRunning quiet
        · cases step
  | client event =>
      simp only [Visit.step] at step
      split at step
      · rename_i client running
        exact .client client next running (clientMove_of_step step)
      · cases step
  | accept index =>
      simp only [Visit.step] at step
      split at step
      · cases step
      · rename_i stream waiting
        rcases Option.map_eq_some_iff.mp step with ⟨host, moved, rfl⟩
        exact .accept index stream host waiting moved
  | arrive bytes closed =>
      simp only [Visit.step] at step
      split at step
      · rename_i arrives
        rcases Option.map_eq_some_iff.mp step with ⟨host, moved, rfl⟩
        exact .arrive bytes closed host arrives moved
      · cases step
  | host event => exact move_of_hostStep step
  | stranger =>
      cases step
      exact .stranger

/-- The host of a visit makes steps of its own. -/
theorem host_of_move (move : Move json caller visit next) :
    next.host = visit.host ∨ ∃ event, visit.host.step json event = some next.host := by
  cases move with
  | accept index stream host waiting step => exact .inr ⟨_, step⟩
  | arrive bytes closed host arrives step => exact .inr ⟨_, step⟩
  | hostReads test message toServer host own head step => exact .inr ⟨_, step⟩
  | createWelcome delivered host step => exact .inr ⟨_, step⟩
  | spawn host step => exact .inr ⟨_, step⟩
  | host event host _ _ _ _ _ step => exact .inr ⟨_, step⟩
  | client client next running move => cases move <;> exact .inl rfl
  | dial | fail | hello | reply | parameters | signal | stranger => exact .inl rfl

theorem reachable_of_move {build : Build}
    (reachable : Reachable (Host.step json) (.new build) visit.host)
    (move : Move json caller visit next) :
    Reachable (Host.step json) (.new build) next.host := by
  rcases host_of_move move with same | ⟨event, moved⟩
  · exact same ▸ reachable
  · exact reachable.tail moved

end Visit

end Iperf
