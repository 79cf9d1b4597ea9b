import Iperf.Client.Handshake
import Iperf.Host.Servers
import Iperf.Session.Foresight
import Iperf.Visit.Recognised

/-!
# A session beside a visit

Next to the client program and the server with all its tests runs a session of the client
with one server.  Its client makes the same steps.  Connections that have nothing to do
with the test of the client wait in the session for good.
-/

namespace Iperf

open Channel Transition

/-! ## Connections that wait -/

theorem AcceptPc.toRead_map (change : Inbound → Inbound) (pc : AcceptPc) :
    (pc.map change).toRead = pc.toRead.map change := by
  cases pc <;> rfl

theorem AcceptPc.map_congr {pc : AcceptPc} {change other : Inbound → Inbound}
    (same : ∀ inbound ∈ pc.inHand, change inbound = other inbound) :
    pc.map change = pc.map other := by
  cases pc with
  | upgraded inbound | reading inbound cookie | welcoming inbound | handingOff inbound
  | refusing inbound holds =>
      simp only [map, same inbound (List.mem_singleton_self inbound)]
  | _ => rfl

namespace Session

variable {json : Json} {cookie : String} {start session : Session}

/-- It is not settled what is sent on a connection that has not been read. -/
theorem Attained.resend (attained : Attained json cookie start session) {accept : AcceptPc}
    (same : ∀ sends, accept.foreseen sends = session.server.accept.foreseen sends) :
    Attained json cookie start { session with server := { session.server with accept } } := by
  intro peers honest
  have reached := attained peers honest
  simp only [foreseen, same]
  exact reached

theorem clientStep_own {event : ControllerEvent} {client : Controller}
    (noConnect : ∀ stream, event ≠ .connect (.ok stream))
    (noReply : ∀ message, event ≠ .reply (.ok message))
    (noRead : ∀ message, event ≠ .clientRead (.ok message))
    (step : session.client.controllerStep event = some client) :
    session.clientStep json (.controller event) = some { session with
      client
      toServer := session.toServer ++ clientWrites session.client event } := by
  unfold clientStep
  split
  · rename_i stream same
    cases same
    exact absurd rfl (noConnect stream)
  · rename_i message same
    cases same
    exact absurd rfl (noReply message)
  · rename_i message same
    cases same
    exact absurd rfl (noRead message)
  · rename_i own _ _ _ same
    cases same
    rw [step]
    rfl
  · rename_i other
    exact absurd rfl (other event)

theorem serverStep_own {event : ControllerEvent} {test : Controller}
    (noRead : ∀ message, event ≠ .serverRead (.ok message))
    (step : session.server.test.controllerStep event = some test) :
    session.serverStep json (.controller event) = some { session with
      server := { session.server with test }
      toClient := session.toClient ++ serverWrites session.server.test event } := by
  unfold serverStep
  split
  · rename_i same
    cases same
  · rename_i message same
    cases same
    exact absurd rfl (noRead message)
  · rename_i own _ same
    cases same
    simp only [Server.step, step, Option.map_some]
  · rename_i other
    exact absurd rfl (other event)

/-- Others connect before anything else happens. -/
theorem Attained.strangers (attained : Attained json cookie start session)
    (none : session.opened = []) (count : Nat) : ∃ backlog : List Inbound,
      Attained json cookie start { session with
        backlog := session.backlog ++ backlog
        nextId := session.nextId + count } ∧
      backlog.map Inbound.stream =
        (List.range' session.nextId count).map TcpStream.mk := by
  induction count with
  | zero => exact ⟨[], by rw [List.append_nil]; exact attained, rfl⟩
  | succ count ih =>
      rcases ih with ⟨backlog, sofar, numbers⟩
      refine ⟨backlog ++ [⟨⟨session.nextId + count⟩, ⟨[], false⟩⟩], ?_, ?_⟩
      · rw [← List.append_assoc]
        exact sofar.stranger (by rw [none]; exact List.not_mem_nil) ⟨[], false⟩
      · rw [List.map_append, numbers, List.range'_concat, List.map_append, Nat.one_mul]
        rfl

end Session

/-- The session of the client and its test, as it begins: the shutdown receiver of the test
stands at `shutdown`. -/
def Caller.session (caller : Caller) (build : Build) (shutdown : Shutdown) : Session :=
  { Session.new caller.build build caller.cookie (.fromOpts caller.opts) with
    server := .startedAt build caller.asked shutdown }

namespace Visit

variable {json : Json} {caller : Caller} {visit next : Visit}

/-- The connection with all that is going to be sent on it, if it is the client's. -/
def whole (json : Json) (caller : Caller) (visit : Visit) (inbound : Inbound) : Inbound :=
  if inbound.stream ∈ visit.opened then
    { inbound with peer := .sending json.client (.hello caller.cookie) }
  else inbound

theorem whole_stream (inbound : Inbound) :
    (visit.whole json caller inbound).stream = inbound.stream := by
  unfold whole
  split <;> rfl

/-- The session has come about beside the visit. -/
structure Beside (json : Json) (caller : Caller) (visit : Visit) (client : Controller)
    (start session : Session) : Prop where
  attained : Session.Attained json caller.cookie start session
  awaited : client.alive = true → ∀ stream, client.pc.awaited = some stream →
    stream ∈ visit.opened
  client : session.client = client
  opened : session.opened = visit.opened
  nextId : session.nextId = visit.nextId
  toClient : session.toClient = visit.toClient
  toServer : session.toServer = visit.toServer
  backlog : ∀ stream ∈ visit.backlog, stream ∈ session.backlog.map Inbound.stream
  distinct : session.unread.Nodup
  waiting : ∀ stream ∈ session.unread, stream.id < visit.nextId
  welcomed : ∀ stream ∈ visit.opened, (stream, Reply.welcome) ∈ visit.host.replies →
    (stream, Reply.welcome) ∈ session.server.replies

variable {client : Controller} {start session : Session}

/-- The visit goes on beside the session as it is. -/
theorem Beside.keep (beside : visit.Beside json caller client start session)
    (opened : next.opened = visit.opened) (nextId : next.nextId = visit.nextId)
    (toClient : next.toClient = visit.toClient) (toServer : next.toServer = visit.toServer)
    (backlog : ∀ stream ∈ next.backlog, stream ∈ visit.backlog)
    (welcomed : ∀ stream ∈ visit.opened, (stream, Reply.welcome) ∈ next.host.replies →
      (stream, Reply.welcome) ∈ visit.host.replies) :
    next.Beside json caller client start session where
  attained := beside.attained
  awaited := opened ▸ beside.awaited
  client := beside.client
  opened := beside.opened.trans opened.symm
  nextId := beside.nextId.trans nextId.symm
  toClient := beside.toClient.trans toClient.symm
  toServer := beside.toServer.trans toServer.symm
  backlog := fun stream streamMem => beside.backlog stream (backlog stream streamMem)
  distinct := beside.distinct
  waiting := nextId ▸ beside.waiting
  welcomed := by
    rw [opened]
    exact fun stream own welcome => beside.welcomed stream own (welcomed stream own welcome)

theorem Beside.fresh (beside : visit.Beside json caller client start session) :
    ∀ stream ∈ session.unread, stream ≠ ⟨session.nextId⟩ := by
  rintro _ streamMem rfl
  have lower := beside.waiting _ streamMem
  rw [beside.nextId] at lower
  exact lt_irrefl _ lower

/-- Somebody connects. -/
theorem Beside.stranger (beside : visit.Beside json caller client start session)
    (distinct : visit.Distinct) : ∃ session', Beside json caller { visit with
      backlog := visit.backlog ++ [⟨visit.nextId⟩]
      nextId := visit.nextId + 1 } client start session' ∧ session'.server = session.server := by
  have fresh : ⟨session.nextId⟩ ∉ session.opened := by
    rw [beside.opened, beside.nextId]
    exact fun own => lt_irrefl _ (distinct.opened _ own)
  have attained := beside.attained.stranger fresh ⟨[], false⟩
  have unread : Session.unread { session with
      backlog := session.backlog ++ [⟨⟨session.nextId⟩, ⟨[], false⟩⟩]
      nextId := session.nextId + 1 } = session.unread ++ [⟨session.nextId⟩] := by
    simp only [Session.unread, List.map_append, List.append_assoc, List.map_cons, List.map_nil]
  refine ⟨{ session with
    backlog := session.backlog ++ [⟨⟨session.nextId⟩, ⟨[], false⟩⟩]
    nextId := session.nextId + 1 }, ?_, rfl⟩
  constructor
  · exact attained
  · exact beside.awaited
  · exact beside.client
  · exact beside.opened
  · exact congrArg (· + 1) beside.nextId
  · exact beside.toClient
  · exact beside.toServer
  · intro stream streamMem
    rw [List.map_append]
    rcases List.mem_append.mp streamMem with before | latest
    · exact List.mem_append_left _ (beside.backlog stream before)
    · rw [List.mem_singleton.mp latest, ← beside.nextId]
      exact List.mem_append_right _ (List.mem_singleton_self _)
  · rw [unread, beside.nextId]
    exact nodup_concat beside.waiting beside.distinct
  · rw [unread, beside.nextId]
    exact lt_of_mem_concat beside.waiting
  · exact beside.welcomed

/-! ## The client moves -/

/-- The client is welcomed at the server if it is welcomed in the session. -/
theorem Beside.isWelcomed (beside : visit.Beside json caller client start session)
    (undisturbed : visit.Undisturbed) {total : UInt16} {stream : TcpStream}
    (pc : client.pc = .greeting total stream) (welcomed : visit.isWelcomed stream = true) :
    session.isWelcomed = true := by
  have own : stream ∈ visit.opened := by
    apply beside.awaited
    · simp [Controller.alive, pc]
    · rw [pc]
      rfl
  simp only [Session.isWelcomed, beside.client, pc, decide_eq_true_eq]
  rcases Bool.or_eq_true_iff.mp welcomed with handled | greeted
  · exact beside.welcomed stream own (List.contains_iff_mem.mp handled)
  · exact absurd (List.contains_iff_mem.mp greeted) (undisturbed stream own)

/-- A client that opens no connection waits for no other answer than before. -/
theorem Beside.still_awaited (beside : visit.Beside json caller client start session)
    (role : client.perf.role = .client) (event : ClientEvent) {after : Controller}
    (noConnect : ∀ stream, event ≠ .controller (.connect (.ok stream)))
    (noReply : ∀ message, event ≠ .controller (.reply (.ok message)))
    (step : Client.step client event = some after) (alive : after.alive = true) :
    ∀ stream, after.pc.awaited = some stream → stream ∈ visit.opened := by
  rcases (Client.streams_of_step role step noConnect noReply).2 alive with ⟨before, same⟩
  rw [same]
  exact beside.awaited before

/-- The client opens a data connection. -/
private theorem Beside.connect (beside : visit.Beside json caller client start session)
    (distinct : visit.Distinct) (cookie : client.perf.cookie = caller.cookie) {after : Controller}
    (step : client.controllerStep (.connect (.ok ⟨visit.nextId⟩)) = some after) :
    ∃ session', Beside json caller { visit.send ⟨visit.nextId⟩
          (Peer.sending json.client (.hello client.perf.cookie)).bytes with
        startup := .running after
        backlog := visit.backlog ++ [⟨visit.nextId⟩]
        nextId := visit.nextId + 1
        opened := visit.opened ++ [⟨visit.nextId⟩] } after start session' ∧
      session'.server = session.server := by
  have moved : session.clientStep json (.controller (.connect (.ok ⟨visit.nextId⟩))) =
      some { session with
        client := after
        backlog := session.backlog ++ [session.hello json ⟨visit.nextId⟩]
        nextId := session.nextId + 1
        opened := session.opened ++ [⟨visit.nextId⟩] } := by
    simp only [Session.clientStep, beside.nextId, if_true, beside.client, step, Option.map_some]
  have unread : Session.unread { session with
        client := after
        backlog := session.backlog ++ [session.hello json ⟨visit.nextId⟩]
        nextId := session.nextId + 1
        opened := session.opened ++ [⟨visit.nextId⟩] } = session.unread ++ [⟨visit.nextId⟩] := by
    simp only [Session.unread, List.map_append, List.append_assoc, List.map_cons, List.map_nil,
      Session.hello]
  refine ⟨{ session with
    client := after
    backlog := session.backlog ++ [session.hello json ⟨visit.nextId⟩]
    nextId := session.nextId + 1
    opened := session.opened ++ [⟨visit.nextId⟩] }, ?_, rfl⟩
  constructor
  · exact beside.attained.client moved (beside.client ▸ cookie) beside.fresh
  · intro _ stream awaits
    rcases Client.connect_eq step with ⟨total, -, rfl⟩
    rw [← Option.some.inj awaits]
    exact List.mem_append_right _ (List.mem_singleton_self _)
  · rfl
  · exact congrArg (· ++ _) beside.opened
  · exact congrArg (· + 1) beside.nextId
  · exact beside.toClient
  · exact beside.toServer
  · intro stream streamMem
    rw [List.map_append]
    rcases List.mem_append.mp streamMem with before | latest
    · exact List.mem_append_left _ (beside.backlog stream before)
    · exact List.mem_append_right _ latest
  · rw [unread]
    exact nodup_concat beside.waiting beside.distinct
  · rw [unread]
    exact lt_of_mem_concat beside.waiting
  · intro stream own welcome
    rcases List.mem_append.mp own with before | latest
    · exact beside.welcomed stream before welcome
    · have lower := distinct.welcomed stream welcome
      rw [List.mem_singleton.mp latest] at lower
      exact absurd lower (lt_irrefl _)

theorem Beside.clientMove (beside : visit.Beside json caller client start session)
    (distinct : visit.Distinct) (undisturbed : visit.Undisturbed)
    (perf : client.perf = .newWithStatsReceiver caller.cookie .client (.fromOpts caller.opts))
    (move : ClientMove json visit client next) :
    ∃ after session', next.startup = .running after ∧
      next.Beside json caller after start session' ∧ session'.server = session.server := by
  have cookie : client.perf.cookie = caller.cookie := by rw [perf]; rfl
  have known : session.client.perf.cookie = caller.cookie := by rw [beside.client, cookie]
  have role : client.perf.role = .client := by rw [perf]; rfl
  cases move with
  | connect after step =>
      rcases beside.connect distinct cookie step with ⟨session', goesOn, server⟩
      exact ⟨after, session', rfl, goesOn, server⟩
  | reply total stream after pc welcomed step =>
      have moved : session.clientStep json (.controller (.reply (.ok .welcome))) =
          some { session with client := after } := by
        simp only [Session.clientStep, beside.isWelcomed undisturbed pc welcomed, and_self,
          if_true, beside.client, step, Option.map_some]
      have awaited : after.alive = true → ∀ stream, after.pc.awaited = some stream →
          stream ∈ visit.opened := by
        intro alive stream awaits
        rcases Client.reply_cases step with ⟨_, _, -, ⟨-, none⟩ | ⟨-, gone⟩⟩
        · rw [none] at awaits
          cases awaits
        · rw [gone] at alive
          cases alive
      have attained := beside.attained.client moved known beside.fresh
      exact ⟨after, { session with client := after }, rfl,
        { beside with attained, awaited, client := rfl }, rfl⟩
  | read message toClient after head step =>
      have moved : session.clientStep json (.controller (.clientRead (.ok message))) =
          some { session with client := after, toClient } := by
        simp only [Session.clientStep, beside.toClient, head, if_true, beside.client, step,
          Option.map_some]
      have attained := beside.attained.client moved known beside.fresh
      have awaited := beside.still_awaited role (.controller (.clientRead (.ok message)))
        (by rintro _ ⟨⟩) (by rintro _ ⟨⟩) step
      exact ⟨after, { session with client := after, toClient }, rfl,
        { beside with attained, awaited, client := rfl, toClient := rfl }, rfl⟩
  | own event after noConnect noReply noRead step =>
      have moved := @Session.clientStep_own json session event after noConnect noReply noRead
        (beside.client ▸ step)
      have attained := beside.attained.client moved known beside.fresh
      have awaited := beside.still_awaited role (.controller event)
        (fun stream same => noConnect stream (ClientEvent.controller.inj same))
        (fun message same => noReply message (ClientEvent.controller.inj same)) step
      have toServer : session.toServer ++ Session.clientWrites session.client event =
          visit.toServer ++ Session.clientWrites client event := by
        rw [beside.toServer, beside.client]
      exact ⟨after, { session with
        client := after
        toServer := session.toServer ++ Session.clientWrites session.client event }, rfl,
        { beside with attained, awaited, client := rfl, toServer }, rfl⟩
  | rest event after noController step =>
      have moved : session.clientStep json event = some { session with client := after } := by
        cases event with
        | controller own => exact absurd rfl (noController own)
        | task | ctrlC => simp only [Session.clientStep, beside.client, step, Option.map_some]
      have attained := beside.attained.client moved known beside.fresh
      have awaited := beside.still_awaited role event
        (fun stream => noController (.connect (.ok stream)))
        (fun message => noController (.reply (.ok message))) step
      exact ⟨after, { session with client := after }, rfl,
        { beside with attained, awaited, client := rfl }, rfl⟩

end Visit

end Iperf
