import Mathlib.Data.List.Perm.Basic
import Iperf.Client.Handshake
import Iperf.Client.Streams
import Iperf.Server.InTurn
import Iperf.Session.Connections

/-!
# Both ends of a stream agree

The client opens its streams one after the other, so at most one of its
connections is neither welcomed nor given up.  As long as nobody else presents
the cookie, the welcomed connections are the client's, in the order in which it
opened them, and a stream has the same position at both ends.
-/

namespace Iperf

open Channel Transition

/-- Nobody but the client presents the cookie of the test. -/
def SessionEvent.Honest (json : Json) (cookie : String) : SessionEvent → Prop
  | .stranger peer => readCookie json peer ≠ .done (.ok cookie)
  | _ => True

namespace Session

variable {json : Json} {session next : Session} {event : SessionEvent}

/-- The streams the client has registered. -/
def clientStreams (session : Session) : List TcpStream :=
  session.client.tasks.map Task.stream

/-- The connections with the cookie that have not been answered. -/
def pending (json : Json) (session : Session) : List TcpStream :=
  session.server.accept.candidate json session.server.test.perf.cookie ++
    (session.backlog.filter (Inbound.presents json session.server.test.perf.cookie)).map
      Inbound.stream

/-- The connections of the client are registered by the client once they are
welcomed, and at most the last one is not welcomed. -/
structure Linked (json : Json) (session : Session) : Prop where
  registered : session.clientStreams <+: session.server.welcomed
  welcomed : session.server.welcomed <+: session.opened
  opening : session.client.alive = true →
    session.opened = session.clientStreams ++ session.client.pc.awaited.toList
  pending : session.pending json = [] ∨ ∃ stream, session.pending json = [stream] ∧
    session.opened = session.server.welcomed ++ [stream]

theorem new_linked (json : Json) (clientBuild serverBuild : Build) (cookie : String)
    (params : Parameters) : (new clientBuild serverBuild cookie params).Linked json where
  registered := List.prefix_refl _
  welcomed := List.prefix_refl _
  opening := fun _ => rfl
  pending := .inl rfl

/-- A step that opens no connection and registers no stream at the client. -/
private theorem Linked.keep (linked : session.Linked json) (next : Session)
    (streams : next.clientStreams = session.clientStreams)
    (client : next.client.alive = true → session.client.alive = true ∧
      next.client.pc.awaited = session.client.pc.awaited)
    (opened : next.opened = session.opened)
    (welcomed : next.server.welcomed = session.server.welcomed)
    (pending : next.pending json = [] ∨ next.pending json = session.pending json) :
    next.Linked json := by
  constructor
  · rw [streams, welcomed]
    exact linked.registered
  · rw [welcomed, opened]
    exact linked.welcomed
  · intro stays
    obtain ⟨running, awaited⟩ := client stays
    rw [opened, streams, awaited]
    exact linked.opening running
  · rw [opened, welcomed]
    rcases pending with none | same
    · exact .inl none
    · rw [same]
      exact linked.pending

/-- With nothing left to answer, every connection has been welcomed. -/
private theorem Linked.all_welcomed (linked : session.Linked json)
    (running : session.client.alive = true) (settled : session.client.pc.awaited = none) :
    session.server.welcomed = session.opened ∧ session.pending json = [] := by
  have opened := linked.opening running
  rw [settled, Option.toList_none, List.append_nil] at opened
  have same : session.server.welcomed = session.opened := by
    apply linked.welcomed.eq_of_length_le
    rw [opened]
    exact linked.registered.length_le
  constructor
  · exact same
  · rcases linked.pending with none | ⟨stream, -, longer⟩
    · exact none
    · rw [← same] at longer
      simp at longer

private theorem Linked.connect (linked : session.Linked json) {client : Controller}
    (step : session.client.controllerStep (.connect (.ok ⟨session.nextId⟩)) = some client) :
    Linked json { session with
      client
      backlog := session.backlog ++ [session.hello json ⟨session.nextId⟩]
      nextId := session.nextId + 1
      opened := session.opened ++ [⟨session.nextId⟩] } := by
  obtain ⟨total, pc, result⟩ := Client.connect_eq step
  have running : session.client.alive = true := by simp [Controller.alive, pc]
  have settled : session.client.pc.awaited = none := by rw [pc]; rfl
  obtain ⟨all, none⟩ := linked.all_welcomed running settled
  have opened := linked.opening running
  rw [settled, Option.toList_none, List.append_nil] at opened
  subst result
  constructor
  · exact linked.registered
  · exact linked.welcomed.trans (List.prefix_append _ _)
  · intro _
    exact congrArg (· ++ [_]) opened
  · unfold Session.pending at none ⊢
    rw [List.filter_append, List.map_append, ← List.append_assoc, none, List.nil_append]
    by_cases presents : (session.hello json ⟨session.nextId⟩).presents json
        session.server.test.perf.cookie = true
    · right
      rw [List.filter_singleton, presents]
      exact ⟨⟨session.nextId⟩, rfl, by rw [all]⟩
    · left
      rw [List.filter_singleton, Bool.not_eq_true _ |>.mp presents]
      rfl

private theorem Linked.reply (linked : session.Linked json) (numbered : session.Numbered json)
    {client : Controller} (welcomed : session.isWelcomed = true)
    (step : session.client.controllerStep (.reply (.ok .welcome)) = some client) :
    Linked json { session with client } := by
  obtain ⟨total, stream, pc, outcome⟩ := Client.reply_cases step
  have running : session.client.alive = true := by simp [Controller.alive, pc]
  have opened := linked.opening running
  rw [pc] at opened
  have answered : stream ∈ session.server.welcomed := by
    simp only [isWelcomed, pc, decide_eq_true_eq] at welcomed
    exact List.mem_filterMap.mpr ⟨_, welcomed, rfl⟩
  have distinct := numbered.distinct
  rw [opened] at distinct
  have new : stream ∉ session.clientStreams := fun streamMem =>
    (List.nodup_append.mp distinct).2.2 stream streamMem stream (List.mem_singleton_self _) rfl
  -- Only the last connection can be the one that was just welcomed.
  have all : session.server.welcomed = session.clientStreams ++ [stream] := by
    rcases List.prefix_concat_iff.mp (opened ▸ linked.welcomed) with same | shorter
    · exact same
    · exact absurd (shorter.subset answered) new
  rcases outcome with ⟨streams, awaited⟩ | ⟨streams, gone⟩
  · constructor
    · change client.tasks.map Task.stream <+: session.server.welcomed
      rw [streams, all]
      exact List.prefix_refl _
    · exact linked.welcomed
    · intro _
      change session.opened = client.tasks.map Task.stream ++ client.pc.awaited.toList
      rw [streams, awaited, Option.toList_none, List.append_nil]
      exact opened
    · exact linked.pending
  · apply linked.keep { session with client } streams _ rfl rfl (.inr rfl)
    intro stays
    change client.alive = true at stays
    rw [gone] at stays
    cases stays

/-- The client moves without opening or registering a stream. -/
private theorem Linked.client (linked : session.Linked json) {client : Controller}
    {toClient : List ServerMessage} {toServer : List ClientMessage} (event : ClientEvent)
    (role : session.client.perf.role = .client)
    (step : Client.step session.client event = some client)
    (noConnect : ∀ stream, event ≠ .controller (.connect (.ok stream)))
    (noReply : ∀ message, event ≠ .controller (.reply (.ok message))) :
    Linked json { session with client, toClient, toServer } := by
  obtain ⟨streams, opening⟩ := Client.streams_of_step role step noConnect noReply
  exact linked.keep _ streams opening rfl rfl (.inr rfl)

private theorem eq_or_eq_nil_of_sublist {α : Type} {first second rest : List α} {last : α}
    (sublist : first.Sublist second) (single : second ++ rest = [last]) :
    first ++ rest = [] ∨ first ++ rest = [last] := by
  have short := sublist.append_right rest
  rw [single] at short
  rcases List.sublist_singleton.mp short with none | all
  · exact .inl none
  · exact .inr all

/-- The server answers the connection at hand, or gives it up. -/
private theorem Linked.server (linked : session.Linked json) {server : Server}
    {toClient : List ServerMessage} {toServer : List ClientMessage} {event : ServerEvent}
    (phased : session.server.Phased)
    (step : session.server.step json event = some server)
    (noAccept : ∀ inbound, event ≠ .accept inbound) :
    Linked json { session with server, toClient, toServer } := by
  have perf := Server.perf_of_step step
  have grows := (Server.considers_of_step phased step).welcomed_grows
  cases Server.considers_of_step phased step with
  | takes inbound next free accept welcomed => exact absurd rfl (noAccept inbound)
  | drops event next candidate welcomed =>
      constructor
      · exact linked.registered.trans grows
      · exact (show server.welcomed = _ from welcomed) ▸ linked.welcomed
      · exact linked.opening
      · change Session.pending json _ = [] ∨ ∃ stream, Session.pending json _ = [stream] ∧
          session.opened = server.welcomed ++ [stream]
        simp only [Session.pending, perf, welcomed]
        rcases linked.pending with none | ⟨stream, single, opened⟩
        · left
          rw [Session.pending, List.append_eq_nil_iff] at none
          rw [none.2, List.append_nil]
          exact List.sublist_nil.mp (none.1 ▸ candidate)
        · rcases eq_or_eq_nil_of_sublist candidate single with none | same
          · exact .inl none
          · exact .inr ⟨stream, same, opened⟩
  | welcomes event next stream candidate done welcomed =>
      have last : session.opened = server.welcomed ∧ session.pending json = [stream] := by
        rcases linked.pending with none | ⟨other, single, opened⟩
        · simp [Session.pending, candidate] at none
        · have same := single
          simp only [Session.pending, candidate, List.cons_append, List.nil_append,
            List.cons.injEq] at same
          rw [welcomed, same.1]
          exact ⟨opened, single⟩
      constructor
      · exact linked.registered.trans grows
      · exact last.1 ▸ List.prefix_refl _
      · exact linked.opening
      · left
        have none := last.2
        simp only [Session.pending, candidate, List.cons_append, List.nil_append,
          List.cons.injEq, true_and] at none
        change Session.pending json _ = []
        simp only [Session.pending, perf, done, none, List.append_nil]

/-- The listener yields a connection. -/
private theorem Linked.accept (linked : session.Linked json) {index : Nat}
    {inbound : Inbound} {server : Server}
    (waiting : session.backlog[index]? = some inbound)
    (step : session.server.step json (.accept inbound) = some server) :
    Linked json { session with server, backlog := session.backlog.eraseIdx index } := by
  have perf := Server.perf_of_step step
  have moved : session.server.accept = .idle ∧ server.accept = .upgraded inbound ∧
      server.welcomed = session.server.welcomed := by
    cases Server.move_of_step step with
    | accept event next move =>
        cases move with
        | accept inbound pc alive => exact ⟨pc, rfl, rfl⟩
  obtain ⟨free, taken, welcomed⟩ := moved
  obtain ⟨within, here⟩ := List.getElem?_eq_some_iff.mp waiting
  have perm : (Session.pending json { session with
      server, backlog := session.backlog.eraseIdx index }).Perm (session.pending json) := by
    unfold Session.pending
    rw [free, taken, perf]
    have whole := List.getElem_cons_eraseIdx_perm within
    rw [here] at whole
    have kept := (whole.filter (Inbound.presents json session.server.test.perf.cookie)).map
      Inbound.stream
    by_cases presents : inbound.presents json session.server.test.perf.cookie = true
    · simpa [AcceptPc.candidate, presents] using kept
    · simpa [AcceptPc.candidate, presents] using kept
  constructor
  · exact (show server.welcomed = _ from welcomed) ▸ linked.registered
  · exact (show server.welcomed = _ from welcomed) ▸ linked.welcomed
  · exact linked.opening
  · rcases linked.pending with none | ⟨stream, single, opened⟩
    · rw [none] at perm
      exact .inl perm.eq_nil
    · rw [single] at perm
      refine .inr ⟨stream, List.perm_singleton.mp perm, ?_⟩
      change session.opened = server.welcomed ++ [stream]
      rw [welcomed]
      exact opened

theorem Linked.step (linked : session.Linked json) (numbered : session.Numbered json)
    (phased : session.server.Phased) (role : session.client.perf.role = .client)
    (honest : event.Honest json session.server.test.perf.cookie)
    (step : session.step json event = some next) : next.Linked json := by
  cases move_of_step step with
  | connect client moved => exact linked.connect moved
  | reply client welcomed moved => exact linked.reply numbered welcomed moved
  | read message toClient client head moved =>
      exact linked.client (.controller (.clientRead (.ok message))) role moved (by simp) (by simp)
  | client event client toServer moved noConnect noReply =>
      exact linked.client event role moved noConnect noReply
  | server event server toClient toServer moved noAccept =>
      exact linked.server phased moved noAccept
  | accept index inbound server waiting moved => exact linked.accept waiting moved
  | stranger peer =>
      apply linked.keep { session with
        backlog := session.backlog ++ [⟨⟨session.nextId⟩, peer⟩]
        nextId := session.nextId + 1 } rfl (fun stays => ⟨stays, rfl⟩) rfl rfl
      right
      have foreign : Inbound.presents json session.server.test.perf.cookie
          ⟨⟨session.nextId⟩, peer⟩ = false := by
        rw [← Bool.not_eq_true, Inbound.presents_iff]
        exact honest
      simp only [Session.pending, List.filter_append, List.filter_singleton, foreign]
      simp

theorem linked_of_run {clientBuild serverBuild : Build} {cookie : String}
    {params : Parameters} {events : List SessionEvent}
    (finished : run (Session.step json) (new clientBuild serverBuild cookie params) events =
      some session)
    (honest : ∀ event ∈ events, event.Honest json cookie) : session.Linked json := by
  have guarded : Guarded (Session.step json) (fun _ event => event.Honest json cookie)
      (new clientBuild serverBuild cookie params) events :=
    guarded_of_forall (fun event eventMem _ => honest event eventMem) _
  have both : Reachable (Session.step json) (new clientBuild serverBuild cookie params) session ∧
      session.Linked json := by
    apply run_invariant (fun session => Reachable (Session.step json)
      (new clientBuild serverBuild cookie params) session ∧ session.Linked json) _
      ⟨.refl _ _, new_linked json clientBuild serverBuild cookie params⟩ guarded finished
    rintro source event target ⟨reachable, linked⟩ honest step
    have atServer := server_reachable reachable
    constructor
    · exact reachable.tail step
    · apply linked.step (numbered_of_reachable reachable)
        (Server.sound_of_reachable rfl atServer).phased
        (Client.opening_of_reachable (client_reachable reachable)).role _ step
      rw [Server.perf_of_reachable atServer]
      exact honest
  exact both.2

/-! ## Positions and directions -/

theorem getElem?_of_prefix {α : Type} {first second : List α} (earlier : first <+: second)
    {index : Nat} {value : α} (found : first[index]? = some value) :
    second[index]? = some value := by
  obtain ⟨rest, rfl⟩ := earlier
  rw [List.getElem?_append_left (List.getElem?_eq_some_iff.mp found).1]
  exact found

/-- On a stream of the test one side sends and the other receives. -/
theorem sendsOn_opposite (cookie : String) {params : Parameters} {id : Nat}
    (within : id < params.totalStreams) :
    (Perf.newWithStatsReceiver cookie .client params).sendsOn id =
      !(Perf.newWithStatsReceiver cookie .server params).sendsOn id := by
  cases direction : params.direction with
  | clientToServer | serverToClient =>
      simp only [Parameters.totalStreams, direction] at within
      simp [Perf.sendsOn, Perf.newWithStatsReceiver, Perf.streamCounts, direction, within]
  | bidirectional =>
      simp [Perf.sendsOn, Perf.newWithStatsReceiver, Perf.streamCounts, direction]

/-- A connection that is registered at both ends has the same id at both ends, and
one of its two workers sends. -/
theorem both_ends_agree (json : Json) (clientBuild serverBuild : Build) (cookie : String)
    (params : Parameters) {events : List SessionEvent} {session : Session}
    (finished : run (Session.step json) (new clientBuild serverBuild cookie params) events =
      some session)
    (honest : ∀ event ∈ events, event.Honest json cookie)
    (kept : ∀ stream, .createStream stream ∉ session.server.test.lost) :
    (∀ clientTask ∈ session.client.tasks, ∀ serverTask ∈ session.server.test.tasks,
      clientTask.stream = serverTask.stream →
        clientTask.worker.id = serverTask.worker.id ∧
        clientTask.worker.isSending = !serverTask.worker.isSending) ∧
    session.client.perf.numSendStreams = session.server.test.perf.numReceiveStreams ∧
    session.client.perf.numReceiveStreams = session.server.test.perf.numSendStreams := by
  have reachable : Reachable (Session.step json)
      (new clientBuild serverBuild cookie params) session := ⟨events, finished⟩
  have atClient := client_reachable reachable
  have atServer := server_reachable reachable
  have opening := Client.opening_of_reachable atClient
  have clientPerf := Client.perf_of_reachable atClient
  have serverPerf := Server.perf_of_reachable atServer
  constructor
  · intro clientTask clientMem serverTask serverMem same
    obtain ⟨index, clientFound⟩ := List.getElem?_of_mem clientMem
    obtain ⟨position, serverFound⟩ := List.getElem?_of_mem serverMem
    have linked := linked_of_run finished honest
    have numbered := numbered_of_reachable reachable
    have enrolled := (Server.admitted_of_reachable rfl atServer).enrolled.enrolled
    have inTurn := Server.inTurn_of_reachable rfl atServer kept
    -- Both sides have registered a first part of what the client has opened.
    have here : session.opened[index]? = some clientTask.stream := by
      apply getElem?_of_prefix (linked.registered.trans linked.welcomed)
      rw [clientStreams, List.getElem?_map, clientFound]
      rfl
    have there : session.opened[position]? = some serverTask.stream := by
      apply getElem?_of_prefix (enrolled.trans (inTurn.trans linked.welcomed))
      rw [List.getElem?_map, serverFound]
      rfl
    have aligned : index = position := by
      apply (List.getElem?_inj (List.getElem?_eq_some_iff.mp here).1 numbered.distinct).mp
      rw [here, there, same]
    subst aligned
    obtain ⟨clientId, clientSends⟩ := opening.registered.identity index clientTask clientFound
    obtain ⟨serverId, serverSends⟩ :=
      (Server.sound_of_reachable rfl atServer).registered.identity index serverTask serverFound
    have within : clientTask.worker.id < params.totalStreams := by
      have bound := opening.bound
      rw [clientPerf] at bound
      have few := bound.trans (Perf.neededStreams_le _)
      rw [Client.new, Controller.new, Perf.totalStreams_newWithStatsReceiver] at few
      rw [clientId]
      exact (Nat.mod_le _ _).trans_lt ((List.getElem?_eq_some_iff.mp clientFound).1.trans_le few)
    have ids : clientTask.worker.id = serverTask.worker.id := clientId.trans serverId.symm
    constructor
    · exact ids
    · rw [clientSends, serverSends, ← ids, clientPerf, serverPerf]
      exact sendsOn_opposite cookie within
  · rw [clientPerf, serverPerf]
    exact Perf.newWithStatsReceiver_mirror cookie params

/-- Both streams of a bidirectional test with one stream each way. -/
theorem both_ends_agree_two :
    ∃ session : Session,
      session.client.tasks.map Task.stream = [⟨0⟩, ⟨1⟩] ∧
      session.server.test.tasks.map Task.stream = [⟨0⟩, ⟨1⟩] ∧
      ∀ clientTask ∈ session.client.tasks, ∀ serverTask ∈ session.server.test.tasks,
        clientTask.stream = serverTask.stream →
          clientTask.worker.id = serverTask.worker.id ∧
          clientTask.worker.isSending = !serverTask.worker.isSending := by
  let events := Server.opening.map .server ++ (Client.joining "c").map .client ++
    connection 0 ++ Server.turn.map .server ++ connection 1
  let reached := run (Session.step (.ofCookie "c")) (sample { bidir := true }) events
  let session := reached.get rfl
  have finished : reached = some session := rfl
  have honest : ∀ event ∈ events, event.Honest (.ofCookie "c") "c" := by
    simp [events, connection, Server.opening, Server.announcement, Server.turn, Client.joining,
      SessionEvent.Honest]
  have agree := both_ends_agree (.ofCookie "c") ⟨true, true⟩ ⟨true, true⟩ "c"
    (.fromOpts { bidir := true }) finished honest (fun _ => List.not_mem_nil)
  exact ⟨session, rfl, rfl, agree.1⟩

end Session

end Iperf
