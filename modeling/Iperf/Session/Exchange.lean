import Iperf.Client.Streams
import Iperf.Server.LifeCycle
import Iperf.Session.Trade

/-!
# The exchange of the results between the two sides

`ExchangeResults` is the last state a server announces, and the map of the server
the only thing that follows it.  So what each side reads once it is there is the
map of the other.
-/

namespace Iperf

open Channel Transition

namespace Session

variable {json : Json} {log : Log} {session next : Session} {event : SessionEvent}

/-- The client has been told to exchange the results. -/
def Nearing (client : Controller) : Prop :=
  client.state = .exchangeResults ∨ client.pc = .storing .exchangeResults

/-- What has been read of the control connection, together with what is on its way, is
what has been written to it. -/
structure Relayed (log : Log) (session : Session) : Prop where
  role : session.client.perf.role = .client
  silent : ∀ target, session.client.pc ≠ .announcing target
  client : session.client.Traded log.clientTaken
  server : session.server.test.Traded log.serverTaken
  announces : session.server.test.Announces
  toServer : log.serverTaken.map .sendResults ++ session.toServer =
    session.client.resultsSent.map ClientMessage.sendResults
  before : ¬Nearing session.client → ∃ seen : List State,
    seen.map .setState ++ session.toClient = said session.server.test ∧
      .exchangeResults ∉ seen
  during : Nearing session.client → .exchangeResults ∈ session.server.test.announced ∧
    log.clientTaken.map .sendResults ++ session.toClient =
      session.server.test.resultsSent.map ServerMessage.sendResults

variable {clientBuild serverBuild : Build} {cookie : String} {params : Parameters}

theorem new_relayed :
    Relayed .empty (new clientBuild serverBuild cookie params) where
  role := rfl
  silent := by
    rintro target ⟨⟩
  client := Controller.new_traded _ _
  server := Controller.new_traded _ _
  announces := Controller.new_announces _ rfl
  toServer := rfl
  before := fun _ => ⟨[], rfl, List.not_mem_nil⟩
  during := by
    rintro (⟨⟨⟩⟩ | ⟨⟨⟩⟩)

/-- A client is told once. -/
theorem nearing_of_step {event : ControllerEvent} {client after : Controller}
    {taken : List Results} (role : client.perf.role = .client)
    (silent : ∀ target, client.pc ≠ .announcing target) (traded : client.Traded taken)
    (step : client.controllerStep event = some after) :
    Nearing after ↔
      Nearing client ∨ event = .clientRead (.ok (.setState .exchangeResults)) := by
  have move := Controller.move_of_controllerStep step
  constructor
  · rintro (state | storing)
    · rcases move.state with same | ⟨target, storing, -, stored, -⟩
      · exact .inl (.inl (same.symm.trans state))
      · rw [state] at stored
        rw [← stored] at storing
        exact .inl (.inr storing)
    · exact .inr (Controller.storing_of_step role silent step storing (by simp))
  · rintro ((state | storing) | told)
    · left
      rcases move.state with same | ⟨target, storing, -⟩
      · exact same.trans state
      · have stage := traded.stage state
        rw [Controller.Stage, storing] at stage
        exact stage.elim
    · exact .inl (move.of_storing storing)
    · subst told
      simp only [Controller.controllerStep, role, if_true] at step
      split at step
      · rename_i message pc told
        cases told
        cases step
        right
        simp only [Controller.processServerMessage, Controller.setState, role,
          Controller.setStatePc]
      · rename_i told
        cases told
      · rename_i pc told
        cases step
        left
        exact traded.state_of_trading (.inr pc)
      · rename_i told
        cases told
      · rename_i told
        cases told
      · cases step

theorem nearing_iff_of_aside {client after : Controller} (aside : client.Aside after) :
    Nearing after ↔ Nearing client := by
  rw [Nearing, aside.state, aside.pc, Nearing]

theorem said_of_aside {test after : Controller} (aside : test.Aside after) :
    said after = said test := by
  rw [said, aside.announced, aside.sent, said]

/-- A step that moves nothing over the connection. -/
theorem Relayed.rests (relayed : Relayed log session) (client : session.client.Rests next.client)
    (server : session.server.test.Rests next.server.test)
    (toClient : next.toClient = session.toClient)
    (toServer : next.toServer = session.toServer) : Relayed log next := by
  have clientAside := client.aside
  have serverAside := server.aside
  constructor
  · rw [clientAside.perf]
    exact relayed.role
  · rw [clientAside.pc]
    exact relayed.silent
  · exact relayed.client.aside clientAside
  · exact relayed.server.aside serverAside
  · exact relayed.announces.aside serverAside
  · rw [toServer, clientAside.sent]
    exact relayed.toServer
  · rw [nearing_iff_of_aside clientAside, toClient, said_of_aside serverAside]
    exact relayed.before
  · rw [nearing_iff_of_aside clientAside, toClient, serverAside.announced, serverAside.sent]
    exact relayed.during

/-- The server has sent its map only after the last announcement. -/
theorem Relayed.unsent (relayed : Relayed log session)
    (unannounced : .exchangeResults ∉ session.server.test.announced) :
    session.server.test.resultsSent = [] := by
  apply And.left
  apply relayed.server.unsent
  intro state
  exact unannounced (relayed.announces.reached.mpr (.inl state))

/-- What a client that has not been told to exchange has still to read. -/
theorem Relayed.unheard (relayed : Relayed log session) (early : ¬Nearing session.client) :
    ∃ seen left : List State, session.server.test.announced = seen ++ left ∧
      .exchangeResults ∉ seen ∧
      session.toClient = left.map .setState ++
        session.server.test.resultsSent.map .sendResults := by
  rcases relayed.before early with ⟨seen, whole, unseen⟩
  rcases List.append_eq_append_iff.mp whole with ⟨left, announced, control⟩ | ⟨beyond, all, sent⟩
  · rcases List.map_eq_append_iff.mp announced with ⟨first, rest, split, same, tail⟩
    have told : first = seen := by
      apply List.map_injective_iff.mpr _ same
      intro one other equal
      cases equal
      rfl
    rw [← tail] at control
    exact ⟨seen, rest, told ▸ split, unseen, control⟩
  · rcases List.map_eq_append_iff.mp all with ⟨first, rest, split, same, tail⟩
    have told : first = session.server.test.announced := by
      apply List.map_injective_iff.mpr _ same
      intro one other equal
      cases equal
      rfl
    have unannounced : .exchangeResults ∉ session.server.test.announced := by
      intro announced
      rw [split, told] at unseen
      exact unseen (List.mem_append_left _ announced)
    have unsent := relayed.unsent unannounced
    rw [unsent, List.map_nil, List.nil_eq, List.append_eq_nil_iff] at sent
    refine ⟨session.server.test.announced, [], (List.append_nil _).symm, unannounced, ?_⟩
    rw [sent.2, unsent]
    rfl

/-- If there is something to read for it, a state comes first. -/
theorem Relayed.unheard_cons (relayed : Relayed log session) (early : ¬Nearing session.client)
    {message : ServerMessage} {toClient : List ServerMessage}
    (head : session.toClient = message :: toClient) :
    ∃ (seen : List State) (state : State) (rest : List State),
      session.server.test.announced = seen ++ state :: rest ∧ .exchangeResults ∉ seen ∧
        message = .setState state ∧
        toClient = rest.map .setState ++ session.server.test.resultsSent.map .sendResults := by
  rcases relayed.unheard early with ⟨seen, left, announced, unseen, control⟩
  rw [head] at control
  cases left with
  | nil =>
      rw [List.append_nil] at announced
      rw [relayed.unsent (announced ▸ unseen)] at control
      cases control
  | cons state rest =>
      rw [List.map_cons, List.cons_append, List.cons.injEq] at control
      exact ⟨seen, state, rest, announced, unseen, control⟩

/-- The client only reads results where it awaits them. -/
theorem Relayed.clientReads (relayed : Relayed log session) {message : ServerMessage}
    {toClient : List ServerMessage} (head : session.toClient = message :: toClient)
    (step : session.client.controllerStep (.clientRead (.ok message)) = some next.client) :
    (session.client.pc = .selecting ∧ ¬Nearing session.client ∧
      ∃ state, message = .setState state) ∨
    (session.client.pc = .readingResults ∧ Nearing session.client ∧
      ∃ results, message = .sendResults results) := by
  by_cases reading : session.client.pc = .readingResults
  · right
    have near : Nearing session.client :=
      .inl (relayed.client.state_of_trading (.inr reading))
    have whole := (relayed.during near).2
    rw [head] at whole
    have sent : message ∈ session.server.test.resultsSent.map ServerMessage.sendResults := by
      rw [← whole]
      exact List.mem_append_right _ List.mem_cons_self
    rcases List.mem_map.mp sent with ⟨results, -, same⟩
    exact ⟨reading, near, results, same.symm⟩
  · left
    have pc : session.client.pc = .selecting := by
      simp only [Controller.controllerStep, relayed.role, if_true] at step
      split at step
      · rename_i pc _
        exact pc
      · rename_i pc _
        exact absurd pc reading
      · rename_i pc _
        exact absurd pc reading
      · rename_i failed
        cases failed
      · rename_i failed
        cases failed
      · cases step
    have early : ¬Nearing session.client := by
      rintro (state | storing)
      · have stage := relayed.client.stage state
        rw [Controller.Stage, pc] at stage
        exact stage
      · rw [pc] at storing
        cases storing
    rcases relayed.unheard_cons early head with ⟨_, state, _, _, _, first, _⟩
    exact ⟨pc, early, state, first⟩

theorem takes_of_event (controller : Controller) {event : ControllerEvent}
    (noClient : ∀ message, event ≠ .clientRead (.ok message))
    (noServer : ∀ message, event ≠ .serverRead (.ok message)) :
    controller.takes event = [] ∧ ¬event.Strays := by
  cases event with
  | clientRead outcome =>
      cases outcome with
      | ok message => exact absurd rfl (noClient message)
      | error error => exact ⟨rfl, not_false⟩
  | serverRead outcome =>
      cases outcome with
      | ok message => exact absurd rfl (noServer message)
      | error error => exact ⟨rfl, not_false⟩
  | _ => exact ⟨rfl, not_false⟩

/-- Either side reads with its own kind of read. -/
theorem ownRead_of_step {event : ControllerEvent} {controller after : Controller}
    (step : controller.controllerStep event = some after) :
    (controller.perf.role = .client → ∀ message, event ≠ .serverRead (.ok message)) ∧
      (controller.perf.role = .server → ∀ message, event ≠ .clientRead (.ok message)) := by
  constructor
  · rintro role message rfl
    simp [Controller.controllerStep, role] at step
  · rintro role message rfl
    simp [Controller.controllerStep, role] at step

private theorem Relayed.clientStep (relayed : Relayed log session) {event : ControllerEvent}
    (steady : ¬event.Breaks)
    (moved : session.client.controllerStep event = some next.client)
    (noRead : ∀ message, event ≠ .clientRead (.ok message))
    (server : next.server = session.server) (toClient : next.toClient = session.toClient)
    (toServer : next.toServer = session.toServer ++ clientWrites session.client event) :
    Relayed (log.note session (.client (.controller event))) next := by
  have move := Controller.move_of_controllerStep moved
  rcases takes_of_event session.client noRead ((ownRead_of_step moved).1 relayed.role) with
    ⟨silent, meant⟩
  have near := nearing_of_step relayed.role relayed.silent relayed.client moved
  have same : Nearing next.client ↔ Nearing session.client := by
    rw [near]
    constructor
    · rintro (before | told)
      · exact before
      · exact absurd told (noRead _)
    · exact .inl
  constructor
  · rw [move.perf]
    exact relayed.role
  · exact move.silent relayed.role
  · exact relayed.client.move (Controller.resultMove_of_step moved) steady fun _ => meant
  · rw [server]
    exact relayed.server
  · rw [server]
    exact relayed.announces
  · rw [toServer, sent_of_step relayed.role relayed.client relayed.silent moved,
      ← relayed.toServer, List.append_assoc]
    rfl
  · rw [same, toClient, server]
    exact relayed.before
  · rw [same, toClient, server]
    simp only [Log.note, silent, List.append_nil]
    exact relayed.during

private theorem Relayed.clientRead (relayed : Relayed log session) {message : ServerMessage}
    (moved : session.client.controllerStep (.clientRead (.ok message)) = some next.client)
    (server : next.server = session.server)
    (toClient : session.toClient = message :: next.toClient)
    (toServer : next.toServer = session.toServer) :
    Relayed (log.note session (.client (.controller (.clientRead (.ok message))))) next := by
  have reads := relayed.clientReads toClient moved
  have move := Controller.move_of_controllerStep moved
  have near := nearing_of_step relayed.role relayed.silent relayed.client moved
  have quiet := quiet_of_event moved (by simp)
  constructor
  · rw [move.perf]
    exact relayed.role
  · exact move.silent relayed.role
  · apply relayed.client.move (Controller.resultMove_of_step moved) not_false
    intro reading strays
    rcases reads with ⟨selecting, -⟩ | ⟨-, -, results, sent⟩
    · rw [reading] at selecting
      cases selecting
    · exact strays results sent
  · rw [server]
    exact relayed.server
  · rw [server]
    exact relayed.announces
  · rw [toServer, quiet.2]
    exact relayed.toServer
  · intro early
    rw [near, not_or] at early
    rcases reads with ⟨pc, -, state, told⟩ | ⟨-, already, -⟩
    · subst told
      rcases relayed.before early.1 with ⟨seen, whole, unseen⟩
      refine ⟨seen ++ [state], ?_, ?_⟩
      · rw [server, ← whole, toClient, List.map_append, List.append_assoc]
        rfl
      · rw [List.mem_append, List.mem_singleton, not_or]
        constructor
        · exact unseen
        · rintro rfl
          exact early.2 rfl
    · exact absurd already early.1
  · intro nearing
    rw [server]
    rcases reads with ⟨pc, before, state, told⟩ | ⟨reading, already, results, sent⟩
    · subst told
      rw [near] at nearing
      rcases nearing with already | told
      · exact absurd already before
      · cases told
        rcases relayed.unheard_cons before toClient with
          ⟨seen, state, rest, announced, unseen, first, control⟩
        cases first
        have none : log.clientTaken = [] := by
          apply And.right
          apply relayed.client.unsent
          intro state
          exact before (.inl state)
        have last := relayed.announces.nothing_after announced
        rw [last] at announced control
        constructor
        · rw [announced]
          exact List.mem_append_right _ (List.mem_singleton_self _)
        · simp only [Log.note, none]
          exact control
    · subst sent
      rcases relayed.during already with ⟨announced, whole⟩
      constructor
      · exact announced
      · rw [← whole, toClient]
        simp only [Log.note, Controller.takes, reading, if_true, List.map_append,
          List.append_assoc, List.map_cons, List.map_nil, List.singleton_append]

private theorem Relayed.serverStep (relayed : Relayed log session) {event : ControllerEvent}
    (steady : ¬event.Breaks)
    (moved : session.server.test.controllerStep event = some next.server.test)
    (noRead : ∀ message, event ≠ .serverRead (.ok message))
    (client : next.client = session.client)
    (toClient : next.toClient = session.toClient ++ serverWrites session.server.test event)
    (toServer : next.toServer = session.toServer) :
    Relayed (log.note session (.server (.controller event))) next := by
  have move := Controller.move_of_controllerStep moved
  rcases takes_of_event session.server.test
    ((ownRead_of_step moved).2 relayed.announces.role) noRead with ⟨silent, meant⟩
  have said := said_of_step relayed.announces.role relayed.server moved
  constructor
  · rw [client]
    exact relayed.role
  · rw [client]
    exact relayed.silent
  · rw [client]
    exact relayed.client
  · exact relayed.server.move (Controller.resultMove_of_step moved) steady fun _ => meant
  · exact relayed.announces.move relayed.server move
  · rw [toServer, client]
    simp only [Log.note, silent, List.append_nil]
    exact relayed.toServer
  · rw [client, toClient]
    intro early
    rcases relayed.before early with ⟨seen, whole, unseen⟩
    refine ⟨seen, ?_, unseen⟩
    rw [said, ← whole, List.append_assoc]
  · rw [client, toClient]
    intro nearing
    rcases relayed.during nearing with ⟨announced, whole⟩
    have same : next.server.test.announced = session.server.test.announced := by
      rcases move.announced with same | ⟨target, pc, -⟩
      · exact same
      · exact absurd announced (relayed.announces.unannounced relayed.server pc)
    rw [Session.said, Session.said, same, List.append_assoc, List.append_cancel_left_eq] at said
    constructor
    · rw [same]
      exact announced
    · rw [said, ← whole, List.append_assoc]
      rfl

private theorem Relayed.serverRead (relayed : Relayed log session) {message : ClientMessage}
    (moved : session.server.test.controllerStep (.serverRead (.ok message)) =
      some next.server.test)
    (client : next.client = session.client) (toClient : next.toClient = session.toClient)
    (toServer : session.toServer = message :: next.toServer) :
    Relayed (log.note session (.server (.controller (.serverRead (.ok message))))) next := by
  have move := Controller.move_of_controllerStep moved
  have quiet := quiet_of_event moved (by simp)
  have sent : ∃ results, message = .sendResults results := by
    have whole := relayed.toServer
    rw [toServer] at whole
    have sent : message ∈ session.client.resultsSent.map ClientMessage.sendResults := by
      rw [← whole]
      exact List.mem_append_right _ List.mem_cons_self
    rcases List.mem_map.mp sent with ⟨results, -, same⟩
    exact ⟨results, same.symm⟩
  have reading : session.server.test.pc = .readingResults := by
    simp only [Controller.controllerStep, relayed.announces.role, if_true] at moved
    split at moved
    · rename_i pc _
      exact pc
    · rename_i pc _
      exact pc
    · rename_i failed
      cases failed
    · cases moved
  have said : said next.server.test = said session.server.test := by
    rw [Session.said, quiet.1, quiet.2, Session.said]
  rcases sent with ⟨results, rfl⟩
  constructor
  · rw [client]
    exact relayed.role
  · rw [client]
    exact relayed.silent
  · rw [client]
    exact relayed.client
  · apply relayed.server.move (Controller.resultMove_of_step moved) not_false
    exact fun _ strays => strays results rfl
  · exact relayed.announces.move relayed.server move
  · rw [client, ← relayed.toServer, toServer]
    simp only [Log.note, Controller.takes, reading, if_true, List.map_append,
      List.append_assoc, List.map_cons, List.map_nil, List.singleton_append]
  · rw [client, toClient, said]
    exact relayed.before
  · rw [client, toClient, quiet.1, quiet.2]
    exact relayed.during

theorem Relayed.step (relayed : Relayed log session) (steady : session.Steady event)
    (step : session.step json event = some next) : Relayed (log.note session event) next := by
  cases trade_of_step step with
  | client event next moved noRead server toClient toServer =>
      exact relayed.clientStep steady moved noRead server toClient toServer
  | clientReads message next moved server toClient toServer =>
      exact relayed.clientRead moved server toClient toServer
  | server event next moved noRead client toClient toServer =>
      exact relayed.serverStep steady moved noRead client toClient toServer
  | serverReads message next moved client toClient toServer =>
      exact relayed.serverRead moved client toClient toServer
  | rest event next client server toClient toServer silent steady =>
      rw [silent]
      exact relayed.rests client server toClient toServer

/-! ## The whole exchange -/

/-- What holds of both sides and the connection between them, of a test whose stream
counter does not wrap. -/
structure Exchanging (log : Log) (session : Session) : Prop extends Relayed log session where
  opening : Client.Opening session.client
  unlocked : session.client.locked = false
  sound : session.server.Sound
  clientGathered : session.client.Gathered log.clientJoined
  serverGathered : session.server.test.tasks.length < UInt16.size →
    session.server.test.Gathered log.serverJoined

theorem new_exchanging :
    Exchanging .empty (new clientBuild serverBuild cookie params) where
  toRelayed := new_relayed
  opening := Client.new_opening _ _ _
  unlocked := rfl
  sound := Server.new_sound _ rfl
  clientGathered := Controller.new_gathered _ _
  serverGathered := fun _ => Controller.new_gathered _ _

theorem Exchanging.few (exchanging : Exchanging log session) :
    session.client.tasks.length < UInt16.size :=
  exchanging.opening.bound.trans_lt session.client.perf.neededStreams_lt

theorem Exchanging.step (exchanging : Exchanging log session) (steady : session.Steady event)
    (step : session.step json event = some next) :
    Exchanging (log.note session event) next where
  toRelayed := exchanging.toRelayed.step steady step
  opening := by
    rcases client_of_step step with same | ⟨event, moved⟩
    · rw [same]
      exact exchanging.opening
    · exact exchanging.opening.step moved
  unlocked := by
    rcases client_of_step step with same | ⟨event, moved⟩
    · rw [same]
      exact exchanging.unlocked
    · exact (Client.locked_of_step moved).trans exchanging.unlocked
  sound := by
    rcases server_of_step step with same | ⟨event, moved⟩
    · rw [same]
      exact exchanging.sound
    · exact exchanging.sound.step moved
  clientGathered := by
    have gathered := exchanging.clientGathered
    have registered := exchanging.opening.registered
    cases trade_of_step step with
    | client event next moved => exact gathered.step registered exchanging.few moved
    | clientReads message next moved => exact gathered.step registered exchanging.few moved
    | server event next moved noRead client =>
        rw [client]
        exact gathered
    | serverReads message next moved client =>
        rw [client]
        exact gathered
    | rest event next client server toClient toServer silent =>
        rw [silent]
        exact gathered.rests client
  serverGathered := by
    intro few
    have fewer : session.server.test.tasks.length < UInt16.size := by
      apply few.trans_le'
      rcases server_of_step step with same | ⟨event, moved⟩
      · rw [same]
      · exact Server.tasks_length_le moved
    have gathered := exchanging.serverGathered fewer
    have registered := exchanging.sound.registered
    cases trade_of_step step with
    | client event next moved noRead server =>
        rw [server]
        exact gathered
    | clientReads message next moved server =>
        rw [server]
        exact gathered
    | server event next moved => exact gathered.step registered fewer moved
    | serverReads message next moved => exact gathered.step registered fewer moved
    | rest event next client server toClient toServer silent =>
        rw [silent]
        exact gathered.rests server

/-- What one side of an exchange has got of its own streams, sent and read. -/
structure Exchanged (joined peerJoined : List (Nat × StreamStats)) (taken : List Results)
    (side peer : Controller) : Prop where
  apart : ∀ id ∈ side.streamResults, id ∉ side.workers
  below : side.alive = true → ∀ id, id ∈ side.workers ∨ id ∈ side.streamResults →
    id < side.streamIndex.toNat
  own : ∀ got ∈ joined, got.2.id = got.1 ∧ got.2.isPeer = false ∧
    (side.tasks[got.1]?).map Task.phase = some (.finished (.ok got.2))
  once : side.resultsSent.length ≤ 1
  sent : ∀ results ∈ side.resultsSent,
    results.entries.Perm (joined.map fun got => ⟨got.1, got.2⟩)
  read : taken <+: peer.resultsSent
  ended : side.state = .exchangeResults → ∀ ending, side.pc = .ended ending →
    side.resultsSent = [side.streamResults] ∧ taken = [peer.streamResults] ∧
      ∃ left, (side.forwarded ++ left).Perm (joined.map Prod.snd ++
          peerJoined.map fun got => { got.2 with isPeer := true }) ∧
        ((left = [] ∧ ending = .returned (.ok ())) ∨
          ending = .returned (.error .sendStreamStatsError))

/-- Where the stats have all been delivered, nothing is left to be forwarded. -/
theorem Exchanged.forwarded {joined peerJoined : List (Nat × StreamStats)}
    {taken : List Results} {side peer : Controller}
    (exchanged : Exchanged joined peerJoined taken side peer)
    (state : side.state = .exchangeResults) (pc : side.pc = .ended (.returned (.ok ()))) :
    side.forwarded.Perm (joined.map Prod.snd ++
      peerJoined.map fun got => { got.2 with isPeer := true }) := by
  rcases exchanged.ended state _ pc with ⟨-, -, left, forwarded, ⟨rfl, -⟩ | failed⟩
  · rw [List.append_nil] at forwarded
    exact forwarded
  · cases failed

private theorem exchanged_of_read {joined peerJoined : List (Nat × StreamStats)}
    {taken peerTaken : List Results} {side peer : Controller} (registered : side.Registered)
    (few : side.tasks.length < UInt16.size) (gathered : side.Gathered joined)
    (peerGathered : peer.Gathered peerJoined) (traded : side.Traded taken)
    (peerTraded : peer.Traded peerTaken) (read : taken <+: peer.resultsSent) :
    Exchanged joined peerJoined taken side peer where
  apart := fun id held => AList.lookup_eq_none.mp (gathered.collected.apart id held)
  below := by
    rintro running id (kept | held)
    · exact registered.lt_streamIndex few running kept
    · exact gathered.lt_streamIndex registered few running held
  own := by
    intro got gotMem
    rcases gathered.id_eq registered few gotMem with ⟨same, own⟩
    exact ⟨same, own, gathered.collected.ended got gotMem⟩
  once := by
    rcases traded.sent with none | one
    · rw [none]
      exact Nat.zero_le 1
    · rw [one, List.length_singleton]
  sent := by
    intro results resultsMem
    rcases traded.sent with none | one
    · rw [none] at resultsMem
      cases resultsMem
    · rw [one, List.mem_singleton] at resultsMem
      rw [resultsMem]
      exact gathered.collected.entries
  read := read
  ended := by
    intro state ending pc
    have stage := traded.stage state
    rw [Controller.Stage, pc] at stage
    rcases stage with ⟨left, ⟨sent, ⟨remote, took⟩, forwarded⟩, returned⟩
    have given : remote = peer.streamResults := by
      rw [took] at read
      rcases peerTraded.sent with none | one
      · rw [none, List.prefix_nil] at read
        cases read
      · rw [one] at read
        exact List.singleton_inj.mp (read.eq_of_length rfl)
    rw [given] at took
    rw [took, List.flatMap_singleton] at forwarded
    have own : side.summaries.Perm (joined.map Prod.snd) := by
      have entries := gathered.collected.entries.map Sigma.snd
      rw [List.map_map] at entries
      exact entries
    have others : (Controller.markPeer peer.streamResults).Perm
        (peerJoined.map fun got => { got.2 with isPeer := true }) := by
      have entries := peerGathered.collected.entries.map fun entry =>
        ({ entry.2 with isPeer := true } : StreamStats)
      rw [List.map_map] at entries
      exact entries
    exact ⟨sent, took, left, forwarded.trans (own.append others), returned⟩

/-- What the client has read is what the server has sent. -/
theorem Relayed.clientTaken (relayed : Relayed log session) :
    log.clientTaken <+: session.server.test.resultsSent := by
  by_cases near : Nearing session.client
  · apply (List.prefix_map_iff_of_injective (f := ServerMessage.sendResults) _).mp
    · exact ⟨_, (relayed.during near).2⟩
    · exact fun one other same => ServerMessage.sendResults.inj same
  · have none : log.clientTaken = [] := by
      apply And.right
      apply relayed.client.unsent
      exact fun state => near (.inl state)
    rw [none]
    exact List.nil_prefix

/-- What the server has read is what the client has sent. -/
theorem Relayed.serverTaken (relayed : Relayed log session) :
    log.serverTaken <+: session.client.resultsSent := by
  apply (List.prefix_map_iff_of_injective (f := ClientMessage.sendResults) _).mp
  · exact ⟨_, relayed.toServer⟩
  · exact fun one other same => ClientMessage.sendResults.inj same

theorem step_of_client {own : ControllerEvent} {client : Controller} (closes : own.Closes)
    (step : session.client.controllerStep own = some client) :
    ∃ next, session.step json (.client (.controller own)) = some next := by
  cases own with
  | connect outcome | reply outcome | clientRead outcome => exact closes.elim
  | _ => exact ⟨_, by simp only [Session.step, clientStep, step, Option.map_some]; rfl⟩

theorem step_of_server {own : ControllerEvent} {test : Controller} (closes : own.Closes)
    (step : session.server.test.controllerStep own = some test) :
    ∃ next, session.step json (.server (.controller own)) = some next := by
  cases own with
  | serverRead outcome => exact closes.elim
  | _ =>
      exact ⟨_, by
        simp only [Session.step, serverStep, Server.step, step, Option.map_some]; rfl⟩

theorem clientRead_step {message : ServerMessage} {toClient : List ServerMessage}
    (control : session.toClient = message :: toClient) :
    session.step json (.client (.controller (.clientRead (.ok message)))) =
      (session.client.controllerStep (.clientRead (.ok message))).map fun client =>
        { session with client, toClient } := by
  simp only [Session.step, clientStep, control, if_true]

theorem serverRead_step {message : ClientMessage} {toServer : List ClientMessage}
    (control : session.toServer = message :: toServer) :
    session.step json (.server (.controller (.serverRead (.ok message)))) =
      (session.server.step json (.controller (.serverRead (.ok message)))).map fun server =>
        { session with server, toServer } := by
  simp only [Session.step, serverStep, control, if_true]

/-- With `ExchangeResults` on both sides, somebody goes on until both have ended. -/
theorem Exchanging.goes_on (exchanging : Exchanging log session)
    (client : session.client.state = .exchangeResults)
    (server : session.server.test.state = .exchangeResults) :
    (session.client.alive = false ∧ session.server.test.alive = false) ∨
      ∃ own next, ¬own.Breaks ∧
        (session.step json (.client (.controller own)) = some next ∨
          session.step json (.server (.controller own)) = some next) := by
  have relayed := exchanging.toRelayed
  have unlocked : session.server.test.locked = false := by
    rw [exchanging.sound.phased.locked]
    cases holds : session.server.accept.holdsLock with
    | false => rfl
    | true =>
        have asking := exchanging.sound.phased.held holds
        rw [server] at asking
        cases asking
  have clientReads : ∀ results rest, session.client.pc = .readingResults →
      session.toClient = .sendResults results :: rest →
      ∃ next, session.step json
        (.client (.controller (.clientRead (.ok (.sendResults results))))) = some next := by
    intro results rest pc control
    rw [clientRead_step control]
    simp only [Controller.controllerStep, relayed.role, if_true, pc, Option.map_some]
    exact ⟨_, rfl⟩
  have serverReads : ∀ results rest, session.server.test.pc = .readingResults →
      session.toServer = .sendResults results :: rest →
      ∃ next, session.step json
        (.server (.controller (.serverRead (.ok (.sendResults results))))) = some next := by
    intro results rest pc control
    rw [serverRead_step control]
    simp only [Server.step, Controller.controllerStep, relayed.announces.role, if_true, pc,
      Option.map_some]
    exact ⟨_, rfl⟩
  have serverGoes : session.server.test.pc = .readingResults →
      session.client.resultsSent = [session.client.streamResults] →
      ∃ own next, ¬own.Breaks ∧
        (session.step json (.client (.controller own)) = some next ∨
          session.step json (.server (.controller own)) = some next) := by
    intro pc sent
    have toServer := relayed.toServer
    rw [relayed.server.untaken pc, sent] at toServer
    rcases serverReads _ _ pc toServer with ⟨next, moved⟩
    exact ⟨.serverRead (.ok (.sendResults session.client.streamResults)), next, not_false,
      .inr moved⟩
  rcases relayed.client.goes_on exchanging.opening.registered client exchanging.unlocked with
    clientEnded | clientWaits | ⟨own, after, closes, step⟩
  · have clientSent := relayed.client.sent_of_ended client clientEnded
    rcases relayed.server.goes_on exchanging.sound.registered server unlocked with
      serverEnded | serverWaits | ⟨own, after, closes, step⟩
    · exact .inl ⟨clientEnded, serverEnded⟩
    · exact .inr (serverGoes serverWaits clientSent)
    · rcases @step_of_server json session own after closes step with ⟨next, moved⟩
      exact .inr ⟨own, next, closes.steady, .inr moved⟩
  · have clientSent := relayed.client.sent_of_reading clientWaits relayed.role
    rcases relayed.server.goes_on exchanging.sound.registered server unlocked with
      serverEnded | serverWaits | ⟨own, after, closes, step⟩
    · have toClient := (relayed.during (.inl client)).2
      rw [relayed.client.untaken clientWaits,
        relayed.server.sent_of_ended server serverEnded] at toClient
      rcases clientReads _ _ clientWaits toClient with ⟨next, moved⟩
      exact .inr ⟨.clientRead (.ok (.sendResults session.server.test.streamResults)), next,
        not_false, .inl moved⟩
    · exact .inr (serverGoes serverWaits clientSent)
    · rcases @step_of_server json session own after closes step with ⟨next, moved⟩
      exact .inr ⟨own, next, closes.steady, .inr moved⟩
  · rcases @step_of_client json session own after closes step with ⟨next, moved⟩
    exact .inr ⟨own, next, closes.steady, .inl moved⟩

/-- As long as the control connection does not fail and the stream counters do not
wrap, each side keeps every stream either in its handles or in its results, sends its
results once, reads those of its peer, and forwards both. -/
theorem results_exchanged (json : Json) (clientBuild serverBuild : Build) (cookie : String)
    (params : Parameters) {events : List SessionEvent} {session : Session}
    (finished : run (Session.step json) (new clientBuild serverBuild cookie params) events =
      some session)
    (steady : Guarded (Session.step json) Steady (new clientBuild serverBuild cookie params)
      events)
    (few : session.server.test.tasks.length < UInt16.size) :
    let log := noted (Session.step json) Log.note .empty
      (new clientBuild serverBuild cookie params) events
    Exchanged log.clientJoined log.serverJoined log.clientTaken session.client
        session.server.test ∧
      Exchanged log.serverJoined log.clientJoined log.serverTaken session.server.test
        session.client ∧
      (session.client.state = .exchangeResults →
        session.server.test.state = .exchangeResults →
        (session.client.alive = false ∧ session.server.test.alive = false) ∨
          ∃ own next, ¬own.Breaks ∧
            (session.step json (.client (.controller own)) = some next ∨
              session.step json (.server (.controller own)) = some next)) := by
  have exchanging : Exchanging (noted (Session.step json) Log.note .empty
      (new clientBuild serverBuild cookie params) events) session := by
    apply run_invariant_noted Exchanging _ new_exchanging steady finished
    exact fun _ _ _ _ exchanging steady step => exchanging.step steady step
  have gathered := exchanging.serverGathered few
  constructor
  · exact exchanged_of_read exchanging.opening.registered exchanging.few
      exchanging.clientGathered gathered exchanging.client exchanging.server
      exchanging.clientTaken
  constructor
  · exact exchanged_of_read exchanging.sound.registered few gathered
      exchanging.clientGathered exchanging.server exchanging.client exchanging.serverTaken
  · exact exchanging.goes_on

/-- A stream ends and posts its summary. -/
private def ends : List TaskEvent :=
  [.work (.signal 0 0), .work (.head 10000000001), .work (.leave 0 none), .work (.sent true),
    .work (.summarize 0 none), .post, .finish]

private def clientEvents (events : List ControllerEvent) : List SessionEvent :=
  events.map fun event => .client (.controller event)

private def serverEvents (events : List ControllerEvent) : List SessionEvent :=
  events.map fun event => .server (.controller event)

/-- Both streams of a side end, and the controller joins one after the other. -/
private def endsOfTasks (task : Nat → TaskEvent → SessionEvent)
    (controller : List ControllerEvent → List SessionEvent) : List SessionEvent :=
  ends.map (task 0) ++ ends.map (task 1) ++
    controller [.recv, .join, .turn, .act, .poll, .recv, .join]

/-- A test with one stream each way, up to where the client is about to send its map. -/
def untilWriting (cookie : String) : List SessionEvent :=
  Server.opening.map .server ++ (Client.joining cookie).map .client ++ connection 0 ++
    Server.turn.map .server ++ connection 1 ++
    Server.announcement.map .server ++ Server.turn.map .server ++
    clientEvents [.poll, .clientRead (.ok (.setState .running)), .store, .turn, .act, .poll] ++
    endsOfTasks (fun index event => .client (.task index event)) clientEvents ++
    clientEvents [.turn, .act, .poll] ++
    endsOfTasks (fun index event => .server (.task index event)) serverEvents ++
    serverEvents [.write true, .store, .turn, .act, .collected] ++
    clientEvents [.clientRead (.ok (.setState .exchangeResults)), .store, .turn, .act,
      .collected]

/-- The same test, up to the two maps. -/
private def untilResults : List SessionEvent :=
  untilWriting "c" ++ clientEvents [.write true]

/-- The server answers with its map and forwards both. -/
private def answering : List SessionEvent :=
  serverEvents [.write true, .forward 0 true, .forward 0 true, .forward 0 true, .forward 0 true,
    .done]

private def closing : List SessionEvent :=
  clientEvents [.forward 0 true, .forward 0 true, .forward 0 true, .forward 0 true,
    .done]

private theorem untilResults_runs :
    (run (Session.step (.ofCookie "c")) (sample { bidir := true }) untilResults).isSome = true := by
  decide +kernel

private def middle : Session :=
  (run (Session.step (.ofCookie "c")) (sample { bidir := true }) untilResults).get untilResults_runs

/-- The server reads the map of the client. -/
private def asking : ControllerEvent :=
  .serverRead (.ok (.sendResults middle.client.streamResults))

private theorem asking_steps :
    (middle.server.step (.ofCookie "c") (.controller asking)).isSome = true := by
  decide +kernel

private def asked : Session :=
  { middle with
    server := (middle.server.step (.ofCookie "c") (.controller asking)).get asking_steps
    toServer := [] }

private theorem answering_runs :
    (run (Session.step (.ofCookie "c")) asked answering).isSome = true := by
  decide +kernel

private def answered : Session :=
  (run (Session.step (.ofCookie "c")) asked answering).get answering_runs

/-- The client reads the map of the server. -/
private def telling : ControllerEvent :=
  .clientRead (.ok (.sendResults answered.server.test.streamResults))

private theorem telling_steps : (answered.client.controllerStep telling).isSome = true := by
  decide +kernel

private def told : Session :=
  { answered with
    client := (answered.client.controllerStep telling).get telling_steps
    toClient := [] }

private theorem closing_runs :
    (run (Session.step (.ofCookie "c")) told closing).isSome = true := by
  decide +kernel

/-- Both sides have ended. -/
private def closed : Session :=
  (run (Session.step (.ofCookie "c")) told closing).get closing_runs

private def wholeTest : List SessionEvent :=
  untilResults ++ .server (.controller asking) :: (answering ++
    .client (.controller telling) :: closing)

private theorem wholeTest_runs :
    run (Session.step (.ofCookie "c")) (sample { bidir := true }) wholeTest = some closed := by
  have asks : middle.step (.ofCookie "c") (.server (.controller asking)) = some asked := by
    have control : middle.toServer = [.sendResults middle.client.streamResults] := rfl
    rw [asking, serverRead_step control]
    exact Option.map_eq_some_iff.mpr ⟨_, (Option.some_get asking_steps).symm, rfl⟩
  have tells : answered.step (.ofCookie "c") (.client (.controller telling)) = some told := by
    have control : answered.toClient = [.sendResults answered.server.test.streamResults] := rfl
    rw [telling, clientRead_step control]
    exact Option.map_eq_some_iff.mpr ⟨_, (Option.some_get telling_steps).symm, rfl⟩
  have answers : run (Session.step (.ofCookie "c")) asked answering = some answered :=
    (Option.some_get answering_runs).symm
  have closes : run (Session.step (.ofCookie "c")) told closing = some closed :=
    (Option.some_get closing_runs).symm
  apply @run_append_of_run _ _ _ _ middle _ _ _ (Option.some_get untilResults_runs).symm
  rw [run_cons_of_step asks]
  apply run_append_of_run answers
  rw [run_cons_of_step tells]
  exact closes

theorem results_exchanged_two :
    ∃ (session : Session) (joined peerJoined : List (Nat × StreamStats)),
      session.client.forwarded.length = 4 ∧ session.server.test.forwarded.length = 4 ∧
      session.client.forwarded.Perm (joined.map Prod.snd ++
        peerJoined.map fun got => { got.2 with isPeer := true }) ∧
      session.server.test.forwarded.Perm (peerJoined.map Prod.snd ++
        joined.map fun got => { got.2 with isPeer := true }) := by
  have steady : Guarded (Session.step (.ofCookie "c")) Steady (sample { bidir := true })
      wholeTest := by
    apply guarded_of_forall
    simp [wholeTest, untilResults, untilWriting, answering, closing, clientEvents,
      serverEvents, ends, endsOfTasks, connection, Server.opening, Server.announcement, Server.turn,
      Client.joining, Steady, ControllerEvent.Breaks, asking, telling]
  have few : closed.server.test.tasks.length < UInt16.size := by decide +kernel
  rcases results_exchanged (.ofCookie "c") ⟨true, true⟩ ⟨true, true⟩ "c"
    (.fromOpts { bidir := true }) wholeTest_runs steady few with ⟨client, server, -⟩
  have clientEnded : closed.client.pc = .ended (.returned (.ok ())) := by decide +kernel
  have serverEnded : closed.server.test.pc = .ended (.returned (.ok ())) := by decide +kernel
  have clientForwarded := client.forwarded (by decide +kernel) clientEnded
  have serverForwarded := server.forwarded (by decide +kernel) serverEnded
  have clientLength : closed.client.forwarded.length = 4 := by decide +kernel
  have serverLength : closed.server.test.forwarded.length = 4 := by decide +kernel
  exact ⟨closed, _, _, clientLength, serverLength, clientForwarded, serverForwarded⟩

end Session

end Iperf
