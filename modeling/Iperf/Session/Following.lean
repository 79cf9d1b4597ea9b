import Iperf.Client.LifeCycle
import Iperf.Server.Promise
import Iperf.Session.Agreement
import Iperf.Session.Trade

/-!
# The client follows its server

The client is told what to do over the control connection and nowhere else.  As
long as nothing disturbs it, what it has been told and what is on its way to it
is what the server has announced, and it has done what it has been told.
-/

namespace Iperf

open Channel LifeCycle Transition

/-- The state that a message announces. -/
def ServerMessage.announces : ServerMessage → Option State
  | .setState state => some state
  | _ => none

namespace Session

/-- The announcements on their way to the client. -/
def underWay (session : Session) : List State :=
  session.toClient.filterMap ServerMessage.announces

/-- What the client is told and does, in a run of both sides. -/
def tell (story : Client.Story) (session : Session) : SessionEvent → Client.Story
  | .client event => story.note session.client event
  | _ => story

/-- Nothing disturbs the client. -/
def Orderly (session : Session) : SessionEvent → Prop
  | .client event => Client.Orderly session.client event
  | _ => True

variable {json : Json} {session next : Session}

/-- A step of the client reads a message, or leaves those to it alone. -/
theorem reads_of_clientStep {event : ClientEvent}
    (step : session.clientStep json event = some next) :
    Client.step session.client event = some next.client ∧ next.server = session.server ∧
      ((∃ message, event = .controller (.clientRead (.ok message)) ∧
          session.toClient = message :: next.toClient) ∨
        ((∀ message, event ≠ .controller (.clientRead (.ok message))) ∧
          next.toClient = session.toClient)) := by
  unfold clientStep at step
  split at step
  · split at step
    · rcases Option.map_eq_some_iff.mp step with ⟨client, moved, result⟩
      subst result
      exact ⟨moved, rfl, .inr ⟨by simp, rfl⟩⟩
    · cases step
  · split at step
    · rcases Option.map_eq_some_iff.mp step with ⟨client, moved, result⟩
      subst result
      exact ⟨moved, rfl, .inr ⟨by simp, rfl⟩⟩
    · cases step
  · split at step
    · cases step
    · rename_i message head toClient control
      split at step
      · rename_i same
        subst same
        rcases Option.map_eq_some_iff.mp step with ⟨client, moved, result⟩
        subst result
        exact ⟨moved, rfl, .inl ⟨head, rfl, control⟩⟩
      · cases step
  · rename_i own noConnect noReply noRead
    rcases Option.map_eq_some_iff.mp step with ⟨client, moved, result⟩
    subst result
    refine ⟨moved, rfl, .inr ⟨?_, rfl⟩⟩
    rintro message same
    cases same
    exact noRead message rfl
  · rename_i other
    rcases Option.map_eq_some_iff.mp step with ⟨client, moved, result⟩
    subst result
    exact ⟨moved, rfl, .inr ⟨fun message => other _, rfl⟩⟩

/-- What the server writes is what it announces. -/
theorem announced_of_write {test after : Controller} {event : ControllerEvent}
    (step : test.controllerStep event = some after) :
    after.announced =
      test.announced ++ (serverWrites test event).filterMap ServerMessage.announces := by
  by_cases write : ∃ delivered, event = .write delivered
  · rcases write with ⟨delivered, rfl⟩
    simp only [Controller.controllerStep] at step
    split at step
    · rename_i target pc
      cases delivered with
      | true =>
          cases step
          simp only [serverWrites, pc]
          rfl
      | false =>
          cases step
          exact (List.append_nil _).symm
    · rename_i pc
      have silent : serverWrites test (.write delivered) = [] := by
        cases delivered with
        | true => simp only [serverWrites, pc]
        | false => rfl
      rw [silent, List.filterMap_nil, List.append_nil]
      cases delivered with
      | true | false =>
          cases step
          rfl
    · rename_i remote pc
      cases delivered with
      | true =>
          cases step
          rw [(forwardResults_sent _ _).2]
          simp only [serverWrites, pc]
          exact (List.append_nil _).symm
      | false =>
          cases step
          exact (List.append_nil _).symm
    · cases step
  · have other : ∀ delivered, event ≠ .write delivered :=
      fun delivered same => write ⟨delivered, same⟩
    rw [(quiet_of_event step other).1, (serverWrites_of_event other).1, List.filterMap_nil,
      List.append_nil]

/-- A step of the server puts what it announces on the way to the client. -/
theorem tells_of_serverStep {event : ServerEvent}
    (step : session.serverStep json event = some next) :
    next.client = session.client ∧ ∃ told, next.underWay = session.underWay ++ told ∧
      next.server.test.announced = session.server.test.announced ++ told := by
  have own : ∀ {server : Server} {event : ControllerEvent},
      session.server.step json (.controller event) = some server →
        session.server.test.controllerStep event = some server.test := by
    intro server event moved
    rcases Option.map_eq_some_iff.mp moved with ⟨test, step, result⟩
    rw [← result]
    exact step
  unfold serverStep at step
  split at step
  · cases step
  · split at step
    · cases step
    · split at step
      · rcases Option.map_eq_some_iff.mp step with ⟨server, moved, result⟩
        subst result
        refine ⟨rfl, [], (List.append_nil _).symm, ?_⟩
        exact announced_of_write (own moved)
      · cases step
  · rcases Option.map_eq_some_iff.mp step with ⟨server, moved, result⟩
    subst result
    exact ⟨rfl, _, List.filterMap_append, announced_of_write (own moved)⟩
  · rename_i noAccept noRead other
    rcases Option.map_eq_some_iff.mp step with ⟨server, moved, result⟩
    subst result
    have rests := (rests_of_server other moved).aside
    exact ⟨rfl, [], (List.append_nil _).symm, rests.announced.trans (List.append_nil _).symm⟩

/-- The client has been told what the server has announced, but for what is on its way,
and has done it. -/
structure Followed (story : Client.Story) (session : Session) : Prop where
  conveyed : story.heard ++ session.underWay = session.server.test.announced
  keeping : Client.Keeping story.heard story.performed session.client

/-- While it closes down, a client is told nothing any more. -/
theorem Followed.nothing_under_way {cookie : String} {story : Client.Story}
    (followed : Followed story session) (closing : session.client.pc.Closing)
    (inOrder : InOrder cookie session.server.test.announced) : session.underWay = [] := by
  have last : ∃ state, Client.lastHeard story.heard = state ∧
      (state = .exchangeResults ∨ state = .terminate) := by
    have stands := followed.keeping.stands
    unfold Client.Stands at stands
    split at stands
    all_goals first
      | exact ⟨_, rfl, stands⟩
      | rename_i pc
        rw [pc] at closing
        exact closing.elim
  rcases last with ⟨state, latest, atEnd⟩
  have told : state ≠ .start := by
    rcases atEnd with rfl | rfl <;> simp
  rcases Client.heard_eq_of_last latest told with ⟨earlier, heard⟩
  rw [← followed.conveyed, heard, List.append_assoc, List.singleton_append] at inOrder
  exact inOrder.nothing_after atEnd

/-- What the client reads is what it is told. -/
theorem Followed.reads {cookie : String} {story : Client.Story}
    (followed : Followed story session) {message : ServerMessage}
    (inOrder : InOrder cookie session.server.test.announced)
    (step : session.client.controllerStep (.clientRead (.ok message)) = some next.client)
    (control : session.toClient = message :: next.toClient) :
    session.underWay =
      Client.hears session.client (.controller (.clientRead (.ok message))) ++
        next.underWay := by
  cases message with
  | setState state =>
      have first : session.underWay = state :: next.underWay := by
        rw [underWay, control]
        rfl
      have selecting : session.client.pc = .selecting := by
        by_contra other
        have reading : session.client.pc = .readingResults := by
          cases pc : session.client.pc with
          | selecting => exact absurd pc other
          | readingResults => rfl
          | _ => simp [Controller.controllerStep, pc] at step
        have closing : session.client.pc.Closing := by
          rw [reading]
          trivial
        rw [followed.nothing_under_way closing inOrder] at first
        cases first
      rw [first, Client.hears, if_pos selecting, List.singleton_append]
  | _ =>
      rw [underWay, control]
      rfl

theorem Followed.step {cookie : String} {story : Client.Story} {event : SessionEvent}
    (followed : Followed story session)
    (before : InOrder cookie session.server.test.announced)
    (inOrder : InOrder cookie next.server.test.announced) (orderly : session.Orderly event)
    (step : session.step json event = some next) : Followed (tell story session event) next := by
  cases event with
  | client event =>
      rcases reads_of_clientStep step with ⟨moved, server, reads⟩
      have conveyed : (story.note session.client event).heard ++ next.underWay =
          next.server.test.announced := by
        rw [server, ← followed.conveyed, Client.Story.note, List.append_assoc]
        congr 1
        rcases reads with ⟨message, rfl, control⟩ | ⟨other, same⟩
        · exact (followed.reads before moved control).symm
        · have silent : Client.hears session.client event = [] := by
            unfold Client.hears
            split
            · exact absurd rfl (other _)
            · rfl
          rw [silent, List.nil_append, underWay, same, underWay]
      constructor
      · exact conveyed
      · have keeps : Client.Keeps cookie story session.client := fun _ => followed.keeping
        apply keeps.step orderly moved
        rw [← conveyed] at inOrder
        exact inOrder.scripted.of_append
  | server event =>
      rcases tells_of_serverStep step with ⟨client, told, underWay, announced⟩
      constructor
      · rw [underWay, announced, ← followed.conveyed]
        exact (List.append_assoc _ _ _).symm
      · rw [client]
        exact followed.keeping
  | accept index =>
      cases move_of_step step with
      | accept index inbound server waiting moved =>
          constructor
          · rw [(rests_of_server (by simp) moved).aside.announced]
            exact followed.conveyed
          · exact followed.keeping
  | stranger peer =>
      cases step
      exact ⟨followed.conveyed, followed.keeping⟩

/-! ## Whole runs -/

section Runs

variable {clientBuild serverBuild : Build} {cookie : String} {params : Parameters}
variable {events : List SessionEvent}

/-- A step takes no task away from the server. -/
theorem serverTasks_le {event : SessionEvent} (step : session.step json event = some next) :
    session.server.test.tasks.length ≤ next.server.test.tasks.length := by
  rcases server_of_step step with same | ⟨event, moved⟩
  · rw [same]
  · exact Server.tasks_length_le moved

theorem inOrder_of_reachable
    (reachable : Reachable (Session.step json) (new clientBuild serverBuild cookie params)
      session)
    (few : session.server.test.tasks.length < UInt16.size) :
    InOrder cookie session.server.test.announced := by
  have atServer := server_reachable reachable
  have tallied := Server.tallied_of_reachable rfl atServer few
  have inOrder := tallied.walked.inOrder tallied.sound.phased.test tallied.counted
  rw [Server.perf_of_reachable atServer] at inOrder
  exact inOrder

/-- What the client has been told and has done in a run. -/
def story (json : Json) (initial : Session) (events : List SessionEvent) : Client.Story :=
  noted (Session.step json) tell ⟨[], []⟩ initial events

theorem followed_of_run (fits : params.totalStreams < UInt16.size)
    (needed : 0 < params.totalStreams)
    (finished : run (Session.step json) (new clientBuild serverBuild cookie params) events =
      some session)
    (orderly : Guarded (Session.step json) Orderly (new clientBuild serverBuild cookie params)
      events)
    (few : session.server.test.tasks.length < UInt16.size) :
    Followed (story json (new clientBuild serverBuild cookie params) events) session := by
  have both : Reachable (Session.step json) (new clientBuild serverBuild cookie params) session ∧
      (session.server.test.tasks.length < UInt16.size →
        Followed (story json (new clientBuild serverBuild cookie params) events) session) := by
    apply run_invariant_noted (fun story session =>
      Reachable (Session.step json) (new clientBuild serverBuild cookie params) session ∧
        (session.server.test.tasks.length < UInt16.size → Followed story session)) _ _ orderly
      finished
    · rintro story source event target ⟨reachable, follows⟩ orderly step
      have later := reachable.tail step
      constructor
      · exact later
      · intro few
        have fewer := (serverTasks_le step).trans_lt few
        exact (follows fewer).step (inOrder_of_reachable reachable fewer)
          (inOrder_of_reachable later few) orderly step
    · constructor
      · exact .refl _ _
      · intro _
        exact ⟨rfl, Client.new_keeping clientBuild cookie fits needed⟩
  exact both.2 few

theorem neededStreams_of_reachable (fits : params.totalStreams < UInt16.size)
    (reachable : Reachable (Session.step json) (new clientBuild serverBuild cookie params)
      session) :
    session.client.perf.neededStreams = params.totalStreams ∧
      session.server.test.perf.neededStreams = params.totalStreams := by
  constructor
  · rw [Client.perf_of_reachable (client_reachable reachable)]
    exact (Client.neededStreams_new clientBuild cookie fits).2
  · rw [Server.perf_of_reachable (server_reachable reachable)]
    have whole := Perf.totalStreams_newWithStatsReceiver cookie .server params
    exact (Perf.neededStreams_of_fits (whole.trans_lt fits)).trans whole

/-- Only `ExchangeResults` asks for the exchange. -/
theorem asked_to_exchange {total : Nat} {heard : List State} {performed : List Action}
    (inOrder : performed <+: heard.flatMap (State.planned total))
    (wrapped : .wrapUp true ∈ performed) : .exchangeResults ∈ heard := by
  rcases List.mem_flatMap.mp (inOrder.subset wrapped) with ⟨state, stateMem, planned⟩
  cases state with
  | exchangeResults => exact stateMem
  | createStreams cookie => simp [State.planned] at planned
  | _ => simp [State.planned] at planned

/-- Between a client that nothing disturbs and its server nothing is lost: what the client
has been told and what is on its way is what the server has announced.  The client does
what it is told, each thing once and in order, and it stops its streams for the exchange
only when all of the server's have ended. -/
theorem client_follows_server (json : Json) (clientBuild serverBuild : Build) (cookie : String)
    (params : Parameters) (fits : params.totalStreams < UInt16.size)
    (needed : 0 < params.totalStreams) {events : List SessionEvent} {session : Session}
    (finished : run (Session.step json) (new clientBuild serverBuild cookie params) events =
      some session)
    (orderly : Guarded (Session.step json) Orderly (new clientBuild serverBuild cookie params)
      events)
    (few : session.server.test.tasks.length < UInt16.size) :
    (story json (new clientBuild serverBuild cookie params) events).heard ++ session.underWay =
        session.server.test.announced ∧
      Client.Faithful params.totalStreams
        (story json (new clientBuild serverBuild cookie params) events) session.client ∧
      (.wrapUp true ∈
          (story json (new clientBuild serverBuild cookie params) events).performed →
        ∀ task ∈ session.server.test.tasks, task.isFinished = true) := by
  have reachable : Reachable (Session.step json)
      (new clientBuild serverBuild cookie params) session := ⟨events, finished⟩
  have followed := followed_of_run fits needed finished orderly few
  have inOrder := inOrder_of_reachable reachable few
  have scripted := inOrder.scripted
  rw [← followed.conveyed] at scripted
  have faithful := followed.keeping.faithful scripted.of_append
  rw [(neededStreams_of_reachable fits reachable).1] at faithful
  constructor
  · exact followed.conveyed
  constructor
  · exact faithful
  · intro wrapped
    have told := asked_to_exchange faithful.inOrder wrapped
    apply (Server.promised_of_reachable rfl (server_reachable reachable) few).exchange
    rw [← followed.conveyed]
    exact List.mem_append_left _ told

/-- A test with one stream each way, up to where both sides have started the load. -/
def untilLoad (cookie : String) : List SessionEvent :=
  Server.opening.map .server ++ (Client.joining cookie).map .client ++ connection 0 ++
    Server.turn.map .server ++ connection 1 ++
    Server.announcement.map .server ++ Server.turn.map .server ++
    [.poll, .clientRead (.ok (.setState .running)), .store, .turn, .act, .poll].map
      fun event => .client (.controller event)

private theorem untilLoad_runs :
    (run (Session.step (.ofCookie "c")) (sample { bidir := true }) (untilLoad "c")).isSome =
      true := by
  decide +kernel

private theorem untilLoad_orderly :
    Guarded (Session.step (.ofCookie "c")) Orderly (sample { bidir := true }) (untilLoad "c") := by
  apply guarded_of_forall
  simp [untilLoad, connection, Server.opening, Server.announcement, Server.turn,
    Client.joining, Orderly, Client.Orderly]

theorem client_follows_server_two :
    ∃ (story : Client.Story) (session : Session),
      story.heard ++ session.underWay = [.createStreams "c", .running] ∧
      story.performed = [.openStream 0, .openStream 1, .startLoad] := by
  let session := (run (Session.step (.ofCookie "c")) (sample { bidir := true }) (untilLoad "c")).get
    untilLoad_runs
  have few : session.server.test.tasks.length < UInt16.size := by decide +kernel
  have announced : session.server.test.announced = [.createStreams "c", .running] := by
    decide +kernel
  have waiting : session.underWay = [] := by decide +kernel
  have selecting : session.client.pc = .selecting := by decide +kernel
  rcases client_follows_server (.ofCookie "c") ⟨true, true⟩ ⟨true, true⟩ "c"
    (.fromOpts { bidir := true }) (by decide) (by decide) (Option.some_get untilLoad_runs).symm untilLoad_orderly few with
    ⟨conveyed, faithful, -⟩
  have performed := faithful.complete (.inl selecting)
  rw [announced] at conveyed
  rw [waiting, List.append_nil] at conveyed
  rw [conveyed] at performed
  exact ⟨_, session, by rw [conveyed, waiting]; rfl, performed⟩

/-! ## The same streams on both sides -/

/-- The client opens no more connections than the test needs. -/
theorem opened_le
    (finished : run (Session.step json) (new clientBuild serverBuild cookie params) events =
      some session)
    (honest : ∀ event ∈ events, event.Honest json cookie) :
    session.opened.length ≤ session.client.perf.neededStreams := by
  have guarded : Guarded (Session.step json) (fun _ event => event.Honest json cookie)
      (new clientBuild serverBuild cookie params) events :=
    guarded_of_forall (fun event eventMem _ => honest event eventMem) _
  have all : (Reachable (Session.step json) (new clientBuild serverBuild cookie params) session ∧
      session.Linked json) ∧ session.opened.length ≤ session.client.perf.neededStreams := by
    apply run_invariant (fun session => (Reachable (Session.step json)
      (new clientBuild serverBuild cookie params) session ∧ session.Linked json) ∧
        session.opened.length ≤ session.client.perf.neededStreams) _
      ⟨⟨.refl _ _, new_linked json clientBuild serverBuild cookie params⟩, Nat.zero_le _⟩
      guarded finished
    rintro source event target ⟨⟨reachable, linked⟩, bound⟩ honest step
    have later := reachable.tail step
    have perf : target.client.perf = source.client.perf := by
      rw [Client.perf_of_reachable (client_reachable later),
        Client.perf_of_reachable (client_reachable reachable)]
    have opening := Client.opening_of_reachable (client_reachable reachable)
    have atServer := server_reachable reachable
    constructor
    · constructor
      · exact later
      · apply linked.step (numbered_of_reachable reachable)
          (Server.sound_of_reachable rfl atServer).phased opening.role _ step
        rw [Server.perf_of_reachable atServer]
        exact honest
    · rw [perf]
      cases move_of_step step with
      | connect client moved =>
          rcases Client.connect_eq moved with ⟨total, pc, -⟩
          have running : source.client.alive = true := by simp [Controller.alive, pc]
          have opened := linked.opening running
          have settled : source.client.pc.awaited = none := by rw [pc]; rfl
          rw [settled, Option.toList_none, List.append_nil] at opened
          rw [List.length_append, opened, clientStreams, List.length_map]
          exact (opening.opening total (by rw [pc]; rfl)).2
      | reply | read | client | server | accept | stranger => exact bound
  exact all.2

/-- When a side starts its load, the streams of the server are exactly the connections that
the client has opened, in the order in which it has opened them, and as many as the test
needs.  When it is the client, it has registered the very same ones. -/
theorem load_on_same_streams (json : Json) (clientBuild serverBuild : Build) (cookie : String)
    (params : Parameters) (fits : params.totalStreams < UInt16.size)
    (needed : 0 < params.totalStreams) {events : List SessionEvent} {session : Session}
    (finished : run (Session.step json) (new clientBuild serverBuild cookie params) events =
      some session)
    (orderly : Guarded (Session.step json) Orderly (new clientBuild serverBuild cookie params)
      events)
    (honest : ∀ event ∈ events, event.Honest json cookie) :
    (.startLoad ∈ session.server.test.publisher.sent ∨
        .startLoad ∈ session.client.publisher.sent →
      session.server.test.tasks.map Task.stream = session.opened ∧
        session.opened.length = params.totalStreams) ∧
      (.startLoad ∈ session.client.publisher.sent →
        session.clientStreams = session.server.test.tasks.map Task.stream) := by
  have reachable : Reachable (Session.step json)
      (new clientBuild serverBuild cookie params) session := ⟨events, finished⟩
  have atServer := server_reachable reachable
  have linked := linked_of_run finished honest
  have admitted := Server.admitted_of_reachable rfl atServer
  have bound := opened_le finished honest
  rcases neededStreams_of_reachable fits reachable with ⟨clientTotal, serverTotal⟩
  rw [clientTotal] at bound
  have welcomed := linked.welcomed.length_le
  have registered := admitted.length_le
  have few : session.server.test.tasks.length < UInt16.size :=
    ((registered.trans welcomed).trans bound).trans_lt fits
  have followed := followed_of_run fits needed finished orderly few
  have promised := Server.promised_of_reachable rfl atServer few
  have same : .startLoad ∈ session.server.test.publisher.sent ∨
      .startLoad ∈ session.client.publisher.sent →
        session.server.test.tasks.map Task.stream = session.opened ∧
          session.opened.length = params.totalStreams := by
    intro loaded
    have running : .running ∈ session.server.test.announced := by
      rcases loaded with server | client
      · exact promised.load server
      · rw [← followed.conveyed]
        exact List.mem_append_left _ (followed.keeping.owed.loaded client).1
    have enough := promised.running running
    rw [serverTotal] at enough
    -- What is registered has been welcomed, and what is welcomed has been opened.
    have handed : (session.server.test.tasks.map Task.stream).Sublist session.server.welcomed := by
      apply List.Sublist.trans _ admitted.handed
      apply admitted.enrolled.enrolled.sublist.trans
      apply List.Sublist.trans (creates_mono (List.prefix_append _ _)).sublist
      exact List.sublist_append_left _ _
    have all : session.server.test.tasks.map Task.stream = session.opened := by
      apply (handed.trans linked.welcomed.sublist).eq_of_length_le
      rw [List.length_map]
      exact bound.trans enough
    constructor
    · exact all
    · apply Nat.le_antisymm bound
      rw [← all, List.length_map]
      exact enough
  constructor
  · exact same
  · intro loaded
    rcases same (.inr loaded) with ⟨streams, length⟩
    rw [streams]
    apply (linked.registered.trans linked.welcomed).eq_of_length_le
    rw [clientStreams, List.length_map, length]
    have inOrder := inOrder_of_reachable reachable few
    have scripted := inOrder.scripted
    rw [← followed.conveyed] at scripted
    have subscribed := (followed.keeping.faithful scripted.of_append).subscribed loaded
    rw [subscribed, clientTotal]

theorem load_on_same_streams_two :
    ∃ session : Session, .startLoad ∈ session.client.publisher.sent ∧
      session.clientStreams = [⟨0⟩, ⟨1⟩] ∧
      session.clientStreams = session.server.test.tasks.map Task.stream := by
  let session := (run (Session.step (.ofCookie "c")) (sample { bidir := true }) (untilLoad "c")).get
    untilLoad_runs
  have honest : ∀ event ∈ untilLoad "c", event.Honest (.ofCookie "c") "c" := by
    simp [untilLoad, connection, Server.opening, Server.announcement, Server.turn,
      Client.joining, SessionEvent.Honest]
  have loaded : .startLoad ∈ session.client.publisher.sent := by decide +kernel
  have both : session.clientStreams = [⟨0⟩, ⟨1⟩] := by decide +kernel
  have same := load_on_same_streams (.ofCookie "c") ⟨true, true⟩ ⟨true, true⟩ "c"
    (.fromOpts { bidir := true }) (by decide) (by decide) (Option.some_get untilLoad_runs).symm untilLoad_orderly honest
  exact ⟨session, loaded, both, same.2 loaded⟩

end Runs


end Session

end Iperf
