import Iperf.Client.Calm
import Iperf.LifeCycle
import Iperf.Opts

/-!
# The life-cycle of a client

The loop acts on the state of the test at every turn, whatever has woken it.
What is to be done about a state is to be done once: the streams are opened, the
load is started, the main loop is left.  `due` is what is still to be done about
the state the client was told last, and what has been done and what is due always
make up what has been asked for.
-/

namespace Iperf

open Channel Transition

/-- What a client does about the states it is told. -/
inductive Action where
  | openStream (id : Nat)
  | startLoad
  /-- The main loop is left, to exchange the results or not. -/
  | wrapUp (exchange : Bool)
  deriving DecidableEq

/-- What is to be done once about a state, in a test with `total` streams. -/
def State.planned (total : Nat) : State → List Action
  | .start => []
  | .createStreams _ => (List.range total).map .openStream
  | .running => [.startLoad]
  | .exchangeResults => [.wrapUp true]
  | .terminate => [.wrapUp false]

instance : DecidablePred Pc.Closing
  | .collecting _ | .writingResults _ | .readingResults | .forwarding _ _ | .ended _ =>
      .isTrue trivial
  | .starting | .loopHead | .matched _ | .polling | .selecting | .connecting _
  | .greeting _ _ | .announcing _ | .storing _ | .joining _ _ => .isFalse not_false

namespace Client

open Controller

/-- What a step has done: it has registered streams, started the load, or left the
main loop. -/
def performs (client next : Controller) : List Action :=
  (next.tasks.drop client.tasks.length).map (fun task => .openStream task.worker.id) ++
    ((next.publisher.sent.drop client.publisher.sent.length).filter (· = .startLoad)).map
      (fun _ => .startLoad) ++
    match client.pc, next.pc with
    | .matched _, .collecting exchange => [.wrapUp exchange]
    | _, _ => []

/-- What a client has been told, and what it has done. -/
structure Story where
  heard : List State
  performed : List Action

def Story.note (story : Story) (client : Controller) (event : ClientEvent) : Story where
  heard := story.heard ++ hears client event
  performed := story.performed ++ (Client.step client event).elim [] (performs client)

/-- The state a client has been told last. -/
def lastHeard (heard : List State) : State :=
  heard.getLast?.getD .start

/-- What is still to be done about a state. -/
def due (client : Controller) : State → List Action
  | .start => []
  | .createStreams _ =>
      ((List.range client.perf.neededStreams).drop client.tasks.length).map .openStream
  | .running => if client.oldState = .running then [] else [.startLoad]
  | .exchangeResults => if client.pc.Closing then [] else [.wrapUp true]
  | .terminate => if client.pc.Closing then [] else [.wrapUp false]

variable {client next : Controller} {heard : List State} {performed : List Action}

/-- Where the client stands with respect to the state it has been told last. -/
def Stands (latest : State) (client : Controller) : Prop :=
  match client.pc with
  | .starting => client.state = latest ∧ latest = .start
  | .loopHead => client.state = latest
  | .matched state => client.state = latest ∧ state = latest
  | .storing target => target = latest
  | .connecting _ | .greeting _ _ =>
      client.state = latest ∧ client.oldState = latest ∧
        ∃ cookie, latest = .createStreams cookie
  | .polling | .selecting | .joining _ _ =>
      client.state = latest ∧ client.oldState = latest ∧ due client latest = []
  | .announcing _ => False
  | .collecting _ | .writingResults _ | .readingResults | .forwarding _ _ | .ended _ =>
      latest = .exchangeResults ∨ latest = .terminate

/-- What has been done and what is due are what has been asked for. -/
structure Owed (heard : List State) (performed : List Action) (client : Controller) : Prop
    where
  balance : performed ++ due client (lastHeard heard) =
    heard.flatMap (State.planned client.perf.neededStreams)
  fresh : heard = [] → client.tasks = []
  complete : ∀ cookie, .createStreams cookie ∈ heard →
    (∃ other, lastHeard heard = .createStreams other) ∨
      client.tasks.length = client.perf.neededStreams
  loaded : .startLoad ∈ client.publisher.sent →
    .running ∈ heard ∧ (lastHeard heard = .running → client.oldState = .running)
  listening : .startLoad ∈ client.publisher.sent ∨ client.pc.Closing ∨
    ∀ task ∈ client.tasks, task.isListening = true
  counts : client.publisher.sent.count .startLoad = performed.count .startLoad

/-- What holds of a client that follows the script. -/
structure Keeping (heard : List State) (performed : List Action) (client : Controller) :
    Prop where
  opening : Opening client
  calm : Calm client
  fits : client.perf.totalStreams < UInt16.size
  needed : 0 < client.perf.neededStreams
  stands : Stands (lastHeard heard) client
  owed : Owed heard performed client

theorem lastHeard_append (heard : List State) (target : State) :
    lastHeard (heard ++ [target]) = target := by
  rw [lastHeard, List.getLast?_concat, Option.getD_some]

/-- What is due depends on the streams, the state seen last, and whether the main loop
has been left. -/
theorem due_congr (perf : next.perf = client.perf)
    (tasks : next.tasks.length = client.tasks.length) (old : next.oldState = client.oldState)
    (closing : next.pc.Closing ↔ client.pc.Closing) (latest : State) :
    due next latest = due client latest := by
  cases latest with
  | start => rfl
  | createStreams cookie => simp only [due, perf, tasks]
  | running => simp only [due, old]
  | exchangeResults | terminate => simp only [due, closing]

/-- A step that does nothing about any state. -/
theorem performs_eq_nil (tasks : next.tasks.length = client.tasks.length)
    (sent : next.publisher.sent = client.publisher.sent)
    (stays : ∀ state exchange, client.pc = .matched state → next.pc ≠ .collecting exchange) :
    performs client next = [] := by
  unfold performs
  rw [sent, ← tasks, List.drop_length, List.drop_length]
  split
  · rename_i state exchange pc left
    exact absurd left (stays state exchange pc)
  · rfl

/-- A step that does nothing keeps what is owed, if what is due stays the same. -/
theorem Owed.keep (owed : Owed heard performed client) (perf : next.perf = client.perf)
    (tasks : next.tasks = client.tasks)
    (sent : next.publisher.sent = client.publisher.sent)
    (stays : ∀ state exchange, client.pc = .matched state → next.pc ≠ .collecting exchange)
    (same : due next (lastHeard heard) = due client (lastHeard heard))
    (old : client.oldState = .running → lastHeard heard = .running → next.oldState = .running)
    (closing : client.pc.Closing → next.pc.Closing) :
    Owed heard (performed ++ performs client next) next := by
  rw [performs_eq_nil (congrArg List.length tasks) sent stays, List.append_nil]
  constructor
  · rw [perf]
    exact (congrArg _ same).trans owed.balance
  · rw [tasks]
    exact owed.fresh
  · rw [tasks, perf]
    exact owed.complete
  · intro loaded
    rcases owed.loaded (sent ▸ loaded) with ⟨told, acted⟩
    exact ⟨told, fun latest => old (acted latest) latest⟩
  · rw [sent, tasks]
    exact owed.listening.imp_right (Or.imp_left closing)
  · rw [sent]
    exact owed.counts

/-- Where no stream is due, all are open. -/
theorem length_of_done (opening : Opening client) {cookie : String}
    (done : due client (.createStreams cookie) = []) :
    client.tasks.length = client.perf.neededStreams := by
  rw [due, List.map_eq_nil_iff, List.drop_eq_nil_iff, List.length_range] at done
  exact le_antisymm opening.bound done

/-- The client is told the next state. -/
theorem Keeping.told (keeping : Keeping heard performed client) {target : State} {cookie : String}
    (scripted : LifeCycle.Scripted cookie (heard ++ [target]))
    (pc : client.pc = .selecting) :
    Owed (heard ++ [target]) performed { client with pc := .storing target } := by
  have owed := keeping.owed
  have stands := keeping.stands
  rw [Stands, pc] at stands
  rcases stands with ⟨state, old, done⟩
  have balance := owed.balance
  rw [done, List.append_nil] at balance
  constructor
  · rw [lastHeard_append, List.flatMap_append, List.flatMap_singleton, balance]
    congr 1
    cases target with
    | start => rfl
    | createStreams other =>
        have none := owed.fresh scripted.createStreams
        simp only [due, State.planned, none, List.length_nil, List.drop_zero]
    | running =>
        have asked : lastHeard heard = .createStreams cookie := by
          rw [lastHeard, scripted.running]
          rfl
        have fresh : client.oldState ≠ .running := by
          rw [old, asked]
          exact State.noConfusion
        simp only [due, fresh, if_false, State.planned]
    | exchangeResults => rfl
    | terminate => rfl
  · intro none
    simp at none
  · intro other asked
    rw [lastHeard_append]
    rcases List.mem_append.mp asked with earlier | now
    · right
      rcases owed.complete other earlier with ⟨last, latest⟩ | enough
      · rw [latest] at done
        exact @length_of_done client keeping.opening last done
      · exact enough
    · exact .inl ⟨other, (List.mem_singleton.mp now).symm⟩
  · intro loaded
    have earlier := (owed.loaded loaded).1
    constructor
    · exact List.mem_append_left _ earlier
    · rw [lastHeard_append]
      rintro rfl
      rw [scripted.running, List.mem_singleton] at earlier
      cases earlier
  · exact owed.listening.imp_right (Or.imp_left (by rw [pc]; exact False.elim))
  · exact owed.counts

theorem heard_eq_of_last {state : State} (latest : lastHeard heard = state)
    (told : state ≠ .start) : ∃ earlier, heard = earlier ++ [state] := by
  rcases List.eq_nil_or_concat heard with none | ⟨earlier, last, split⟩
  · rw [none] at latest
    exact absurd latest.symm told
  · rw [List.concat_eq_append] at split
    rw [split, lastHeard_append] at latest
    exact ⟨earlier, latest ▸ split⟩

theorem mem_heard {state : State} (latest : lastHeard heard = state) (told : state ≠ .start) :
    state ∈ heard := by
  rcases heard_eq_of_last latest told with ⟨earlier, split⟩
  rw [split]
  exact List.mem_append_right _ (List.mem_singleton_self _)

/-- One of the streams that are due is opened. -/
theorem Keeping.opens (keeping : Keeping heard performed client) {total : UInt16}
    {stream : TcpStream} (greeting : client.pc = .greeting total stream) (pc : Pc) :
    Owed heard (performed ++ performs client { client.register stream with pc })
      { client.register stream with pc } := by
  have owed := keeping.owed
  have stands := keeping.stands
  rw [Stands, greeting] at stands
  rcases stands with ⟨state, old, cookie, latest⟩
  have running : client.alive = true := by simp [alive, greeting]
  have more := (keeping.opening.opening total (by rw [greeting]; rfl)).2
  have performs : performs client { client.register stream with pc } =
      [.openStream client.tasks.length] := by
    simp only [performs, greeting, register, List.drop_left, List.drop_length, List.map_cons,
      List.map_nil, List.filter_nil, List.append_nil, newTask_id,
      keeping.opening.counter running]
  have due' : due client (.createStreams cookie) = .openStream client.tasks.length ::
      due { client.register stream with pc } (.createStreams cookie) := by
    have within : client.tasks.length < (List.range client.perf.neededStreams).length := by
      rw [List.length_range]
      exact more
    simp only [due, register, List.length_append, List.length_singleton,
      List.drop_eq_getElem_cons within, List.getElem_range, List.map_cons]
  rw [performs]
  constructor
  · have balance := owed.balance
    rw [latest, due'] at balance
    rw [latest, List.append_assoc,
      List.singleton_append]
    exact balance
  · intro none
    rw [lastHeard, none] at latest
    cases latest
  · exact fun _ _ => .inl ⟨cookie, latest⟩
  · intro loaded
    constructor
    · exact (owed.loaded loaded).1
    · intro told
      rw [latest] at told
      cases told
  · rcases owed.listening with loaded | closing | listening
    · exact .inl loaded
    · rw [greeting] at closing
      exact closing.elim
    · right
      right
      intro task taskMem
      rcases List.mem_append.mp taskMem with old | new
      · exact listening task old
      · rw [List.mem_singleton.mp new]
        rfl
  · rw [List.count_append, List.count_singleton]
    exact owed.counts

/-- The load that is due is started. -/
theorem Keeping.loads (keeping : Keeping heard performed client)
    (pc : client.pc = .matched .running) (fresh : client.oldState ≠ .running) :
    let next : Controller := { client with
      publisher := client.publisher.send .startLoad
      oldState := .running
      pc := .polling }
    Owed heard (performed ++ performs client next) next := by
  intro next
  have owed := keeping.owed
  have stands := keeping.stands
  rw [Stands, pc] at stands
  have latest : lastHeard heard = .running := stands.2.symm
  have performs : performs client next = [.startLoad] := by
    simp only [performs, next, pc, List.drop_length, List.map_nil, Broadcast.send_sent,
      List.drop_left, List.append_nil, List.nil_append]
    rfl
  rw [performs]
  constructor
  · have balance := owed.balance
    rw [latest, due, if_neg fresh] at balance
    rw [latest, due, if_pos rfl, List.append_nil]
    exact balance
  · intro none
    rw [lastHeard, none] at latest
    cases latest
  · exact owed.complete
  · exact fun _ => ⟨mem_heard latest State.noConfusion, fun _ => rfl⟩
  · exact .inl (List.mem_append_right _ (List.mem_singleton_self _))
  · rw [List.count_append, ← owed.counts]
    exact List.count_append

/-- The main loop is left, as is due. -/
theorem Keeping.wrapsUp (keeping : Keeping heard performed client) {exchange : Bool}
    (pc : client.pc = .matched (if exchange then .exchangeResults else .terminate)) :
    Owed heard (performed ++ performs client (client.stopWorkers exchange))
      (client.stopWorkers exchange) := by
  have owed := keeping.owed
  have stands := keeping.stands
  rw [Stands, pc] at stands
  have latest : lastHeard heard = if exchange then .exchangeResults else .terminate :=
    stands.2.symm
  have sent : ∃ more, (client.stopWorkers exchange).publisher.sent =
      client.publisher.sent ++ more ∧ .startLoad ∉ more := by
    simp only [stopWorkers]
    split
    · exact ⟨[.terminate], rfl, by simp⟩
    · exact ⟨[], (List.append_nil _).symm, List.not_mem_nil⟩
  rcases sent with ⟨more, sent, unloaded⟩
  have performs : performs client (client.stopWorkers exchange) = [.wrapUp exchange] := by
    have none : more.filter (· = .startLoad) = [] := by
      apply List.filter_eq_nil_iff.mpr
      intro message messageMem
      simp only [decide_eq_true_eq]
      rintro rfl
      exact unloaded messageMem
    have tasks : (client.stopWorkers exchange).tasks = client.tasks := rfl
    have leaves : (client.stopWorkers exchange).pc = .collecting exchange := rfl
    rw [performs, sent, tasks, leaves, pc, List.drop_left, List.drop_length, none]
    rfl
  have owes : due client (lastHeard heard) = [.wrapUp exchange] ∧
      due (client.stopWorkers exchange) (lastHeard heard) = [] := by
    rw [latest]
    cases exchange with
    | true => exact ⟨if_neg (by rw [pc]; exact not_false), rfl⟩
    | false => exact ⟨if_neg (by rw [pc]; exact not_false), rfl⟩
  rw [performs]
  constructor
  · have balance := owed.balance
    rw [owes.1] at balance
    rw [owes.2, List.append_nil]
    exact balance
  · exact owed.fresh
  · exact owed.complete
  · intro loaded
    rw [sent] at loaded
    rcases List.mem_append.mp loaded with before | now
    · constructor
      · exact (owed.loaded before).1
      · intro running
        rw [latest] at running
        cases exchange <;> cases running
    · exact absurd now unloaded
  · exact .inr (.inl trivial)
  · rw [sent, List.count_append, List.count_eq_zero.mpr unloaded, List.count_append,
      owed.counts]
    rfl

/-- A worker listens until the load is there. -/
theorem Keeping.hasListener (keeping : Keeping heard performed client) {cookie : String}
    (scripted : LifeCycle.Scripted cookie heard) (pc : client.pc = .matched .running)
    (fresh : client.oldState ≠ .running) : client.hasListener = true := by
  have owed := keeping.owed
  have stands := keeping.stands
  rw [Stands, pc] at stands
  have latest : lastHeard heard = .running := stands.2.symm
  have asked : .createStreams cookie ∈ heard := by
    exact (scripted.created (mem_heard latest State.noConfusion)).1
  rcases owed.complete cookie asked with ⟨other, creating⟩ | opened
  · rw [latest] at creating
    cases creating
  · rcases owed.listening with loaded | closing | listening
    · exact absurd ((owed.loaded loaded).2 latest) fresh
    · rw [pc] at closing
      exact closing.elim
    · have first : 0 < client.tasks.length := opened ▸ keeping.needed
      apply List.any_eq_true.mpr
      exact ⟨client.tasks[0], List.getElem_mem first, listening _ (List.getElem_mem first)⟩

/-- A turn of the main loop that does nothing. -/
theorem Owed.idle (owed : Owed heard performed client) (perf : next.perf = client.perf)
    (tasks : next.tasks = client.tasks)
    (sent : next.publisher.sent = client.publisher.sent)
    (old : next.oldState = client.oldState) (before : ¬client.pc.Closing)
    (after : ¬next.pc.Closing) : Owed heard (performed ++ performs client next) next := by
  apply owed.keep perf tasks sent
  · intro state exchange _ left
    rw [left] at after
    exact after trivial
  · exact due_congr perf (congrArg List.length tasks) old (iff_of_false after before) _
  · exact fun same _ => old.trans same
  · exact fun closing => absurd closing before

/-- A state is taken note of, and nothing is done about it. -/
theorem Owed.note (owed : Owed heard performed client) {old : State} {pc : Pc}
    (before : ¬client.pc.Closing) (after : ¬pc.Closing)
    (same : due { client with oldState := old, pc } (lastHeard heard) =
      due client (lastHeard heard))
    (noted : lastHeard heard = .running → old = .running) :
    Owed heard (performed ++ performs client { client with oldState := old, pc })
      { client with oldState := old, pc } := by
  apply owed.keep
  · rfl
  · rfl
  · rfl
  · rintro state exchange - rfl
    exact after trivial
  · exact same
  · exact fun _ => noted
  · exact fun closing => absurd closing before

/-- Past the main loop nothing is due. -/
theorem Keeping.closed (keeping : Keeping heard performed client)
    (closing : client.pc.Closing) (after : next.pc.Closing) (perf : next.perf = client.perf)
    (tasks : next.tasks = client.tasks)
    (sent : next.publisher.sent = client.publisher.sent) :
    Stands (lastHeard heard) next ∧ Owed heard (performed ++ performs client next) next := by
  have stands := keeping.stands
  have wrapped : lastHeard heard = .exchangeResults ∨ lastHeard heard = .terminate := by
    unfold Stands at stands
    split at stands
    all_goals first
      | exact stands
      | rename_i pc
        rw [pc] at closing
        exact closing.elim
  constructor
  · unfold Stands
    split
    all_goals first
      | exact wrapped
      | rename_i pc
        rw [pc] at after
        exact after.elim
  · apply keeping.owed.keep perf tasks sent
    · intro state exchange pc
      rw [pc] at closing
      exact closing.elim
    · rcases wrapped with latest | latest
      · rw [latest, due, due, if_pos after, if_pos closing]
      · rw [latest, due, due, if_pos after, if_pos closing]
    · intro _ latest
      rw [latest] at wrapped
      rcases wrapped with other | other <;> cases other
    · exact fun _ => after

/-- Where a turn of the main loop passes over a state, nothing is due. -/
private theorem due_of_pass (opening : Opening client) {state : State}
    (running : client.alive = true) (loaded : state = .running → client.oldState = .running)
    (exchange : state ≠ .exchangeResults) (terminate : state ≠ .terminate)
    (opened : ∀ cookie, state = .createStreams cookie →
      ∃ total, client.totalNeededStreams = some total ∧ ¬client.streamIndex < total) :
    due client state = [] := by
  cases state with
  | start => rfl
  | createStreams cookie =>
      rcases opened cookie rfl with ⟨total, needed, enough⟩
      rw [UInt16.lt_iff_toNat_lt, opening.counter running, totalNeededStreams_eq needed,
        not_lt] at enough
      rw [due, List.map_eq_nil_iff, List.drop_eq_nil_iff, List.length_range]
      exact enough
  | running => exact if_pos (loaded rfl)
  | exchangeResults => exact absurd rfl exchange
  | terminate => exact absurd rfl terminate

private theorem Keeping.stands_greeted (keeping : Keeping heard performed client)
    {total : UInt16} {stream : TcpStream} (greeting : client.pc = .greeting total stream)
    {pc : Pc} (goesOn : pc = .connecting total ∨ pc = .polling)
    (opening : Opening { client.register stream with pc }) :
    Stands (lastHeard heard) { client.register stream with pc } := by
  have stands := keeping.stands
  rw [Stands, greeting] at stands
  rcases stands with ⟨state, old, cookie, latest⟩
  rcases goesOn with rfl | rfl
  · exact ⟨state, old, cookie, latest⟩
  · constructor
    · exact state
    constructor
    · exact old
    · have enough := opening.opened ⟨⟨cookie, old.trans latest⟩, .inl rfl⟩
      rw [latest, due, enough, List.map_eq_nil_iff, List.drop_eq_nil_iff, List.length_range]

/-- The first state is read. -/
private theorem Keeping.starts (keeping : Keeping heard performed client)
    (pc : client.pc = .starting) (next : Controller)
    (moved : next = { client with oldState := client.state, pc := .loopHead }) :
    Stands (lastHeard heard) next ∧ Owed heard (performed ++ performs client next) next := by
  have stands := keeping.stands
  rw [Stands, pc] at stands
  rw [moved]
  constructor
  · exact stands.1
  · apply keeping.owed.note
    · rw [pc]
      exact not_false
    · exact not_false
    · rw [stands.2]
      rfl
    · intro latest
      rw [stands.2] at latest
      cases latest

/-- A turn of the main loop passes over the state. -/
private theorem Keeping.passes (keeping : Keeping heard performed client) {state : State}
    (pc : client.pc = .matched state) (done : due client state = [])
    (exchange : state ≠ .exchangeResults) (terminate : state ≠ .terminate) :
    Stands (lastHeard heard) { client with oldState := state, pc := .polling } ∧
      Owed heard (performed ++ performs client { client with oldState := state, pc := .polling })
        { client with oldState := state, pc := .polling } := by
  have stands := keeping.stands
  rw [Stands, pc] at stands
  rcases stands with ⟨current, rfl⟩
  have same : due { client with oldState := lastHeard heard, pc := .polling }
      (lastHeard heard) = [] := by
    cases latest : lastHeard heard with
    | start => rfl
    | createStreams cookie =>
        rw [latest] at done
        exact done
    | running => simp only [due, if_true]
    | exchangeResults => exact absurd latest exchange
    | terminate => exact absurd latest terminate
  constructor
  · exact ⟨current, rfl, same⟩
  · apply keeping.owed.note
    · rw [pc]
      exact not_false
    · exact not_false
    · exact same.trans done.symm
    · exact fun latest => latest

/-- The loop over the streams begins. -/
private theorem Keeping.connects (keeping : Keeping heard performed client) {cookie : String}
    (total : UInt16) (pc : client.pc = .matched (.createStreams cookie)) :
    let next : Controller :=
      { client with oldState := .createStreams cookie, pc := .connecting total }
    Stands (lastHeard heard) next ∧ Owed heard (performed ++ performs client next) next := by
  intro next
  have stands := keeping.stands
  rw [Stands, pc] at stands
  constructor
  · exact ⟨stands.1, stands.2, cookie, stands.2.symm⟩
  · apply keeping.owed.note
    · rw [pc]
      exact not_false
    · exact not_false
    · rw [← stands.2]
      rfl
    · intro latest
      rw [← stands.2] at latest
      cases latest

/-- Between two turns the client stands where it stood. -/
private theorem Keeping.waits (keeping : Keeping heard performed client)
    (perf : next.perf = client.perf) (tasks : next.tasks = client.tasks)
    (sent : next.publisher.sent = client.publisher.sent)
    (old : next.oldState = client.oldState) (before : ¬client.pc.Closing)
    (after : ¬next.pc.Closing)
    (stands : due next (lastHeard heard) = due client (lastHeard heard) →
      Stands (lastHeard heard) next) :
    Stands (lastHeard heard) next ∧ Owed heard (performed ++ performs client next) next := by
  constructor
  · apply stands
    exact due_congr perf (congrArg List.length tasks) old (iff_of_false after before) _
  · exact keeping.owed.idle perf tasks sent old before after

/-- The controller ends, and was past the main loop. -/
private theorem Keeping.ends (keeping : Keeping heard performed client)
    (ends : Ends client next) (survives : ¬client.pc.Closing → next.alive = true) :
    Stands (lastHeard heard) next ∧ Owed heard (performed ++ performs client next) next := by
  rcases ends.pc with ⟨ending, pc⟩
  have closing : client.pc.Closing := by
    by_contra looping
    have alive := survives looping
    rw [alive_of_pc_ended pc] at alive
    cases alive
  apply keeping.closed closing (by rw [pc]; trivial) ends.perf
  · rcases ends.tasks with same | ⟨stream, -, ⟨total, greeting⟩ | ⟨selecting, -⟩⟩
    · exact same
    · rw [greeting] at closing
      exact closing.elim
    · rw [selecting] at closing
      exact closing.elim
  · rw [ends.publisher, Broadcast.close_sent]

/-- A step of the client that is told nothing. -/
private theorem Keeping.untold (keeping : Keeping heard performed client)
    (move : Controller.Move client next) (survives : ¬client.pc.Closing → next.alive = true)
    (untold : ∀ target, next.pc ≠ .storing target) :
    Stands (lastHeard heard) next ∧ Owed heard (performed ++ performs client next) next := by
  have role := keeping.opening.role
  have opening := keeping.opening.controllerMove move
  have stands := keeping.stands
  have notServer : client.perf.role ≠ .server := by
    rw [role]
    exact Role.noConfusion
  cases move with
  | start pc unlocked => exact keeping.starts pc _ rfl
  | turn pc unlocked =>
      rw [Stands, pc] at stands
      exact keeping.waits rfl rfl rfl rfl (by simp [pc, Pc.Closing]) not_false
        fun _ => ⟨stands, stands⟩
  | createStreams pc server => exact absurd server notServer
  | pass state pc loaded initial exchange terminate opened =>
      apply keeping.passes pc _ exchange terminate
      exact due_of_pass keeping.opening (by simp [alive, pc]) loaded exchange terminate
        (opened role)
  | startLoad pc transition listener =>
      rw [Stands, pc] at stands
      constructor
      · constructor
        · exact stands.1
        constructor
        · exact stands.2
        · rw [← stands.2]
          rfl
      · exact keeping.loads pc transition
  | stop exchange pc =>
      rw [Stands, pc] at stands
      constructor
      · cases exchange with
        | true => exact .inl stands.2.symm
        | false => exact .inr stands.2.symm
      · exact keeping.wrapsUp pc
  | connect cookie total pc _ needed more => exact keeping.connects total pc
  | poll pc =>
      rw [Stands, pc] at stands
      exact keeping.waits rfl rfl rfl rfl (by simp [pc, Pc.Closing]) not_false
        fun same => ⟨stands.1, stands.2.1, same.trans stands.2.2⟩
  | pollSignal mailbox lost pc signalled posts =>
      rw [keeping.calm.quiet] at signalled
      cases signalled
  | recvCreate stream mailbox total pc server head needed => exact absurd server notServer
  | recvTerminated id index mailbox pc head found =>
      rw [Stands, pc] at stands
      exact keeping.waits rfl rfl rfl rfl (by simp [pc, Pc.Closing]) not_false
        fun same => ⟨stands.1, stands.2.1, same.trans stands.2.2⟩
  | recvStray id mailbox pc head missing =>
      rw [Stands, pc] at stands
      rw [afterTerminatedPc_client opening.role]
      exact keeping.waits rfl rfl rfl rfl (by simp [pc, Pc.Closing]) not_false
        fun _ => stands.1
  | recvTerminate mailbox pc head =>
      rcases keeping.calm.terminated .terminate (head ▸ List.mem_cons_self) with ⟨id, other⟩
      cases other
  | shutdown pc signalled => exact absurd keeping.calm.quiet signalled
  | serverSets target pc _ => exact absurd rfl (untold target)
  | serverSays pc _ =>
      rw [Stands, pc] at stands
      exact keeping.waits rfl rfl rfl rfl (by simp [pc, Pc.Closing]) not_false
        fun _ => stands.1
  | greet total stream pc =>
      rw [Stands, pc] at stands
      exact keeping.waits rfl rfl rfl rfl (by simp [pc, Pc.Closing]) not_false
        fun _ => stands
  | greeted total stream pc =>
      constructor
      · apply keeping.stands_greeted pc _ opening
        split
        · exact .inl rfl
        · exact .inr rfl
      · exact keeping.opens pc _
  | announce target pc => exact absurd pc (keeping.calm.silent target)
  | store target pc unlocked =>
      rw [Stands, pc] at stands
      exact keeping.waits rfl rfl rfl rfl (by simp [pc, Pc.Closing]) not_false
        fun _ => stands
  | join id index results task pc found ended =>
      rw [Stands, pc] at stands
      rw [afterTerminatedPc_client opening.role]
      exact keeping.waits rfl rfl rfl rfl (by simp [pc, Pc.Closing]) not_false
        fun _ => stands.1
  | close next closes =>
      exact keeping.closed closes.before closes.after closes.perf closes.tasks
        (congrArg Broadcast.sent closes.publisher)
  | finish next ends => exact keeping.ends ends survives

private theorem Keeping.controllerStep (keeping : Keeping heard performed client)
    {cookie : String} {event : ControllerEvent}
    (scripted : LifeCycle.Scripted cookie (heard ++ hears client (.controller event)))
    (orderly : Orderly client (.controller event))
    (step : client.controllerStep event = some next) :
    Keeping (heard ++ hears client (.controller event)) (performed ++ performs client next)
      next := by
  have move := move_of_controllerStep step
  have role := keeping.opening.role
  have opening := keeping.opening.controllerMove move
  have calm := keeping.calm.move keeping.opening move
  have perf := move.perf
  rcases keeping.calm.hears_cases role step with ⟨target, pc, result, told⟩ | ⟨untold, other⟩
  · rw [told] at scripted ⊢
    have nothing : performs client next = [] := by
      subst result
      apply performs_eq_nil
      · rfl
      · rfl
      · rintro state exchange _ ⟨⟩
    rw [nothing, List.append_nil]
    subst result
    constructor
    · exact opening
    · exact calm
    · exact keeping.fits
    · exact keeping.needed
    · rw [lastHeard_append]
      rfl
    · exact keeping.told scripted pc
  · rw [untold, List.append_nil] at scripted ⊢
    have survives : ¬client.pc.Closing → next.alive = true := by
      intro looping
      apply keeping.calm.survives keeping.opening keeping.fits _ looping orderly step
      exact fun pc fresh => keeping.hasListener scripted pc fresh
    rcases keeping.untold move survives other with ⟨stands, owed⟩
    constructor
    · exact opening
    · exact calm
    · rw [perf]
      exact keeping.fits
    · rw [perf]
      exact keeping.needed
    · exact stands
    · exact owed

/-- The workers work by themselves. -/
private theorem Keeping.taskStep (keeping : Keeping heard performed client) {index : Nat}
    {event : TaskEvent} (orderly : Orderly client (.task index event))
    (step : client.taskStep index event = some next) :
    Keeping heard (performed ++ performs client next) next := by
  have move := move_of_taskStep step
  have frame := move.frame
  have nothing : performs client next = [] := by
    apply performs_eq_nil frame.length (congrArg Broadcast.sent frame.publisher)
    intro state exchange pc
    rw [frame.pc, pc]
    exact Pc.noConfusion
  have same : due next = due client := by
    funext latest
    exact due_congr frame.perf frame.length frame.oldState (by rw [frame.pc]) latest
  have owed := keeping.owed
  rw [nothing, List.append_nil]
  constructor
  · exact keeping.opening.step (show Client.step client (.task index event) = some next from step)
  · exact keeping.calm.taskMove move
  · rw [frame.perf]
    exact keeping.fits
  · rw [frame.perf]
    exact keeping.needed
  · rw [Stands, frame.pc, frame.state, frame.oldState, same]
    exact keeping.stands
  · constructor
    · rw [same, frame.perf]
      exact owed.balance
    · intro none
      apply List.length_eq_zero_iff.mp
      rw [frame.length, owed.fresh none]
      rfl
    · rw [frame.length, frame.perf]
      exact owed.complete
    · rw [frame.publisher, frame.oldState]
      exact owed.loaded
    · rw [frame.publisher, frame.pc]
      rcases orderly with loaded | closing | stays
      · exact .inl loaded
      · exact .inr (.inl closing)
      · apply owed.listening.imp_right (Or.imp_right _)
        intro listening task taskMem
        rcases move.evolves with ⟨source, changed, found, tasks, -⟩
        rw [tasks] at taskMem
        rcases List.mem_or_eq_of_mem_set taskMem with before | same
        · exact listening task before
        · apply stays next step
          rw [tasks, same]
          exact List.getElem?_set_self (List.getElem?_eq_some_iff.mp found).1
    · rw [frame.publisher]
      exact owed.counts

/-! ## Whole runs -/

theorem neededStreams_new (build : Build) (cookie : String) {params : Parameters}
    (fits : params.totalStreams < UInt16.size) :
    (new build cookie params).perf.totalStreams < UInt16.size ∧
      (new build cookie params).perf.neededStreams = params.totalStreams := by
  have whole := Perf.totalStreams_newWithStatsReceiver cookie .client params
  have small : (new build cookie params).perf.totalStreams < UInt16.size := whole.trans_lt fits
  exact ⟨small, (Perf.neededStreams_of_fits small).trans whole⟩

theorem new_keeping (build : Build) (cookie : String) {params : Parameters}
    (fits : params.totalStreams < UInt16.size) (needed : 0 < params.totalStreams) :
    Keeping [] [] (new build cookie params) where
  opening := new_opening build cookie params
  calm := new_calm build cookie params
  fits := (neededStreams_new build cookie fits).1
  needed := (neededStreams_new build cookie fits).2 ▸ needed
  stands := ⟨rfl, rfl⟩
  owed := by
    constructor
    · rfl
    · exact fun _ => rfl
    · rintro other ⟨⟩
    · rintro ⟨⟩
    · right
      right
      rintro task ⟨⟩
    · rfl

/-- As long as the server keeps to the script. -/
def Keeps (announced : String) (story : Story) (client : Controller) : Prop :=
  LifeCycle.Scripted announced story.heard → Keeping story.heard story.performed client

theorem Keeps.step {story : Story} {event : ClientEvent} {announced : String}
    (keeps : Keeps announced story client) (orderly : Orderly client event)
    (step : Client.step client event = some next) :
    Keeps announced (story.note client event) next := by
  intro scripted
  have keeping := keeps scripted.of_append
  simp only [Story.note, step, Option.elim_some]
  cases event with
  | controller event => exact keeping.controllerStep scripted orderly step
  | task index event =>
      have silent : hears client (.task index event) = [] := rfl
      rw [silent, List.append_nil]
      exact keeping.taskStep orderly step
  | ctrlC => exact orderly.elim

theorem count_planned (total : Nat) (heard : List State) :
    (heard.flatMap (State.planned total)).count .startLoad = heard.count .running := by
  induction heard with
  | nil => rfl
  | cons state heard ih =>
      rw [List.flatMap_cons, List.count_append, ih, List.count_cons, Nat.add_comm]
      congr 1
      cases state with
      | createStreams cookie =>
          apply List.count_eq_zero.mpr
          simp [State.planned]
      | _ => rfl

/-- The client has done what it has been told to do, each thing once and in order. -/
structure Faithful (total : Nat) (story : Story) (client : Controller) : Prop where
  inOrder : story.performed <+: story.heard.flatMap (State.planned total)
  complete : client.pc = .selecting ∨ client.pc.Closing →
    story.performed = story.heard.flatMap (State.planned total)
  streams : client.tasks.map (fun task => task.worker.id) = List.range client.tasks.length
  bound : client.tasks.length ≤ total
  atMostOnce : client.publisher.sent.count .startLoad ≤ story.heard.count .running ∧
    story.heard.count .running ≤ 1
  once : client.pc = .selecting ∨ client.pc.Closing →
    client.publisher.sent.count .startLoad = story.heard.count .running
  subscribed : .startLoad ∈ client.publisher.sent → client.tasks.length = total
  ended : client.alive = false → .exchangeResults ∈ story.heard ∨ .terminate ∈ story.heard

theorem Keeping.nothing_due (keeping : Keeping heard performed client)
    (settled : client.pc = .selecting ∨ client.pc.Closing) :
    due client (lastHeard heard) = [] := by
  have stands := keeping.stands
  rcases settled with pc | closing
  · rw [Stands, pc] at stands
    exact stands.2.2
  · unfold Stands at stands
    split at stands
    all_goals first
      | rcases stands with latest | latest
        · rw [latest, due, if_pos closing]
        · rw [latest, due, if_pos closing]
      | rename_i pc
        rw [pc] at closing
        exact closing.elim

theorem Keeping.faithful {story : Story} (keeping : Keeping story.heard story.performed client)
    {cookie : String} (scripted : LifeCycle.Scripted cookie story.heard) :
    Faithful client.perf.neededStreams story client := by
  have owed := keeping.owed
  have inOrder : story.performed <+: story.heard.flatMap
      (State.planned client.perf.neededStreams) := ⟨_, owed.balance⟩
  have complete : client.pc = .selecting ∨ client.pc.Closing →
      story.performed = story.heard.flatMap (State.planned client.perf.neededStreams) := by
    intro settled
    have balance := owed.balance
    rw [keeping.nothing_due settled, List.append_nil] at balance
    exact balance
  constructor
  · exact inOrder
  · exact complete
  · apply keeping.opening.registered.map_id
    exact (keeping.opening.bound.trans_lt client.perf.neededStreams_lt).le
  · exact keeping.opening.bound
  · constructor
    · rw [owed.counts, ← count_planned client.perf.neededStreams]
      exact inOrder.sublist.count_le _
    · exact scripted.count_le_one
  · intro settled
    rw [owed.counts, complete settled, count_planned]
  · intro loaded
    rcases scripted.created (owed.loaded loaded).1 with ⟨asked, later⟩
    rcases owed.complete cookie asked with ⟨other, latest⟩ | enough
    · rcases heard_eq_of_last latest State.noConfusion with ⟨earlier, split⟩
      exact absurd split (later earlier other)
    · exact enough
  · intro ended
    have stands := keeping.stands
    unfold alive at ended
    split at ended
    · rename_i ending pc
      rw [Stands, pc] at stands
      exact stands.imp (fun latest => mem_heard latest State.noConfusion)
        fun latest => mem_heard latest State.noConfusion
    · cases ended

/-- A client whose server keeps to the script, possibly cut short, does what it is told,
each thing once, in order and with nothing left out. -/
theorem follows_life_cycle (build : Build) (cookie : String) (params : Parameters)
    (fits : params.totalStreams < UInt16.size) (needed : 0 < params.totalStreams)
    {events : List ClientEvent} {client : Controller}
    (finished : run Client.step (new build cookie params) events = some client)
    (orderly : Guarded Client.step Orderly (new build cookie params) events) {announced : String}
    (scripted : LifeCycle.Scripted announced
      (noted Client.step Story.note ⟨[], []⟩ (new build cookie params) events).heard) :
    Faithful params.totalStreams
      (noted Client.step Story.note ⟨[], []⟩ (new build cookie params) events) client := by
  have keeps : Keeps announced
      (noted Client.step Story.note ⟨[], []⟩ (new build cookie params) events) client := by
    apply run_invariant_noted (Keeps announced) _ _ orderly finished
    · exact fun _ _ _ _ keeps orderly step => keeps.step orderly step
    · exact fun _ => new_keeping build cookie fits needed
  have faithful := (keeps scripted).faithful scripted
  rw [perf_of_reachable ⟨events, finished⟩, (neededStreams_new build cookie fits).2] at faithful
  exact faithful

/-- A test with two streams, with one turn of the loop to spare. -/
private def wholeTest : List ClientEvent :=
  joining "c" ++ connection ⟨0⟩ ++ connection ⟨1⟩ ++
    [.controller .poll, .controller (.clientRead (.ok (.setState .running))),
      .controller .store, .controller .turn, .controller .act, .controller .poll,
      .controller (.clientRead (.ok .welcome)), .controller .turn, .controller .act,
      .controller .poll, .controller (.clientRead (.ok (.setState .exchangeResults))),
      .controller .store, .controller .turn, .controller .act]

private def parallelTest : Option Controller :=
  run Client.step (new ⟨true, true⟩ "c" (.fromOpts { parallel := 2 })) wholeTest

private theorem parallelTest_isSome : parallelTest.isSome = true := by
  decide +kernel

theorem follows_life_cycle_two :
    ∃ (story : Story) (client : Controller),
      story.heard = LifeCycle.announcements "c" ∧
      story.performed = [.openStream 0, .openStream 1, .startLoad, .wrapUp true] ∧
      client.publisher.sent.count .startLoad = 1 := by
  let initial := new ⟨true, true⟩ "c" (.fromOpts { parallel := 2 })
  let client := parallelTest.get parallelTest_isSome
  have finished : run Client.step initial wholeTest = some client :=
    (Option.some_get parallelTest_isSome).symm
  let story := noted Client.step Story.note ⟨[], []⟩ initial wholeTest
  have heard : story.heard = LifeCycle.announcements "c" := by decide +kernel
  have scripted : LifeCycle.Scripted "c" story.heard :=
    ⟨LifeCycle.announcements "c", List.prefix_refl _, .inl heard⟩
  have orderly : Guarded Client.step Orderly initial wholeTest := by
    apply guarded_of_forall
    simp [wholeTest, joining, connection, Orderly]
  have faithful := follows_life_cycle ⟨true, true⟩ "c" (.fromOpts { parallel := 2 })
    (by decide) (by decide) finished orderly scripted
  refine ⟨story, client, heard, ?_, ?_⟩
  · exact faithful.complete (.inr trivial)
  · exact faithful.once (.inr trivial)

end Client

end Iperf
