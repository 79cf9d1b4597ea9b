import Iperf.Visit.Placed

/-!
# The test of a client program

The server tells its tests apart by the cookie, and knows nothing else of a client.  As
long as nobody else presents the cookie of the client, the one test with that cookie is
the test that was made of the client's control connection, and both sides have settled on
the same parameters before it exists.
-/

namespace Iperf

open Channel Transition

/-- What the test of the client is to do, as the client asks for it. -/
def Caller.asked (caller : Caller) : Perf :=
  .newWithStatsReceiver caller.cookie .server (.fromOpts caller.opts)

namespace Visit

variable {json : Json} {caller : Caller} {visit next : Visit}

/-- What the tests are to do, in the order in which they were made. -/
def perfs (visit : Visit) : List Perf :=
  visit.host.tests.map Controller.perf

/-- The accept loop is at work on the control connection. -/
def IsControl (visit : Visit) : Prop :=
  visit.control.isSome ∧ visit.current = visit.control

/-- The client program has come as far as its controller. -/
def IsRunning (visit : Visit) : Prop :=
  ∃ client, visit.startup = .running client

/-- What is known of the test in the making. -/
def Stage (caller : Caller) (visit : Visit) : HostPc → Prop
  | .creating _ (.welcoming inbound cookie) =>
      cookie = caller.cookie ↔ visit.IsOwn inbound.stream
  | .creating _ (.awaitingParams inbound cookie) =>
      (cookie = caller.cookie ↔ visit.IsOwn inbound.stream) ∧ inbound.stream ∈ visit.greeted
  | .creating _ (.sendingStats perf) =>
      (perf.cookie = caller.cookie ↔ visit.IsControl) ∧
        (visit.IsControl → perf = caller.asked ∧ visit.IsRunning)
  | _ => True

/-- The tests with the cookie of the client are known. -/
structure Recognised (caller : Caller) (visit : Visit) : Prop where
  stage : visit.Stage caller visit.host.accept
  tests : ∀ (test : Nat) (perf : Perf), visit.perfs[test]? = some perf →
    perf.cookie = caller.cookie → visit.test = some test
  own : ∀ test, visit.test = some test →
    visit.perfs[test]? = some caller.asked ∧ visit.IsRunning
  taken : ∀ test, visit.test = some test →
    ∃ control, visit.control = some control ∧ control ∉ visit.backlog
  once : ∀ test, visit.test = some test → visit.host.accept.isFree = false →
    ¬visit.IsControl

theorem new_recognised (caller : Caller) (build : Build) : (new build).Recognised caller where
  stage := trivial
  tests := by rintro test perf ⟨⟩
  own := by rintro test ⟨⟩
  taken := by rintro test ⟨⟩
  once := by rintro test ⟨⟩

/-! ## The accept loop -/

/-- The client's cookie is on the client's connections. -/
theorem readCookie_own (spoken : visit.Spoken json caller)
    (greets : Understands json (.hello caller.cookie)) {inbound : Inbound} {cookie : String}
    (inboundMem : inbound ∈ visit.host.accept.inHand) (own : visit.IsOwn inbound.stream)
    (read : readCookie json inbound.peer = .done (.ok cookie)) : cookie = caller.cookie := by
  have first := (spoken.arrived inbound inboundMem own).1
  rcases own with dialed | opened
  · exact readCookie_first greets
      (first.trans (spoken.control inbound.stream dialed).first) read
  · rw [spoken.data inbound.stream opened] at first
    exact readCookie_first greets (first.trans (List.prefix_append _ [])) read

/-- Behind its `Hello` the client sends its parameters, and its controller runs then. -/
theorem params_of_control (spoken : visit.Spoken json caller)
    (greets : Understands json (.hello caller.cookie))
    (asks : Understands json (.sendParameters (.fromOpts caller.opts)))
    {inbound : Inbound} {message : ClientMessage}
    (inboundMem : inbound ∈ visit.host.accept.inHand)
    (dialed : visit.control = some inbound.stream)
    (read : serverReadMessage json (inbound.peer.rest json) = .done (.ok message)) :
    message = .sendParameters (.fromOpts caller.opts) ∧ visit.IsRunning := by
  have first := (spoken.arrived inbound inboundMem (.inl dialed)).1
  have wrote := spoken.control inbound.stream dialed
  have rest := feed_rest_first greets (first.trans wrote.first)
  constructor
  · exact serverReadMessage_first asks
      (show (inbound.peer.rest json).bytes <+: _ ++ [] from (List.append_nil _).symm ▸ rest) read
  · by_contra idle
    have silent : (inbound.peer.rest json).bytes = [] := by
      apply List.prefix_nil.mp
      apply feed_rest_first greets
      rw [List.append_nil]
      apply first.trans
      cases startup : visit.startup with
      | dialing | greeting =>
          rw [startup] at wrote
          rw [show visit.sent inbound.stream = [] from wrote]
          exact List.nil_prefix
      | awaiting | asking =>
          rw [startup] at wrote
          rw [show visit.sent inbound.stream = _ from wrote]
      | running client => exact absurd ⟨client, startup⟩ idle
      | failed =>
          rw [startup] at wrote
          exact wrote
    rw [serverReadMessage, silent] at read
    simp only [Reader.feed] at read
    split at read <;> cases read

/-- The accept loop goes on with the connection it has. -/
theorem Recognised.turn (recognised : visit.Recognised caller) (distinct : visit.Distinct)
    (spoken : visit.Spoken json caller) (hidden : visit.Private json caller)
    (undisturbed : visit.Undisturbed) (greets : Understands json (.hello caller.cookie))
    (asks : Understands json (.sendParameters (.fromOpts caller.opts))) {event : HostEvent}
    {accept : HostPc} (noWelcome : ∀ delivered, event ≠ .createWelcome delivered)
    (turn : visit.host.Turn json event accept) : visit.Stage caller accept := by
  have stage := recognised.stage
  cases turn with
  | still => exact stage
  | signal shutdown pc creating =>
      rw [creating] at stage
      cases pc <;> exact stage
  | back | finish | crash | enter | start | handle | receive | receiveHello => trivial
  | receiveParams bytes closed shutdown inbound cookie reading =>
      rw [reading] at stage
      exact stage
  | welcoming shutdown inbound cookie reading read =>
      have inboundMem : inbound ∈ visit.host.accept.inHand := by
        rw [reading]
        exact List.mem_singleton_self inbound
      constructor
      · rintro rfl
        by_contra other
        exact hidden inbound inboundMem other read
      · exact fun own => readCookie_own spoken greets inboundMem own read
  | awaiting => exact absurd rfl (noWelcome true)
  | asked shutdown inbound cookie params awaiting read =>
      have inboundMem : inbound ∈ visit.host.accept.inHand := by
        rw [awaiting]
        exact List.mem_singleton_self inbound
      have current := distinct.inHand inbound inboundMem
      rw [awaiting] at stage
      rcases stage with ⟨presents, greeted⟩
      have control : visit.IsControl → visit.control = some inbound.stream :=
        fun control => control.2.symm.trans current
      constructor
      · change cookie = caller.cookie ↔ visit.IsControl
        rw [presents]
        constructor
        · rintro (dialed | opened)
          · exact ⟨dialed ▸ rfl, current.trans dialed.symm⟩
          · exact absurd greeted (undisturbed _ opened)
        · exact fun here => .inl (control here)
      · intro here
        rcases params_of_control spoken greets asks inboundMem (control here) read with
          ⟨same, running⟩
        cases same
        rw [presents.mpr (.inl (control here))]
        exact ⟨rfl, running⟩

/-- Only a connection that is yielded sets the accept loop to work. -/
theorem free_of_turn {host : Host} {event : HostEvent} {accept : HostPc}
    (noAccept : ∀ inbound, event ≠ .accept inbound) (turn : host.Turn json event accept)
    (free : host.accept.isFree = true) : accept.isFree = true := by
  cases turn with
  | still => exact free
  | back | finish | crash => rfl
  | enter test sender inbound | start shutdown inbound => exact absurd rfl (noAccept inbound)
  | signal _ _ before | handle _ _ _ _ _ before | receive _ _ _ _ _ _ before
  | receiveHello _ _ _ _ before | receiveParams _ _ _ _ _ before | welcoming _ _ _ before
  | awaiting _ _ _ before | asked _ _ _ _ before =>
      rw [before] at free
      cases free

/-! ## The steps -/

/-- A step that leaves the accept loop where it is. -/
theorem Stage.keep {accept : HostPc} (stage : visit.Stage caller accept)
    (own : ∀ inbound ∈ accept.inHand, next.IsOwn inbound.stream ↔ visit.IsOwn inbound.stream)
    (greeted : ∀ stream ∈ visit.greeted, stream ∈ next.greeted)
    (control : next.IsControl ↔ visit.IsControl) (running : visit.IsRunning → next.IsRunning) :
    next.Stage caller accept := by
  cases accept with
  | creating shutdown pc =>
      cases pc with
      | reading inbound => trivial
      | welcoming inbound cookie =>
          exact stage.trans (own inbound (List.mem_singleton_self _)).symm
      | awaitingParams inbound cookie =>
          exact ⟨stage.1.trans (own inbound (List.mem_singleton_self _)).symm,
            greeted _ stage.2⟩
      | sendingStats perf =>
          constructor
          · exact stage.1.trans control.symm
          · intro here
            rcases stage.2 (control.mp here) with ⟨same, runs⟩
            exact ⟨same, running runs⟩
  | _ => trivial

theorem Recognised.keep (recognised : visit.Recognised caller) (perfs : next.perfs = visit.perfs)
    (test : next.test = visit.test) (control : next.control = visit.control)
    (backlog : ∀ stream, visit.control = some stream → stream ∉ visit.backlog →
      stream ∉ next.backlog) (running : visit.IsRunning → next.IsRunning)
    (stage : next.Stage caller next.host.accept)
    (once : ∀ test, next.test = some test → next.host.accept.isFree = false → ¬next.IsControl) :
    next.Recognised caller := by
  constructor
  · exact stage
  · rw [perfs, test]
    exact recognised.tests
  · rw [perfs, test]
    intro index made
    rcases recognised.own index made with ⟨found, runs⟩
    exact ⟨found, running runs⟩
  · rw [test, control]
    intro index made
    rcases recognised.taken index made with ⟨stream, dialed, taken⟩
    exact ⟨stream, dialed, backlog stream dialed taken⟩
  · exact once

/-- The client moves, or somebody connects. -/
theorem Recognised.beside (recognised : visit.Recognised caller) (distinct : visit.Distinct)
    (host : next.host = visit.host) (test : next.test = visit.test)
    (control : next.control = visit.control) (current : next.current = visit.current)
    (greeted : next.greeted = visit.greeted)
    (opened : next.opened = visit.opened ∨ next.opened = visit.opened ++ [⟨visit.nextId⟩])
    (backlog : next.backlog = visit.backlog ∨ next.backlog = visit.backlog ++ [⟨visit.nextId⟩])
    (running : visit.IsRunning → next.IsRunning) : next.Recognised caller := by
  have still : next.IsControl ↔ visit.IsControl := by
    rw [IsControl, control, current, IsControl]
  apply recognised.keep (by rw [Visit.perfs, host, Visit.perfs]) test control _ running
  · rw [host]
    apply recognised.stage.keep _ (fun stream => by rw [greeted]; exact id) still running
    intro inbound inboundMem
    have lower := (distinct.current _ (distinct.inHand inbound inboundMem)).1
    rw [IsOwn, control, IsOwn]
    rcases opened with same | added
    · rw [same]
    · rw [added, List.mem_append, List.mem_singleton]
      apply or_congr_right
      apply or_iff_left
      intro same
      rw [same] at lower
      exact lt_irrefl _ lower
  · rw [test, host, still]
    exact recognised.once
  · intro stream dialed other
    rcases backlog with same | added
    · rw [same]
      exact other
    · rw [added]
      exact not_mem_concat (distinct.control stream dialed).1 other

/-- The server moves, takes up no connection and makes no test. -/
theorem Recognised.host (recognised : visit.Recognised caller) (busy : visit.host.Busy)
    {event : HostEvent} (noAccept : ∀ inbound, event ≠ .accept inbound) (noSpawn : event ≠ .spawn)
    (step : visit.host.step json event = some next.host) (test : next.test = visit.test)
    (control : next.control = visit.control) (current : next.current = visit.current)
    (backlog : next.backlog = visit.backlog) (startup : next.startup = visit.startup)
    (stage : next.Stage caller next.host.accept) : next.Recognised caller := by
  apply recognised.keep (Host.perfs_of_step noSpawn step) test control _ _ stage
  · intro index made working
    rw [IsControl, control, current]
    apply recognised.once index (test ▸ made)
    apply eq_false_of_ne_true
    intro free
    rw [free_of_turn noAccept (Host.turn_of_step busy step) free] at working
    cases working
  · rw [backlog]
    exact fun _ _ => id
  · rintro ⟨client, running⟩
    exact ⟨client, startup.trans running⟩

/-- The client connects to the server. -/
private theorem Recognised.dial (recognised : visit.Recognised caller) (distinct : visit.Distinct)
    (dialing : visit.startup = .dialing) : Recognised caller { visit with
      startup := .greeting
      control := some ⟨visit.nextId⟩
      backlog := visit.backlog ++ [⟨visit.nextId⟩]
      nextId := visit.nextId + 1 } := by
  have none : visit.control = none := distinct.undialed dialing
  have notMade : ∀ test, visit.test ≠ some test := by
    intro test made
    rcases recognised.taken test made with ⟨control, dialed, -⟩
    rw [none] at dialed
    cases dialed
  have away : ¬visit.IsControl := by
    rintro ⟨dialed, -⟩
    rw [none] at dialed
    cases dialed
  have later : ∀ stream, visit.current = some stream → stream ≠ ⟨visit.nextId⟩ := by
    rintro stream current rfl
    exact lt_irrefl _ (distinct.current _ current).1
  constructor
  · apply recognised.stage.keep
    · intro inbound inboundMem
      have apart := later _ (distinct.inHand inbound inboundMem)
      apply or_congr_left
      rw [none]
      constructor
      · intro same
        exact absurd (Option.some.inj same).symm apart
      · rintro ⟨⟩
    · exact fun _ => id
    · apply iff_of_false _ away
      rintro ⟨-, same⟩
      exact later _ same rfl
    · rintro ⟨client, running⟩
      rw [dialing] at running
      cases running
  · exact recognised.tests
  · exact fun test made => absurd made (notMade test)
  · exact fun test made => absurd made (notMade test)
  · exact fun test made => absurd made (notMade test)

/-- The listener yields a connection. -/
private theorem Recognised.accept (recognised : visit.Recognised caller) (busy : visit.host.Busy)
    {index : Nat} {stream : TcpStream} {host : Host} (waiting : visit.backlog[index]? = some stream)
    (step : visit.host.step json (.accept ⟨stream, ⟨[], false⟩⟩) = some host) :
    Recognised caller { visit with
      host
      backlog := visit.backlog.eraseIdx index
      current := some stream } := by
  have idle := idle_of_accept step
  have fewer : ∀ control, visit.control = some control → control ∉ visit.backlog →
      control ∉ visit.backlog.eraseIdx index :=
    fun control _ other here => other (List.eraseIdx_subset here)
  have stage : Stage caller { visit with
      host
      backlog := visit.backlog.eraseIdx index
      current := some stream } host.accept := by
    have turn := Host.turn_of_step busy step
    generalize host.accept = accept at turn ⊢
    cases turn with
    | still =>
        rw [idle]
        trivial
    | back | finish | crash | enter | start => trivial
  have away : ∀ test, visit.test = some test → some stream ≠ visit.control := by
    intro test made here
    rcases recognised.taken test made with ⟨control, dialed, taken⟩
    rw [dialed] at here
    cases here
    exact taken (List.mem_of_getElem? waiting)
  exact recognised.keep (Host.perfs_of_step (by rintro ⟨⟩) step) rfl rfl fewer id stage
    fun test made _ here => away test made here.2

/-- `Welcome` is written to the connection of a new client. -/
private theorem Recognised.createWelcome (recognised : visit.Recognised caller)
    (busy : visit.host.Busy) {delivered : Bool} {host : Host}
    (step : visit.host.step json (.createWelcome delivered) = some host) :
    Recognised caller { visit with
      host
      greeted :=
        if delivered then visit.greeted ++ visit.host.accept.inHand.map Inbound.stream
        else visit.greeted } := by
  have stage := recognised.stage
  have turn := Host.turn_of_step busy step
  have goes : Stage caller { visit with
      host
      greeted :=
        if delivered then visit.greeted ++ visit.host.accept.inHand.map Inbound.stream
        else visit.greeted } host.accept := by
    generalize host.accept = accept at turn ⊢
    cases turn with
    | still _ waits => cases waits
    | back | finish => trivial
    | awaiting shutdown inbound cookie welcoming =>
        rw [welcoming] at stage
        constructor
        · exact stage
        · change inbound.stream ∈ visit.greeted ++ visit.host.accept.inHand.map Inbound.stream
          rw [welcoming]
          exact List.mem_append_right _ (List.mem_singleton_self _)
  exact recognised.host busy (by rintro _ ⟨⟩) (by rintro ⟨⟩) step rfl rfl rfl rfl rfl goes

/-- A test is made. -/
private theorem Recognised.spawn (recognised : visit.Recognised caller) (distinct : visit.Distinct)
    {host : Host} (step : visit.host.step json .spawn = some host) :
    Recognised caller { visit with
      host
      test :=
        if visit.control.isSome ∧ visit.current = visit.control then
          some visit.host.tests.length
        else visit.test } := by
  simp only [Host.step] at step
  split at step
  · rename_i shutdown perf creating
    cases step
    have stage := recognised.stage
    rw [creating] at stage
    have perfs : visit.perfs.length = visit.host.tests.length := List.length_map _
    have more : (visit.host.spawn shutdown perf).tests.map Controller.perf =
        visit.perfs ++ [perf] := List.map_append
    constructor
    · trivial
    · change ∀ test other, ((visit.host.spawn shutdown perf).tests.map Controller.perf)[test]? =
        some other → _
      rw [more]
      intro test other found presents
      rw [List.getElem?_append] at found
      split at found
      · have made := recognised.tests test other found presents
        exact (if_neg (recognised.once test made (by rw [creating]; rfl))).trans made
      · rename_i beyond
        rw [List.getElem?_singleton] at found
        split at found
        · rename_i last
          cases found
          have here : test = visit.host.tests.length := by omega
          rw [here]
          exact if_pos (stage.1.mp presents)
        · cases found
    · intro test made
      change ((visit.host.spawn shutdown perf).tests.map Controller.perf)[test]? = _ ∧ _
      rw [more]
      split at made
      · rename_i here
        cases made
        rcases stage.2 here with ⟨same, running⟩
        rw [← perfs, List.getElem?_concat_length, same]
        exact ⟨rfl, running⟩
      · rcases recognised.own test made with ⟨found, running⟩
        rw [List.getElem?_append_left (List.getElem?_eq_some_iff.mp found).1]
        exact ⟨found, running⟩
    · intro test made
      split at made
      · rename_i here
        rcases Option.isSome_iff_exists.mp here.1 with ⟨control, dialed⟩
        exact ⟨control, dialed, (distinct.current control (here.2.trans dialed)).2⟩
      · exact recognised.taken test made
    · rintro test - ⟨⟩
  · cases step

theorem Recognised.step (recognised : visit.Recognised caller) (distinct : visit.Distinct)
    (spoken : visit.Spoken json caller) (busy : visit.host.Busy)
    (hidden : visit.Private json caller) (undisturbed : visit.Undisturbed)
    (greets : Understands json (.hello caller.cookie))
    (asks : Understands json (.sendParameters (.fromOpts caller.opts)))
    (move : Move json caller visit next) : next.Recognised caller := by
  have turns := fun {event accept} noWelcome turn => @Recognised.turn json caller visit recognised
    distinct spoken hidden undisturbed greets asks event accept noWelcome turn
  cases move with
  | dial dialing => exact recognised.dial distinct dialing
  | fail notRunning =>
      exact recognised.beside distinct rfl rfl rfl rfl rfl (.inl rfl) (.inl rfl)
        fun ⟨client, running⟩ => absurd running (notRunning client)
  | hello control bytes greeting =>
      exact recognised.beside distinct rfl rfl rfl rfl rfl (.inl rfl) (.inl rfl)
        fun ⟨client, running⟩ => by cases greeting.symm.trans running
  | reply control awaiting =>
      exact recognised.beside distinct rfl rfl rfl rfl rfl (.inl rfl) (.inl rfl)
        fun ⟨client, running⟩ => by cases awaiting.symm.trans running
  | parameters control bytes asking =>
      exact recognised.beside distinct rfl rfl rfl rfl rfl (.inl rfl) (.inl rfl)
        fun _ => ⟨_, rfl⟩
  | signal =>
      exact recognised.beside distinct rfl rfl rfl rfl rfl (.inl rfl) (.inl rfl) id
  | client client _ running move =>
      cases move with
      | connect =>
          exact recognised.beside distinct rfl rfl rfl rfl rfl (.inr rfl) (.inr rfl)
            fun _ => ⟨_, rfl⟩
      | reply | read | own | rest =>
          exact recognised.beside distinct rfl rfl rfl rfl rfl (.inl rfl) (.inl rfl)
            fun _ => ⟨_, rfl⟩
  | accept index stream host waiting step => exact recognised.accept busy waiting step
  | arrive bytes closed host arrives step =>
      exact recognised.host busy (by rintro _ ⟨⟩) (by rintro ⟨⟩) step rfl rfl rfl rfl rfl
        (turns (by rintro _ ⟨⟩) (Host.turn_of_step busy step))
  | hostReads test message toServer host own head step =>
      exact recognised.host busy (by rintro _ ⟨⟩) (by rintro ⟨⟩) step rfl rfl rfl rfl rfl
        (turns (by rintro _ ⟨⟩) (Host.turn_of_step busy step))
  | createWelcome delivered host step => exact recognised.createWelcome busy step
  | spawn host step => exact recognised.spawn distinct step
  | host event host noAccept noArrive noWelcome noSpawn reads step =>
      exact recognised.host busy noAccept noSpawn step rfl rfl rfl rfl rfl
        (turns noWelcome (Host.turn_of_step busy step))
  | stranger =>
      exact recognised.beside distinct rfl rfl rfl rfl rfl (.inl rfl) (.inr rfl) id

/-! ## The runs -/

/-- All that is known of the connections, of what is said on them and of the tests. -/
structure Known (json : Json) (caller : Caller) (visit : Visit) : Prop where
  busy : visit.host.Busy
  distinct : visit.Distinct
  spoken : visit.Spoken json caller
  recognised : visit.Recognised caller

/-- Nothing is taken for what it is not: nobody else presents the client's cookie, and no
data connection of the client has been taken for a new client. -/
def Clear (json : Json) (caller : Caller) (visit : Visit) : Prop :=
  visit.Private json caller ∧ visit.Undisturbed

instance (visit : Visit) (stream : TcpStream) : Decidable (visit.IsOwn stream) :=
  inferInstanceAs (Decidable (_ ∨ _))

instance (json : Json) (cookie : String) (peer : Peer) :
    Decidable (readCookie json peer = .done (.ok cookie)) :=
  decidable_of_iff (Inbound.presents json cookie ⟨⟨0⟩, peer⟩ = true) Inbound.presents_iff

instance (json : Json) (caller : Caller) (visit : Visit) : Decidable (visit.Clear json caller) :=
  inferInstanceAs (Decidable ((∀ _ ∈ _, ¬_ → _ ≠ _) ∧ ∀ _ ∈ _, _ ∉ _))

theorem new_known (json : Json) (caller : Caller) (build : Build) :
    (new build).Known json caller where
  busy := by rintro test sender ⟨⟩
  distinct := new_distinct build
  spoken := new_spoken json caller build
  recognised := new_recognised caller build

theorem Known.step (known : visit.Known json caller) (clear : visit.Clear json caller)
    (greets : Understands json (.hello caller.cookie))
    (asks : Understands json (.sendParameters (.fromOpts caller.opts)))
    (move : Move json caller visit next) : next.Known json caller := by
  constructor
  · rcases host_of_move move with same | ⟨own, moved⟩
    · rw [same]
      exact known.busy
    · exact (Host.turn_of_step known.busy moved).busy known.busy
  · exact known.distinct.step known.busy move
  · exact known.spoken.step known.distinct clear.2 known.busy greets move
  · exact known.recognised.step known.distinct known.spoken known.busy clear.1 clear.2 greets asks
      move

theorem known_of_run {build : Build} {events : List VisitEvent}
    (greets : Understands json (.hello caller.cookie))
    (asks : Understands json (.sendParameters (.fromOpts caller.opts)))
    (guarded : Guarded (Visit.step json caller) (fun visit _ => visit.Clear json caller)
      (new build) events)
    (finished : run (Visit.step json caller) (new build) events = some visit) :
    visit.Known json caller :=
  run_invariant (Known json caller)
    (fun _ _ _ known clear step => known.step clear greets asks (move_of_step step))
    (new_known json caller build) guarded finished

/-- As long as nobody else presents the client's cookie and none of its data connections
is taken for a new client, the server makes at most one test with that cookie.  It is the
test that was made of the client's control connection, the client's controller runs, and
both sides are to do the same. -/
theorem test_of_client {build : Build} {events : List VisitEvent}
    (greets : Understands json (.hello caller.cookie))
    (asks : Understands json (.sendParameters (.fromOpts caller.opts)))
    (guarded : Guarded (Visit.step json caller) (fun visit _ => visit.Clear json caller)
      (new build) events)
    (finished : run (Visit.step json caller) (new build) events = some visit) :
    (∀ (test : Nat) (controller : Controller), visit.host.tests[test]? = some controller →
      (controller.perf.cookie = caller.cookie ↔ visit.test = some test)) ∧
    ∀ test, visit.test = some test → ∃ controller client,
      visit.host.tests[test]? = some controller ∧ visit.startup = .running client ∧
      controller.perf = .newWithStatsReceiver caller.cookie .server (.fromOpts caller.opts) ∧
      client.perf = .newWithStatsReceiver caller.cookie .client (.fromOpts caller.opts) := by
  have known := known_of_run greets asks guarded finished
  have own : ∀ test, visit.test = some test → ∃ controller,
      visit.host.tests[test]? = some controller ∧ controller.perf = caller.asked := by
    intro test made
    have found := (known.recognised.own test made).1
    rw [perfs, List.getElem?_map] at found
    exact Option.map_eq_some_iff.mp found
  constructor
  · intro test controller found
    constructor
    · apply known.recognised.tests test
      rw [perfs, List.getElem?_map, found]
      rfl
    · intro made
      rcases own test made with ⟨other, here, perf⟩
      cases found.symm.trans here
      rw [perf]
      rfl
  · intro test made
    rcases own test made with ⟨controller, found, perf⟩
    rcases (known.recognised.own test made).2 with ⟨client, running⟩
    exact ⟨controller, client, found, running, perf, known.spoken.perf client running⟩

/-- A client that runs with the default options. -/
def sample : Caller where
  build := ⟨true, true⟩
  cookie := "c"
  opts := {}

private theorem start_runs :
    (run (Visit.step (.ofDefaults "c") sample) (new ⟨true, true⟩)
      (start (.ofDefaults "c") sample)).map Visit.test = some (some 0) := by
  decide +kernel

private theorem start_clear :
    Guarded (Visit.step (.ofDefaults "c") sample)
      (fun visit _ => visit.Clear (.ofDefaults "c") sample)
      (new ⟨true, true⟩) (start (.ofDefaults "c") sample) := by
  decide +kernel

theorem test_of_client_start :
    ∃ (visit : Visit) (controller client : Controller),
      Reachable (Visit.step (.ofDefaults "c") sample) (new ⟨true, true⟩) visit ∧
      visit.test = some 0 ∧ visit.host.tests[0]? = some controller ∧
      visit.startup = .running client ∧ controller.perf.cookie = client.perf.cookie ∧
      controller.perf.params = client.perf.params := by
  rcases Option.map_eq_some_iff.mp start_runs with ⟨visit, finished, made⟩
  rcases (test_of_client ⟨by decide +kernel, by decide +kernel⟩
    ⟨by decide +kernel, by decide +kernel⟩ start_clear finished).2 0 made with
    ⟨controller, client, found, running, asked, asks⟩
  refine ⟨visit, controller, client, ⟨_, finished⟩, made, found, running, ?_, ?_⟩
  · rw [asked, asks]
    rfl
  · rw [asked, asks]
    rfl

end Visit

end Iperf
